import GamePak.Controller

/-!
# `Proofs.Controller.Decode` — what a controller can do with a write

Every address and every value may be written to every controller. `Controller.decode_admissible`
bounds what comes of it, once for all families, so that no invariant has to open `Controller.decode`.

## Contents
- `Controller.unlatched`: a controller but for its mode latch.
- `Controller.lastRamBank`: the highest RAM bank that a program can select.
- `Controller.unlocksRam_toNat`, `lowBank_toNat`, `odd_toNat`: what a register keeps of a byte, in bits.
- `Effect.Admissible`: the effects that a controller may answer a write with.
- `Controller.decode_admissible`, from one lemma for each chip.
- `Controller.letsThrough`, `Controller.decode_eq_store_iff`: which writes go to RAM.
-/

namespace GamePak

namespace Controller

/-- The controller with its mode latch, if it has one, as after power-on. -/
def unlatched : Controller → Controller
  | .mbc1 _ => .mbc1 false
  | controller => controller

/-- The highest RAM bank that a program can select: MBC1 has two bits for it and MBC5 three, the
other families stay on bank 0. -/
def lastRamBank : Controller → Nat
  | .mbc1 _ => 3
  | .mbc5 _ => 7
  | _ => 0

@[simp] theorem unlatched_ofType (type : CartridgeType) : (ofType type).unlatched = ofType type := by
  cases type <;> rfl

@[simp] theorem lastRamBank_unlatched (controller : Controller) :
    controller.unlatched.lastRamBank = controller.lastRamBank := by
  cases controller <;> rfl

theorem lastRamBank_le (controller : Controller) : controller.lastRamBank ≤ 7 := by
  cases controller <;> simp [lastRamBank]

/-! ## Values as bits -/

theorem lowBank_lt (value : Nat) : lowBank value < 32 := by
  unfold lowBank
  split <;> omega

/-- The low bits of a byte are its remainder. -/
theorem toNat_and_mask (value mask : UInt8) (size : Nat) (hsize : size.isPowerOfTwo)
    (hmask : mask.toNat = size - 1) : (value &&& mask).toNat = value.toNat % size := by
  obtain ⟨n, rfl⟩ := hsize
  rw [UInt8.toNat_and, hmask]
  exact Nat.and_two_pow_sub_one_eq_mod value.toNat n

/-- The low nibble A unlocks RAM. -/
theorem unlocksRam_toNat (value : UInt8) :
    unlocksRam value.toNat = (value &&& 0x0F == 0x0A) := by
  rw [unlocksRam, Bool.eq_iff_iff, beq_iff_eq, beq_iff_eq, ← UInt8.toNat_inj,
    toNat_and_mask value 0x0F 16 ⟨4, rfl⟩ rfl]
  rfl

/-- A five-bit bank number is its bits, or one where they are zero. -/
theorem lowBank_toNat (value : UInt8) :
    lowBank value.toNat = max 1 (value &&& 0x1F).toNat := by
  rw [toNat_and_mask value 0x1F 32 ⟨5, rfl⟩ rfl, lowBank]
  split <;> omega

/-- The lowest bit tells odd values. -/
theorem odd_toNat (value : UInt8) : (value.toNat % 2 == 1) = (value &&& 1 == 1) := by
  rw [Bool.eq_iff_iff, beq_iff_eq, beq_iff_eq, ← UInt8.toNat_inj,
    toNat_and_mask value 1 2 ⟨1, rfl⟩ rfl]
  rfl

end Controller

/-! ## The effects of a write -/

/-- What `controller` may answer a write to `address` with. A ROM bank has nine bits at most and
needs a controller to select it, only an MBC1 has a mode, and only RAM addresses store. -/
def Effect.Admissible (controller : Controller) (address : Nat) : Effect → Prop
  | .nothing => True
  | .enableRam _ => True
  | .mapRom bank => controller ≠ .absent ∧ bank < 512
  | .mapRam bank => bank ≤ controller.lastRamBank
  | .setLargeRam _ => ∃ largeRam, controller = .mbc1 largeRam
  | .store => 0xA000 ≤ address ∧ address < 0xC000

namespace Controller

variable {address value : Nat}

/-- A gated write stores, if anything, and at a RAM address it may. -/
theorem gatedStore_admissible {controller : Controller} {banks : Banks}
    (haddr : 0xA000 ≤ address ∧ address < 0xC000) :
    (gatedStore banks).Admissible controller address := by
  unfold gatedStore
  split
  · exact haddr
  · trivial

theorem decodeMbc1_admissible (largeRam : Bool) (banks : Banks) :
    (decodeMbc1 largeRam banks address value).Admissible (.mbc1 largeRam) address := by
  have hlow := lowBank_lt value
  unfold decodeMbc1
  split
  · trivial
  split
  · exact ⟨nofun, by omega⟩
  split
  · split
    · show value % 4 ≤ 3
      omega
    · exact ⟨nofun, by omega⟩
  split
  · exact ⟨largeRam, rfl⟩
  split
  · next haddr => exact gatedStore_admissible haddr
  · trivial

theorem decodeMbc2_admissible (banks : Banks) :
    (decodeMbc2 banks address value).Admissible .mbc2 address := by
  have hlow := lowBank_lt value
  unfold decodeMbc2
  split
  · split <;> trivial
  split
  · split
    · exact ⟨nofun, by omega⟩
    · trivial
  split
  · next haddr => exact gatedStore_admissible haddr
  · trivial

theorem decodeMbc5_admissible (rumble : Bool) (banks : Banks) (hvalue : value < 256) :
    (decodeMbc5 banks address value).Admissible (.mbc5 rumble) address := by
  unfold decodeMbc5
  split
  · trivial
  split
  · exact ⟨nofun, by omega⟩
  split
  · exact ⟨nofun, by omega⟩
  split
  · show value % 8 ≤ 7
    omega
  split
  · next haddr => exact haddr
  · trivial

/-- **Every write is answered with an admissible effect**, whatever the registers hold. -/
theorem decode_admissible (controller : Controller) (banks : Banks) (address : UInt16)
    (value : UInt8) :
    (controller.decode banks address value).Admissible controller address.toNat := by
  cases controller with
  | absent => trivial
  | mbc1 largeRam => exact decodeMbc1_admissible largeRam banks
  | mbc2 => exact decodeMbc2_admissible banks
  | mbc5 rumble => exact decodeMbc5_admissible rumble banks value.toNat_lt
  | unsupported => trivial

/-! ## Writes to RAM -/

/-- Whether the controller lets a write to A000–BFFF through: an MBC5 always, an MBC1 or MBC2 while RAM
is enabled, the others never. -/
def letsThrough : Controller → Banks → Bool
  | .absent, _ => false
  | .mbc1 _, banks => banks.ramEnabled
  | .mbc2, banks => banks.ramEnabled
  | .mbc5 _, _ => true
  | .unsupported, _ => false

@[simp] theorem letsThrough_unlatched (controller : Controller) (banks : Banks) :
    controller.unlatched.letsThrough banks = controller.letsThrough banks := by
  cases controller <;> rfl

/-- At the RAM addresses no controller has a register. -/
theorem decode_ram (controller : Controller) (banks : Banks) {address : UInt16} (value : UInt8)
    (hram : 0xA000 ≤ address.toNat ∧ address.toNat < 0xC000) :
    controller.decode banks address value =
      if controller.letsThrough banks then .store else .nothing := by
  have h2 : ¬ address.toNat < 0x2000 := by omega
  have h3 : ¬ address.toNat < 0x3000 := by omega
  have h4 : ¬ address.toNat < 0x4000 := by omega
  have h6 : ¬ address.toNat < 0x6000 := by omega
  have h8 : ¬ address.toNat < 0x8000 := by omega
  cases controller with
  | absent => rfl
  | mbc1 largeRam =>
      show decodeMbc1 largeRam banks address.toNat value.toNat = gatedStore banks
      rw [decodeMbc1, if_neg h2, if_neg h4, if_neg h6, if_neg h8, if_pos hram]
  | mbc2 =>
      show decodeMbc2 banks address.toNat value.toNat = gatedStore banks
      rw [decodeMbc2, if_neg h2, if_neg h4, if_pos hram]
  | mbc5 rumble =>
      show decodeMbc5 banks address.toNat value.toNat = .store
      rw [decodeMbc5, if_neg h2, if_neg h3, if_neg h4, if_neg h6, if_pos hram]
  | unsupported => rfl

/-- **Which writes store.** The address must be one of RAM and the controller let the write through. -/
theorem decode_eq_store_iff (controller : Controller) (banks : Banks) (address : UInt16)
    (value : UInt8) :
    controller.decode banks address value = .store ↔
      (0xA000 ≤ address.toNat ∧ address.toNat < 0xC000) ∧
        controller.letsThrough banks = true := by
  constructor
  · intro hstore
    have hram : 0xA000 ≤ address.toNat ∧ address.toNat < 0xC000 := by
      have hadm := controller.decode_admissible banks address value
      rw [hstore] at hadm
      exact hadm
    rw [controller.decode_ram banks value hram] at hstore
    refine ⟨hram, ?_⟩
    cases hthrough : controller.letsThrough banks with
    | true => rfl
    | false => simp [hthrough] at hstore
  · rintro ⟨hram, hthrough⟩
    rw [controller.decode_ram banks value hram, if_pos hthrough]

end Controller

end GamePak
