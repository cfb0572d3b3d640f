import GamePak.Proofs.Controller.Register
import GamePak.Proofs.Session.Invariant

/-!
# `Proofs.Controller.Mbc5` — the registers of an MBC5 after any run

The ROM bank of an MBC5 has nine bits in two registers, which are written apart and shown as one number.
No write order and no reset between loses a bit of either, and no bank stands for another one: whichever
of the 512 banks a program asks for is the one it gets, the open bus where the ROM has no such bank.

## Contents
- `Mbc5.low`, `Mbc5.ninth`, `Mbc5.ramBank`: the registers.
- `Mbc5.registers_write`, `Mbc5.write_elsewhere`: what one write does to a cartridge.
- `Mbc5.Follows`: a cartridge holds what its history dictates; `Follows.operate`, `Follows.drive`.
- `Mbc5.romBank_select`, `Mbc5.read_selected`: two writes select any bank.
- `Mbc5.mbc5_registers_after_run`.
-/

namespace GamePak.Mbc5

/-! ## The registers -/

/-- The low eight bits of the ROM bank are those of the value, zero included. -/
def low : Register Nat where
  answers := Register.window 0x2000 0x2FFF
  keep := UInt8.toNat
  initial := 1
  resets := true

/-- The ninth bit of the ROM bank is bit 0 of the value. -/
def ninth : Register Nat where
  answers := Register.window 0x3000 0x3FFF
  keep value := (value &&& 1).toNat
  initial := 0
  resets := true

/-- The RAM bank is in the low three bits of the value. A reset leaves it. -/
def ramBank : Register Nat where
  answers := Register.window 0x4000 0x5FFF
  keep value := (value &&& 7).toNat
  initial := 0
  resets := false

section

variable (past : List CpuOperation) (address : UInt16) (value : UInt8)

theorem low_write : low.held (.write address value :: past) =
    if 0x2000 ≤ address.toNat ∧ address.toNat ≤ 0x2FFF then value.toNat else low.held past := by
  rw [Register.held_write]
  simp [low, Register.window]

theorem ninth_write : ninth.held (.write address value :: past) =
    if 0x3000 ≤ address.toNat ∧ address.toNat ≤ 0x3FFF then (value &&& 1).toNat
    else ninth.held past := by
  rw [Register.held_write]
  simp [ninth, Register.window]

theorem ramBank_write : ramBank.held (.write address value :: past) =
    if 0x4000 ≤ address.toNat ∧ address.toNat ≤ 0x5FFF then (value &&& 7).toNat
    else ramBank.held past := by
  rw [Register.held_write]
  simp [ramBank, Register.window]

end

theorem low_lt (history : List CpuOperation) : low.held history < 256 :=
  low.held_induction (P := (· < 256)) (by decide) UInt8.toNat_lt history

theorem ninth_lt (history : List CpuOperation) : ninth.held history < 2 := by
  refine ninth.held_induction (P := (· < 2)) (by decide) ?_ history
  intro value
  show (value &&& 1).toNat < 2
  rw [Controller.toNat_and_mask value 1 2 ⟨1, rfl⟩ rfl]
  omega

/-! ## What one write does -/

variable {cartridge : Cartridge} {rumble : Bool}

/-- **A write reaches at most one register**, and none of them enables RAM. -/
theorem registers_write (hc : cartridge.controller = .mbc5 rumble) (address : UInt16)
    (value : UInt8) :
    let after := (cartridge.write address value).value
    after.controller = .mbc5 rumble ∧
    after.banks.ramEnabled = cartridge.banks.ramEnabled ∧
    after.banks.ramBank =
      (if 0x4000 ≤ address.toNat ∧ address.toNat ≤ 0x5FFF then (value &&& 7).toNat
      else cartridge.banks.ramBank) ∧
    after.banks.romBank =
      (if 0x2000 ≤ address.toNat ∧ address.toNat ≤ 0x2FFF then
        cartridge.banks.romBank / 256 % 2 * 256 + value.toNat
      else if 0x3000 ≤ address.toNat ∧ address.toNat ≤ 0x3FFF then
        (value &&& 1).toNat * 256 + cartridge.banks.romBank % 256
      else cartridge.banks.romBank) := by
  intro after
  have hafter : after = cartridge.apply address value
      (Controller.decodeMbc5 cartridge.banks address.toNat value.toNat) := by
    simp only [after, Cartridge.write, Controller.decode, hc]
  rw [hafter, Controller.toNat_and_mask value 7 8 ⟨3, rfl⟩ rfl,
    Controller.toNat_and_mask value 1 2 ⟨1, rfl⟩ rfl]
  unfold Controller.decodeMbc5
  split
  · -- 0000–1FFF
    simp only [Cartridge.apply, hc]
    grind
  split
  · -- 2000–2FFF
    simp only [Cartridge.apply, hc, Banks.mapRom]
    grind
  split
  · -- 3000–3FFF
    simp only [Cartridge.apply, hc, Banks.mapRom]
    grind
  split
  · -- 4000–5FFF
    simp only [Cartridge.apply, hc, Banks.mapRam]
    grind
  split
  · -- A000–BFFF
    rw [Cartridge.banks_apply_store, Cartridge.controller_apply_store]
    grind
  · simp only [Cartridge.apply, hc]
    grind

/-- Between the registers and around RAM a write does nothing and is not reported. -/
theorem write_elsewhere (hc : cartridge.controller = .mbc5 rumble) {address : UInt16}
    (haddress : address.toNat ≤ 0x1FFF ∨ (0x6000 ≤ address.toNat ∧ address.toNat ≤ 0x9FFF) ∨
      0xC000 ≤ address.toNat) (value : UInt8) :
    cartridge.write address value = pure cartridge := by
  have hnothing : cartridge.controller.decode cartridge.banks address value = .nothing := by
    rw [hc]
    show Controller.decodeMbc5 cartridge.banks address.toNat value.toNat = .nothing
    unfold Controller.decodeMbc5
    grind
  exact Cartridge.write_of_nothing hnothing

/-! ## Runs -/

/-- The cartridge is an MBC5 whose registers hold what the history dictates. -/
structure Follows (rumble : Bool) (history : List CpuOperation) (cartridge : Cartridge) : Prop where
  controller : cartridge.controller = .mbc5 rumble
  ramEnabled : cartridge.banks.ramEnabled = false
  ramBank : cartridge.banks.ramBank = ramBank.held history
  romBank : cartridge.banks.romBank = 256 * ninth.held history + low.held history

namespace Follows

variable {past : List CpuOperation}

/-- After power-on nothing has happened. -/
theorem powerOn (hc : cartridge.controller = .mbc5 rumble)
    (hbanks : cartridge.banks = Banks.powerOn) : Follows rumble [] cartridge where
  controller := hc
  ramEnabled := by rw [hbanks]; rfl
  ramBank := by rw [hbanks]; rfl
  romBank := by rw [hbanks]; rfl

/-- One operation takes the registers one step further along the history. -/
theorem operate (h : Follows rumble past cartridge) (operation : CpuOperation) :
    Follows rumble (operation :: past) (cartridge.operate operation) := by
  cases operation with
  | reset =>
      refine ⟨h.controller, h.ramEnabled, ?_, ?_⟩
      · -- a reset leaves the RAM bank
        rw [Register.held_reset]
        exact h.ramBank
      · rw [Register.held_reset, Register.held_reset]
        rfl
  | write address value =>
      obtain ⟨hcontroller, henabled, hram, hrom⟩ := registers_write h.controller address value
      have hlow := low_lt past
      have hninth := ninth_lt past
      refine ⟨hcontroller, henabled.trans h.ramEnabled, ?_, ?_⟩
      · rw [ramBank_write, ← h.ramBank]
        exact hram
      · -- each register keeps the other one's bits
        show (cartridge.write address value).value.banks.romBank = _
        rw [ninth_write, low_write, hrom, h.romBank]
        split
        · rw [if_neg (by omega)]
          omega
        · split <;> omega

theorem drive (h : Follows rumble past cartridge) (operations : List CpuOperation) :
    Follows rumble (operations.reverse ++ past) (cartridge.drive operations) :=
  Cartridge.drive_follows (fun _ _ operation h => h.operate operation) h operations

theorem romBank_lt (h : Follows rumble past cartridge) : cartridge.banks.romBank < 512 := by
  have hlow := low_lt past
  have hninth := ninth_lt past
  rw [h.romBank]
  omega

end Follows

/-! ## Selecting a bank -/

/-- Any bank is selected by one write to each register, in either order, whatever was selected before. -/
theorem romBank_select (hc : cartridge.controller = .mbc5 rumble) {bank : Nat} (hbank : bank < 512)
    {lowAddress ninthAddress : UInt16}
    (hlow : 0x2000 ≤ lowAddress.toNat ∧ lowAddress.toNat ≤ 0x2FFF)
    (hninth : 0x3000 ≤ ninthAddress.toNat ∧ ninthAddress.toNat ≤ 0x3FFF) :
    ((cartridge.write lowAddress (UInt8.ofNat (bank % 256))).value.write ninthAddress
      (UInt8.ofNat (bank / 256))).value.banks.romBank = bank ∧
    ((cartridge.write ninthAddress (UInt8.ofNat (bank / 256))).value.write lowAddress
      (UInt8.ofNat (bank % 256))).value.banks.romBank = bank := by
  have hbits : (UInt8.ofNat (bank / 256) &&& 1).toNat = bank / 256 := by
    rw [Controller.toNat_and_mask _ 1 2 ⟨1, rfl⟩ rfl, UInt8.toNat_ofNat']
    omega
  have hbyte : (UInt8.ofNat (bank % 256)).toNat = bank % 256 := by
    rw [UInt8.toNat_ofNat']
    omega
  have hapart : ¬ (0x2000 ≤ ninthAddress.toNat ∧ ninthAddress.toNat ≤ 0x2FFF) := by omega
  constructor
  · obtain ⟨hc', -, -, hfirst⟩ := registers_write hc lowAddress (UInt8.ofNat (bank % 256))
    obtain ⟨-, -, -, hsecond⟩ := registers_write hc' ninthAddress (UInt8.ofNat (bank / 256))
    rw [hsecond, if_neg hapart, if_pos hninth, hfirst, if_pos hlow, hbits, hbyte]
    omega
  · obtain ⟨hc', -, -, hfirst⟩ := registers_write hc ninthAddress (UInt8.ofNat (bank / 256))
    obtain ⟨-, -, -, hsecond⟩ := registers_write hc' lowAddress (UInt8.ofNat (bank % 256))
    rw [hsecond, if_pos hlow, hfirst, if_neg hapart, if_pos hninth, hbits, hbyte]
    omega

/-- The switched window shows the selected bank of the ROM, and the open bus where the ROM has no such
bank. -/
theorem read_selected (h : cartridge.WellFormed) {bank : Nat} (hbank : cartridge.banks.romBank = bank)
    {address : UInt16} (hlow : 0x4000 ≤ address.toNat) (hhigh : address.toNat < 0x8000) :
    (bank < cartridge.header.romBanks →
      cartridge.rom[bank * 16384 + (address.toNat - 0x4000)]? = some (cartridge.read address)) ∧
    (cartridge.header.romBanks ≤ bank → cartridge.read address = 0xFF) := by
  have hsize := h.rom_size
  have hread := h.read_switched hlow hhigh
  rw [hbank, Array.getD_eq_getD_getElem?] at hread
  unfold Header.romSize at hsize
  unfold romBankSize at hsize hread
  constructor
  · intro hin
    have hoffset : bank * 16384 + (address.toNat - 0x4000) < cartridge.rom.size := by omega
    rw [hread, Array.getElem?_eq_getElem hoffset]
    rfl
  · intro hpast
    have hoffset : cartridge.rom.size ≤ bank * 16384 + (address.toNat - 0x4000) := by omega
    rw [hread, Array.getElem?_eq_none hoffset]
    rfl

/-- **After any run of a program each register holds what the history dictates**, and RAM stays disabled.
Writes elsewhere change nothing. From there any of the 512 banks is selected by one write to each of its two
registers, in either order, and the switched window then shows that bank of the ROM, or the open bus where
the ROM has no such bank. -/
theorem mbc5_registers_after_run {disk : Disk} {loaded : Cartridge} {ram battery rumble : Bool}
    (h : Cartridge.Loaded disk loaded) (htype : loaded.header.type = .mbc5 ram battery rumble)
    (operations : List CpuOperation) :
    let cartridge :=
      (Session.run ⟨disk, loaded⟩ (operations.map CpuOperation.toOperation)).value.cartridge
    let history := operations.reverse
    (cartridge.banks.romBank = 256 * ninth.held history + low.held history ∧
      cartridge.banks.romBank < 512 ∧
      cartridge.banks.ramBank = ramBank.held history ∧
      cartridge.banks.ramEnabled = false) ∧
    (∀ (address : UInt16) (value : UInt8),
      (address.toNat ≤ 0x1FFF ∨ (0x6000 ≤ address.toNat ∧ address.toNat ≤ 0x9FFF) ∨
        0xC000 ≤ address.toNat) →
      cartridge.write address value = pure cartridge) ∧
    ∀ bank, bank < 512 → ∀ lowAddress ninthAddress : UInt16,
      (0x2000 ≤ lowAddress.toNat ∧ lowAddress.toNat ≤ 0x2FFF) →
      (0x3000 ≤ ninthAddress.toNat ∧ ninthAddress.toNat ≤ 0x3FFF) →
      let lowFirst := ((cartridge.write lowAddress (UInt8.ofNat (bank % 256))).value.write
        ninthAddress (UInt8.ofNat (bank / 256))).value
      let ninthFirst := ((cartridge.write ninthAddress (UInt8.ofNat (bank / 256))).value.write
        lowAddress (UInt8.ofNat (bank % 256))).value
      ∀ selected, selected = lowFirst ∨ selected = ninthFirst →
        selected.banks.romBank = bank ∧
        ∀ address : UInt16, 0x4000 ≤ address.toNat → address.toNat < 0x8000 →
          (bank < loaded.header.romBanks →
            loaded.rom[bank * 16384 + (address.toNat - 0x4000)]? = some (selected.read address)) ∧
          (loaded.header.romBanks ≤ bank → selected.read address = 0xFF) := by
  intro cartridge history
  have hdrive : cartridge = loaded.drive operations := by
    simp only [cartridge, Session.run_cpu]
  obtain ⟨hcontroller, hbanks, -⟩ := h.registers
  have hstart : Follows rumble [] loaded := by
    refine Follows.powerOn ?_ hbanks
    rw [hcontroller, htype]
    rfl
  have hfollows : Follows rumble history cartridge := by
    rw [hdrive, ← List.append_nil history]
    exact hstart.drive operations
  refine ⟨⟨hfollows.romBank, hfollows.romBank_lt, hfollows.ramBank, hfollows.ramEnabled⟩, ?_, ?_⟩
  · intro address value haddress
    exact write_elsewhere hfollows.controller haddress value
  · intro bank hbank lowAddress ninthAddress hlow hninth lowFirst ninthFirst selected hselected
    obtain ⟨hlowFirst, hninthFirst⟩ := romBank_select hfollows.controller hbank hlow hninth
    -- the two writes go on with the run, so they keep what a run keeps
    have hmore : selected.banks.romBank = bank ∧ ∃ more, selected = loaded.drive more := by
      rcases hselected with rfl | rfl
      · refine ⟨hlowFirst, operations ++ [.write lowAddress (UInt8.ofNat (bank % 256)),
          .write ninthAddress (UInt8.ofNat (bank / 256))], ?_⟩
        rw [Cartridge.drive_append, ← hdrive]
        rfl
      · refine ⟨hninthFirst, operations ++ [.write ninthAddress (UInt8.ofNat (bank / 256)),
          .write lowAddress (UInt8.ofNat (bank % 256))], ?_⟩
        rw [Cartridge.drive_append, ← hdrive]
        rfl
    obtain ⟨hmapped, more, hlater⟩ := hmore
    have hwf : selected.WellFormed := hlater ▸ h.wellFormed.drive more
    have hrom : selected.rom = loaded.rom := hlater ▸ loaded.rom_drive more
    have hheader : selected.header = loaded.header :=
      congrArg Prod.fst (hlater ▸ loaded.identity_drive more)
    refine ⟨hmapped, ?_⟩
    intro address hwindow hwindow'
    have hread := read_selected hwf hmapped hwindow hwindow'
    rw [hrom, hheader] at hread
    exact hread

/-- The blank MBC5 cartridge with its ninth bit set, reset, and then on bank 100; from there it goes to bank
1FF, which its two banks of ROM do not have. -/
theorem mbc5_registers_after_run_blank :
    ∃ loaded, Cartridge.Loaded (Disk.empty []) loaded ∧
      loaded.header.type = .mbc5 true true false ∧
      let cartridge := (Session.run ⟨Disk.empty [], loaded⟩
        (List.map CpuOperation.toOperation [.write 0x3FFF 1, .write 0x4000 0xFD, .reset,
          .write 0x0000 0x0A, .write 0x3000 0xFF, .write 0x2FFF 0])).value.cartridge
      cartridge.banks.romBank = 0x100 ∧ cartridge.banks.ramBank = 5 ∧
        cartridge.banks.ramEnabled = false ∧
        ((cartridge.write 0x2000 0xFF).value.write 0x3000 1).value.banks.romBank = 0x1FF ∧
        ((cartridge.write 0x2000 0xFF).value.write 0x3000 1).value.read 0x7FFF = 0xFF := by
  obtain ⟨loaded, hload, htype, -, hbanks⟩ :=
    Cartridge.exists_load_blankImage (Disk.empty []) 0x1B 0x03 none
  have hloaded : Cartridge.Loaded (Disk.empty []) loaded := .ofImage _ {} hload
  obtain ⟨⟨hrom, -, hram, henabled⟩, -, hselect⟩ := mbc5_registers_after_run hloaded htype
    [.write 0x3FFF 1, .write 0x4000 0xFD, .reset, .write 0x0000 0x0A, .write 0x3000 0xFF,
      .write 0x2FFF 0]
  obtain ⟨hmapped, hread⟩ := hselect 0x1FF (by decide) 0x2000 0x3000 (by decide) (by decide) _
    (Or.inl rfl)
  refine ⟨loaded, hloaded, htype, hrom, hram, henabled, hmapped, ?_⟩
  exact (hread 0x7FFF (by decide) (by decide)).2 (by rw [hbanks]; decide)

end GamePak.Mbc5
