import GamePak.Proofs.Cartridge.WellFormed
import GamePak.Proofs.History
import GamePak.Proofs.Session.Cpu

/-!
# `Proofs.Controller.Mbc1` — the registers of an MBC1 after any run

An MBC1 has five registers behind four windows. Each holds what the last write to it dictates, whatever
else was written before, between and after. The two parts of the ROM bank share one number and the
window at 4000–5FFF is shared by two registers, so this is a law about runs: a write to that window goes
where the mode latch points at the time.

## Contents
- `Mbc1.ramEnabled`, `largeRam`, `low`, `high`, `ramBank`: each register, read off a history alone.
- `Mbc1.registers_write`: what one write does to each register of a cartridge.
- `Mbc1.Follows`: a cartridge holds what its history dictates; `Follows.operate`, `Follows.drive`.
- `Mbc1.mbc1_registers_after_run`.
-/

namespace GamePak.Mbc1

open History

/-! ## Registers of a history -/

/-- RAM is enabled by a low nibble of A in the latest write to 0000–1FFF. -/
def ramEnabled : List CpuOperation → Bool :=
  latest (fun _ operation => (operation.written? 0x0000 0x1FFF).map (· &&& 0x0F == 0x0A)) false

/-- The mode latch is bit 0 of the latest write to 6000–7FFF; set, it stands for the large-RAM mode. -/
def largeRam : List CpuOperation → Bool :=
  latest (fun _ operation => (operation.written? 0x6000 0x7FFF).map (· &&& 1 == 1)) false

/-- The low five bits of the ROM bank, in which zero stands for one. A reset sets them to one. -/
def low : List CpuOperation → Nat :=
  latest (fun _ operation => (operation.onReset? 1).or
    ((operation.written? 0x2000 0x3FFF).map fun value => max 1 (value &&& 0x1F).toNat)) 1

/-- The high two bits of the ROM bank, from the latest write to 4000–5FFF in ROM mode. A reset clears
them. -/
def high : List CpuOperation → Nat :=
  latest (fun past operation => (operation.onReset? 0).or
    (if largeRam past then none
      else (operation.written? 0x4000 0x5FFF).map fun value => (value &&& 3).toNat)) 0

/-- The RAM bank, from the latest write to 4000–5FFF in large-RAM mode. -/
def ramBank : List CpuOperation → Nat :=
  latest (fun past operation =>
    if largeRam past then (operation.written? 0x4000 0x5FFF).map fun value => (value &&& 3).toNat
    else none) 0

/-! ## One more operation in the history -/

section

variable (past : List CpuOperation) (address : UInt16) (value : UInt8)

theorem ramEnabled_write : ramEnabled (.write address value :: past) =
    if address.toNat ≤ 0x1FFF then value &&& 0x0F == 0x0A else ramEnabled past := by
  by_cases h : address.toNat ≤ 0x1FFF
  all_goals simp [ramEnabled, latest, CpuOperation.written?, h]

theorem largeRam_write : largeRam (.write address value :: past) =
    if 0x6000 ≤ address.toNat ∧ address.toNat ≤ 0x7FFF then value &&& 1 == 1
    else largeRam past := by
  by_cases h : 0x6000 ≤ address.toNat ∧ address.toNat ≤ 0x7FFF
  all_goals simp [largeRam, latest, CpuOperation.written?, h]

theorem low_write : low (.write address value :: past) =
    if 0x2000 ≤ address.toNat ∧ address.toNat ≤ 0x3FFF then max 1 (value &&& 0x1F).toNat
    else low past := by
  by_cases h : 0x2000 ≤ address.toNat ∧ address.toNat ≤ 0x3FFF
  all_goals simp [low, latest, CpuOperation.written?, CpuOperation.onReset?, h]

theorem high_write : high (.write address value :: past) =
    if (0x4000 ≤ address.toNat ∧ address.toNat ≤ 0x5FFF) ∧ largeRam past = false then
      (value &&& 3).toNat
    else high past := by
  by_cases h : 0x4000 ≤ address.toNat ∧ address.toNat ≤ 0x5FFF
  all_goals
    cases hmode : largeRam past
    all_goals simp [high, latest, CpuOperation.written?, CpuOperation.onReset?, h, hmode]

theorem ramBank_write : ramBank (.write address value :: past) =
    if (0x4000 ≤ address.toNat ∧ address.toNat ≤ 0x5FFF) ∧ largeRam past = true then
      (value &&& 3).toNat
    else ramBank past := by
  by_cases h : 0x4000 ≤ address.toNat ∧ address.toNat ≤ 0x5FFF
  all_goals
    cases hmode : largeRam past
    all_goals simp [ramBank, latest, CpuOperation.written?, h, hmode]

theorem ramBank_reset : ramBank (.reset :: past) = ramBank past := by
  unfold ramBank
  rw [latest_cons_miss]
  split <;> rfl

end

/-! ## Ranges -/

/-- The low part is never zero. -/
theorem low_range (history : List CpuOperation) : 1 ≤ low history ∧ low history < 32 := by
  refine latest_induction (P := fun bank => 1 ≤ bank ∧ bank < 32) (by decide) ?_ history
  intro past operation bank hhit
  cases operation with
  | reset =>
      cases hhit
      decide
  | write address value =>
      simp only [CpuOperation.onReset?, Option.none_or, Option.map_eq_some_iff] at hhit
      obtain ⟨written, -, rfl⟩ := hhit
      rw [Controller.toNat_and_mask written 0x1F 32 ⟨5, rfl⟩ rfl]
      omega

theorem high_lt (history : List CpuOperation) : high history < 4 := by
  refine latest_induction (P := (· < 4)) (by decide) ?_ history
  intro past operation bank hhit
  cases operation with
  | reset =>
      cases hhit
      decide
  | write address value =>
      simp only [CpuOperation.onReset?, Option.none_or] at hhit
      split at hhit
      · cases hhit
      obtain ⟨written, -, rfl⟩ := Option.map_eq_some_iff.1 hhit
      rw [Controller.toNat_and_mask written 3 4 ⟨2, rfl⟩ rfl]
      omega

/-! ## What one write does -/

variable {cartridge : Cartridge} {mode : Bool}

/-- **A write reaches at most one register.** Each register of the cartridge is told apart by the
addresses, and at 4000–5FFF by the mode, at which a write changes it. -/
theorem registers_write (hc : cartridge.controller = .mbc1 mode) (address : UInt16)
    (value : UInt8) :
    let after := (cartridge.write address value).value
    after.banks.ramEnabled =
      (if address.toNat ≤ 0x1FFF then value &&& 0x0F == 0x0A else cartridge.banks.ramEnabled) ∧
    after.controller = .mbc1
      (if 0x6000 ≤ address.toNat ∧ address.toNat ≤ 0x7FFF then value &&& 1 == 1 else mode) ∧
    after.banks.ramBank =
      (if (0x4000 ≤ address.toNat ∧ address.toNat ≤ 0x5FFF) ∧ mode = true then (value &&& 3).toNat
      else cartridge.banks.ramBank) ∧
    after.banks.romBank =
      (if 0x2000 ≤ address.toNat ∧ address.toNat ≤ 0x3FFF then
        cartridge.banks.romBank / 32 % 4 * 32 + max 1 (value &&& 0x1F).toNat
      else if (0x4000 ≤ address.toNat ∧ address.toNat ≤ 0x5FFF) ∧ mode = false then
        (value &&& 3).toNat * 32 + cartridge.banks.romBank % 32
      else cartridge.banks.romBank) := by
  intro after
  have hafter : after = cartridge.apply address value
      (Controller.decodeMbc1 mode cartridge.banks address.toNat value.toNat) := by
    simp only [after, Cartridge.write, Controller.decode, hc]
  rw [hafter, ← Controller.unlocksRam_toNat, ← Controller.lowBank_toNat, ← Controller.odd_toNat,
    Controller.toNat_and_mask value 3 4 ⟨2, rfl⟩ rfl]
  unfold Controller.decodeMbc1
  split
  · -- 0000–1FFF
    simp only [Cartridge.apply, hc]
    grind
  split
  · -- 2000–3FFF
    simp only [Cartridge.apply, hc, Banks.mapRom]
    grind
  split
  · -- 4000–5FFF, shared by two registers
    cases mode
    · simp only [Cartridge.apply, hc, Banks.mapRom, Bool.false_eq_true, if_false]
      grind
    · simp only [Cartridge.apply, hc, Banks.mapRam, if_true]
      grind
  split
  · -- 6000–7FFF
    simp only [Cartridge.apply]
    grind
  split
  · -- A000–BFFF
    unfold Controller.gatedStore
    split
    · rw [Cartridge.banks_apply_store, Cartridge.controller_apply_store]
      grind
    · simp only [Cartridge.apply]
      grind
  · simp only [Cartridge.apply]
    grind

/-- A write leaves every register alone whose window it misses, and of the two registers at 4000–5FFF
the one that the mode does not point at. -/
theorem frame_write (hc : cartridge.controller = .mbc1 mode) (address : UInt16) (value : UInt8) :
    let after := (cartridge.write address value).value
    (¬ address.toNat ≤ 0x1FFF → after.banks.ramEnabled = cartridge.banks.ramEnabled) ∧
    (¬ (0x2000 ≤ address.toNat ∧ address.toNat ≤ 0x3FFF) →
      after.banks.romBank % 32 = cartridge.banks.romBank % 32) ∧
    (cartridge.banks.romBank < 128 →
      ¬ ((0x4000 ≤ address.toNat ∧ address.toNat ≤ 0x5FFF) ∧ mode = false) →
      after.banks.romBank / 32 = cartridge.banks.romBank / 32) ∧
    (¬ ((0x4000 ≤ address.toNat ∧ address.toNat ≤ 0x5FFF) ∧ mode = true) →
      after.banks.ramBank = cartridge.banks.ramBank) ∧
    (¬ (0x6000 ≤ address.toNat ∧ address.toNat ≤ 0x7FFF) →
      after.controller = cartridge.controller) := by
  intro after
  obtain ⟨henabled, hmode, hram, hrom⟩ := registers_write hc address value
  have hlow : max 1 (value &&& 0x1F).toNat < 32 := by
    rw [← Controller.lowBank_toNat]
    exact Controller.lowBank_lt value.toNat
  refine ⟨?_, ?_, ?_, ?_, ?_⟩
  · intro hmiss
    rw [henabled, if_neg hmiss]
  · -- whatever went to the upper part, the lower one was carried over
    intro hmiss
    rw [hrom, if_neg hmiss]
    split <;> omega
  · intro hbank hmiss
    rw [hrom, if_neg hmiss]
    split <;> omega
  · intro hmiss
    rw [hram, if_neg hmiss]
  · intro hmiss
    rw [hmode, if_neg hmiss, hc]

/-! ## Runs -/

/-- The cartridge is an MBC1 whose registers hold what the history dictates. -/
structure Follows (history : List CpuOperation) (cartridge : Cartridge) : Prop where
  controller : cartridge.controller = .mbc1 (largeRam history)
  ramEnabled : cartridge.banks.ramEnabled = ramEnabled history
  ramBank : cartridge.banks.ramBank = ramBank history
  romBank : cartridge.banks.romBank = 32 * high history + low history

namespace Follows

variable {past : List CpuOperation}

/-- After power-on nothing has happened. -/
theorem powerOn (hc : cartridge.controller = .mbc1 false)
    (hbanks : cartridge.banks = Banks.powerOn) : Follows [] cartridge where
  controller := hc
  ramEnabled := by rw [hbanks]; rfl
  ramBank := by rw [hbanks]; rfl
  romBank := by rw [hbanks]; rfl

/-- One operation takes the registers one step further along the history. -/
theorem operate (h : Follows past cartridge) (operation : CpuOperation) :
    Follows (operation :: past) (cartridge.operate operation) := by
  cases operation with
  | reset =>
      exact ⟨h.controller, h.ramEnabled, h.ramBank.trans (ramBank_reset past).symm, rfl⟩
  | write address value =>
      obtain ⟨henabled, hmode, hram, hrom⟩ := registers_write h.controller address value
      have hlow := low_range past
      have hhigh := high_lt past
      refine ⟨?_, ?_, ?_, ?_⟩
      · rw [largeRam_write]
        exact hmode
      · rw [ramEnabled_write, ← h.ramEnabled]
        exact henabled
      · rw [ramBank_write, ← h.ramBank]
        exact hram
      · -- the two parts of the bank number never overlap
        show (cartridge.write address value).value.banks.romBank = _
        rw [high_write, low_write, hrom, h.romBank]
        split
        · rw [if_neg (by omega)]
          omega
        · split <;> omega

theorem drive (h : Follows past cartridge) (operations : List CpuOperation) :
    Follows (operations.reverse ++ past) (cartridge.drive operations) :=
  Cartridge.drive_follows (fun _ _ operation h => h.operate operation) h operations

theorem romBank_range (h : Follows past cartridge) :
    1 ≤ cartridge.banks.romBank ∧ cartridge.banks.romBank ≤ 0x7F ∧
      cartridge.banks.romBank ∉ [0, 0x20, 0x40, 0x60] := by
  have hlow := low_range past
  have hhigh := high_lt past
  rw [h.romBank]
  refine ⟨by omega, by omega, ?_⟩
  simp only [List.mem_cons, List.not_mem_nil, or_false, not_or]
  omega

end Follows

/-- **After any run of a program each register holds what the history dictates.** So bank 0 and its
images 20, 40 and 60 are never mapped, and whatever the run was, a further write changes no register but
the one it is for. -/
theorem mbc1_registers_after_run {disk : Disk} {loaded : Cartridge} {ram battery : Bool}
    (h : Cartridge.Loaded disk loaded) (htype : loaded.header.type = .mbc1 ram battery)
    (operations : List CpuOperation) :
    let cartridge :=
      (Session.run ⟨disk, loaded⟩ (operations.map CpuOperation.toOperation)).value.cartridge
    let history := operations.reverse
    (cartridge.controller = .mbc1 (largeRam history) ∧
      cartridge.banks.ramEnabled = ramEnabled history ∧
      cartridge.banks.ramBank = ramBank history ∧
      cartridge.banks.romBank = 32 * high history + low history) ∧
    (1 ≤ cartridge.banks.romBank ∧ cartridge.banks.romBank ≤ 0x7F ∧
      cartridge.banks.romBank ∉ [0, 0x20, 0x40, 0x60]) ∧
    ∀ (address : UInt16) (value : UInt8),
      let after := (cartridge.write address value).value
      (¬ address.toNat ≤ 0x1FFF → after.banks.ramEnabled = cartridge.banks.ramEnabled) ∧
      (¬ (0x2000 ≤ address.toNat ∧ address.toNat ≤ 0x3FFF) →
        after.banks.romBank % 32 = cartridge.banks.romBank % 32) ∧
      (¬ ((0x4000 ≤ address.toNat ∧ address.toNat ≤ 0x5FFF) ∧ largeRam history = false) →
        after.banks.romBank / 32 = cartridge.banks.romBank / 32) ∧
      (¬ ((0x4000 ≤ address.toNat ∧ address.toNat ≤ 0x5FFF) ∧ largeRam history = true) →
        after.banks.ramBank = cartridge.banks.ramBank) ∧
      (¬ (0x6000 ≤ address.toNat ∧ address.toNat ≤ 0x7FFF) →
        after.controller = cartridge.controller) := by
  intro cartridge history
  have hdrive : cartridge = loaded.drive operations := by
    simp only [cartridge, Session.run_cpu]
  obtain ⟨hcontroller, hbanks, -⟩ := h.registers
  have hstart : Follows [] loaded := by
    refine Follows.powerOn ?_ hbanks
    rw [hcontroller, htype]
    rfl
  have hfollows : Follows history cartridge := by
    rw [hdrive, ← List.append_nil history]
    exact hstart.drive operations
  refine ⟨⟨hfollows.controller, hfollows.ramEnabled, hfollows.ramBank, hfollows.romBank⟩,
    hfollows.romBank_range, ?_⟩
  intro address value
  have hbank : cartridge.banks.romBank < 128 := Nat.lt_succ_of_le hfollows.romBank_range.2.1
  obtain ⟨henabled, hlow, hhigh, hram, hmode⟩ := frame_write hfollows.controller address value
  exact ⟨henabled, hlow, hhigh hbank, hram, hmode⟩

/-- The blank MBC1 cartridge, programmed to ROM bank 61 and RAM bank 2 with a reset between. -/
theorem mbc1_registers_after_run_blank :
    ∃ loaded, Cartridge.Loaded (Disk.empty []) loaded ∧ loaded.header.type = .mbc1 true true ∧
      let cartridge := (Session.run ⟨Disk.empty [], loaded⟩
        (List.map CpuOperation.toOperation [.write 0x6000 1, .write 0x5FFF 0xFE, .reset,
          .write 0x7FFF 0xFE, .write 0x4000 3, .write 0x3FFF 0xE0, .write 0x0000 0x1A])).value.cartridge
      cartridge.controller = .mbc1 false ∧ cartridge.banks.ramEnabled = true ∧
        cartridge.banks.ramBank = 2 ∧ cartridge.banks.romBank = 0x61 := by
  obtain ⟨loaded, hload, htype, -, -⟩ :=
    Cartridge.exists_load_blankImage (Disk.empty []) 0x03 0x03 none
  have hloaded : Cartridge.Loaded (Disk.empty []) loaded := .ofImage _ {} hload
  exact ⟨loaded, hloaded, htype, (mbc1_registers_after_run hloaded htype _).1⟩

end GamePak.Mbc1
