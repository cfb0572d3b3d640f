import GamePak.Proofs.Controller.Register

/-!
# `Proofs.Controller.Mbc2` — the registers of an MBC2 after any run

An MBC2 has two registers, and each shares its range of addresses with pages on which nothing answers: the
RAM latch is on the even pages below 2000 and the ROM bank on the odd pages from 2000 to 3FFF. A write that
is refused for its page goes nowhere else. So each register holds what the last write to its own pages
dictates, and there is no register for the RAM bank at all.

## Contents
- `Mbc2.romBank`, `Mbc2.ramEnabled`: each register, as a program knows it.
- `Mbc2.registers_write`, `Mbc2.write_elsewhere`: what one write does.
- `Mbc2.Follows`: a cartridge holds what its history dictates; `Follows.operate`.
- `Mbc2.mbc2_registers_after_run`.
-/

namespace GamePak.Mbc2

/-! ## The registers -/

/-- The ROM bank is in the low five bits of the value, in which zero stands for one. Its addresses have
bit 8 set. -/
def romBank : Register Nat where
  answers address := Register.window 0x2000 0x3FFF address && address.testBit 8
  keep value := max 1 (value &&& 0x1F).toNat
  initial := 1
  resets := true

/-- A low nibble of A enables RAM. The addresses of the latch have bit 8 clear, and a reset leaves it. -/
def ramEnabled : Register Bool where
  answers address := Register.window 0x0000 0x1FFF address && !address.testBit 8
  keep value := value &&& 0x0F == 0x0A
  initial := false
  resets := false

theorem onOddPage_eq (address : Nat) : Controller.onOddPage address = address.testBit 8 := by
  rw [Controller.onOddPage, Nat.testBit_eq_decide_div_mod_eq]
  rfl

theorem romBank_answers (address : Nat) : romBank.answers address = true ↔
    (0x2000 ≤ address ∧ address ≤ 0x3FFF) ∧ address.testBit 8 = true := by
  simp [romBank, Register.window]

theorem ramEnabled_answers (address : Nat) : ramEnabled.answers address = true ↔
    address ≤ 0x1FFF ∧ address.testBit 8 = false := by
  simp [ramEnabled, Register.window]

/-- The bank is never zero. -/
theorem romBank_range (history : List CpuOperation) :
    1 ≤ romBank.held history ∧ romBank.held history ≤ 31 := by
  refine romBank.held_induction (P := fun bank => 1 ≤ bank ∧ bank ≤ 31) (by decide) ?_ history
  intro value
  show 1 ≤ max 1 (value &&& 0x1F).toNat ∧ max 1 (value &&& 0x1F).toNat ≤ 31
  rw [Controller.toNat_and_mask value 0x1F 32 ⟨5, rfl⟩ rfl]
  omega

/-! ## What one write does -/

variable {cartridge : Cartridge}

/-- **A write reaches at most one register**, and none of them selects a RAM bank. -/
theorem registers_write (hc : cartridge.controller = .mbc2) (address : UInt16) (value : UInt8) :
    let after := (cartridge.write address value).value
    after.controller = .mbc2 ∧
    after.banks.ramBank = cartridge.banks.ramBank ∧
    after.banks.ramEnabled =
      (if ramEnabled.answers address.toNat then ramEnabled.keep value
      else cartridge.banks.ramEnabled) ∧
    after.banks.romBank =
      (if romBank.answers address.toNat then romBank.keep value
      else cartridge.banks.romBank) := by
  intro after
  have hafter : after = cartridge.apply address value
      (Controller.decodeMbc2 cartridge.banks address.toNat value.toNat) := by
    simp only [after, Cartridge.write, Controller.decode, hc]
  have henable : ramEnabled.keep value = Controller.unlocksRam value.toNat :=
    (Controller.unlocksRam_toNat value).symm
  have hbank : romBank.keep value = Controller.lowBank value.toNat :=
    (Controller.lowBank_toNat value).symm
  simp only [hafter, henable, hbank, ramEnabled_answers, romBank_answers, ← onOddPage_eq]
  unfold Controller.decodeMbc2
  split
  · -- 0000–1FFF
    split
    · simp only [Cartridge.apply, hc]
      grind
    · simp only [Cartridge.apply, hc]
      grind
  split
  · -- 2000–3FFF
    split
    · simp only [Cartridge.apply, hc, Banks.mapRom]
      grind
    · simp only [Cartridge.apply, hc]
      grind
  split
  · -- A000–BFFF
    unfold Controller.gatedStore
    split
    · rw [Cartridge.banks_apply_store, Cartridge.controller_apply_store]
      grind
    · simp only [Cartridge.apply, hc]
      grind
  · simp only [Cartridge.apply, hc]
    grind

/-- On the pages between the registers and around RAM a write does nothing and is not reported. -/
theorem write_elsewhere (hc : cartridge.controller = .mbc2) {address : UInt16}
    (haddress : (address.toNat ≤ 0x1FFF ∧ address.toNat.testBit 8 = true) ∨
      (0x2000 ≤ address.toNat ∧ address.toNat ≤ 0x3FFF ∧ address.toNat.testBit 8 = false) ∨
      (0x4000 ≤ address.toNat ∧ address.toNat ≤ 0x9FFF) ∨ 0xC000 ≤ address.toNat)
    (value : UInt8) : cartridge.write address value = pure cartridge := by
  have hnothing : cartridge.controller.decode cartridge.banks address value = .nothing := by
    rw [hc]
    show Controller.decodeMbc2 cartridge.banks address.toNat value.toNat = .nothing
    rw [← onOddPage_eq] at haddress
    unfold Controller.decodeMbc2
    grind
  exact Cartridge.write_of_nothing hnothing

/-! ## Runs -/

/-- The cartridge is an MBC2 whose registers hold what the history dictates. -/
structure Follows (history : List CpuOperation) (cartridge : Cartridge) : Prop where
  controller : cartridge.controller = .mbc2
  ramBank : cartridge.banks.ramBank = 0
  ramEnabled : cartridge.banks.ramEnabled = ramEnabled.held history
  romBank : cartridge.banks.romBank = romBank.held history

namespace Follows

variable {past : List CpuOperation}

/-- After power-on nothing has happened. -/
theorem powerOn (hc : cartridge.controller = .mbc2) (hbanks : cartridge.banks = Banks.powerOn) :
    Follows [] cartridge where
  controller := hc
  ramBank := by rw [hbanks]; rfl
  ramEnabled := by rw [hbanks]; rfl
  romBank := by rw [hbanks]; rfl

/-- One operation takes the registers one step further along the history. -/
theorem operate (h : Follows past cartridge) (operation : CpuOperation) :
    Follows (operation :: past) (cartridge.operate operation) := by
  cases operation with
  | reset =>
      refine ⟨h.controller, h.ramBank, ?_, ?_⟩
      · -- a reset leaves the latch
        rw [Register.held_reset]
        exact h.ramEnabled
      · rw [Register.held_reset]
        rfl
  | write address value =>
      obtain ⟨hcontroller, hram, henabled, hrom⟩ := registers_write h.controller address value
      refine ⟨hcontroller, hram.trans h.ramBank, ?_, ?_⟩
      · rw [Register.held_write, ← h.ramEnabled]
        exact henabled
      · rw [Register.held_write, ← h.romBank]
        exact hrom

end Follows

/-- **After any run of a program both registers hold what the history dictates.** So the ROM bank is one of
1 to 31 and the RAM bank stays 0. Whatever the run was, a write to a page of either range that is not the
register's own, and one outside both ranges and RAM, changes nothing. -/
theorem mbc2_registers_after_run {disk : Disk} {loaded : Cartridge} {battery : Bool}
    (h : Cartridge.Loaded disk loaded) (htype : loaded.header.type = .mbc2 battery)
    (operations : List CpuOperation) :
    let cartridge :=
      (Session.run ⟨disk, loaded⟩ (operations.map CpuOperation.toOperation)).value.cartridge
    let history := operations.reverse
    (cartridge.banks.romBank = romBank.held history ∧
      1 ≤ cartridge.banks.romBank ∧ cartridge.banks.romBank ≤ 31 ∧
      cartridge.banks.ramEnabled = ramEnabled.held history ∧
      cartridge.banks.ramBank = 0) ∧
    ∀ (address : UInt16) (value : UInt8),
      (address.toNat ≤ 0x1FFF ∧ address.toNat.testBit 8 = true) ∨
        (0x2000 ≤ address.toNat ∧ address.toNat ≤ 0x3FFF ∧ address.toNat.testBit 8 = false) ∨
        (0x4000 ≤ address.toNat ∧ address.toNat ≤ 0x9FFF) ∨ 0xC000 ≤ address.toNat →
      cartridge.write address value = pure cartridge := by
  intro cartridge history
  obtain ⟨hcontroller, hbanks, -⟩ := h.registers
  have hstart : Follows [] loaded := by
    refine Follows.powerOn ?_ hbanks
    rw [hcontroller, htype]
    rfl
  have hfollows : Follows history cartridge := by
    have hdriven :=
      Cartridge.drive_follows (fun _ _ operation h => h.operate operation) hstart operations
    rw [List.append_nil] at hdriven
    simp only [cartridge, Session.run_cpu]
    exact hdriven
  obtain ⟨hlow, hhigh⟩ := romBank_range history
  refine ⟨⟨hfollows.romBank, ?_, ?_, hfollows.ramEnabled, hfollows.ramBank⟩, ?_⟩
  · rw [hfollows.romBank]
    exact hlow
  · rw [hfollows.romBank]
    exact hhigh
  · intro address value haddress
    exact write_elsewhere hfollows.controller haddress value

/-- The blank MBC2 cartridge: on its way to bank 1E it is sent to bank 0, reset, and written to on the wrong
pages of both ranges. -/
theorem mbc2_registers_after_run_blank :
    ∃ loaded, Cartridge.Loaded (Disk.empty []) loaded ∧ loaded.header.type = .mbc2 true ∧
      let cartridge := (Session.run ⟨Disk.empty [], loaded⟩
        (List.map CpuOperation.toOperation [.write 0x0000 0xFA, .write 0x2100 0xE0, .reset,
          .write 0x3FFF 0xFE, .write 0x3EFF 5, .write 0x1F00 0, .write 0x4000 3])).value.cartridge
      cartridge.banks.romBank = 0x1E ∧ cartridge.banks.ramEnabled = true ∧
        cartridge.banks.ramBank = 0 ∧
        cartridge.write 0x2000 7 = pure cartridge := by
  obtain ⟨loaded, hload, htype, -, -⟩ :=
    Cartridge.exists_load_blankImage (Disk.empty []) 0x06 0x00 none
  have hloaded : Cartridge.Loaded (Disk.empty []) loaded := .ofImage _ {} hload
  obtain ⟨⟨hrom, -, -, henabled, hram⟩, helsewhere⟩ := mbc2_registers_after_run hloaded htype
    [.write 0x0000 0xFA, .write 0x2100 0xE0, .reset, .write 0x3FFF 0xFE, .write 0x3EFF 5,
      .write 0x1F00 0, .write 0x4000 3]
  refine ⟨loaded, hloaded, htype, hrom, henabled, hram, ?_⟩
  exact helsewhere 0x2000 7 (Or.inr (Or.inl (by decide)))

end GamePak.Mbc2
