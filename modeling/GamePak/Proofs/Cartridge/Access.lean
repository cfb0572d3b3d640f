import GamePak.Proofs.Cartridge.WellFormed

/-!
# `Proofs.Cartridge.Access` — which byte an address reaches

Three windows, each with its own translation from an address to a byte. A translation subtracts the
window's first address, and what it finds in RAM is used without a check: both need the invariant.

## Contents
- `Banks.cell?_bank0` and its companions: the translation, window by window.
- `Cartridge.Backs`: the byte an address stands for, in sums instead of differences.
- `WellFormed.backs_cell?`, `WellFormed.backs_debugCell?`, `WellFormed.backs_of_store`: every access
  reaches such a byte.
- `WellFormed.read_bank0` and its companions: what a read returns, window by window.
-/

namespace GamePak

/-! ## Windows -/

namespace Banks

variable (banks : Banks) {address : UInt16}

theorem cell?_bank0 (h : address.toNat < 0x4000) :
    banks.cell? address = some (.rom address.toNat) := by
  simp only [cell?, if_pos h]

theorem cell?_switched (h : 0x4000 ≤ address.toNat) (h' : address.toNat < 0x8000) :
    banks.cell? address = some (.rom (banks.romStart + (address.toNat - 0x4000))) := by
  simp only [cell?, if_neg (Nat.not_lt.2 h), if_pos h']

theorem cell?_ram (h : 0xA000 ≤ address.toNat) (h' : address.toNat < 0xC000) :
    banks.cell? address = some (.ram (banks.ramStart + (address.toNat - 0xA000))) := by
  have hrom : ¬ address.toNat < 0x4000 := by omega
  have hrom' : ¬ address.toNat < 0x8000 := by omega
  simp only [cell?, if_neg hrom, if_neg hrom', if_pos (And.intro h h')]

theorem cell?_outside (h : 0x8000 ≤ address.toNat)
    (h' : ¬ (0xA000 ≤ address.toNat ∧ address.toNat < 0xC000)) :
    banks.cell? address = none := by
  have hrom : ¬ address.toNat < 0x4000 := by omega
  have hrom' : ¬ address.toNat < 0x8000 := by omega
  simp only [cell?, if_neg hrom, if_neg hrom', if_neg h']

end Banks

/-! ## Accesses stay inside RAM -/

namespace Cartridge

/-- The byte that `address` stands for. The offsets are given by sums, so that a difference that was
cut off at zero would not satisfy them; a RAM byte must be there. -/
def Backs (cartridge : Cartridge) (address : UInt16) : Cell → Prop
  | .rom offset =>
    (address.toNat < 0x4000 ∧ offset = address.toNat) ∨
      (0x4000 ≤ address.toNat ∧ address.toNat < 0x8000 ∧
        offset + 0x4000 = cartridge.banks.romStart + address.toNat)
  | .ram offset =>
    0xA000 ≤ address.toNat ∧ address.toNat < 0xC000 ∧
      offset + 0xA000 = cartridge.banks.ramStart + address.toNat ∧ offset < cartridge.ram.size

namespace WellFormed

variable {cartridge : Cartridge} {address : UInt16}

/-- The RAM window ends inside RAM, whichever bank is mapped. -/
theorem ramStart_add_lt (h : cartridge.WellFormed) {offset : Nat} (hoffset : offset < ramBankSize) :
    cartridge.banks.ramStart + offset < cartridge.ram.size := by
  -- eight banks at most, and RAM has room for eight
  have hbank := Nat.le_trans h.ramBank_le cartridge.controller.lastRamBank_le
  rw [h.ramStart_eq, h.ram_size]
  unfold ramBankSize ramCapacity at *
  omega

/-- Whatever byte the bus reaches at an address is the one the address stands for. -/
theorem backs_cell? (h : cartridge.WellFormed) {cell : Cell}
    (hcell : cartridge.banks.cell? address = some cell) : cartridge.Backs address cell := by
  unfold Banks.cell? at hcell
  simp only at hcell
  split at hcell
  · next hlow =>
    cases hcell
    exact Or.inl ⟨hlow, rfl⟩
  split at hcell
  · next hlow hhigh =>
    cases hcell
    exact Or.inr ⟨by omega, hhigh, by omega⟩
  split at hcell
  · next hram =>
    cases hcell
    have hoffset : address.toNat - 0xA000 < ramBankSize := by
      unfold ramBankSize
      omega
    exact ⟨hram.1, hram.2, by omega, h.ramStart_add_lt hoffset⟩
  · cases hcell

/-- The same of the byte that the debugger reaches. -/
theorem backs_debugCell? (h : cartridge.WellFormed) {cell : Cell}
    (hcell : cartridge.debugCell? address = some cell) : cartridge.Backs address cell := by
  unfold debugCell? at hcell
  split at hcell
  · next hflat =>
    cases hcell
    by_cases hlow : address.toNat < 0x4000
    · exact Or.inl ⟨hlow, rfl⟩
    · -- without a controller bank 1 is mapped, and bank 1 is where the flat ROM goes on
      have hstart : cartridge.banks.romStart = 0x4000 := by
        rw [h.romStart_eq, (h.unmapped hflat.1).1]
        rfl
      exact Or.inr ⟨by omega, hflat.2, by omega⟩
  · exact h.backs_cell? hcell

/-- A write that the controller lets through has a RAM byte to go to. -/
theorem backs_of_store (h : cartridge.WellFormed) {value : UInt8}
    (hstore : cartridge.controller.decode cartridge.banks address value = .store) :
    ∃ offset, cartridge.banks.cell? address = some (.ram offset) ∧
      cartridge.Backs address (.ram offset) := by
  have hadm := cartridge.controller.decode_admissible cartridge.banks address value
  rw [hstore] at hadm
  have hcell := cartridge.banks.cell?_ram hadm.1 hadm.2
  exact ⟨_, hcell, h.backs_cell? hcell⟩

/-! ## Reads -/

/-- Bank 0 is always there. -/
theorem read_bank0 (h : cartridge.WellFormed) (ha : address.toNat < 0x4000) :
    cartridge.rom[address.toNat]? = some (cartridge.read address) := by
  have hbanks := h.two_le_romBanks
  have hin : address.toNat < cartridge.rom.size := by
    rw [h.rom_size]
    unfold Header.romSize romBankSize
    omega
  simp only [read, cartridge.banks.cell?_bank0 ha, byteAt, Array.getD_eq_getD_getElem?,
    Array.getElem?_eq_getElem hin, Option.getD_some]

/-- The switched window shows the mapped bank, and the open bus past the end of the ROM. -/
theorem read_switched (h : cartridge.WellFormed) (ha : 0x4000 ≤ address.toNat)
    (ha' : address.toNat < 0x8000) :
    cartridge.read address =
      cartridge.rom.getD (cartridge.banks.romBank * romBankSize + (address.toNat - 0x4000))
        openBus := by
  simp only [read, cartridge.banks.cell?_switched ha ha', byteAt, h.romStart_eq]

/-- The RAM window shows the mapped bank, all of which is there. -/
theorem read_ram (h : cartridge.WellFormed) (ha : 0xA000 ≤ address.toNat)
    (ha' : address.toNat < 0xC000) :
    cartridge.ram[cartridge.banks.ramBank * ramBankSize + (address.toNat - 0xA000)]? =
      some (cartridge.read address) := by
  have hoffset : address.toNat - 0xA000 < ramBankSize := by
    unfold ramBankSize
    omega
  have hin := h.ramStart_add_lt hoffset
  rw [← h.ramStart_eq]
  simp only [read, cartridge.banks.cell?_ram ha ha', byteAt, Array.getD_eq_getD_getElem?,
    Array.getElem?_eq_getElem hin, Option.getD_some]

end WellFormed

/-- Nothing answers outside the three windows. -/
theorem read_outside (cartridge : Cartridge) {address : UInt16} (ha : 0x8000 ≤ address.toNat)
    (ha' : ¬ (0xA000 ≤ address.toNat ∧ address.toNat < 0xC000)) :
    cartridge.read address = openBus := by
  simp only [read, cartridge.banks.cell?_outside ha ha']

end Cartridge

end GamePak
