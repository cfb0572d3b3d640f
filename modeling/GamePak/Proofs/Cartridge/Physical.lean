import GamePak.Proofs.Cartridge.Access

/-!
# `Proofs.Cartridge.Physical` — the byte behind an address

A read and a patch translate an address each in its own way: a read goes through the offsets of the
mapped banks, and a patch takes the two ROM windows for one flat ROM where there is no controller. Both
arrive at the same byte, `Cartridge.physical?`, which is told from the bank numbers and the size of the
ROM alone. So two addresses are the same to a read if and only if they are the same to a patch.

## Contents
- `Cartridge.has`: whether a cell is there.
- `Cartridge.physical?`: the byte that backs an address; `physical?_eq_ram_iff`: the RAM window reaches
  each byte of a bank once.
- `WellFormed.debugCell?_eq`: the flat translation and the banked one agree.
- `WellFormed.read_eq`, `WellFormed.debugWrite_eq`, `WellFormed.read_debugWrite`: reads and patches.
- `WellFormed.byteAt_debugWrite`, `WellFormed.byteAt_write`, `rom_write`: what patches and writes leave in
  any cell.
-/

namespace GamePak.Cartridge

variable {cartridge : Cartridge} {cell : Cell} {address : UInt16}

/-! ## Cells -/

/-- Whether the memory of a cell reaches as far as the cell. -/
def has (cartridge : Cartridge) : Cell → Bool
  | .rom offset => offset < cartridge.rom.size
  | .ram offset => offset < cartridge.ram.size

theorem getElem?_rom {offset : Nat} (h : cartridge.has (.rom offset) = true) :
    cartridge.rom[offset]? = some (cartridge.byteAt (.rom offset)) := by
  have hin : offset < cartridge.rom.size := of_decide_eq_true h
  simp only [byteAt, Array.getD_eq_getD_getElem?, Array.getElem?_eq_getElem hin, Option.getD_some]

theorem getElem?_ram {offset : Nat} (h : cartridge.has (.ram offset) = true) :
    cartridge.ram[offset]? = some (cartridge.byteAt (.ram offset)) := by
  have hin : offset < cartridge.ram.size := of_decide_eq_true h
  simp only [byteAt, Array.getD_eq_getD_getElem?, Array.getElem?_eq_getElem hin, Option.getD_some]

theorem byteAt_setByte_self (h : cartridge.has cell = true) (value : UInt8) :
    (cartridge.setByte value cell).byteAt cell = value := by
  cases cell <;> simp_all [has, setByte, byteAt, Array.getD_eq_getD_getElem?]

/-- Where no cell is, nothing is stored. -/
theorem setByte_of_not_has (h : cartridge.has cell = false) (value : UInt8) :
    cartridge.setByte value cell = cartridge := by
  cases cell <;> simp_all [has, setByte, Array.setIfInBounds_eq_of_size_le]

/-- And nothing answers. -/
theorem byteAt_of_not_has (h : cartridge.has cell = false) : cartridge.byteAt cell = openBus := by
  cases cell <;> simp_all [has, byteAt, Array.getD_eq_getD_getElem?]

theorem byteAt_congr {one two : Cartridge} (h : one.memory = two.memory) (cell : Cell) :
    one.byteAt cell = two.byteAt cell := by
  simp only [memory, Prod.mk.injEq] at h
  cases cell with
  | rom offset => simp only [byteAt, h.1]
  | ram offset => simp only [byteAt, h.2]

/-! ## The byte behind an address -/

/-- The byte of ROM or RAM that backs an address: bank 0 of the ROM, the mapped ROM bank as far as the
ROM has it, or the mapped RAM bank. Outside the three windows there is none. -/
def physical? (cartridge : Cartridge) (address : UInt16) : Option Cell :=
  let a := address.toNat
  if a < 0x4000 then some (.rom a)
  else if a < 0x8000 then
    let offset := cartridge.banks.romBank * 0x4000 + (a - 0x4000)
    if offset < cartridge.rom.size then some (.rom offset) else none
  else if 0xA000 ≤ a ∧ a < 0xC000 then
    some (.ram (cartridge.banks.ramBank * 0x2000 + (a - 0xA000)))
  else none

theorem physical?_congr {one two : Cartridge} (hbanks : one.banks = two.banks)
    (hsize : one.rom.size = two.rom.size) (address : UInt16) :
    one.physical? address = two.physical? address := by
  unfold physical?
  rw [hbanks, hsize]

/-- No ROM stands behind the RAM addresses. -/
theorem physical?_ne_rom (haddress : 0xA000 ≤ address.toNat) (offset : Nat) :
    cartridge.physical? address ≠ some (.rom offset) := by
  have hlow : ¬ address.toNat < 0x4000 := by omega
  have hhigh : ¬ address.toNat < 0x8000 := by omega
  simp only [physical?, if_neg hlow, if_neg hhigh]
  split <;> nofun

/-- **No byte of a bank is reached twice.** The RAM byte `offset` of bank `bank` answers at one address
only, and only while its bank is mapped. -/
theorem physical?_eq_ram_iff {bank offset : Nat} (hoffset : offset < 0x2000) :
    cartridge.physical? address = some (.ram (bank * 0x2000 + offset)) ↔
      address.toNat = 0xA000 + offset ∧ cartridge.banks.ramBank = bank := by
  unfold physical?
  simp only
  split
  · next hlow =>
    simp only [Option.some.injEq, reduceCtorEq, false_iff]
    omega
  split
  · split
    · simp only [Option.some.injEq, reduceCtorEq, false_iff]
      omega
    · simp only [reduceCtorEq, false_iff]
      omega
  split
  · next hram =>
    simp only [Option.some.injEq, Cell.ram.injEq]
    omega
  · simp only [reduceCtorEq, false_iff]
    omega

/-- With bank 0 mapped the switched window shows the same bytes as the window below it. -/
theorem physical?_alias {low high : UInt16} (hbank : cartridge.banks.romBank = 0)
    (hsize : 0x4000 ≤ cartridge.rom.size) (hlow : low.toNat < 0x4000)
    (hhigh : high.toNat = low.toNat + 0x4000) :
    cartridge.physical? high = cartridge.physical? low := by
  have hswitched : ¬ high.toNat < 0x4000 := by omega
  have hwindow : high.toNat < 0x8000 := by omega
  have hoffset : cartridge.banks.romBank * 0x4000 + (high.toNat - 0x4000) = low.toNat := by
    rw [hbank, hhigh]
    omega
  have hin : low.toNat < cartridge.rom.size := by omega
  simp only [physical?, if_neg hswitched, if_pos hwindow, hoffset, if_pos hin, if_pos hlow]

/-- No patch moves a window. -/
theorem physical?_debugWrite (cartridge : Cartridge) (address : UInt16) (value : UInt8) (other : UInt16) :
    (cartridge.debugWrite address value).physical? other = cartridge.physical? other := by
  have hsame := cartridge.registers_debugWrite address value
  simp only [registers, Prod.mk.injEq] at hsame
  refine physical?_congr hsame.2.1 ?_ other
  unfold debugWrite
  split
  · exact size_rom_setByte _ _ _
  · rfl

namespace WellFormed

/-- The ROM reaches as far as the header declares it, -/
theorem has_rom (h : cartridge.WellFormed) {offset : Nat} (hoffset : offset < cartridge.header.romSize) :
    cartridge.has (.rom offset) = true := by
  rw [has, h.rom_size]
  exact decide_eq_true hoffset

/-- and RAM is all there, whatever the header declares. -/
theorem has_ram (h : cartridge.WellFormed) {offset : Nat} (hoffset : offset < ramCapacity) :
    cartridge.has (.ram offset) = true := by
  rw [has, h.ram_size]
  exact decide_eq_true hoffset

/-- The byte behind an address is the one that the bus would reach, if that is there. -/
theorem physical?_eq (h : cartridge.WellFormed) (address : UInt16) :
    cartridge.physical? address = (cartridge.banks.cell? address).filter cartridge.has := by
  have hbanks := h.two_le_romBanks
  have hrom : 0x8000 ≤ cartridge.rom.size := by
    rw [h.rom_size]
    unfold Header.romSize romBankSize
    omega
  by_cases hlow : address.toNat < 0x4000
  · have hin : address.toNat < cartridge.rom.size := by omega
    simp only [physical?, if_pos hlow, cartridge.banks.cell?_bank0 hlow, Option.filter, has, hin,
      decide_true, if_true]
  by_cases hhigh : address.toNat < 0x8000
  · have hcell := cartridge.banks.cell?_switched (Nat.not_lt.1 hlow) hhigh
    rw [h.romStart_eq] at hcell
    simp only [physical?, if_neg hlow, if_pos hhigh, hcell, Option.filter, has, decide_eq_true_eq]
    rfl
  by_cases hram : 0xA000 ≤ address.toNat ∧ address.toNat < 0xC000
  · have hoffset : address.toNat - 0xA000 < ramBankSize := by
      unfold ramBankSize
      omega
    have hcell := cartridge.banks.cell?_ram hram.1 hram.2
    have hin := h.ramStart_add_lt hoffset
    rw [h.ramStart_eq] at hcell hin
    simp only [physical?, if_neg hlow, if_neg hhigh, if_pos hram, hcell, Option.filter, has, hin,
      decide_true, if_true]
    rfl
  · have hcell := cartridge.banks.cell?_outside (Nat.not_lt.1 hhigh) hram
    simp only [physical?, if_neg hlow, if_neg hhigh, if_neg hram, hcell, Option.filter]

theorem has_of_physical? (h : cartridge.WellFormed) (hcell : cartridge.physical? address = some cell) :
    cartridge.has cell = true := by
  rw [h.physical?_eq, Option.filter_eq_some_iff] at hcell
  exact hcell.2

/-- **The flat translation is the banked one.** Without a controller bank 1 stays mapped, and bank 1 is
where a flat ROM goes on. -/
theorem debugCell?_eq (h : cartridge.WellFormed) (address : UInt16) :
    cartridge.debugCell? address = cartridge.banks.cell? address := by
  unfold debugCell?
  split
  · next hflat =>
    by_cases hlow : address.toNat < 0x4000
    · rw [cartridge.banks.cell?_bank0 hlow]
    · have hstart : cartridge.banks.romStart = 0x4000 := by
        rw [h.romStart_eq, (h.unmapped hflat.1).1]
        rfl
      have hoffset : 0x4000 + (address.toNat - 0x4000) = address.toNat := by omega
      rw [cartridge.banks.cell?_switched (Nat.not_lt.1 hlow) hflat.2, hstart, hoffset]
  · rfl

/-! ## Reads and patches -/

/-- A read shows the byte behind the address, and the open bus where there is none. -/
theorem read_eq (h : cartridge.WellFormed) (address : UInt16) :
    cartridge.read address =
      match cartridge.physical? address with
      | some cell => cartridge.byteAt cell
      | none => openBus := by
  rw [h.physical?_eq]
  unfold read
  cases hcell : cartridge.banks.cell? address with
  | none => rfl
  | some cell =>
      cases hhas : cartridge.has cell with
      | true => simp only [Option.filter, hhas, if_true]
      | false => simp only [Option.filter, hhas, Bool.false_eq_true, if_false, byteAt_of_not_has hhas]

/-- A patch goes to the byte behind the address, and nowhere if there is none. -/
theorem debugWrite_eq (h : cartridge.WellFormed) (address : UInt16) (value : UInt8) :
    cartridge.debugWrite address value =
      match cartridge.physical? address with
      | some cell => cartridge.setByte value cell
      | none => cartridge := by
  rw [h.physical?_eq]
  unfold Cartridge.debugWrite
  rw [h.debugCell?_eq]
  cases hcell : cartridge.banks.cell? address with
  | none => rfl
  | some cell =>
      cases hhas : cartridge.has cell with
      | true => simp only [Option.filter, hhas, if_true]
      | false =>
          simp only [Option.filter, hhas, Bool.false_eq_true, if_false, setByte_of_not_has hhas]

/-- After a patch a cell holds the value if it is the byte behind the address, and what it held if not. -/
theorem byteAt_debugWrite (h : cartridge.WellFormed) (address : UInt16) (value : UInt8) (cell : Cell) :
    (cartridge.debugWrite address value).byteAt cell =
      if cartridge.physical? address = some cell then value else cartridge.byteAt cell := by
  rw [h.debugWrite_eq]
  cases hpatched : cartridge.physical? address with
  | none => rfl
  | some patched =>
      show (cartridge.setByte value patched).byteAt cell = _
      by_cases hsame : patched = cell
      · rw [if_pos (congrArg some hsame), hsame]
        exact byteAt_setByte_self (hsame ▸ h.has_of_physical? hpatched) value
      · rw [if_neg (fun heq => hsame (Option.some.inj heq))]
        exact byteAt_setByte_of_ne cartridge value (Ne.symm hsame)

/-- **A patch shows at every address that the patched byte backs, and at no other.** -/
theorem read_debugWrite (h : cartridge.WellFormed) (address : UInt16) (value : UInt8)
    (seen : UInt16) :
    (cartridge.debugWrite address value).read seen =
      if cartridge.physical? seen = cartridge.physical? address ∧
          cartridge.physical? address ≠ none then value
      else cartridge.read seen := by
  rw [(h.debugWrite address value).read_eq, h.read_eq, physical?_debugWrite]
  cases hseen : cartridge.physical? seen with
  | none =>
      rw [if_neg]
      rintro ⟨hsame, hsome⟩
      exact hsome hsame.symm
  | some cell =>
      simp only [h.byteAt_debugWrite]
      by_cases hsame : cartridge.physical? address = some cell
      · rw [if_pos hsame, if_pos ⟨hsame.symm, by rw [hsame]; nofun⟩]
      · rw [if_neg hsame, if_neg (fun hboth => hsame hboth.1.symm)]

/-! ## Writes -/

/-- A write that is let through does to memory what a patch does. -/
theorem apply_store_eq (h : cartridge.WellFormed) (address : UInt16) (value : UInt8) :
    cartridge.apply address value .store = cartridge.debugWrite address value := by
  unfold Cartridge.debugWrite
  rw [h.debugCell?_eq]
  rfl

/-- After a write of the CPU a cell holds the value if it is the RAM byte behind the address and the
controller lets the write through, and what it held if not. -/
theorem byteAt_write (h : cartridge.WellFormed) (address : UInt16) (value : UInt8) (cell : Cell) :
    (cartridge.write address value).value.byteAt cell =
      if ((0xA000 ≤ address.toNat ∧ address.toNat < 0xC000) ∧
          cartridge.controller.letsThrough cartridge.banks = true) ∧
          cartridge.physical? address = some cell then value
      else cartridge.byteAt cell := by
  have hiff := cartridge.controller.decode_eq_store_iff cartridge.banks address value
  show (cartridge.apply address value _).byteAt cell = _
  by_cases hstore : cartridge.controller.decode cartridge.banks address value = .store
  · have hlands := hiff.1 hstore
    rw [hstore, h.apply_store_eq, h.byteAt_debugWrite]
    simp only [hlands, and_self, true_and]
  · rw [if_neg (fun hboth => hstore (hiff.2 hboth.1))]
    exact byteAt_congr (memory_apply cartridge address value hstore) cell

end WellFormed

/-- No write of the CPU reaches the ROM. -/
theorem rom_write (cartridge : Cartridge) (address : UInt16) (value : UInt8) :
    (cartridge.write address value).value.rom = cartridge.rom := by
  show (cartridge.apply address value _).rom = cartridge.rom
  by_cases hstore : cartridge.controller.decode cartridge.banks address value = .store
  · have hram := ((cartridge.controller.decode_eq_store_iff cartridge.banks address value).1 hstore).1
    simp only [hstore, apply, cartridge.banks.cell?_ram hram.1 hram.2, setByte]
  · exact congrArg Prod.fst (memory_apply cartridge address value hstore)

end GamePak.Cartridge
