import GamePak.Cartridge.Debugger
import GamePak.Proofs.Cartridge.Load
import GamePak.Proofs.Controller.Decode

/-!
# `Proofs.Cartridge.WellFormed` — the invariant of a cartridge in use

RAM is indexed without a check, and each bank number stands beside an offset that could go stale. Both
are safe because of one invariant, which a load establishes and everything that happens to a cartridge
afterwards keeps: `Cartridge.WellFormed`.

## Contents
- `CartridgeType.hasController`, and `WellFormed.absent_iff`.
- `Cartridge.WellFormed`, and `Cartridge.Loaded.wellFormed`.
- `WellFormed.write`, `reset`, `saveMapping`, `mapRom`, `restoreMapping`, `debugWrite`, `loadBattery`:
  one lemma for each operation.
-/

namespace GamePak

/-- Whether a type names a controller at all, if perhaps one that this library does not know. -/
def CartridgeType.hasController : CartridgeType → Bool
  | .romOnly => false
  | .romRam _ => false
  | _ => true

namespace Cartridge

/-- What holds of every cartridge in use. -/
structure WellFormed (cartridge : Cartridge) : Prop where
  /-- The ROM has the size that the header declares. -/
  rom_size : cartridge.rom.size = cartridge.header.romSize
  two_le_romBanks : 2 ≤ cartridge.header.romBanks
  ram_size : cartridge.ram.size = ramCapacity
  /-- Both offsets are those of the banks they stand beside. -/
  romStart_eq : cartridge.banks.romStart = cartridge.banks.romBank * romBankSize
  ramStart_eq : cartridge.banks.ramStart = cartridge.banks.ramBank * ramBankSize
  /-- Bank numbers fit the registers that hold them. -/
  romBank_lt : cartridge.banks.romBank < 0x10000
  ramBank_le : cartridge.banks.ramBank ≤ cartridge.controller.lastRamBank
  savedBank_lt : ∀ bank, cartridge.override = .pending bank → bank < 0x10000
  /-- But for its mode latch the controller is the one that the type names. -/
  family : cartridge.controller.unlatched = Controller.ofType cartridge.header.type
  /-- Without a controller nothing is ever remapped. -/
  unmapped : cartridge.controller = .absent →
    cartridge.banks.romBank = 1 ∧ cartridge.override = .idle

@[simp] theorem size_rom_setByte (cartridge : Cartridge) (value : UInt8) (cell : Cell) :
    (cartridge.setByte value cell).rom.size = cartridge.rom.size := by
  cases cell <;> simp [setByte]

@[simp] theorem size_ram_setByte (cartridge : Cartridge) (value : UInt8) (cell : Cell) :
    (cartridge.setByte value cell).ram.size = cartridge.ram.size := by
  cases cell <;> simp [setByte]

namespace WellFormed

variable {cartridge : Cartridge}

/-- The controller is absent if and only if the type names none. -/
theorem absent_iff (h : cartridge.WellFormed) :
    cartridge.controller = .absent ↔ cartridge.header.type.hasController = false := by
  have hunlatched : cartridge.controller = .absent ↔ cartridge.controller.unlatched = .absent := by
    cases cartridge.controller <;> simp [Controller.unlatched]
  rw [hunlatched, h.family]
  cases cartridge.header.type <;> simp [Controller.ofType, CartridgeType.hasController]

/-! ## Changes that keep the invariant -/

/-- Any bank of a word may be shown, but only bank 1 where there is no controller. -/
theorem setRomBank (h : cartridge.WellFormed) {bank : Nat} (hbank : bank < 0x10000)
    (habsent : cartridge.controller = .absent → bank = 1) :
    WellFormed { cartridge with banks := cartridge.banks.mapRom bank } :=
  { h with
    romStart_eq := rfl
    romBank_lt := hbank
    unmapped := fun hc => ⟨habsent hc, (h.unmapped hc).2⟩ }

/-- A byte in ROM or RAM is no part of the invariant. -/
theorem setByte (h : cartridge.WellFormed) (value : UInt8) (cell : Cell) :
    (cartridge.setByte value cell).WellFormed := by
  cases cell with
  | rom offset => exact { h with rom_size := by rw [size_rom_setByte]; exact h.rom_size }
  | ram offset => exact { h with ram_size := by rw [size_ram_setByte]; exact h.ram_size }

/-- An admissible effect keeps the invariant. -/
theorem apply (h : cartridge.WellFormed) {address : UInt16} {value : UInt8} {effect : Effect}
    (hadm : effect.Admissible cartridge.controller address.toNat) :
    (cartridge.apply address value effect).WellFormed := by
  cases effect with
  | nothing => exact h
  | enableRam enabled => exact { h with }
  | mapRom bank =>
      have hbank : bank < 0x10000 := Nat.lt_trans hadm.2 (by decide)
      exact h.setRomBank hbank (fun hc => absurd hc hadm.1)
  | mapRam bank => exact { h with ramStart_eq := rfl, ramBank_le := hadm }
  | setLargeRam largeRam =>
      -- the family stays because the latch is not part of it
      obtain ⟨before, hc⟩ := hadm
      have hfamily := h.family
      have hle := h.ramBank_le
      rw [hc] at hfamily hle
      exact { h with ramBank_le := hle, family := hfamily, unmapped := nofun }
  | store =>
      cases hcell : cartridge.banks.cell? address with
      | none => simpa only [Cartridge.apply, hcell] using h
      | some cell => simpa only [Cartridge.apply, hcell] using h.setByte value cell

/-! ## One lemma for each operation -/

theorem write (h : cartridge.WellFormed) (address : UInt16) (value : UInt8) :
    (cartridge.write address value).value.WellFormed :=
  h.apply (cartridge.controller.decode_admissible cartridge.banks address value)

theorem reset (h : cartridge.WellFormed) : cartridge.reset.WellFormed :=
  h.setRomBank (by decide) (fun _ => rfl)

theorem saveMapping (h : cartridge.WellFormed) : cartridge.saveMapping.WellFormed := by
  unfold Cartridge.saveMapping
  split
  · exact h
  · exact h
  · next _ hpresent =>
    have hsaved : ∀ bank, Override.pending cartridge.banks.romBank = .pending bank →
        bank < 0x10000 := by
      rintro bank ⟨⟩
      exact h.romBank_lt
    exact { h with savedBank_lt := hsaved, unmapped := fun hc => absurd hc hpresent }

theorem restoreMapping (h : cartridge.WellFormed) :
    cartridge.restoreMapping.value.WellFormed := by
  unfold Cartridge.restoreMapping
  split
  · exact h
  · next bank hpending =>
    have hbank := h.savedBank_lt bank hpending
    -- a note was taken, so there is a controller
    have hpresent : cartridge.controller ≠ .absent := by
      intro hc
      rw [(h.unmapped hc).2] at hpending
      cases hpending
    have hmapped := h.setRomBank hbank (fun hc => absurd hc hpresent)
    exact { hmapped with savedBank_lt := nofun, unmapped := fun hc => absurd hc hpresent }

theorem mapRom (h : cartridge.WellFormed) (bank : UInt16) :
    (cartridge.mapRom bank).WellFormed := by
  unfold Cartridge.mapRom
  split
  · exact h
  · next hpresent => exact h.setRomBank bank.toNat_lt (fun hc => absurd hc hpresent)

theorem debugWrite (h : cartridge.WellFormed) (address : UInt16) (value : UInt8) :
    (cartridge.debugWrite address value).WellFormed := by
  unfold Cartridge.debugWrite
  split
  · next cell _ => exact h.setByte value cell
  · exact h

theorem loadBattery (h : cartridge.WellFormed) (disk : Disk) :
    (cartridge.loadBattery disk).value.2.WellFormed := by
  rcases loadBattery_cases disk cartridge with hsame | ⟨data, hlen, hloaded⟩
  · rw [hsame]
    exact h
  · have hfits : cartridge.header.savedLength ≤ cartridge.ram.size := by
      rw [h.ram_size]
      exact cartridge.header.savedLength_le
    rw [hloaded]
    exact { h with ram_size := by rw [← h.ram_size]; exact Bytes.size_overlay hfits hlen }

end WellFormed

/-! ## A load establishes the invariant -/

theorem wellFormed_powerOn {image : Bytes} {header : Header} (save : Option Path)
    (hparse : Header.parse image = .ok header) (hsize : header.romSize ≤ image.size) :
    (powerOn header (image.extract 0 header.romSize) save).WellFormed where
  rom_size := by
    show (image.extract 0 header.romSize).size = header.romSize
    rw [Array.size_extract]
    omega
  two_le_romBanks := Header.two_le_romBanks_of_parse hparse
  ram_size := Array.size_replicate
  romStart_eq := rfl
  ramStart_eq := (Nat.zero_mul ramBankSize).symm
  romBank_lt := by
    show 1 < 0x10000
    omega
  ramBank_le := Nat.zero_le _
  savedBank_lt := nofun
  family := Controller.unlatched_ofType header.type
  unmapped := fun _ => ⟨rfl, rfl⟩

/-- **A loaded cartridge is well-formed**, whether its save file was read or not. -/
theorem Loaded.wellFormed {disk : Disk} {cartridge : Cartridge} (h : Loaded disk cartridge) :
    cartridge.WellFormed := by
  obtain ⟨image, header, save, hparse, hsize, rfl⟩ := h.origin
  exact (wellFormed_powerOn save hparse hsize).loadBattery disk

end Cartridge

end GamePak
