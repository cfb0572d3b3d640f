import GamePak.Cartridge.Debugger
import GamePak.Proofs.Cartridge.Battery

/-!
# `Proofs.Cartridge.Frame` — what an operation leaves alone

A write that stores a byte changes no register, a write never touches the debugger's note, and no
operation at all changes the header that a cartridge was loaded with or the save file it was given.

## Contents
- `Cartridge.registers`, `Cartridge.memory`, `Cartridge.identity`: the parts of a cartridge
  (`Cartridge.eq_of_parts`).
- `banks_apply_store`, `controller_apply_store`, `write_of_nothing`, `memory_apply`, `override_apply`: what
  a write leaves alone.
- `registers_debugWrite`, `memory_saveMapping` and its companions: what the debugger leaves alone.
- `identity_write` and its companions, one for each operation.
-/

namespace GamePak.Cartridge

/-! ## The parts of a cartridge -/

/-- The state of the controller, of the windows and of the debugger's note. -/
def registers (cartridge : Cartridge) : Controller × Banks × Override :=
  (cartridge.controller, cartridge.banks, cartridge.override)

/-- The bytes of ROM and RAM. -/
def memory (cartridge : Cartridge) : Bytes × Bytes :=
  (cartridge.rom, cartridge.ram)

/-- What a cartridge is, apart from its state: its header and the file that keeps its RAM. -/
def identity (cartridge : Cartridge) : Header × Option Path :=
  (cartridge.header, cartridge.savePath)

theorem eq_of_parts {one other : Cartridge} (hregisters : one.registers = other.registers)
    (hmemory : one.memory = other.memory) (hidentity : one.identity = other.identity) :
    one = other := by
  cases one
  cases other
  simp only [registers, memory, identity, Prod.mk.injEq] at hregisters hmemory hidentity
  obtain ⟨rfl, rfl, rfl⟩ := hregisters
  obtain ⟨rfl, rfl⟩ := hmemory
  obtain ⟨rfl, rfl⟩ := hidentity
  rfl

/-! ## Writes -/

/-- A store goes to the byte behind the address, if there is one, and nowhere else. -/
theorem apply_store_cases (cartridge : Cartridge) (address : UInt16) (value : UInt8) :
    cartridge.apply address value .store = cartridge ∨
      ∃ cell, cartridge.banks.cell? address = some cell ∧
        cartridge.apply address value .store = cartridge.setByte value cell := by
  cases hcell : cartridge.banks.cell? address with
  | none => exact Or.inl (by simp only [apply, hcell])
  | some cell => exact Or.inr ⟨cell, rfl, by simp only [apply, hcell]⟩

@[simp] theorem banks_apply_store (cartridge : Cartridge) (address : UInt16) (value : UInt8) :
    (cartridge.apply address value .store).banks = cartridge.banks := by
  rcases apply_store_cases cartridge address value with h | ⟨cell, -, h⟩ <;> rw [h]
  exact banks_setByte _ _ _

@[simp] theorem controller_apply_store (cartridge : Cartridge) (address : UInt16) (value : UInt8) :
    (cartridge.apply address value .store).controller = cartridge.controller := by
  rcases apply_store_cases cartridge address value with h | ⟨cell, -, h⟩ <;> rw [h]
  exact controller_setByte _ _ _

/-- A write that the controller answers with nothing leaves no trace, in the log neither. -/
theorem write_of_nothing {cartridge : Cartridge} {address : UInt16} {value : UInt8}
    (h : cartridge.controller.decode cartridge.banks address value = .nothing) :
    cartridge.write address value = pure cartridge := by
  have hsilent : cartridge.controller.reports .nothing = [] := by
    cases cartridge.controller <;> rfl
  simp only [write, h, hsilent]
  rfl

/-- Only a store reaches memory. -/
theorem memory_apply (cartridge : Cartridge) (address : UInt16) (value : UInt8) {effect : Effect}
    (h : effect ≠ .store) : (cartridge.apply address value effect).memory = cartridge.memory := by
  cases effect with
  | store => exact absurd rfl h
  | nothing => rfl
  | enableRam _ => rfl
  | mapRom _ => rfl
  | mapRam _ => rfl
  | setLargeRam _ => rfl

@[simp] theorem override_apply (cartridge : Cartridge) (address : UInt16) (value : UInt8)
    (effect : Effect) : (cartridge.apply address value effect).override = cartridge.override := by
  cases effect with
  | store =>
      rcases apply_store_cases cartridge address value with h | ⟨cell, -, h⟩ <;> rw [h]
      exact override_setByte _ _ _
  | nothing => rfl
  | enableRam _ => rfl
  | mapRom _ => rfl
  | mapRam _ => rfl
  | setLargeRam _ => rfl

/-! ## The debugger -/

@[simp] theorem registers_setByte (cartridge : Cartridge) (value : UInt8) (cell : Cell) :
    (cartridge.setByte value cell).registers = cartridge.registers := by
  simp [registers]

/-- A patch touches memory alone. -/
@[simp] theorem registers_debugWrite (cartridge : Cartridge) (address : UInt16) (value : UInt8) :
    (cartridge.debugWrite address value).registers = cartridge.registers := by
  unfold debugWrite
  split
  · exact registers_setByte _ _ _
  · rfl

@[simp] theorem memory_saveMapping (cartridge : Cartridge) :
    cartridge.saveMapping.memory = cartridge.memory := by
  unfold saveMapping
  split <;> rfl

@[simp] theorem memory_mapRom (cartridge : Cartridge) (bank : UInt16) :
    (cartridge.mapRom bank).memory = cartridge.memory := by
  unfold mapRom
  split <;> rfl

@[simp] theorem memory_restoreMapping (cartridge : Cartridge) :
    cartridge.restoreMapping.value.memory = cartridge.memory := by
  unfold restoreMapping
  split <;> rfl

/-! ## What no operation changes -/

@[simp] theorem identity_setByte (cartridge : Cartridge) (value : UInt8) (cell : Cell) :
    (cartridge.setByte value cell).identity = cartridge.identity := by
  simp [identity]

@[simp] theorem identity_write (cartridge : Cartridge) (address : UInt16) (value : UInt8) :
    (cartridge.write address value).value.identity = cartridge.identity := by
  show (cartridge.apply address value _).identity = cartridge.identity
  cases cartridge.controller.decode cartridge.banks address value with
  | store =>
      rcases apply_store_cases cartridge address value with h | ⟨cell, -, h⟩ <;> rw [h]
      exact identity_setByte _ _ _
  | nothing => rfl
  | enableRam _ => rfl
  | mapRom _ => rfl
  | mapRam _ => rfl
  | setLargeRam _ => rfl

@[simp] theorem identity_reset (cartridge : Cartridge) :
    cartridge.reset.identity = cartridge.identity := rfl

@[simp] theorem identity_saveMapping (cartridge : Cartridge) :
    cartridge.saveMapping.identity = cartridge.identity := by
  unfold saveMapping
  split <;> rfl

@[simp] theorem identity_mapRom (cartridge : Cartridge) (bank : UInt16) :
    (cartridge.mapRom bank).identity = cartridge.identity := by
  unfold mapRom
  split <;> rfl

@[simp] theorem identity_restoreMapping (cartridge : Cartridge) :
    cartridge.restoreMapping.value.identity = cartridge.identity := by
  unfold restoreMapping
  split <;> rfl

@[simp] theorem identity_debugWrite (cartridge : Cartridge) (address : UInt16) (value : UInt8) :
    (cartridge.debugWrite address value).identity = cartridge.identity := by
  unfold debugWrite
  split
  · exact identity_setByte _ _ _
  · rfl

@[simp] theorem identity_loadBattery (disk : Disk) (cartridge : Cartridge) :
    (cartridge.loadBattery disk).value.2.identity = cartridge.identity := by
  rcases loadBattery_cases disk cartridge with hsame | ⟨data, -, hloaded⟩
  · rw [hsame]
  · rw [hloaded]
    rfl

end GamePak.Cartridge
