import GamePak.Proofs.Cartridge.Physical
import GamePak.Proofs.Session.History

/-!
# `Proofs.Session.Memory` — every byte holds what was last stored in it

Three things store bytes: a write of the CPU that the controller lets through, a patch of the debugger,
and a save file that is read into RAM. What they reach depends on the banks mapped and the latches set at
the time, and so on all that was done before. A cell that none of them reached since holds what the last
one of them stored.

## Contents
- `Session.restored?`, `Session.stored?`: what an operation puts into a cell.
- `Session.byteAt_step`, `Session.byteAt_run`: any one cell after a step and after a run.
-/

namespace GamePak.Session

open History

/-! ## What an operation stores -/

/-- The byte that reading the save file puts at an offset of RAM: the one at the same offset of the file,
if the file is read and the battery keeps RAM so far. -/
def restored? (session : Session) (offset : Nat) : Option UInt8 :=
  match session.cartridge.header.batteryLength, session.cartridge.savePath,
      (session.cartridge.loadBattery session.disk).value.1 with
  | some len, some save, .ok () =>
    if offset < len then (session.disk.read save).toOption.bind (fun data => data[offset]?) else none
  | _, _, _ => none

/-- The byte that an operation puts into a cell, if it reaches the cell. -/
def stored? (session : Session) (cell : Cell) : Operation → Option UInt8
  | .write address value =>
    if ((0xA000 ≤ address.toNat ∧ address.toNat < 0xC000) ∧
        session.cartridge.controller.letsThrough session.cartridge.banks = true) ∧
        session.cartridge.physical? address = some cell then some value
    else none
  | .debugWrite address value =>
    if session.cartridge.physical? address = some cell then some value else none
  | .loadBattery =>
    match cell with
    | .rom _ => none
    | .ram offset => session.restored? offset
  | .reset | .saveMapping | .mapRom _ | .restoreMapping | .saveBattery => none

/-- Reading the save file fills RAM as far as the battery keeps it. -/
theorem ram_loadBattery (session : Session) (offset : Nat) :
    (session.cartridge.loadBattery session.disk).value.2.ram[offset]? =
      (session.restored? offset).or session.cartridge.ram[offset]? := by
  rcases Cartridge.loadBattery_outcome session.disk session.cartridge with
    ⟨cause, hfailed⟩ | ⟨hlength, hnothing⟩ | ⟨save, data, hlength, hsave, hread, hlong, hloaded⟩
  · simp [restored?, hfailed]
  · simp [restored?, hnothing, hlength]
  · simp only [restored?, hlength, hsave, hloaded, hread, Except.toOption, Option.bind_some]
    rw [Bytes.getElem?_overlay hlong]
    by_cases hoffset : offset < session.cartridge.header.savedLength
    · have hin : offset < data.size := by omega
      rw [if_pos hoffset, if_pos hoffset, Array.getElem?_eq_getElem hin, Option.some_or]
    · rw [if_neg hoffset, if_neg hoffset, Option.none_or]

theorem byteAt_loadBattery (session : Session) (cell : Cell) :
    (session.cartridge.loadBattery session.disk).value.2.byteAt cell =
      (session.stored? cell .loadBattery).getD (session.cartridge.byteAt cell) := by
  cases cell with
  | rom offset =>
      -- the ROM is no part of the transfer
      rcases Cartridge.loadBattery_cases session.disk session.cartridge with hsame | ⟨data, -, hloaded⟩
      · rw [hsame]
        rfl
      · rw [hloaded]
        rfl
  | ram offset =>
      show (Array.getD _ offset _) = (session.restored? offset).getD (Array.getD _ offset _)
      rw [Array.getD_eq_getD_getElem?, ram_loadBattery, Array.getD_eq_getD_getElem?]
      cases session.restored? offset <;> rfl

/-- **One step.** An operation changes the cells it reaches and no other. -/
theorem byteAt_step (session : Session) (operation : Operation) (h : session.cartridge.WellFormed)
    (cell : Cell) :
    (session.step operation).value.2.cartridge.byteAt cell =
      (session.stored? cell operation).getD (session.cartridge.byteAt cell) := by
  cases operation with
  | write address value =>
      show (session.cartridge.write address value).value.byteAt cell = _
      rw [h.byteAt_write]
      simp only [stored?]
      split <;> rfl
  | debugWrite address value =>
      show (session.cartridge.debugWrite address value).byteAt cell = _
      rw [h.byteAt_debugWrite]
      simp only [stored?]
      split <;> rfl
  | loadBattery => exact session.byteAt_loadBattery cell
  | reset => rfl
  | saveMapping => exact Cartridge.byteAt_congr session.cartridge.memory_saveMapping cell
  | mapRom bank => exact Cartridge.byteAt_congr (session.cartridge.memory_mapRom bank) cell
  | restoreMapping => exact Cartridge.byteAt_congr session.cartridge.memory_restoreMapping cell
  | saveBattery => rfl

/-- **Any run.** Each cell holds what was last stored in it, or what it held at the start; and so it does by
any account of the hits that agrees with what is stored. -/
theorem byteAt_run {start : Session} (h : start.cartridge.WellFormed) (cell : Cell)
    {hit : Session → Operation → Option UInt8}
    (hhit : ∀ session operation, session.cartridge.WellFormed →
      session.stored? cell operation = hit session operation)
    (operations : List Operation) :
    (start.run operations).value.cartridge.byteAt cell =
      latest (fun past operation => hit (start.after past) operation)
        (start.cartridge.byteAt cell) operations.reverse := by
  rw [← after_reverse]
  refine latest_after h (fun session => session.cartridge.byteAt cell) hit ?_ operations.reverse
  intro session operation hsession
  rw [← hhit session operation hsession]
  exact byteAt_step session operation hsession cell

end GamePak.Session
