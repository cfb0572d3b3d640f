import GamePak.Cartridge.Basic
import GamePak.SaveFile

/-!
# `GamePak.Cartridge.Battery` — battery RAM across power cycles

## Contents
- `Cartridge.battery`: which file holds battery RAM, and how much of it.
- `Cartridge.loadBattery`, `Cartridge.saveBattery`: from and to that file.
- `Cartridge.detach`: the save on unloading. A failure is reported and goes no further.
-/

namespace GamePak.Cartridge

/-- The save file and the number of bytes in it; nothing without a battery. A battery whose save
file is not known is an error. -/
def battery (cartridge : Cartridge) : Except PersistError (Option (Path × Nat)) :=
  match cartridge.header.batteryLength, cartridge.savePath with
  | none, _ => .ok none
  | some _, none => .error .noSavePath
  | some len, some save => .ok (some (save, len))

/-- Reads battery RAM into the start of RAM. After a failure RAM holds what it held. -/
def loadBattery (disk : Disk) (cartridge : Cartridge) :
    Logged (Except PersistError Unit × Cartridge) :=
  match cartridge.battery with
  | .error cause => pure (.error cause, cartridge)
  | .ok none => pure (.ok (), cartridge)
  | .ok (some (save, len)) => do
    let (result, ram) ← SaveFile.load disk save cartridge.ram len
    pure (result, { cartridge with ram := ram })

/-- Writes battery RAM to the save file. -/
def saveBattery (disk : Disk) (cartridge : Cartridge) :
    Logged (Except PersistError Unit × Disk) :=
  match cartridge.battery with
  | .error cause => pure (.error cause, disk)
  | .ok none => pure (.ok (), disk)
  | .ok (some (save, len)) => SaveFile.store disk save cartridge.ram len

/-- Unloads a cartridge: battery RAM is written if it has a save file. -/
def detach (disk : Disk) (cartridge : Cartridge) : Logged Disk :=
  if cartridge.savePath.isNone then pure disk
  else do
    let (result, disk) ← cartridge.saveBattery disk
    match result with
    | .ok () => pure disk
    | .error cause => do
      .report (.saveNotWritten cause)
      pure disk

end GamePak.Cartridge
