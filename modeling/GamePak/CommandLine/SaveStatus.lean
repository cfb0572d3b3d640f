import GamePak.SaveFile
import GamePak.Cartridge.Basic

/-!
# `GamePak.CommandLine.SaveStatus` — whether a save file would load

## Contents
- `SaveStatus`: what there is to say about a cartridge's battery RAM, with its lines.
- `SaveStatus.ofCartridge`: found out without touching the cartridge's own RAM.
-/

namespace GamePak

/-- What there is to say about a cartridge's battery RAM. -/
inductive SaveStatus where
  /-- No RAM is kept. -/
  | noBattery (type : CartridgeType)
  /-- The save file loads, and so many of its bytes are not zero. -/
  | loads (len : Nat) (save : Path) (nonzero : Nat)
  /-- The save file does not load. -/
  | doesNotLoad (len : Nat) (save : Path) (cause : PersistError)
deriving DecidableEq, Repr

namespace SaveStatus

/-- Where a battery's RAM is kept. -/
def placeLine (len : Nat) (save : Path) : String :=
  s!"Battery RAM: {len} bytes in '{save}'"

/-- The lines that tell a status. -/
def lines : SaveStatus → List String
  | .noBattery type => [s!"{type.name} has no battery-backed RAM."]
  | .loads len save nonzero =>
    [placeLine len save, s!"Save file loads: {nonzero} non-zero bytes"]
  | .doesNotLoad len save cause => [placeLine len save, s!"Save file does not load: {cause}"]

/-- The status of a cartridge whose RAM is kept in the file `save`: the file is read into a RAM of
its own. -/
def ofCartridge (disk : Disk) (cartridge : Cartridge) (save : Path) : Logged SaveStatus :=
  match cartridge.header.batteryLength with
  | none => pure (.noBattery cartridge.header.type)
  | some len => do
    let (result, ram) ← SaveFile.load disk save (Array.replicate len 0) len
    match result with
    | .ok () => pure (.loads len save ram.nonzero)
    | .error cause => pure (.doesNotLoad len save cause)

end SaveStatus

end GamePak
