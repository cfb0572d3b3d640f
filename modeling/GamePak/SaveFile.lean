import GamePak.Disk
import GamePak.Log

/-!
# `GamePak.SaveFile` — battery RAM on disk

A save file holds the RAM that the battery keeps, bank after bank, and nothing else.

## Contents
- `SaveFile.load`: fills the start of a RAM from a save file, all of it or nothing.
- `SaveFile.store`: replaces a save file by the start of a RAM, or changes nothing.
-/

namespace GamePak.SaveFile

/-- Fills the first `len` bytes of `ram` from the save file. A file with fewer bytes is refused and
the RAM stays as it was; bytes beyond are ignored. -/
def load (disk : Disk) (save : Path) (ram : Bytes) (len : Nat) :
    Logged (Except PersistError Unit × Bytes) :=
  match disk.read save with
  | .error cause => pure (.error (.unreachable save cause), ram)
  | .ok data =>
    if data.size < len then pure (.error (.short save len data.size), ram)
    else do
      .report (.saveRead save)
      pure (.ok (), ram.overlay data len)

/-- Makes the first `len` bytes of `ram` the content of the save file. -/
def store (disk : Disk) (save : Path) (ram : Bytes) (len : Nat) :
    Logged (Except PersistError Unit × Disk) :=
  match disk.write save (ram.extract 0 len) with
  | .error cause => pure (.error (.unreachable save cause), disk)
  | .ok disk => do
    .report (.saveWritten save)
    pure (.ok (), disk)

end GamePak.SaveFile
