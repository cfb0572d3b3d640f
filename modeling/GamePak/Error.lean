import GamePak.Disk
import GamePak.Text.Hex

/-!
# `GamePak.Error` — why loading or saving fails

## Contents
- `LoadError`: why an image makes no cartridge.
- `PersistError`: why battery RAM was not read or written. It never stops a cartridge from running.
- The wording of both.
-/

namespace GamePak

/-- Why an image makes no cartridge. -/
inductive LoadError where
  /-- The file could not be read. -/
  | unreadable (rom : Path) (cause : DiskError)
  /-- The image ends before bank 0 does. -/
  | tooShort (size : Nat)
  /-- The header's ROM size code is in no table. -/
  | unknownRomSize (code : UInt8)
  /-- The image is shorter than its header declares. -/
  | truncated (expected actual : Nat)
  /-- The stored checksum is not that of the image, where that is asked for. -/
  | badChecksum (stored computed : UInt16)
deriving DecidableEq, Repr

/-- The wording of a load error. -/
def LoadError.message : LoadError → String
  | .unreadable rom cause => s!"failed to read ROM image '{rom}': {cause}"
  | .tooShort size => s!"ROM image is {size} bytes, too short to contain bank 0 and its header"
  | .unknownRomSize code => s!"unrecognised ROM size code ${hex 2 code.toNat} in cartridge header"
  | .truncated expected actual =>
    s!"ROM image is truncated: header declares {expected} bytes, found {actual}"
  | .badChecksum stored computed =>
    s!"invalid global checksum (stored ${hex 4 stored.toNat}, computed ${hex 4 computed.toNat})"

instance : ToString LoadError := ⟨LoadError.message⟩

/-- Why battery RAM was not read or written. -/
inductive PersistError where
  /-- The save file could not be read or written. -/
  | unreachable (save : Path) (cause : DiskError)
  /-- The save file holds fewer bytes than the battery keeps. -/
  | short (save : Path) (expected actual : Nat)
  /-- The cartridge has a battery and no save file to go with it. -/
  | noSavePath
deriving DecidableEq, Repr

/-- The wording of an error about battery RAM. -/
def PersistError.message : PersistError → String
  | .unreachable save cause => s!"battery RAM I/O on '{save}': {cause}"
  | .short save expected actual =>
    s!"battery RAM file '{save}' holds {actual} bytes, expected {expected}"
  | .noSavePath => "cartridge has no battery save path"

instance : ToString PersistError := ⟨PersistError.message⟩

end GamePak
