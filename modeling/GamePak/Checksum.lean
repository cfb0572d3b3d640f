import GamePak.Bytes
import GamePak.Geometry

/-!
# `GamePak.Checksum` — the global checksum

The header stores the sum of all other bytes of the image as a word, the high byte first. The
hardware never looks at it.

## Contents
- `Checksum.compute`: the sum of every byte outside the checksum field, modulo 65536.
- `Checksum.stored?`: the word in the field.
- `Checksum.verify`: whether the two agree.
- `Checksum.stamp`: an image with its own sum in the field.
-/

namespace GamePak.Checksum

/-- The sum of the bytes from `start` up to `stop`, added to `total`. -/
def sum (data : Bytes) (start stop : Nat) (total : UInt16) : UInt16 :=
  data.foldl (fun total b => total + b.toUInt16) total start stop

/-- The sum of every byte outside the checksum field. -/
def compute (rom : Bytes) : UInt16 :=
  sum rom (checksumOffset + 2) rom.size (sum rom 0 checksumOffset 0)

/-- The stored checksum; `none` where the image ends before it. -/
def stored? (rom : Bytes) : Option UInt16 :=
  match rom[checksumOffset]?, rom[checksumOffset + 1]? with
  | some hi, some lo => some (Word.ofBytes hi lo)
  | _, _ => none

/-- Whether the stored checksum is the sum of the other bytes. -/
def verify (rom : Bytes) : Bool :=
  stored? rom == some (compute rom)

/-- The image with a word in its checksum field. -/
def store (rom : Bytes) (checksum : UInt16) : Bytes :=
  rom.patch checksumOffset (Word.toBytes checksum)

/-- The image with its own sum in its checksum field. -/
def stamp (rom : Bytes) : Bytes :=
  store rom (compute rom)

end GamePak.Checksum
