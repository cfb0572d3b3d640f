/-!
# `GamePak.Bytes` — byte strings

ROM images, cartridge RAM and the content of files are byte strings. This module holds the few
operations on them that the rest of the library is written in.

## Contents
- `Bytes.patch` stores a run of bytes at an offset, dropping what falls outside.
- `Bytes.overlay` replaces a leading part.
- `Bytes.nonzero` counts the bytes that are not zero.
- `Byte.isPrintable`, `Byte.toChar`: a byte as an ASCII character.
- `Word.ofBytes`, `Word.toBytes`: a word as two bytes, the high one first (`Word.ofBytes_toBytes`).
-/

namespace GamePak

/-- A ROM image, a RAM, or the content of a file. -/
abbrev Bytes := Array UInt8

namespace Bytes

/-- `data` with `bytes` stored from `offset` on; a byte that falls outside `data` is dropped. -/
def patch (data : Bytes) (offset : Nat) : List UInt8 → Bytes
  | [] => data
  | b :: rest => patch (data.setIfInBounds offset b) (offset + 1) rest

/-- `base` with its first `len` bytes taken from `data`. -/
def overlay (base data : Bytes) (len : Nat) : Bytes :=
  data.extract 0 len ++ base.extract len base.size

/-- How many bytes are not zero. -/
def nonzero (data : Bytes) : Nat :=
  data.countP (· != 0)

@[simp] theorem patch_nil (data : Bytes) (offset : Nat) : data.patch offset [] = data := rfl

@[simp] theorem size_patch (data : Bytes) (offset : Nat) (bytes : List UInt8) :
    (data.patch offset bytes).size = data.size := by
  induction bytes generalizing data offset with
  | nil => rfl
  | cons b rest ih => rw [patch, ih, Array.size_setIfInBounds]

end Bytes

/-! ## Bytes as characters -/

namespace Byte

/-- Whether a byte is a printable ASCII character or a space. -/
def isPrintable (b : UInt8) : Bool :=
  0x20 ≤ b && b < 0x7F

/-- The character with the byte as its code. -/
def toChar (b : UInt8) : Char :=
  Char.ofNat b.toNat

end Byte

/-! ## Words -/

namespace Word

/-- The word with the high byte `hi` and the low byte `lo`. -/
def ofBytes (hi lo : UInt8) : UInt16 :=
  UInt16.ofNat (hi.toNat * 256 + lo.toNat)

/-- The two bytes of a word, the high one first. -/
def toBytes (w : UInt16) : List UInt8 :=
  [UInt8.ofNat (w.toNat / 256), UInt8.ofNat (w.toNat % 256)]

/-- Taking a word apart and putting it together again gives the word. -/
theorem ofBytes_toBytes (w : UInt16) :
    ofBytes (UInt8.ofNat (w.toNat / 256)) (UInt8.ofNat (w.toNat % 256)) = w := by
  have hw := w.toNat_lt
  apply UInt16.toNat_inj.1
  simp only [ofBytes, UInt16.toNat_ofNat', UInt8.toNat_ofNat']
  omega

end Word

end GamePak
