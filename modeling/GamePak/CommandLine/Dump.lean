import GamePak.Cartridge.Basic

/-!
# `GamePak.CommandLine.Dump` — hex dumps of the address space

A dump has rows of sixteen bytes, each starting at a multiple of sixteen. The first row holds the
first address asked for; rows follow while they start before the end. The end of a dump never goes
past FFFF.

## Contents
- `Dump.rowStartsFrom`, `Dump.rowStarts`: where the rows start.
- `Dump.row`, `Dump.rows`: their text.
-/

namespace GamePak.Dump

/-- The number of bytes in a row. -/
def rowSize : Nat := 16

/-- The addresses that rows start at, from `start` on: one after another while they come before `stop`
and the address space has room for another. -/
def rowStartsFrom (stop start : UInt16) : List UInt16 :=
  if start < stop then
    if _h : start.toNat + rowSize < 0x10000 then
      start :: rowStartsFrom stop (UInt16.ofNat (start.toNat + rowSize))
    else [start]
  else []
termination_by 0x10000 - start.toNat
decreasing_by
  rw [UInt16.toNat_ofNat_of_lt' _h]
  unfold rowSize at *
  omega

/-- Where a dump ends: after so many bytes, but never past FFFF. -/
def stop (address length : UInt16) : UInt16 :=
  UInt16.ofNat (min (address.toNat + length.toNat) 0xFFFF)

/-- Where the row that holds an address starts. -/
def rowOf (address : UInt16) : UInt16 :=
  UInt16.ofNat (address.toNat / rowSize * rowSize)

/-- The addresses that the rows of a dump start at. -/
def rowStarts (address length : UInt16) : List UInt16 :=
  rowStartsFrom (stop address length) (rowOf address)

/-- The bytes of a row: what the CPU reads from an address on, up to FFFF and no further. -/
def rowBytes (cartridge : Cartridge) (start : UInt16) : List UInt8 :=
  (List.range (min rowSize (0x10000 - start.toNat))).map fun i =>
    cartridge.read (UInt16.ofNat (start.toNat + i))

/-- The character for a byte: a point stands for those that cannot be printed. -/
def shownChar (b : UInt8) : Char :=
  if Byte.isPrintable b then Byte.toChar b else '.'

/-- A row: its address, its bytes in hexadecimal, its bytes as characters. -/
def rowText (start : UInt16) (bytes : List UInt8) : List Char :=
  Hex.padded 4 start.toNat ++ "   ".toList ++
    bytes.flatMap (fun b => Hex.padded 2 b.toNat ++ [' ']) ++ "  ".toList ++ bytes.map shownChar

/-- The row that starts at an address. -/
def row (cartridge : Cartridge) (start : UInt16) : String :=
  String.ofList (rowText start (rowBytes cartridge start))

/-- The rows of a dump. -/
def rows (cartridge : Cartridge) (address length : UInt16) : List String :=
  (rowStarts address length).map (row cartridge)

end GamePak.Dump
