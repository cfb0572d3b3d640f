/-!
# `GamePak.Text.Hex` — hexadecimal text

Numbers are shown in upper-case hexadecimal, padded with zeros to a least width and never cut.

## Contents
- `Hex.digit`, `Hex.digits`: the digits of a number, the highest first, at least one.
- `Hex.padded`, `hex`: the same, padded to a width.
-/

namespace GamePak

namespace Hex

/-- The digit for a value below 16. -/
def digit (n : Nat) : Char :=
  if n < 10 then Char.ofNat ('0'.toNat + n) else Char.ofNat ('A'.toNat + (n - 10))

/-- The digits of `n`, the highest first; zero has one digit. -/
def digits (n : Nat) : List Char :=
  if n < 16 then [digit n] else digits (n / 16) ++ [digit (n % 16)]
termination_by n

/-- The digits of `n`, with zeros before them up to `width` characters. -/
def padded (width n : Nat) : List Char :=
  (digits n).leftpad width '0'

end Hex

/-- `n` in hexadecimal with at least `width` digits. -/
def hex (width n : Nat) : String :=
  String.ofList (Hex.padded width n)

end GamePak
