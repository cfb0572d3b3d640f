import GamePak.Text.Numeral

/-!
# `GamePak.CommandLine.Value` — numbers on the command line

## Contents
- `ValueFault`: why a number is refused, with its wording.
- `Value.readHexWord`: a 16-bit number in hexadecimal, with any number of the customary leads.
- `Value.readLength`: a decimal from 0 to 65535.
-/

namespace GamePak

/-- Why the text of a value is refused. -/
inductive ValueFault where
  | hex (text : List Char) (fault : Numeral.Fault)
  | decimal (fault : Numeral.Fault)
  | outOfRange (value : Int)
deriving DecidableEq, Repr

/-- The wording of a fault in a value. -/
def ValueFault.message : ValueFault → String
  | .hex text fault => s!"invalid hex value '{String.ofList text}': {fault.message}"
  | .decimal fault => fault.message
  | .outOfRange value => s!"{value} is not in 0..=65535"

namespace Value

/-- The greatest 16-bit number. -/
def wordLimit : Nat := 0xFFFF

/-- The greatest 64-bit integer. -/
def decimalLimit : Nat := 0x7FFFFFFFFFFFFFFF

/-- The text without the pairs of the two given characters that it begins with. -/
def dropPairs (first second : Char) : List Char → List Char
  | c :: d :: rest =>
    if c = first ∧ d = second then dropPairs first second rest else c :: d :: rest
  | text => text

/-- The text without its leads: any number of `0x`, then of `0X`, then of `$`. -/
def dropLeads (text : List Char) : List Char :=
  (dropPairs '0' 'X' (dropPairs '0' 'x' text)).dropWhile (· == '$')

/-- Reads a 16-bit number in hexadecimal. -/
def readHexWord (text : List Char) : Except ValueFault UInt16 :=
  match Numeral.unsigned 16 wordLimit (dropLeads text) with
  | .ok n => .ok (UInt16.ofNat n)
  | .error fault => .error (.hex text fault)

/-- Reads a length in decimal. A 64-bit integer is read first; then its range is checked. -/
def readLength (text : List Char) : Except ValueFault UInt16 :=
  match Numeral.signed 10 decimalLimit text with
  | .ok n => if 0 ≤ n ∧ n ≤ wordLimit then .ok (UInt16.ofNat n.toNat) else .error (.outOfRange n)
  | .error fault => .error (.decimal fault)

end Value

end GamePak
