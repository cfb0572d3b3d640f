/-!
# `GamePak.Text.Numeral` — reading numerals

A numeral is an optional sign and one or more digits, read from left to right within a limit. The
first fault met is the one reported, so a digit that passes the limit hides a stray character after
it, and the other way round.

## Contents
- `Numeral.Fault`: why a text is no numeral in range, with its wording.
- `Numeral.unsigned`: digits of a base, after at most one `+`.
- `Numeral.signed`: the same with `+` or `-`, for the integers of a word size.
-/

namespace GamePak.Numeral

/-- Why a text is not a numeral within the limit. -/
inductive Fault where
  | empty
  | invalidDigit
  | tooLarge
  | tooSmall
deriving DecidableEq, Repr

/-- The wording of a fault. -/
def Fault.message : Fault → String
  | .empty => "cannot parse integer from empty string"
  | .invalidDigit => "invalid digit found in string"
  | .tooLarge => "number too large to fit in target type"
  | .tooSmall => "number too small to fit in target type"

/-- The value of a decimal digit or of a letter of either case, counted on from ten. -/
def digitValue (c : Char) : Option Nat :=
  if '0' ≤ c ∧ c ≤ '9' then some (c.toNat - '0'.toNat)
  else if 'a' ≤ c ∧ c ≤ 'z' then some (c.toNat - 'a'.toNat + 10)
  else if 'A' ≤ c ∧ c ≤ 'Z' then some (c.toNat - 'A'.toNat + 10)
  else none

/-- The value of a digit of the base. -/
def digitOf (base : Nat) (c : Char) : Option Nat :=
  (digitValue c).filter (· < base)

/-- Reads digits after a part worth `value`; the fault `beyond` is that of a number over `limit`. -/
def readDigits (base limit : Nat) (beyond : Fault) (value : Nat) : List Char → Except Fault Nat
  | [] => .ok value
  | c :: rest =>
    match digitOf base c with
    | none => .error .invalidDigit
    | some d =>
      if value * base + d ≤ limit then readDigits base limit beyond (value * base + d) rest
      else .error beyond

/-- Reads a number from zero to `limit`. A sign that stands alone is an invalid digit. -/
def unsigned (base limit : Nat) : List Char → Except Fault Nat
  | [] => .error .empty
  | '+' :: c :: rest => readDigits base limit .tooLarge 0 (c :: rest)
  | text => readDigits base limit .tooLarge 0 text

/-- Reads a number from `-(limit + 1)` to `limit`. -/
def signed (base limit : Nat) : List Char → Except Fault Int
  | '-' :: c :: rest =>
    (readDigits base (limit + 1) .tooSmall 0 (c :: rest)).map fun n => -(n : Int)
  | text => (unsigned base limit text).map Int.ofNat

end GamePak.Numeral
