/-!
# `GamePak.CommandLine.Item` — the form of one argument

What an argument looks like decides what it may be. Two hyphens alone end the options; two hyphens
and more begin an option by name, whose value may follow an equals sign; one hyphen and more begin
option letters. All else is a value, a hyphen alone included.

## Contents
- `Item`, `Item.ofText`.
-/

namespace GamePak

/-- An argument by its form. -/
inductive Item where
  /-- Two hyphens: what follows are values. -/
  | terminator
  /-- An option by name, with the value after an equals sign if there is one. -/
  | option (name : List Char) (value : Option (List Char))
  /-- Option letters. -/
  | letters (letters : List Char)
  | value (text : List Char)
deriving DecidableEq, Repr

namespace Item

/-- A text cut at its first equals sign. -/
def cutAtEquals (text : List Char) : List Char × Option (List Char) :=
  match text.dropWhile (· != '=') with
  | [] => (text, none)
  | _ :: attached => (text.takeWhile (· != '='), some attached)

/-- The form of an argument. -/
def ofText : List Char → Item
  | ['-', '-'] => .terminator
  | '-' :: '-' :: rest => .option (cutAtEquals rest).1 (cutAtEquals rest).2
  | '-' :: c :: rest => .letters (c :: rest)
  | text => .value text

end Item

end GamePak
