/-!
# `GamePak.Path` — path texts

A path is the text that names a file, in the slash-separated form. Its *pieces* are what stands
between the slashes; an empty piece and the piece `.` add nothing to where the path leads.

## Contents
- `Path`, with `Path.ofString` and its text back.
- `Path.pieces`: the text cut at its slashes.
- `Path.Leaf`, `Path.leaf`: the last piece that names something, with the text before it.
-/

namespace GamePak

/-- One piece of a path: the text between two slashes. -/
abbrev Name := List Char

/-- A path as it is written. -/
structure Path where
  text : List Char
deriving DecidableEq, Repr

namespace Path

/-- The path written as `s`. -/
def ofString (s : String) : Path := ⟨s.toList⟩

/-- The path's text. -/
def toString (p : Path) : String := String.ofList p.text

instance : ToString Path := ⟨Path.toString⟩

@[simp] theorem toString_ofString (s : String) : (ofString s).toString = s := by
  simp [ofString, toString]

@[simp] theorem ofString_toString (p : Path) : ofString p.toString = p := by
  simp [ofString, toString]

/-- The path's text, cut at its slashes. -/
def pieces (p : Path) : List Name :=
  p.text.splitOn '/'

/-- Whether the path starts at the root. -/
def isAbsolute (p : Path) : Bool :=
  p.text.head? == some '/'

/-! ## The last name of a path -/

/-- The piece for the directory itself. -/
def here : Name := ['.']

/-- The piece for the parent directory. -/
def parent : Name := ['.', '.']

/-- Whether a piece adds nothing to where a path leads. -/
def isBlank (piece : Name) : Bool :=
  piece == [] || piece == here

/-- A path seen as its last piece that is not blank: the text before it, the piece, and whether
blank pieces follow. -/
structure Leaf where
  directory : List Char
  name : Name
  trailing : Bool
deriving DecidableEq, Repr

/-- The last piece of a path that is not blank, if there is one. -/
def leaf (p : Path) : Option Leaf :=
  let backwards := p.pieces.reverse
  match backwards.dropWhile isBlank with
  | [] => none
  | name :: before =>
    some {
      directory := before.reverse.flatMap (· ++ ['/'])
      name := name
      trailing := backwards.head?.any isBlank }

end Path

end GamePak
