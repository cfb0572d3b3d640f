import GamePak.Path

/-!
# `GamePak.Path.SaveFile` — where a ROM's save file is

The save file of a ROM stands beside it and has the ROM's name with the extension `sav`. A name's
extension begins at its last dot, but a dot that is the first character begins no extension: it
marks a hidden file.

## Contents
- `Path.splitExtension`: a name's stem and extension.
- `Path.saveFile`: the path of the save file.
-/

namespace GamePak

/-- The extension of save files. -/
def saveExtension : String := "sav"

namespace Path

/-- A name cut at its last dot into stem and extension; `none` where no dot follows the first
character. -/
def splitExtension (name : Name) : Option (List Char × List Char) :=
  let backwards := name.reverse
  match backwards.dropWhile (· != '.') with
  | '.' :: c :: stem => some ((c :: stem).reverse, (backwards.takeWhile (· != '.')).reverse)
  | _ => none

/-- The part of a name before its extension; all of it if it has none. -/
def stem (name : Name) : List Char :=
  ((splitExtension name).map (·.1)).getD name

/-- What the extension of save files adds to a stem. -/
def saveSuffix : List Char := '.' :: saveExtension.toList

/-- The save file of a ROM: the same directory, the name's stem, the extension `sav`. Blank pieces
after the name are dropped.

A path without a name to extend stays as it is: a path of blank pieces only, one that ends in `..`,
and one whose last characters are a name such as `..x`, which without its extension is `..`. -/
def saveFile (rom : Path) : Path :=
  match rom.leaf with
  | none => rom
  | some leaf =>
    if leaf.name = parent then rom
    else
      match splitExtension leaf.name with
      | some (['.'], _ :: _) =>
        if leaf.trailing then ⟨leaf.directory ++ here ++ saveSuffix⟩ else ⟨leaf.directory ++ parent⟩
      | some (stem, _) => ⟨leaf.directory ++ stem ++ saveSuffix⟩
      | none => ⟨leaf.directory ++ leaf.name ++ saveSuffix⟩

end Path

end GamePak
