import GamePak.Path

/-!
# `GamePak.CommandLine.Command` — what can be asked for

## Contents
- `Command`: one constructor for each thing the program does with a ROM file.
- `defaultLength`: how much a dump shows unless told otherwise.
-/

namespace GamePak

/-- A request to inspect a ROM file. -/
inductive Command where
  /-- The header and the controller's state. -/
  | info (rom : Path)
  /-- Whether the global checksum is right. -/
  | verify (rom : Path)
  /-- A hex dump of the address space, with some ROM bank mapped. -/
  | peek (rom : Path) (address : UInt16) (bank : Option UInt16) (length : UInt16)
  /-- Where battery RAM is kept and whether it loads. -/
  | sram (rom : Path)
deriving DecidableEq, Repr

namespace Command

/-- The number of bytes that a dump shows if no length is given. -/
def defaultLength : UInt16 := 64

/-- The ROM file that a command is about. -/
def rom : Command → Path
  | .info rom => rom
  | .verify rom => rom
  | .peek rom _ _ _ => rom
  | .sram rom => rom

end Command

end GamePak
