import GamePak.CommandLine.Arguments
import GamePak.CommandLine.Report

/-!
# `GamePak.Main` — the program

Reads the arguments, puts the files that the command may look at on a disk, carries the command out
and prints its report. The exit code is 0 for success, 1 for a failed command and 2 for arguments
that make no command.
-/

open GamePak

namespace GamePak.Main

/-- A disk whose home is the working directory, with nothing else on it. -/
def workingDisk : IO Disk := do
  let directory ← IO.currentDir
  return Disk.empty ((Path.ofString directory.toString).pieces.filter (· != []))

/-- The path without its last piece. -/
def above (path : Path) : Path :=
  ⟨['/'].intercalate path.pieces.dropLast⟩

/-- The system's code for reading a directory as a file. -/
def isDirectoryCode : UInt32 := 21

/-- Puts on the disk what stands at a path. If the path goes through a file, that file is put
there; `pieces` bounds how far up it may be. -/
def mount (disk : Disk) (path : Path) (pieces : Nat) : IO Disk := do
  match ← (IO.FS.readBinFile path.toString).toBaseIO with
  | .ok data => return disk.provide path data.data
  | .error (.noFileOrDirectory ..) => return disk
  | .error (.inappropriateType _ code _) =>
    if code = isDirectoryCode then return disk.provideDirectory path
    else
      match pieces with
      | 0 => return disk
      | pieces + 1 => mount disk (above path) pieces
  | .error other => throw other

/-- The files that a command may look at. -/
def filesOf (command : Command) : List Path :=
  [command.rom, command.rom.saveFile]

/-- Carries out a command on the files as they are. -/
def carryOut (command : Command) : IO UInt32 := do
  let mut disk ← workingDisk
  for path in filesOf command do
    disk ← mount disk path path.pieces.length
  let report := command.run disk
  for event in report.events do
    if event.level = .error then IO.eprintln event.text
  match report.value.result with
  | .ok lines =>
    for line in lines do IO.println line
    return 0
  | .error failure =>
    IO.eprintln s!"Error: {failure.message}"
    return 1

end GamePak.Main

/-- The program. -/
def main (args : List String) : IO UInt32 := do
  match Command.parse (args.map String.toList) with
  | .ok command => GamePak.Main.carryOut command
  | .error .helpRequested =>
    IO.println usageLine
    return 0
  | .error .versionRequested =>
    IO.println programName
    return 0
  | .error usage =>
    IO.eprint usage.message
    return 2
