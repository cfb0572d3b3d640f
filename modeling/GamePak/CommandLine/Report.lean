import GamePak.CommandLine.Command
import GamePak.CommandLine.Dump
import GamePak.CommandLine.SaveStatus
import GamePak.Session

/-!
# `GamePak.CommandLine.Report` — carrying out a command

A command loads its ROM file without battery RAM, so that no save file is read into the cartridge or
written back, and looks at the cartridge.

## Contents
- `Failure`: why a command fails, with its wording.
- `Report`: the lines that a command prints, or its failure, and the disk after it.
- `Command.run`.
-/

namespace GamePak

/-- Why a command fails. -/
inductive Failure where
  | loading (rom : Path) (cause : LoadError)
  | badChecksum (stored : UInt16)
deriving DecidableEq, Repr

/-- The wording of a failure: what was tried, then its causes down to the first. -/
def Failure.message : Failure → String
  | .loading rom (.unreadable path cause) =>
    s!"Loading the ROM image '{rom}' failed: {LoadError.unreadable path cause}: {cause}"
  | .loading rom cause => s!"Loading the ROM image '{rom}' failed: {cause}"
  | .badChecksum stored =>
    s!"This cartridge has an invalid checksum (stored ${hex 4 stored.toNat})."

/-- What comes of a command. -/
structure Report where
  result : Except Failure (List String)
  disk : Disk

namespace Report

/-- Loads a ROM file for inspection: its save file is left alone. -/
def inspecting : LoadOptions := { battery := false }

/-- A report of lines on a session. -/
def ofLines (session : Session) (lines : List String) : Report :=
  ⟨.ok lines, session.disk⟩

/-- The report on a ROM file, made by `look` from a session with its cartridge. -/
def onCartridge (disk : Disk) (rom : Path) (look : Session → Logged Report) : Logged Report := do
  match ← Cartridge.ofFile disk rom inspecting with
  | .error cause => pure ⟨.error (.loading rom cause), disk⟩
  | .ok cartridge => look ⟨disk, cartridge⟩

/-! ## Header and checksum -/

/-- The lines on a cartridge's header and mapping. -/
def infoLines (cartridge : Cartridge) : List String :=
  let header := cartridge.header
  let size := cartridge.romBanks * 16
  [cartridge.info,
    s!"Type: {header.type.name} (${hex 2 header.type.code.toNat})",
    s!"ROM: {cartridge.romBanks} banks, {size}Kb (size code ${hex 2 header.romSizeCode.toNat})",
    s!"RAM size code: ${hex 2 header.ramSizeCode.toNat}",
    s!"Features: {header.type.features.text}",
    cartridge.mapInfo]

/-- Header and mapping. -/
def info (session : Session) : Logged Report :=
  pure (ofLines session (infoLines session.cartridge))

/-- Whether the checksum is right; a wrong one is a failure. -/
def verify (session : Session) : Logged Report :=
  if session.cartridge.verifyChecksum then pure (ofLines session ["Checksum Ok."])
  else pure ⟨.error (.badChecksum session.cartridge.header.checksum), session.disk⟩

/-! ## Dumps -/

/-- Maps a bank for a dump, if one is given, as the debugger does. -/
def mapBank (session : Session) : Option UInt16 → Logged Session
  | none => pure session
  | some bank => do
    .report (.mappingForced bank.toNat)
    session.run [.saveMapping, .mapRom bank]

/-- The mapping and a dump under it. The program's bank is put back. -/
def peek (address : UInt16) (bank : Option UInt16) (length : UInt16) (session : Session) :
    Logged Report := do
  let session ← mapBank session bank
  let lines := session.cartridge.mapInfo :: Dump.rows session.cartridge address length
  let session ← session.run [.restoreMapping]
  pure (ofLines session lines)

/-! ## Battery RAM -/

/-- Where battery RAM is kept, and whether it loads. -/
def sram (rom : Path) (session : Session) : Logged Report := do
  let status ← SaveStatus.ofCartridge session.disk session.cartridge rom.saveFile
  pure (ofLines session status.lines)

end Report

/-- Carries out a command. -/
def Command.run (disk : Disk) : Command → Logged Report
  | .info rom => Report.onCartridge disk rom Report.info
  | .verify rom => Report.onCartridge disk rom Report.verify
  | .peek rom address bank length =>
    Report.onCartridge disk rom (Report.peek address bank length)
  | .sram rom => Report.onCartridge disk rom (Report.sram rom)

end GamePak
