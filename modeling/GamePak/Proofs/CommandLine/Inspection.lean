import GamePak.CommandLine.Report
import GamePak.Proofs.Cartridge.Decision
import GamePak.Proofs.Session.Isolation

/-!
# `Proofs.CommandLine.Inspection` — what a command reads, and that it writes nothing

A command looks at a cartridge that was loaded without its battery RAM. Such a cartridge has no save path, so
what is done with it goes the same way on every disk. Two files can make a difference: the ROM file, for every
command, and the save file beside it, for the one command that reads it into a RAM of its own.

## Contents
- `Command.reads`: the files that a command may look at.
- `Report.onDisk`; `Report.info_onDisk`, `verify_onDisk`, `peek_onDisk`, `sram_onDisk`: each way of looking, on
  another disk.
- `Report.savePath_of_inspecting`, `Report.onCartridge_onDisk`, `Report.result_onCartridge`: loading for
  inspection.
- `Command.run_onDisk`, `commands_read_only_their_files`.
-/

namespace GamePak

/-- The files that a command may look at. -/
def Command.reads : Command → List Path
  | .info rom => [rom]
  | .verify rom => [rom]
  | .peek rom _ _ _ => [rom]
  | .sram rom => [rom, rom.saveFile]

theorem Command.rom_mem_reads (command : Command) : command.rom ∈ command.reads := by
  cases command <;> exact List.mem_cons_self

namespace Report

variable {session : Session} {disk other : Disk} {rom : Path}

/-- The report with another disk in place of its own. -/
def onDisk (report : Report) (disk : Disk) : Report :=
  ⟨report.result, disk⟩

/-! ## Looking at a cartridge -/

theorem info_onDisk (session : Session) (other : Disk) :
    info (session.onDisk other) = (·.onDisk other) <$> info session := rfl

theorem verify_onDisk (session : Session) (other : Disk) :
    verify (session.onDisk other) = (·.onDisk other) <$> verify session := by
  unfold verify Session.onDisk
  split
  · rfl
  · rfl

theorem mapBank_onDisk (h : session.cartridge.savePath = none) (other : Disk)
    (bank : Option UInt16) :
    mapBank (session.onDisk other) bank = (·.onDisk other) <$> mapBank session bank := by
  cases bank with
  | none => rfl
  | some bank =>
      apply Logged.ext
      · simp only [mapBank, Session.run_onDisk h, Logged.value_bind, Logged.value_map]
      · simp only [mapBank, Session.run_onDisk h, Logged.events_bind, Logged.events_map]

theorem savePath_mapBank (session : Session) (bank : Option UInt16) :
    (mapBank session bank).value.cartridge.savePath = session.cartridge.savePath := by
  cases bank with
  | none => rfl
  | some bank => exact congrArg Prod.snd (session.identity_run [.saveMapping, .mapRom bank])

/-- A dump maps its bank as the debugger does, and the debugger does not reach a disk. -/
theorem peek_onDisk (session : Session) (h : session.cartridge.savePath = none) (other : Disk)
    (address : UInt16) (bank : Option UInt16) (length : UInt16) :
    peek address bank length (session.onDisk other) =
      (·.onDisk other) <$> peek address bank length session := by
  have hmapped := (savePath_mapBank session bank).trans h
  apply Logged.ext
  · simp only [peek, mapBank_onDisk h, Session.run_onDisk hmapped, Logged.value_bind,
      Logged.value_map]
    rfl
  · simp only [peek, mapBank_onDisk h, Session.run_onDisk hmapped, Logged.events_bind,
      Logged.value_map, Logged.events_map]
    rfl

/-- The save file is the one thing on the disk that is looked at, and only for a cartridge with a battery. -/
theorem sram_onDisk (session : Session)
    (hsave : other.read rom.saveFile = session.disk.read rom.saveFile) :
    sram rom (session.onDisk other) = (·.onDisk other) <$> sram rom session := by
  have hstatus : SaveStatus.ofCartridge other session.cartridge rom.saveFile =
      SaveStatus.ofCartridge session.disk session.cartridge rom.saveFile := by
    simp only [SaveStatus.ofCartridge, SaveFile.load_congr hsave]
  apply Logged.ext
  · simp only [sram, Session.onDisk, hstatus, Logged.value_bind, Logged.value_map]
    rfl
  · simp only [sram, Session.onDisk, hstatus, Logged.events_bind, Logged.events_map]
    rfl

/-! ## Loading for inspection -/

/-- A cartridge that is loaded for inspection has no save path, with a battery or without. -/
theorem savePath_of_inspecting {cartridge : Cartridge}
    (h : (Cartridge.ofFile disk rom inspecting).value = .ok cartridge) :
    cartridge.savePath = none := by
  obtain ⟨image, -, hload⟩ := Cartridge.exists_load_of_ofFile h
  rw [Cartridge.savePath_of_load hload]
  rfl

/-- A ROM file that reads the same is looked at in the same way. -/
theorem onCartridge_onDisk {look : Session → Logged Report} (hrom : other.read rom = disk.read rom)
    (hlook : ∀ cartridge : Cartridge, cartridge.savePath = none →
      look ⟨other, cartridge⟩ = (·.onDisk other) <$> look ⟨disk, cartridge⟩) :
    onCartridge other rom look = (·.onDisk other) <$> onCartridge disk rom look := by
  have hopen : Cartridge.ofFile other rom inspecting = Cartridge.ofFile disk rom inspecting :=
    Cartridge.ofFile_congr hrom nofun
  rw [onCartridge, onCartridge, hopen]
  cases hvalue : (Cartridge.ofFile disk rom inspecting).value with
  | error cause =>
      apply Logged.ext
      · simp only [Logged.value_bind, Logged.value_map, hvalue]
        rfl
      · simp only [Logged.events_bind, Logged.events_map, hvalue]
        rfl
  | ok cartridge =>
      have hsame := hlook cartridge (savePath_of_inspecting hvalue)
      apply Logged.ext
      · simp only [Logged.value_bind, Logged.value_map, hvalue, hsame]
      · simp only [Logged.events_bind, Logged.events_map, hvalue, hsame]

/-- A command fails as its load does, or its result is that of looking at the cartridge. -/
theorem result_onCartridge (disk : Disk) (rom : Path) (look : Session → Logged Report) :
    (onCartridge disk rom look).value.result =
      match (Cartridge.ofFile disk rom inspecting).value with
      | .error cause => .error (.loading rom cause)
      | .ok cartridge => (look ⟨disk, cartridge⟩).value.result := by
  simp only [onCartridge, Logged.value_bind]
  cases (Cartridge.ofFile disk rom inspecting).value <;> rfl

end Report

/-! ## Commands -/

/-- **A command is the same on every disk where its files read the same**, and the disk stays. -/
theorem Command.run_onDisk (command : Command) (disk other : Disk)
    (h : ∀ path ∈ command.reads, other.read path = disk.read path) :
    command.run other = (·.onDisk other) <$> command.run disk := by
  have hrom := h _ command.rom_mem_reads
  cases command with
  | info rom =>
      apply Report.onCartridge_onDisk hrom
      intro cartridge hpath
      exact Report.info_onDisk ⟨disk, cartridge⟩ other
  | verify rom =>
      apply Report.onCartridge_onDisk hrom
      intro cartridge hpath
      exact Report.verify_onDisk ⟨disk, cartridge⟩ other
  | peek rom address bank length =>
      apply Report.onCartridge_onDisk hrom
      intro cartridge hpath
      exact Report.peek_onDisk ⟨disk, cartridge⟩ hpath other address bank length
  | sram rom =>
      have hsave : other.read rom.saveFile = disk.read rom.saveFile :=
        h _ (List.mem_cons_of_mem _ List.mem_cons_self)
      apply Report.onCartridge_onDisk hrom
      intro cartridge hpath
      exact Report.sram_onDisk ⟨disk, cartridge⟩ hsave

/-- **A command reads its own files only, and changes none.** On two disks where its files read the same, be
that the same bytes or the same error, it prints the same or fails for the same reason, and reports the same,
whatever else the disks hold. The disk after it is the disk before it, also where it fails. -/
theorem commands_read_only_their_files (disk : Disk) (command : Command) :
    (command.run disk).value.disk = disk ∧
    ∀ other : Disk, (∀ path ∈ command.reads, other.read path = disk.read path) →
      (command.run other).value.result = (command.run disk).value.result ∧
      (command.run other).events = (command.run disk).events := by
  constructor
  · -- on the disk itself everything reads the same
    have hsame := command.run_onDisk disk disk fun _ _ => rfl
    exact congrArg (fun report => report.value.disk) hsame
  · intro other h
    rw [command.run_onDisk disk other h]
    exact ⟨rfl, Logged.events_map ..⟩

/-- A dump of RAM for a cartridge with a battery: the save file that one of the disks holds does not show. -/
theorem commands_read_only_their_files_blank :
    let rom : Path := ⟨['g', '.', 'g', 'b']⟩
    let save : Path := ⟨['g', '.', 's', 'a', 'v']⟩
    let disk : Disk := ⟨[([['g', '.', 'g', 'b']], .file (Cartridge.blankImage 0x03 0x02))], []⟩
    let other : Disk := ⟨[([['g', '.', 'g', 'b']], .file (Cartridge.blankImage 0x03 0x02)),
      ([['g', '.', 's', 'a', 'v']], .file (Array.replicate 8192 7))], []⟩
    let command := Command.peek rom 0xA000 (some 5) 16
    rom.saveFile = save ∧ disk.read save = .error .notFound ∧
      other.read save = .ok (Array.replicate 8192 7) ∧
      (∀ path ∈ command.reads, other.read path = disk.read path) ∧
      (command.run other).value.result = (command.run disk).value.result ∧
      (command.run other).events = (command.run disk).events ∧
      (command.run other).value.disk = other := by
  intro rom save disk other command
  have hreads : ∀ path ∈ command.reads, other.read path = disk.read path := by
    intro path hpath
    obtain rfl : path = rom := List.mem_singleton.1 hpath
    rfl
  obtain ⟨-, hagree⟩ := commands_read_only_their_files disk command
  obtain ⟨hresult, hevents⟩ := hagree other hreads
  obtain ⟨hdisk, -⟩ := commands_read_only_their_files other command
  exact ⟨by decide, rfl, rfl, hreads, hresult, hevents, hdisk⟩

end GamePak
