import GamePak.Proofs.CommandLine.ChecksumVerdict
import GamePak.Proofs.CommandLine.Inspection
import GamePak.Proofs.Log

/-!
# `Proofs.CommandLine.SaveStatus` — what is said of a save file is what a load does

A load with the default options reads the save file into the RAM of the cartridge. The command that tells of
the save file never does that: it loads the cartridge without its battery RAM, works out path and length on its
own and reads the file into a RAM of its own, of another size. The two agree because whether a save file loads,
and with which bytes, does not depend on the RAM that it is loaded into.

## Contents
- `Bytes.nonzero_overlay`: how many bytes of a RAM are not zero.
- `Cartridge.start_of_backed`, `Cartridge.value_ofFile_of_declared`: what a load does with its save file.
- `Event.isSaveReport`, `Cartridge.filter_saveReports`: what it reports of it.
- `Command.result_sram`: what the command prints.
- `SaveStatus.Holds`, `SaveStatus.exists_holds`: the status that the command tells is the true one.
- `SaveStatus.lines_eq_noBattery_iff`, `lines_loads_iff`, `lines_doesNotLoad_iff`: the lines tell the status.
- `save_status_agrees_with_open`.
-/

namespace GamePak

/-! ## RAM after a load -/

/-- Over a blank memory only the loaded bytes count, whatever its size. -/
theorem Bytes.nonzero_overlay (capacity len : Nat) (data : Bytes) :
    Bytes.nonzero (Bytes.overlay (Array.replicate capacity 0) data len) =
      Bytes.nonzero (data.extract 0 len) := by
  rw [Bytes.overlay_replicate, Bytes.nonzero, Bytes.nonzero, Array.countP_append,
    Array.countP_replicate]
  simp

/-! ## What a load does with its save file -/

/-- Whether an event tells how the save file loads. -/
def Event.isSaveReport : Event → Bool
  | .saveRead _ => true
  | .saveNotRead _ => true
  | _ => false

namespace Cartridge

variable {disk : Disk} {path save : Path} {image rom ram : Bytes} {header : Header}

/-- What a start reports of its save file, apart from the reading itself. -/
def failureReports : Except PersistError Unit → List Event
  | .ok () => []
  | .error cause => [.saveNotRead cause]

/-- A battery-backed cartridge starts with the RAM that its save file leaves of a blank one, and reports how
that went. -/
theorem start_of_backed {result : Except PersistError Unit} {events : List Event}
    (hbacked : header.type.isBatteryBacked)
    (hload : SaveFile.load disk save (Array.replicate ramCapacity 0) header.savedLength =
      ⟨(result, ram), events⟩) (rom : Bytes) :
    start disk header rom (some save) =
      ⟨{ powerOn header rom (some save) with ram := ram },
        loadedEvents header ++ (events ++ failureReports result)⟩ := by
  have hbattery : (powerOn header rom (some save)).battery =
      .ok (some (save, header.savedLength)) := battery_of_backed hbacked rfl
  have hloaded : (powerOn header rom (some save)).loadBattery disk =
      ⟨(result, { powerOn header rom (some save) with ram := ram }), events⟩ := by
    rw [loadBattery, hbattery]
    show SaveFile.load disk save (Array.replicate ramCapacity 0) header.savedLength >>= _ = _
    rw [hload]
    exact Logged.ext rfl (List.append_nil events)
  simp only [start, Option.isNone_some, Bool.false_eq_true, if_false, hloaded]
  cases result <;> rfl

/-- With the default options an image of the declared size loads, and has its save file beside it if it has a
battery. -/
theorem value_ofFile_of_declared (hread : disk.read path = .ok image)
    (hdeclared : declared image = .ok (header, rom)) :
    (ofFile disk path {}).value = .ok (start disk header rom
      (if header.type.isBatteryBacked then some path.saveFile else none)).value := by
  rw [value_ofFile_default hread, value_load]
  simp only [hdeclared, Bool.false_eq_true, false_and, if_false, Bool.true_and]

/-- Before the start a load does not speak of the save file. -/
theorem filter_saveReports (hread : disk.read path = .ok image)
    (hdeclared : declared image = .ok (header, rom)) :
    (ofFile disk path {}).events.filter Event.isSaveReport =
      (start disk header rom
        (if header.type.isBatteryBacked then some path.saveFile else none)).events.filter
          Event.isSaveReport := by
  rw [ofFile_of_read hread, events_load hdeclared, List.filter_cons_of_neg Bool.false_ne_true,
    List.filter_append, filter_trailingWarning fun _ _ => rfl, List.nil_append]
  by_cases hverify : Checksum.verify rom
  · simp only [hverify, if_true]
    rfl
  · simp only [hverify, Bool.false_eq_true, if_false]
    rw [List.filter_cons_of_neg Bool.false_ne_true]
    rfl

/-- Nor do the reports of the loaded cartridge. -/
theorem filter_loadedEvents_isSaveReport (header : Header) :
    (loadedEvents header).filter Event.isSaveReport = [] :=
  filter_loadedEvents (fun _ _ => rfl) (fun _ => rfl) header

end Cartridge

/-! ## The status -/

theorem Command.result_sram (disk : Disk) (rom : Path) :
    (Command.run disk (.sram rom)).value.result =
      match (Cartridge.ofFile disk rom Report.inspecting).value with
      | .error cause => .error (.loading rom cause)
      | .ok cartridge => .ok (SaveStatus.ofCartridge disk cartridge rom.saveFile).value.lines := by
  show (Report.onCartridge disk rom (Report.sram rom)).value.result = _
  rw [Report.result_onCartridge]
  cases (Cartridge.ofFile disk rom Report.inspecting).value <;> rfl

namespace SaveStatus

/-- A status is true of a cartridge after its load, and of what the load reported of the save file. -/
def Holds (cartridge : Cartridge) (reports : List Event) : SaveStatus → Prop
  | .noBattery type =>
    type = cartridge.header.type ∧ cartridge.savePath = none ∧ reports = []
  | .loads len save nonzero =>
    cartridge.header.batteryLength = some len ∧ cartridge.savePath = some save ∧
      reports = [.saveRead save] ∧ nonzero = cartridge.ram.nonzero
  | .doesNotLoad len save cause =>
    cartridge.header.batteryLength = some len ∧ cartridge.savePath = some save ∧
      reports = [.saveNotRead cause] ∧ cartridge.ram = Array.replicate ramCapacity 0

variable {disk : Disk} {rom : Path} {cartridge : Cartridge}

/-- **The status that the command tells is true of the cartridge that a load gives.** -/
theorem exists_holds (hopen : (Cartridge.ofFile disk rom {}).value = .ok cartridge) :
    ∃ status : SaveStatus, (Command.run disk (.sram rom)).value.result = .ok status.lines ∧
      status.Holds cartridge ((Cartridge.ofFile disk rom {}).events.filter Event.isSaveReport) := by
  rcases Cartridge.ofFile_cases disk rom with
    ⟨cause, hrefused⟩ | ⟨image, header, declared, hread, hdeclared⟩
  · rw [hrefused] at hopen
    cases hopen
  -- both loads find the same header, and the rest is up to the save file
  obtain ⟨inspected, hheader, -, hinspected⟩ :=
    Cartridge.value_ofFile_declared hread hdeclared Report.inspecting
  have hshown : (Command.run disk (.sram rom)).value.result =
      .ok (ofCartridge disk inspected rom.saveFile).value.lines := by
    rw [Command.result_sram, hinspected, if_neg (by simp [Report.inspecting])]
  have hstart : cartridge = (Cartridge.start disk header declared
      (if header.type.isBatteryBacked then some rom.saveFile else none)).value :=
    Except.ok.inj (hopen.symm.trans (Cartridge.value_ofFile_of_declared hread hdeclared))
  rw [hstart, Cartridge.filter_saveReports hread hdeclared]
  refine ⟨_, hshown, ?_⟩
  by_cases hbacked : header.type.isBatteryBacked
  · have hlength : header.batteryLength = some header.savedLength := by
      rw [Header.batteryLength_eq, if_pos hbacked]
    rw [if_pos hbacked]
    rcases SaveFile.load_cases disk rom.saveFile header.savedLength with
      ⟨cause, hload⟩ | ⟨data, -, -, hload⟩
    · have hstatus : (ofCartridge disk inspected rom.saveFile).value =
          .doesNotLoad header.savedLength rom.saveFile cause := by
        simp only [ofCartridge, hheader, hlength, hload]
        rfl
      rw [hstatus, Cartridge.start_of_backed hbacked (hload _)]
      refine ⟨hlength, rfl, ?_, rfl⟩
      rw [List.filter_append, Cartridge.filter_loadedEvents_isSaveReport]
      rfl
    · have hstatus : (ofCartridge disk inspected rom.saveFile).value =
          .loads header.savedLength rom.saveFile
            (Bytes.nonzero (Bytes.overlay (Array.replicate header.savedLength 0) data
              header.savedLength)) := by
        simp only [ofCartridge, hheader, hlength, hload]
        rfl
      rw [hstatus, Cartridge.start_of_backed hbacked (hload _)]
      refine ⟨hlength, rfl, ?_, ?_⟩
      · rw [List.filter_append, Cartridge.filter_loadedEvents_isSaveReport]
        rfl
      · -- the two RAMs differ in their zeros only
        rw [Bytes.nonzero_overlay]
        exact (Bytes.nonzero_overlay ..).symm
  · have hlength : header.batteryLength = none := by
      rw [Header.batteryLength_eq, if_neg hbacked]
    have hstatus : (ofCartridge disk inspected rom.saveFile).value = .noBattery header.type := by
      simp only [ofCartridge, hheader, hlength]
      rfl
    rw [if_neg hbacked, hstatus]
    refine ⟨rfl, rfl, ?_⟩
    show (Cartridge.loadedEvents header ++ []).filter Event.isSaveReport = []
    rw [List.append_nil, Cartridge.filter_loadedEvents_isSaveReport]

/-! ## The lines -/

/-- One line tells that there is no battery, two tell of a save file. -/
theorem lines_eq_noBattery_iff (status : SaveStatus) (type : CartridgeType) :
    status.lines = [type.name ++ " has no battery-backed RAM."] ↔
      ∃ other, status = .noBattery other ∧ other.name = type.name := by
  cases status with
  | noBattery other =>
      constructor
      · intro hlines
        refine ⟨other, rfl, ?_⟩
        have hline : other.name ++ " has no battery-backed RAM." =
            type.name ++ " has no battery-backed RAM." := (List.cons.inj hlines).1
        simpa using hline
      · rintro ⟨other, ⟨⟩, hname⟩
        rw [← hname]
        rfl
  | loads len save nonzero => simp [lines]
  | doesNotLoad len save cause => simp [lines]

theorem placeLine_eq (len : Nat) (save : Path) :
    placeLine len save = s!"Battery RAM: {len} bytes in '{save}'" := rfl

/-- The two words are told apart at the eleventh character. -/
theorem loads_ne_doesNotLoad (nonzero : Nat) (text : String) :
    s!"Save file loads: {nonzero} non-zero bytes" ≠ "Save file does not load: " ++ text := by
  intro h
  have hten := congrArg (fun line : String => line.toList[10]?) h
  simp [ToString.toString] at hten

theorem lines_loads_iff (status : SaveStatus) (nonzero : Nat) :
    status.lines[1]? = some s!"Save file loads: {nonzero} non-zero bytes" ↔
      ∃ len save, status = .loads len save nonzero := by
  cases status with
  | noBattery type => simp [lines]
  | loads len save other =>
      constructor
      · intro hline
        have hnumeral : other.repr = nonzero.repr := by simpa [lines] using hline
        -- a numeral is read back as its number
        have hsame := congrArg (fun numeral : String => Nat.ofDigitChars 10 numeral.toList 0) hnumeral
        simp only [Nat.toList_repr, Nat.ofDigitChars_ten_toDigits] at hsame
        exact ⟨len, save, by rw [hsame]⟩
      · rintro ⟨len, save, ⟨⟩⟩
        rfl
  | doesNotLoad len save cause =>
      constructor
      · intro hline
        exact absurd (Option.some.inj hline).symm (loads_ne_doesNotLoad nonzero cause.message)
      · rintro ⟨len, save, ⟨⟩⟩

theorem lines_doesNotLoad_iff (status : SaveStatus) (text : String) :
    status.lines[1]? = some ("Save file does not load: " ++ text) ↔
      ∃ len save cause, status = .doesNotLoad len save cause ∧ text = cause.message := by
  cases status with
  | noBattery type => simp [lines]
  | loads len save nonzero =>
      constructor
      · intro hline
        exact absurd (Option.some.inj hline) (loads_ne_doesNotLoad nonzero text)
      · rintro ⟨len, save, cause, ⟨⟩, -⟩
  | doesNotLoad len save cause =>
      constructor
      · intro hline
        have htext : "Save file does not load: " ++ cause.message =
            "Save file does not load: " ++ text := Option.some.inj hline
        refine ⟨len, save, cause, rfl, ?_⟩
        simpa using htext.symm
      · rintro ⟨len, save, cause, ⟨⟩, htext⟩
        rw [htext]
        rfl

end SaveStatus

/-! ## The command and the load -/

/-- The reports of the save file are those that tell how it loads. -/
theorem Event.mem_filter_isSaveReport {event : Event} (h : event.isSaveReport) (events : List Event) :
    event ∈ events.filter Event.isSaveReport ↔ event ∈ events := by
  rw [List.mem_filter, and_iff_left h]

/-- **The command tells what a load with the default options does.** Where that load fails, the command fails
for the same reason. Where it gives a cartridge, the command says that no RAM is kept exactly if the cartridge
has no save path, and that the save file loads exactly if the load logs that it read one, with the number of
bytes of the cartridge's RAM that are not zero. It says that the save file does not load, and why, exactly if the
load logs its warning with the same text, and then RAM is zero. The path and the length that it names are the
cartridge's, and the log names the same path. -/
theorem save_status_agrees_with_open (disk : Disk) (rom : Path) :
    let opened := Cartridge.ofFile disk rom {}
    let shown := (Command.run disk (.sram rom)).value.result
    (∀ cause, opened.value = .error cause → shown = .error (.loading rom cause)) ∧
    ∀ cartridge, opened.value = .ok cartridge → ∃ lines, shown = .ok lines ∧
      (lines = [cartridge.header.type.name ++ " has no battery-backed RAM."] ↔
        cartridge.savePath = none) ∧
      (∀ nonzero : Nat, lines[1]? = some s!"Save file loads: {nonzero} non-zero bytes" ↔
        (∃ save : Path, (.info, s!"Read SRAM from '{save}'") ∈ opened.log) ∧
          nonzero = cartridge.ram.nonzero) ∧
      (∀ save : Path, (.info, s!"Read SRAM from '{save}'") ∈ opened.log →
        cartridge.savePath = some save) ∧
      (∀ text, lines[1]? = some ("Save file does not load: " ++ text) ↔
        (.warning, "Error loading battery RAM: " ++ text) ∈ opened.log) ∧
      (∀ text, (.warning, "Error loading battery RAM: " ++ text) ∈ opened.log →
        cartridge.ram = Array.replicate 65536 0) ∧
      ∀ save, cartridge.savePath = some save →
        ∃ len, cartridge.header.batteryLength = some len ∧
          lines[0]? = some s!"Battery RAM: {len} bytes in '{save}'" := by
  intro opened shown
  constructor
  · intro cause hrefused
    rcases Cartridge.ofFile_cases disk rom with
      ⟨other, hother⟩ | ⟨image, header, declared, hread, hdeclared⟩
    · obtain rfl : other = cause := Except.error.inj ((hother {}).symm.trans hrefused)
      show (Command.run disk (.sram rom)).value.result = _
      rw [Command.result_sram, hother]
    · -- the default options refuse no image of the declared size
      obtain ⟨cartridge, -, -, hopen⟩ := Cartridge.value_ofFile_declared hread hdeclared {}
      rw [if_neg (by simp)] at hopen
      cases hopen.symm.trans hrefused
  · intro cartridge hopen
    obtain ⟨status, hshown, hholds⟩ := SaveStatus.exists_holds hopen
    refine ⟨status.lines, hshown, ?_⟩
    have hread : ∀ save, .saveRead save ∈ opened.events ↔
        .saveRead save ∈ opened.events.filter Event.isSaveReport :=
      fun save => (Event.mem_filter_isSaveReport rfl opened.events).symm
    have hfailed : ∀ cause, .saveNotRead cause ∈ opened.events ↔
        .saveNotRead cause ∈ opened.events.filter Event.isSaveReport :=
      fun cause => (Event.mem_filter_isSaveReport rfl opened.events).symm
    simp only [Logged.mem_log_saveRead_iff, Logged.mem_log_saveNotRead_iff, hread, hfailed,
      SaveStatus.lines_eq_noBattery_iff, SaveStatus.lines_loads_iff, SaveStatus.lines_doesNotLoad_iff]
    cases status with
    | noBattery type =>
        obtain ⟨rfl, hpath, hreports⟩ := hholds
        simp [opened, hpath, hreports]
    | loads len save nonzero =>
        obtain ⟨hlength, hpath, hreports, rfl⟩ := hholds
        simp [opened, hpath, hreports, hlength, SaveStatus.lines, SaveStatus.placeLine_eq,
          eq_comm]
    | doesNotLoad len save cause =>
        obtain ⟨hlength, hpath, hreports, hram⟩ := hholds
        simp [opened, hpath, hreports, hlength, hram, SaveStatus.lines,
          SaveStatus.placeLine_eq, ramCapacity]

/-- A save file of exactly one bank: the command counts the bytes that the load takes. -/
theorem save_status_agrees_with_open_blank :
    let rom : Path := ⟨['g', '.', 'g', 'b']⟩
    let save : Path := ⟨['g', '.', 's', 'a', 'v']⟩
    let disk : Disk := ⟨[([['g', '.', 'g', 'b']], .file (Cartridge.blankImage 0x03 0x02)),
      ([['g', '.', 's', 'a', 'v']], .file (Array.replicate 8192 7))], []⟩
    rom.saveFile = save ∧ disk.read save = .ok (Array.replicate 8192 7) ∧
      ∃ cartridge lines, (Cartridge.ofFile disk rom {}).value = .ok cartridge ∧
        (.info, "Read SRAM from 'g.sav'") ∈ (Cartridge.ofFile disk rom {}).log ∧
        cartridge.ram.nonzero = 8192 ∧
        (Command.run disk (.sram rom)).value.result = .ok lines ∧
        lines[1]? = some s!"Save file loads: {8192} non-zero bytes" := by
  intro rom save disk
  have hread : disk.read rom = .ok (Cartridge.blankImage 0x03 0x02) := rfl
  have hsaved : disk.read save = .ok (Array.replicate 8192 7) := rfl
  have hsave : rom.saveFile = save := by decide
  obtain ⟨header, hparse, hbanks, htype, hcode⟩ := Cartridge.exists_parse_blankImage 0x03 0x02
  have hsize : header.romSize ≤ (Cartridge.blankImage 0x03 0x02).size := by
    rw [Cartridge.size_blankImage, Header.romSize, hbanks]
    decide
  have hdeclared := Cartridge.declared_of_parse hparse hsize
  have hbacked : header.type.isBatteryBacked := by
    rw [htype]
    rfl
  have hlength : header.savedLength = 8192 := by
    rw [Header.savedLength, htype, hcode]
    rfl
  have hload : SaveFile.load disk rom.saveFile (Array.replicate ramCapacity 0) header.savedLength =
      ⟨(.ok (), Bytes.overlay (Array.replicate ramCapacity 0) (Array.replicate 8192 7) 8192),
        [.saveRead rom.saveFile]⟩ := by
    rw [hlength, hsave]
    simp only [SaveFile.load, hsaved, Array.size_replicate, Nat.lt_irrefl, if_false]
    rfl
  have hopen := Cartridge.value_ofFile_of_declared hread hdeclared
  have hreports := Cartridge.filter_saveReports hread hdeclared
  rw [if_pos hbacked, Cartridge.start_of_backed hbacked hload] at hopen hreports
  rw [List.filter_append, Cartridge.filter_loadedEvents_isSaveReport] at hreports
  have hlogged : (.info, s!"Read SRAM from '{save}'") ∈ (Cartridge.ofFile disk rom {}).log := by
    rw [Logged.mem_log_saveRead_iff, ← Event.mem_filter_isSaveReport rfl, hreports, hsave]
    exact List.mem_singleton_self _
  have hcount : Bytes.nonzero
      (Bytes.overlay (Array.replicate ramCapacity 0) (Array.replicate 8192 7) 8192) = 8192 := by
    rw [Bytes.nonzero_overlay, Array.extract_replicate, Bytes.nonzero, Array.countP_replicate]
    rfl
  obtain ⟨-, hagree⟩ := save_status_agrees_with_open disk rom
  obtain ⟨lines, hshown, -, hloads, -⟩ := hagree _ hopen
  have htext : s!"Read SRAM from '{save}'" = "Read SRAM from 'g.sav'" := by decide
  exact ⟨hsave, hsaved, _, lines, hopen, htext ▸ hlogged, hcount, hshown,
    (hloads 8192).2 ⟨⟨save, hlogged⟩, hcount.symm⟩⟩

end GamePak
