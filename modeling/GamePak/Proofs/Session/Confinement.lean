import GamePak.Proofs.Cartridge.Decision
import GamePak.Proofs.Session.Isolation
import GamePak.Proofs.Session.Persistence

/-!
# `Proofs.Session.Confinement` — the one file that a cartridge can change

Whether a cartridge has a save path is decided once, by the options, the type and the place of the image.
Every transfer of battery RAM decides it again, from the length of the battery RAM and the path that was kept.
The two decisions agree: without a save path no file matters and none changes, and with one only the file that
it leads to can change, by a save or by unloading.

## Contents
- `Source.beside`, `Source.exists_load`: the save path of a load.
- `Cartridge.Loaded.ram_of_no_path`: RAM after a load without one.
- `Session.step_of_no_path`: a transfer without a save path.
- `Session.elsewhere_run`: the other files after a run.
- `Session.step_save_of_error`, `Session.step_save_of_unwritable`, `Session.Saving.step_save`: a save.
- `Session.disk_run_of_no_save`, `Session.read_after_last_save`: a run up to its last save, and after it.
- `Session.only_save_file_changes`.
-/

namespace GamePak

/-! ## The save path of a load -/

namespace Source

variable {disk : Disk} {image : Bytes} {source : Source} {options : LoadOptions} {loaded : Cartridge}

/-- The save file beside an image, if that is in a file. -/
def beside : Source → Option Path
  | .memory => none
  | .file rom => some rom.saveFile

/-- Both ways of loading end in one, where a save path in the options goes before the one beside the image. -/
theorem exists_load (h : (source.load disk image options).value = .ok loaded) :
    ∃ found, (Cartridge.load disk found options (options.savePath.or source.beside)).value =
      .ok loaded := by
  cases source with
  | memory =>
      refine ⟨image, ?_⟩
      rw [beside, Option.or_none]
      exact h
  | file rom =>
      obtain ⟨found, -, hload⟩ := Cartridge.exists_load_of_ofFile h
      refine ⟨found, ?_⟩
      rw [beside, Option.or_some]
      exact hload

theorem loaded_of_load (h : (source.load disk image options).value = .ok loaded) :
    Cartridge.Loaded disk loaded := by
  cases source with
  | memory => exact .ofImage image options h
  | file rom => exact .ofFile rom options h

end Source

/-- Without a save path RAM is blank after a load. -/
theorem Cartridge.Loaded.ram_of_no_path {disk : Disk} {cartridge : Cartridge}
    (h : Loaded disk cartridge) (hnone : cartridge.savePath = none) :
    cartridge.ram = Array.replicate ramCapacity 0 := by
  obtain ⟨image, header, save, -, -, rfl⟩ := h.origin
  have hsave : (powerOn header (image.extract 0 header.romSize) save).savePath = none :=
    (congrArg Prod.snd (identity_loadBattery ..)).symm.trans hnone
  rw [loadBattery_of_no_path hsave]
  rfl

namespace Session

variable {disk : Disk} {save : Path} {place : Location} {session : Session} {cartridge : Cartridge}

/-! ## Without a save path -/

/-- A transfer of battery RAM, in either direction, changes nothing, and is refused if there is a battery. -/
theorem step_of_no_path (h : session.cartridge.savePath = none) {operation : Operation}
    (htransfer : operation = .loadBattery ∨ operation = .saveBattery) :
    (session.step operation).value = (session.cartridge.transferWithoutPath, session) := by
  obtain ⟨disk, cartridge⟩ := session
  rcases htransfer with rfl | rfl
  · simp only [step, Cartridge.loadBattery_of_no_path h]
    rfl
  · simp only [step, Cartridge.saveBattery_of_no_path h]
    rfl

/-! ## The other files -/

/-- A run changes at most the file that the save path leads to. -/
theorem elsewhere_run (hsave : cartridge.savePath = some save) (operations : List Operation) :
    let after := (run ⟨disk, cartridge⟩ operations).value.disk
    after.home = disk.home ∧
      ∀ spot, disk.locate save ≠ .ok spot → after.find? spot = disk.find? spot := by
  intro after
  by_cases hwritable : disk.Writable save
  · obtain ⟨place, hslot⟩ := hwritable.exists_slot
    have hagree : Disk.AgreeOff place disk after := (saving_run (.start hslot hsave) operations).agree
    refine ⟨hagree.home, ?_⟩
    intro spot helse
    apply hagree.entries
    rintro rfl
    exact helse (Disk.locate_of_target hslot.target)
  · have hnot := unwritable_of_savePath hsave hwritable
    have hsame : after = disk := (disk_run_of_unwritable hnot operations).1
    rw [hsame]
    exact ⟨rfl, fun _ _ => rfl⟩

/-! ## A save -/

/-- What a save does is what it does to the disk. -/
theorem value_step_save (disk : Disk) (cartridge : Cartridge) :
    (step ⟨disk, cartridge⟩ .saveBattery).value =
      ((cartridge.saveBattery disk).value.1, ⟨(cartridge.saveBattery disk).value.2, cartridge⟩) := rfl

/-- A save that fails changes nothing. -/
theorem step_save_of_error {cause : PersistError} {after : Session}
    (h : (session.step .saveBattery).value = (.error cause, after)) : after = session := by
  obtain ⟨disk, cartridge⟩ := session
  rw [value_step_save, Prod.mk.injEq] at h
  obtain ⟨hfailed, rfl⟩ := h
  have hsame : (cartridge.saveBattery disk).value.2 = disk :=
    Cartridge.saveBattery_of_error (Prod.ext hfailed rfl)
  rw [hsame]

/-- Through a path that cannot be written every save fails. -/
theorem step_save_of_unwritable (hbacked : session.cartridge.header.type.isBatteryBacked)
    (hsave : session.cartridge.savePath = some save) (hnot : ¬ session.disk.Writable save) :
    ∃ cause, (session.step .saveBattery).value = (.error cause, session) := by
  obtain ⟨disk, cartridge⟩ := session
  rw [value_step_save, Cartridge.saveBattery_of_backed hbacked hsave, SaveFile.store]
  cases hwrite : disk.write save (cartridge.ram.extract 0 cartridge.header.savedLength) with
  | error cause => exact ⟨.unreachable save cause, rfl⟩
  | ok after => exact absurd ⟨_, after, hwrite⟩ hnot

/-- Through a path that can be written every save succeeds, and puts the start of RAM there. -/
theorem Saving.step_save (h : Saving disk save place session)
    (hbacked : session.cartridge.header.type.isBatteryBacked) :
    (session.step .saveBattery).value =
      (.ok (), ⟨session.disk.insert place
        (.file (session.cartridge.ram.extract 0 session.cartridge.header.savedLength)),
        session.cartridge⟩) := by
  obtain ⟨own, cartridge⟩ := session
  rw [value_step_save, Cartridge.saveBattery_of_backed hbacked h.savePath, SaveFile.store,
    h.slot.write]
  rfl

/-! ## The last save of a run -/

theorem disk_step_of_ne {operation : Operation} (h : operation ≠ .saveBattery) :
    (session.step operation).value.2.disk = session.disk := by
  obtain ⟨disk, cartridge⟩ := session
  cases operation with
  | saveBattery => exact absurd rfl h
  | write address value => rfl
  | reset => rfl
  | saveMapping => rfl
  | mapRom bank => rfl
  | restoreMapping => rfl
  | debugWrite address value => rfl
  | loadBattery => rfl

/-- A run without a save changes no file. -/
theorem disk_run_of_no_save {operations : List Operation} (h : .saveBattery ∉ operations) :
    (session.run operations).value.disk = session.disk := by
  induction operations generalizing session with
  | nil => rfl
  | cons operation rest ih =>
      rw [List.mem_cons, not_or] at h
      obtain ⟨hfirst, hrest⟩ := h
      calc (session.run (operation :: rest)).value.disk
          = ((session.step operation).value.2.run rest).value.disk := rfl
        _ = (session.step operation).value.2.disk := ih hrest
        _ = session.disk := disk_step_of_ne (Ne.symm hfirst)

/-- **The save file holds what RAM held at the last save**, where it can be written. -/
theorem read_after_last_save (hwritable : disk.Writable save)
    (hsave : cartridge.savePath = some save) (hbacked : cartridge.header.type.isBatteryBacked)
    (before : List Operation) {rest : List Operation} (hrest : .saveBattery ∉ rest) :
    (run ⟨disk, cartridge⟩ (before ++ .saveBattery :: rest)).value.disk.read save =
      .ok ((run ⟨disk, cartridge⟩ before).value.cartridge.ram.extract 0
        cartridge.header.savedLength) := by
  obtain ⟨place, hslot⟩ := hwritable.exists_slot
  have hsaving := saving_run (.start hslot hsave) before
  have hheader : (run ⟨disk, cartridge⟩ before).value.cartridge.header = cartridge.header :=
    header_run ⟨disk, cartridge⟩ before
  have hsaved := hsaving.step_save (hheader ▸ hbacked)
  rw [run_append, Logged.value_bind, run_cons, Logged.value_bind, disk_run_of_no_save hrest, hsaved,
    hheader]
  exact Disk.read_after_write hsaving.slot _

/-! ## Confinement -/

/-- **The only file that a cartridge can change is its save file.** A load with any options gives the cartridge
a save path exactly if battery RAM is wanted, the type has a battery and there is a path, where one in the
options goes before the one beside the ROM file. Then take any run, and let go of the cartridge or unload it.

Without a save path RAM starts at zero, and the run goes the same way on every disk and leaves each as it was,
unloading included: no file gets into RAM and none changes. A transfer of battery RAM in either direction is
refused if there is a battery, and otherwise does nothing.

With a save path no location changes but the one it leads to, and not that one without a save. Where the file
can be written every save succeeds, and the file holds what the battery's part of RAM, which is all inside
RAM, held at the last save or at unloading. Where it cannot, every save fails and no file changes. -/
theorem only_save_file_changes {disk : Disk} {image : Bytes} {source : Source} {options : LoadOptions}
    {loaded : Cartridge} (hload : (source.load disk image options).value = .ok loaded)
    (operations : List Operation) :
    let backed := loaded.header.type.isBatteryBacked
    let last := (Session.run ⟨disk, loaded⟩ operations).value
    (loaded.savePath =
      if options.battery && backed then options.savePath.or source.beside else none) ∧
    (∀ cause after, (last.step .saveBattery).value = (.error cause, after) → after = last) ∧
    (loaded.savePath = none →
      loaded.ram = Array.replicate 65536 0 ∧
      (∀ other, (Session.run ⟨other, loaded⟩ operations).value = ⟨other, last.cartridge⟩ ∧
        (Session.run ⟨other, loaded⟩ operations).value.drop = other ∧
        (Session.run ⟨other, loaded⟩ operations).value.detach.value = other) ∧
      ∀ operation, operation = .loadBattery ∨ operation = .saveBattery →
        (last.step operation).value = (if backed then .error .noSavePath else .ok (), last)) ∧
    ∀ save, loaded.savePath = some save →
      ∃ len, loaded.header.batteryLength = some len ∧ len ≤ 65536 ∧
        last.cartridge.ram.size = 65536 ∧
        (∀ after, after = last.drop ∨ after = last.detach.value → after.home = disk.home ∧
          ∀ spot, disk.locate save ≠ .ok spot → after.find? spot = disk.find? spot) ∧
        (.saveBattery ∉ operations → last.drop = disk) ∧
        (disk.Writable save → (last.step .saveBattery).value.1 = .ok () ∧
          last.detach.value.read save = .ok (last.cartridge.ram.extract 0 len) ∧
          ∀ before rest, operations = before ++ .saveBattery :: rest → .saveBattery ∉ rest →
            last.drop.read save =
              .ok ((Session.run ⟨disk, loaded⟩ before).value.cartridge.ram.extract 0 len)) ∧
        (¬ disk.Writable save → (∃ cause, (last.step .saveBattery).value = (.error cause, last)) ∧
          last.drop = disk ∧ last.detach.value = disk) := by
  intro backed last
  obtain ⟨found, hfound⟩ := Source.exists_load hload
  have hloaded := Source.loaded_of_load hload
  have hpath := Cartridge.savePath_of_load hfound
  have hidentity : last.cartridge.identity = loaded.identity := identity_run ⟨disk, loaded⟩ operations
  have hheader : last.cartridge.header = loaded.header := congrArg Prod.fst hidentity
  have hkept : last.cartridge.savePath = loaded.savePath := congrArg Prod.snd hidentity
  refine ⟨hpath, fun cause after => step_save_of_error, ?_, ?_⟩
  · intro hnone
    have hlast : last.cartridge.savePath = none := hkept.trans hnone
    refine ⟨hloaded.ram_of_no_path hnone, ?_, ?_⟩
    · intro other
      have hstart : (⟨disk, loaded⟩ : Session).cartridge.savePath = none := hnone
      have helsewhere : (run ⟨other, loaded⟩ operations).value = ⟨other, last.cartridge⟩ :=
        congrArg Logged.value (run_onDisk hstart other operations)
      rw [helsewhere]
      exact ⟨rfl, rfl, congrArg Logged.value (Cartridge.detach_of_no_path hlast other)⟩
    · intro operation htransfer
      rw [step_of_no_path hlast htransfer, Cartridge.transferWithoutPath, hheader]
  · intro save hsave
    have hbacked : loaded.header.type.isBatteryBacked := by
      rw [hpath, Option.ite_none_right_eq_some, Bool.and_eq_true] at hsave
      exact hsave.1.2
    have hlength : loaded.header.batteryLength = some loaded.header.savedLength := by
      rw [Header.batteryLength_eq, if_pos hbacked]
    have hlast : last.cartridge.savePath = some save := hkept.trans hsave
    have hbacked' : last.cartridge.header.type.isBatteryBacked := hheader ▸ hbacked
    refine ⟨_, hlength, loaded.header.savedLength_le, (wellFormed_run hloaded.wellFormed _).ram_size,
      ?_, disk_run_of_no_save, ?_, ?_⟩
    · rintro after (rfl | rfl)
      · exact elsewhere_run hsave operations
      · rw [detach_eq_run]
        exact elsewhere_run hsave (operations ++ [.saveBattery])
    · intro hwritable
      obtain ⟨place, hslot⟩ := hwritable.exists_slot
      have hsaving : Saving disk save place last := saving_run (.start hslot hsave) operations
      refine ⟨congrArg Prod.fst (hsaving.step_save hbacked'), ?_, ?_⟩
      · rw [detach_eq_run]
        exact read_after_last_save hwritable hsave hbacked operations List.not_mem_nil
      · intro before rest hsplit hrest
        have hread := read_after_last_save hwritable hsave hbacked before hrest
        rw [← hsplit] at hread
        exact hread
    · intro hunwritable
      have hnot := unwritable_of_savePath hsave hunwritable
      have hsame : last.disk = disk := (disk_run_of_unwritable hnot operations).1
      exact ⟨step_save_of_unwritable hbacked' hlast (hsame.symm ▸ hunwritable), hsame,
        detach_of_unwritable hnot operations⟩

/-- A save between two writes to RAM: the save file holds what the first left, unloading puts there what the
second left, and the ROM file stays. -/
theorem only_save_file_changes_blank :
    let rom : Path := ⟨['g', '.', 'g', 'b']⟩
    let save : Path := ⟨['g', '.', 's', 'a', 'v']⟩
    let disk : Disk := ⟨[([['g', '.', 'g', 'b']], .file (Cartridge.blankImage 0x03 0x02))], []⟩
    let before : List Operation := [.write 0x0000 0x0A, .write 0xA000 7]
    let rest : List Operation := [.write 0xA000 9, .reset]
    disk.read save = .error .notFound ∧
      ∃ loaded, ((Source.file rom).load disk #[] {}).value = .ok loaded ∧
        loaded.savePath = some save ∧ loaded.header.batteryLength = some 8192 ∧
        let last := (Session.run ⟨disk, loaded⟩ (before ++ .saveBattery :: rest)).value
        (Session.run ⟨disk, loaded⟩ before).value.drop = disk ∧
          last.drop.read save =
            .ok ((Session.run ⟨disk, loaded⟩ before).value.cartridge.ram.extract 0 8192) ∧
          last.detach.value.read save = .ok (last.cartridge.ram.extract 0 8192) ∧
          last.detach.value.find? [['g', '.', 'g', 'b']] =
            some (.file (Cartridge.blankImage 0x03 0x02)) := by
  intro rom save disk before rest
  have hread : disk.read rom = .ok (Cartridge.blankImage 0x03 0x02) := rfl
  have hbeside : rom.saveFile = save := by decide
  have hwritable : disk.Writable save := ⟨#[], _, rfl⟩
  obtain ⟨loaded, hopen, htype, hcode⟩ := Cartridge.exists_ofFile_blankImage hread
  have hload : ((Source.file rom).load disk #[] {}).value = .ok loaded := hopen
  obtain ⟨hpath, -⟩ := only_save_file_changes hload before
  have hsave : loaded.savePath = some save := by
    rw [hpath, htype, ← hbeside]
    rfl
  obtain ⟨-, -, -, hbefore⟩ := only_save_file_changes hload before
  obtain ⟨-, -, -, -, -, hquiet, -⟩ := hbefore save hsave
  obtain ⟨-, -, -, hrun⟩ := only_save_file_changes hload (before ++ .saveBattery :: rest)
  obtain ⟨len, hlen, -, -, helsewhere, -, hsaved, -⟩ := hrun save hsave
  have hlength : loaded.header.batteryLength = some 8192 := by
    rw [Header.batteryLength, htype, hcode]
    rfl
  obtain rfl : len = 8192 := Option.some.inj (hlen.symm.trans hlength)
  obtain ⟨-, hdetached, hlast⟩ := hsaved hwritable
  obtain ⟨-, hkept⟩ := helsewhere _ (Or.inr rfl)
  have hapart : disk.locate save ≠ .ok [['g', '.', 'g', 'b']] := by
    have hplace : disk.locate save = .ok [['g', '.', 's', 'a', 'v']] := rfl
    rw [hplace]
    simp
  refine ⟨rfl, loaded, hload, hsave, hlength, hquiet ?_, hlast before rest rfl ?_, hdetached,
    hkept _ hapart⟩
  · simp [before]
  · simp [rest]

end Session

end GamePak
