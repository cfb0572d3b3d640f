import GamePak.Proofs.Session.Confinement

/-!
# `Proofs.Session.Snapshot` — a save is a snapshot, and a transfer happens whole or not at all

A save file is looked at before any byte of it is used, and it is replaced in one step. So a transfer in either
direction that fails has changed nothing, and one that succeeds has moved all the bytes that the battery keeps.
What a save left on disk is out of reach of the CPU and the debugger: reading it back later gives the RAM of the
time of the save, whatever was done since, and touches nothing else.

## Contents
- `SaveFile.load_of_read`, `SaveFile.load_eq_ok_iff`, `SaveFile.load_of_error`, `SaveFile.store_cases`: transfers of
  any buffer.
- `Cartridge.loadBattery_of_error`: a load that fails.
- `Session.step_save_eq_ok`: what a save that succeeds leaves.
- `Session.step_load_of_read`, `Session.step_load_after_save`: reading it back.
- `Session.transfers_are_whole`.
-/

namespace GamePak

/-! ## Transfers of any buffer -/

/-- A memory has the start that is asked for, if it is long enough. -/
theorem Bytes.le_size_extract {data : Bytes} {len : Nat} (h : len ≤ data.size) :
    len ≤ (data.extract 0 len).size := by
  rw [Array.size_extract]
  omega

/-- The start of a memory, transferred to another. -/
theorem Bytes.getElem?_overlay_extract {base data : Bytes} {len : Nat} (hdata : len ≤ data.size)
    (offset : Nat) :
    (base.overlay (data.extract 0 len) len)[offset]? =
      if offset < len then data[offset]? else base[offset]? := by
  rw [Bytes.getElem?_overlay (Bytes.le_size_extract hdata)]
  by_cases hoffset : offset < len
  · rw [if_pos hoffset, if_pos hoffset, Array.getElem?_extract, if_pos (by omega), Nat.zero_add]
  · rw [if_neg hoffset, if_neg hoffset]

namespace SaveFile

variable {disk : Disk} {save : Path} {ram data : Bytes} {len : Nat}

/-- A file that is long enough loads. -/
theorem load_of_read (hread : disk.read save = .ok data) (hlen : len ≤ data.size) (ram : Bytes) :
    load disk save ram len = ⟨(.ok (), ram.overlay data len), [.saveRead save]⟩ := by
  rcases load_cases disk save len with ⟨cause, hrefused⟩ | ⟨found, hfound, -, hload⟩
  · have hlong : ¬ data.size < len := Nat.not_lt.2 hlen
    have hcause := hrefused ram
    simp only [load, hread, if_neg hlong] at hcause
    cases congrArg (fun work => work.value.1) hcause
  · rw [hread] at hfound
    obtain rfl := Except.ok.inj hfound
    exact hload ram

/-- **When a file loads**: if and only if it can be read and is long enough. -/
theorem load_eq_ok_iff (ram : Bytes) :
    (load disk save ram len).value.1 = .ok () ↔
      ∃ data, disk.read save = .ok data ∧ len ≤ data.size := by
  constructor
  · intro hok
    rcases load_cases disk save len with ⟨cause, hrefused⟩ | ⟨data, hread, hlen, -⟩
    · rw [hrefused] at hok
      cases hok
    · exact ⟨data, hread, hlen⟩
  · rintro ⟨data, hread, hlen⟩
    rw [load_of_read hread hlen]

/-- A load that fails leaves the buffer as it was. -/
theorem load_of_error {cause : PersistError} (h : (load disk save ram len).value.1 = .error cause) :
    (load disk save ram len).value.2 = ram := by
  rcases load_cases disk save len with ⟨other, hrefused⟩ | ⟨data, -, -, hload⟩
  · rw [hrefused]
    rfl
  · rw [hload] at h
    cases h

/-- **A store replaces the file or changes nothing**, and which of the two does not depend on the bytes. -/
theorem store_cases (disk : Disk) (save : Path) (ram : Bytes) (len : Nat) :
    (∃ place, disk.FileSlot save place ∧ store disk save ram len =
      ⟨(.ok (), disk.insert place (.file (ram.extract 0 len))), [.saveWritten save]⟩) ∨
    (¬ disk.Writable save ∧ ∃ cause, store disk save ram len = pure (.error cause, disk)) := by
  by_cases hwritable : disk.Writable save
  · obtain ⟨place, hslot⟩ := hwritable.exists_slot
    refine Or.inl ⟨place, hslot, ?_⟩
    rw [store, hslot.write]
    rfl
  · refine Or.inr ⟨hwritable, ?_⟩
    cases hwrite : disk.write save (ram.extract 0 len) with
    | ok after => exact absurd ⟨_, _, hwrite⟩ hwritable
    | error cause => exact ⟨.unreachable save cause, by rw [store, hwrite]⟩

end SaveFile

/-! ## Transfers of a cartridge's RAM -/

/-- A battery keeps as much as a save file holds. -/
theorem Header.batteryLength_eq_some {header : Header} {len : Nat}
    (h : header.batteryLength = some len) :
    header.type.isBatteryBacked ∧ len = header.savedLength := by
  rw [batteryLength_eq, Option.ite_none_right_eq_some] at h
  exact ⟨h.1, (Option.some.inj h.2).symm⟩

/-- Whatever a header has a battery keep, RAM has room for it. -/
theorem Cartridge.WellFormed.savedLength_le {cartridge : Cartridge} (h : cartridge.WellFormed)
    (header : Header) : header.savedLength ≤ cartridge.ram.size := by
  rw [h.ram_size]
  exact header.savedLength_le

/-- A load that fails leaves the cartridge as it was. -/
theorem Cartridge.loadBattery_of_error {disk : Disk} {cartridge : Cartridge} {cause : PersistError}
    (h : (cartridge.loadBattery disk).value.1 = .error cause) :
    (cartridge.loadBattery disk).value.2 = cartridge := by
  rcases loadBattery_outcome disk cartridge with
    ⟨other, hfailed⟩ | ⟨-, hnothing⟩ | ⟨save, data, -, -, -, -, hloaded⟩
  · rw [hfailed]
  · rw [hnothing]
  · rw [hloaded] at h
    cases h

namespace Session

variable {session after : Session} {save : Path}

/-! ## A save and what reads it back -/

/-- A save that succeeds leaves the cartridge as it is and, in its save file, the start of RAM. -/
theorem step_save_eq_ok (session : Session)
    (hbacked : session.cartridge.header.type.isBatteryBacked)
    (h : (session.step .saveBattery).value = (.ok (), after)) :
    after.cartridge = session.cartridge ∧ ∃ save, session.cartridge.savePath = some save ∧
      after.disk.read save =
        .ok (session.cartridge.ram.extract 0 session.cartridge.header.savedLength) := by
  obtain ⟨disk, cartridge⟩ := session
  rw [value_step_save, Prod.mk.injEq] at h
  obtain ⟨hdone, rfl⟩ := h
  refine ⟨rfl, ?_⟩
  cases hsave : cartridge.savePath with
  | none =>
      rw [Cartridge.saveBattery_of_no_path hsave, Logged.value_pure, Cartridge.transferWithoutPath,
        if_pos hbacked] at hdone
      cases hdone
  | some save =>
      refine ⟨save, rfl, ?_⟩
      rw [Cartridge.saveBattery_of_backed hbacked hsave] at hdone ⊢
      rcases SaveFile.store_cases disk save cartridge.ram cartridge.header.savedLength with
        ⟨place, hslot, hstored⟩ | ⟨-, cause, hfailed⟩
      · rw [hstored]
        exact Disk.read_after_write hslot _
      · rw [hfailed] at hdone
        cases hdone

/-- Reading back a save file that is long enough. -/
theorem step_load_of_read {data : Bytes} (hbacked : session.cartridge.header.type.isBatteryBacked)
    (hsave : session.cartridge.savePath = some save) (hread : session.disk.read save = .ok data)
    (hlen : session.cartridge.header.savedLength ≤ data.size) :
    (session.step .loadBattery).value = (.ok (), ⟨session.disk, { session.cartridge with
      ram := session.cartridge.ram.overlay data session.cartridge.header.savedLength }⟩) := by
  obtain ⟨disk, cartridge⟩ := session
  simp only [step, Logged.value_map, Cartridge.loadBattery_of_read hbacked hsave hread hlen]

/-- **What is read back is what was saved.** No use but another save reaches the file in between. -/
theorem step_load_after_save (session : Session) (hwf : session.cartridge.WellFormed)
    (hbacked : session.cartridge.header.type.isBatteryBacked)
    (hsaved : (session.step .saveBattery).value = (.ok (), after)) {operations : List Operation}
    (hquiet : .saveBattery ∉ operations) :
    let used := (after.run operations).value
    (used.step .loadBattery).value = (.ok (), ⟨after.disk, { used.cartridge with
      ram := used.cartridge.ram.overlay
        (session.cartridge.ram.extract 0 session.cartridge.header.savedLength)
        session.cartridge.header.savedLength }⟩) := by
  intro used
  obtain ⟨hsame, save, hsave, hread⟩ := step_save_eq_ok session hbacked hsaved
  have hidentity : used.cartridge.identity = session.cartridge.identity := by
    rw [← hsame]
    exact identity_run after operations
  have hheader : used.cartridge.header = session.cartridge.header := congrArg Prod.fst hidentity
  have hpath : used.cartridge.savePath = some save := (congrArg Prod.snd hidentity).trans hsave
  have hdisk : used.disk = after.disk := disk_run_of_no_save hquiet
  have hlength := Bytes.le_size_extract (hwf.savedLength_le session.cartridge.header)
  rw [← hdisk] at hread
  rw [step_load_of_read (hheader ▸ hbacked) hpath hread (hheader ▸ hlength), hheader, hdisk]

/-- **Transfers are whole, and a save is a snapshot.** A buffer is filled from a save file exactly if that can
be read and is long enough, and then its first bytes are those of the file and the others stay; after an error
all of them stay. A store makes the file hold exactly the bytes it was asked to keep and leaves every other place
alone, or it fails and leaves the disk alone; what it stored loads into every buffer.

For every cartridge in use a failed load leaves the cartridge as it was. And if a battery-backed one is saved,
then used in any way but for another save, and then read back, the read succeeds and RAM holds the saved bytes
again, while the rest of RAM, the ROM, all registers, the debugger's note and the disk are as the use left
them. -/
theorem transfers_are_whole :
    (∀ (disk : Disk) (save : Path) (ram : Bytes) (len : Nat), len ≤ ram.size →
      let done := (SaveFile.load disk save ram len).value
      (done.1 = .ok () ↔ ∃ data, disk.read save = .ok data ∧ len ≤ data.size) ∧
      (∀ data, disk.read save = .ok data → len ≤ data.size → done.2.size = ram.size ∧
        ∀ i : Nat, done.2[i]? = if i < len then data[i]? else ram[i]?) ∧
      ∀ cause, done.1 = .error cause → done.2 = ram) ∧
    (∀ (disk : Disk) (save : Path) (ram : Bytes) (len : Nat), len ≤ ram.size →
      let done := (SaveFile.store disk save ram len).value
      (disk.Writable save → done.1 = .ok () ∧ done.2.read save = .ok (ram.extract 0 len) ∧
        (∃ place, disk.target save = .ok place ∧
          ∀ spot, spot ≠ place → done.2.find? spot = disk.find? spot) ∧
        ∀ buffer : Bytes, len ≤ buffer.size →
          let loaded := (SaveFile.load done.2 save buffer len).value
          loaded.1 = .ok () ∧ loaded.2.size = buffer.size ∧
            ∀ i : Nat, loaded.2[i]? = if i < len then ram[i]? else buffer[i]?) ∧
      (¬ disk.Writable save → ∃ cause, done = (.error cause, disk))) ∧
    ∀ session, Reachable session → ∀ disk : Disk,
      let cartridge := session.cartridge
      (∀ cause, (cartridge.loadBattery disk).value.1 = .error cause →
        (cartridge.loadBattery disk).value.2 = cartridge) ∧
      ∀ len after, cartridge.header.batteryLength = some len →
        ((⟨disk, cartridge⟩ : Session).step .saveBattery).value = (.ok (), after) →
        ∀ operations, .saveBattery ∉ operations →
          let used := (after.run operations).value
          let restored := (used.step .loadBattery).value
          restored.1 = .ok () ∧ restored.2.disk = after.disk ∧
            restored.2.cartridge = { used.cartridge with ram := restored.2.cartridge.ram } ∧
            restored.2.cartridge.ram.size = 65536 ∧
            ∀ i : Nat, restored.2.cartridge.ram[i]? =
              if i < len then cartridge.ram[i]? else used.cartridge.ram[i]? := by
  refine ⟨?_, ?_, ?_⟩
  · intro disk save ram len hlen done
    refine ⟨SaveFile.load_eq_ok_iff ram, ?_, fun cause => SaveFile.load_of_error⟩
    intro data hread hdata
    have hdone : done = (.ok (), ram.overlay data len) :=
      congrArg Logged.value (SaveFile.load_of_read hread hdata ram)
    rw [hdone]
    exact ⟨Bytes.size_overlay hlen hdata, Bytes.getElem?_overlay hdata⟩
  · intro disk save ram len hlen done
    rcases SaveFile.store_cases disk save ram len with
      ⟨place, hslot, hstored⟩ | ⟨hunwritable, cause, hfailed⟩
    · have hdone : done = (.ok (), disk.insert place (.file (ram.extract 0 len))) :=
        congrArg Logged.value hstored
      refine ⟨fun _ => ?_, fun hnot => absurd ⟨_, _, hslot.write #[]⟩ hnot⟩
      have hread := Disk.read_after_write hslot (ram.extract 0 len)
      rw [hdone]
      refine ⟨rfl, hread, ⟨place, hslot.target, fun spot => Disk.find?_insert_of_ne disk _⟩, ?_⟩
      intro buffer hbuffer loaded
      have hsize := Bytes.le_size_extract hlen
      have hloaded : loaded = (.ok (), buffer.overlay (ram.extract 0 len) len) :=
        congrArg Logged.value (SaveFile.load_of_read hread hsize buffer)
      rw [hloaded]
      exact ⟨rfl, Bytes.size_overlay hbuffer hsize, Bytes.getElem?_overlay_extract hlen⟩
    · exact ⟨fun hwritable => absurd hwritable hunwritable,
        fun _ => ⟨cause, congrArg Logged.value hfailed⟩⟩
  · intro session hreachable disk cartridge
    have hwf : cartridge.WellFormed := hreachable.wellFormed
    refine ⟨fun cause => Cartridge.loadBattery_of_error, ?_⟩
    intro len after hlength hsaved operations hquiet used restored
    obtain ⟨hbacked, rfl⟩ := Header.batteryLength_eq_some hlength
    have hused : used.cartridge.WellFormed := by
      apply wellFormed_run
      rw [(step_save_eq_ok ⟨disk, cartridge⟩ hbacked hsaved).1]
      exact hwf
    have hrestored : restored = _ := step_load_after_save ⟨disk, cartridge⟩ hwf hbacked hsaved hquiet
    have hfits := hwf.savedLength_le cartridge.header
    rw [hrestored]
    refine ⟨rfl, rfl, rfl, ?_, Bytes.getElem?_overlay_extract hfits⟩
    exact (Bytes.size_overlay (hused.savedLength_le cartridge.header)
      (Bytes.le_size_extract hfits)).trans hused.ram_size

/-- The blank MBC1 cartridge with RAM that was written, saved, written again and read back: the first byte is
the saved one, the second bank is as it was used. -/
theorem transfers_are_whole_blank :
    let rom : Path := ⟨['g', '.', 'g', 'b']⟩
    let disk : Disk := ⟨[([['g', '.', 'g', 'b']], .file (Cartridge.blankImage 0x03 0x02))], []⟩
    ∃ loaded, (Cartridge.ofFile disk rom {}).value = .ok loaded ∧
      loaded.header.batteryLength = some 8192 ∧
      let session := (Session.run ⟨disk, loaded⟩ [.write 0x0000 0x0A, .write 0xA000 7]).value
      ∃ after, (session.step .saveBattery).value = (.ok (), after) ∧
        let used := (after.run [.write 0xA000 9, .saveMapping, .mapRom 5, .debugWrite 0xA001 1]).value
        let restored := (used.step .loadBattery).value
        restored.1 = .ok () ∧ restored.2.cartridge.banks = used.cartridge.banks ∧
          restored.2.cartridge.ram[0]? = session.cartridge.ram[0]? ∧
          restored.2.cartridge.ram[8192]? = used.cartridge.ram[8192]? := by
  intro rom disk
  have hread : disk.read rom = .ok (Cartridge.blankImage 0x03 0x02) := rfl
  have hwritable : disk.Writable rom.saveFile := ⟨#[], _, rfl⟩
  obtain ⟨loaded, hopen, htype, hcode⟩ := Cartridge.exists_ofFile_blankImage hread
  have hlength : loaded.header.batteryLength = some 8192 := by
    rw [Header.batteryLength, htype, hcode]
    rfl
  refine ⟨loaded, hopen, hlength, ?_⟩
  intro session
  have hreachable : Reachable session := ⟨disk, loaded, _, .ofFile rom {} hopen, rfl⟩
  have hheader : session.cartridge.header = loaded.header := header_run ⟨disk, loaded⟩ _
  obtain ⟨found, hfound, hload⟩ := Cartridge.exists_load_of_ofFile hopen
  have hsave : loaded.savePath = some rom.saveFile := by
    rw [Cartridge.savePath_of_load hload, htype]
    rfl
  obtain ⟨place, hslot⟩ := hwritable.exists_slot
  have hsaving : Saving disk rom.saveFile place session := saving_run (.start hslot hsave) _
  have hbacked : session.cartridge.header.type.isBatteryBacked := by
    rw [hheader, htype]
    rfl
  have hsaved := hsaving.step_save hbacked
  refine ⟨_, hsaved, ?_⟩
  intro used restored
  obtain ⟨-, -, hwhole⟩ := transfers_are_whole
  obtain ⟨-, hsnapshot⟩ := hwhole session hreachable session.disk
  obtain ⟨hdone, -, hcartridge, -, hram⟩ := hsnapshot 8192 _ (hheader ▸ hlength) hsaved
    [.write 0xA000 9, .saveMapping, .mapRom 5, .debugWrite 0xA001 1] (by simp)
  exact ⟨hdone, by rw [hcartridge], hram 0, hram 8192⟩

end Session

end GamePak
