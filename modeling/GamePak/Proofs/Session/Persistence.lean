import GamePak.Proofs.Disk
import GamePak.Proofs.Session.Invariant

/-!
# `Proofs.Session.Persistence` — what a session does to its disk

Of all operations only a save reaches the disk, and unloading is one more save. A save goes through the save
path of the cartridge, which no operation changes. So the disk after a session is the disk before it but for
the one file that the save path leads to, and where that file cannot be written nothing changes at all.

## Contents
- `Session.disk_step`: the disk after an operation.
- `Session.Saving`, `Session.saving_run`: a save path that can be written through, kept by every run.
- `Session.disk_run_of_unwritable`: no save path, or one that cannot be written through.
- `Session.detach_eq_step`, `Session.detach_eq_run`, `Session.detach_of_saving`, `Session.detach_of_unwritable`:
  unloading after a run.
-/

namespace GamePak.Session

variable {disk : Disk} {save : Path} {place : Location} {session : Session} {cartridge : Cartridge}

/-! ## One operation -/

/-- **What an operation does to the disk**: nothing, unless it is a save that succeeds. -/
theorem disk_step (session : Session) (operation : Operation) :
    (session.step operation).value.2.disk = session.disk ∨
      ∃ save, session.cartridge.savePath = some save ∧
        session.disk.write save
          (session.cartridge.ram.extract 0 session.cartridge.header.savedLength) =
            .ok (session.step operation).value.2.disk := by
  obtain ⟨disk, cartridge⟩ := session
  cases operation with
  | saveBattery => exact Cartridge.saveBattery_cases disk cartridge
  | write address value => exact Or.inl rfl
  | reset => exact Or.inl rfl
  | saveMapping => exact Or.inl rfl
  | mapRom bank => exact Or.inl rfl
  | restoreMapping => exact Or.inl rfl
  | debugWrite address value => exact Or.inl rfl
  | loadBattery => exact Or.inl rfl

theorem savePath_step (session : Session) (operation : Operation) :
    (session.step operation).value.2.cartridge.savePath = session.cartridge.savePath :=
  congrArg Prod.snd (identity_step session operation)

/-- Unloading changes the disk as one more save does. -/
theorem detach_eq_step (session : Session) :
    session.detach.value = (session.step .saveBattery).value.2.disk :=
  Cartridge.value_detach session.disk session.cartridge

/-- Unloading after a run is a run that ends in a save. -/
theorem detach_eq_run (session : Session) (operations : List Operation) :
    (session.run operations).value.detach.value =
      (session.run (operations ++ [.saveBattery])).value.disk := by
  rw [detach_eq_step, run_append]
  rfl

/-! ## A save path that can be written through -/

/-- The disk is `disk` but for the file at `place`, and there the cartridge saves. -/
structure Saving (disk : Disk) (save : Path) (place : Location) (session : Session) : Prop where
  slot : session.disk.FileSlot save place
  agree : Disk.AgreeOff place disk session.disk
  savePath : session.cartridge.savePath = some save

theorem Saving.start (hslot : disk.FileSlot save place) (hsave : cartridge.savePath = some save) :
    Saving disk save place ⟨disk, cartridge⟩ :=
  ⟨hslot, .refl place disk, hsave⟩

theorem saving_step (session : Session) (operation : Operation)
    (h : Saving disk save place session) :
    Saving disk save place (session.step operation).value.2 := by
  have hsave := (savePath_step session operation).trans h.savePath
  rcases disk_step session operation with hsame | ⟨path, hpath, hwrite⟩
  · refine ⟨?_, ?_, hsave⟩
    · rw [hsame]
      exact h.slot
    · rw [hsame]
      exact h.agree
  · obtain rfl : path = save := Option.some.inj (hpath.symm.trans h.savePath)
    rw [h.slot.write] at hwrite
    have hafter := (Except.ok.inj hwrite).symm
    refine ⟨?_, ?_, hsave⟩
    · rw [hafter]
      exact h.slot.insert _
    · rw [hafter]
      exact h.agree.trans (Disk.agreeOff_insert ..)

theorem saving_run (h : Saving disk save place session) (operations : List Operation) :
    Saving disk save place (session.run operations).value :=
  run_invariant (Saving disk save place) saving_step h operations

/-- Unloading leaves the start of RAM in the save file. -/
theorem Saving.detach_eq (h : Saving disk save place session)
    (hbattery : session.cartridge.header.type.isBatteryBacked) :
    session.detach.value = session.disk.insert place
      (.file (session.cartridge.ram.extract 0 session.cartridge.header.savedLength)) :=
  Cartridge.detach_of_write hbattery h.savePath (h.slot.write _)

/-- **After a session with a save file that can be written**, unloading included, the file holds the start
of RAM, and all other locations what they held before. -/
theorem detach_of_saving (hslot : disk.FileSlot save place) (hsave : cartridge.savePath = some save)
    (hbattery : cartridge.header.type.isBatteryBacked) (operations : List Operation) :
    let last := (run ⟨disk, cartridge⟩ operations).value
    let saved := last.cartridge.ram.extract 0 cartridge.header.savedLength
    Disk.AgreeOff place disk last.detach.value ∧
      last.detach.value.find? place = some (.file saved) ∧
      last.detach.value.read save = .ok saved := by
  intro last saved
  have hsaving : Saving disk save place last := saving_run (.start hslot hsave) operations
  have hheader : last.cartridge.header = cartridge.header := header_run ⟨disk, cartridge⟩ operations
  have hdetach := hsaving.detach_eq (hheader ▸ hbattery)
  rw [hheader] at hdetach
  rw [hdetach]
  exact ⟨hsaving.agree.trans (Disk.agreeOff_insert ..),
    Disk.find?_insert_self _ _ hsaving.slot.ne_root, Disk.read_after_write hsaving.slot saved⟩

/-! ## No place to save -/

theorem unwritable_of_savePath (hsave : cartridge.savePath = some save) (hnot : ¬ disk.Writable save) :
    ∀ path, cartridge.savePath = some path → ¬ disk.Writable path := by
  intro path hpath
  obtain rfl : save = path := Option.some.inj (hsave.symm.trans hpath)
  exact hnot

/-- A save path that leads nowhere, on the disk that a session started with, is never written through. -/
theorem disk_run_of_unwritable
    (hnot : ∀ save, cartridge.savePath = some save → ¬ disk.Writable save)
    (operations : List Operation) :
    (run ⟨disk, cartridge⟩ operations).value.disk = disk ∧
      (run ⟨disk, cartridge⟩ operations).value.cartridge.savePath = cartridge.savePath := by
  refine run_invariant
    (fun session => session.disk = disk ∧ session.cartridge.savePath = cartridge.savePath)
    ?_ ⟨rfl, rfl⟩ operations
  intro session operation h
  refine ⟨?_, (savePath_step session operation).trans h.2⟩
  rcases disk_step session operation with hsame | ⟨save, hsave, hwrite⟩
  · exact hsame.trans h.1
  · rw [h.1] at hwrite
    exact absurd ⟨_, _, hwrite⟩ (hnot save (h.2.symm.trans hsave))

/-- **After a session that has no place to save**, unloading included, the disk is as before. -/
theorem detach_of_unwritable
    (hnot : ∀ save, cartridge.savePath = some save → ¬ disk.Writable save)
    (operations : List Operation) :
    (run ⟨disk, cartridge⟩ operations).value.detach.value = disk := by
  rw [detach_eq_run]
  exact (disk_run_of_unwritable hnot (operations ++ [.saveBattery])).1

end GamePak.Session
