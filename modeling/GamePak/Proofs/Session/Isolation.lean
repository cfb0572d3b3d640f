import GamePak.Proofs.Session.Invariant

/-!
# `Proofs.Session.Isolation` — a cartridge without a save path

A cartridge that has no save path has no way to a disk: a transfer of battery RAM, in either direction, ends
before a file is looked for. So whatever is done with it, it goes the same way on every disk, and the disk
stays as it is. Both are one equation: with another disk in place of its own, a session takes the same steps
with that disk in place.

## Contents
- `Cartridge.transferWithoutPath`: how a transfer without a save path ends
  (`Cartridge.loadBattery_of_no_path`, `Cartridge.saveBattery_of_no_path`, `Cartridge.detach_of_no_path`).
- `Session.onDisk`; `Session.step_onDisk`, `Session.run_onDisk`: steps and runs on another disk.
-/

namespace GamePak

/-! ## Transfers -/

namespace Cartridge

variable {cartridge : Cartridge}

/-- How a transfer ends for a cartridge without a save path: a battery misses it, and without a battery there
is nothing to transfer. -/
def transferWithoutPath (cartridge : Cartridge) : Except PersistError Unit :=
  if cartridge.header.type.isBatteryBacked then .error .noSavePath else .ok ()

theorem battery_of_no_path (h : cartridge.savePath = none) :
    cartridge.battery =
      if cartridge.header.type.isBatteryBacked then .error .noSavePath else .ok none := by
  rw [battery, Header.batteryLength_eq, h]
  by_cases hbacked : cartridge.header.type.isBatteryBacked
  · rw [if_pos hbacked, if_pos hbacked]
  · rw [if_neg hbacked, if_neg hbacked]

theorem loadBattery_of_no_path (h : cartridge.savePath = none) (disk : Disk) :
    cartridge.loadBattery disk = pure (cartridge.transferWithoutPath, cartridge) := by
  rw [loadBattery, battery_of_no_path h, transferWithoutPath]
  by_cases hbacked : cartridge.header.type.isBatteryBacked
  · rw [if_pos hbacked, if_pos hbacked]
  · rw [if_neg hbacked, if_neg hbacked]

theorem saveBattery_of_no_path (h : cartridge.savePath = none) (disk : Disk) :
    cartridge.saveBattery disk = pure (cartridge.transferWithoutPath, disk) := by
  rw [saveBattery, battery_of_no_path h, transferWithoutPath]
  by_cases hbacked : cartridge.header.type.isBatteryBacked
  · rw [if_pos hbacked, if_pos hbacked]
  · rw [if_neg hbacked, if_neg hbacked]

/-- Unloading does not even try. -/
theorem detach_of_no_path (h : cartridge.savePath = none) (disk : Disk) :
    cartridge.detach disk = pure disk := by
  rw [detach, h]
  rfl

end Cartridge

namespace Session

variable {session : Session}

/-! ## The same on another disk -/

/-- The session with another disk in place of its own. -/
def onDisk (session : Session) (disk : Disk) : Session :=
  ⟨disk, session.cartridge⟩

/-- **A step without a save path** is the same step on every disk, and the disk stays. -/
theorem step_onDisk (h : session.cartridge.savePath = none) (disk : Disk) (operation : Operation) :
    (session.onDisk disk).step operation =
      (fun done => (done.1, done.2.onDisk disk)) <$> session.step operation := by
  obtain ⟨own, cartridge⟩ := session
  cases operation with
  | write address value => simp only [onDisk, step, Functor.map_map]
  | reset => rfl
  | saveMapping => rfl
  | mapRom bank => rfl
  | restoreMapping => simp only [onDisk, step, Functor.map_map]
  | debugWrite address value => rfl
  | loadBattery =>
      simp only [onDisk, step, Cartridge.loadBattery_of_no_path h, map_pure]
  | saveBattery =>
      simp only [onDisk, step, Cartridge.saveBattery_of_no_path h, map_pure]

/-- **A run without a save path** is the same run on every disk, and the disk stays. -/
theorem run_onDisk (h : session.cartridge.savePath = none) (disk : Disk)
    (operations : List Operation) :
    (session.onDisk disk).run operations = (·.onDisk disk) <$> session.run operations := by
  -- no step gives the cartridge a save path
  induction operations generalizing session with
  | nil => rfl
  | cons operation rest ih =>
      have hnext : (session.step operation).value.2.cartridge.savePath = none :=
        (congrArg Prod.snd (identity_step session operation)).trans h
      rw [run_cons, run_cons, step_onDisk h]
      apply Logged.ext
      · simp only [Logged.value_bind, Logged.value_map, ih hnext]
      · simp only [Logged.events_bind, Logged.events_map, Logged.value_map, ih hnext]

end Session

end GamePak
