import GamePak.Cartridge.Debugger
import GamePak.Cartridge.Load

/-!
# `GamePak.Session` — a cartridge in use

A session is a cartridge and the disk it keeps its battery RAM on. Whatever happens to the two
between loading and unloading is one of a few operations.

## Contents
- `Session`, `Operation`.
- `Session.step`: the session after an operation, whether it succeeded, and what it reported.
- `Session.run`: the same for operations in order (`Session.run_append`, `Session.run_invariant`).
- `Session.detach`: the disk after unloading; `Session.drop`: the disk of a cartridge that is not unloaded.
-/

namespace GamePak

/-- A cartridge and the disk beside it. -/
structure Session where
  disk : Disk
  cartridge : Cartridge

/-- What can happen to a cartridge in use: three things the CPU or the user does, four that the
debugger does, and the transfer of battery RAM. -/
inductive Operation where
  | write (address : UInt16) (value : UInt8)
  | reset
  | saveMapping
  | mapRom (bank : UInt16)
  | restoreMapping
  | debugWrite (address : UInt16) (value : UInt8)
  | loadBattery
  | saveBattery
deriving DecidableEq, Repr

namespace Session

/-- The session after an operation, and how the operation went: only the transfer of battery RAM can
fail. -/
def step : Session → Operation → Logged (Except PersistError Unit × Session)
  | ⟨disk, cartridge⟩, .write address value =>
    (fun cartridge => (.ok (), ⟨disk, cartridge⟩)) <$> cartridge.write address value
  | ⟨disk, cartridge⟩, .reset => pure (.ok (), ⟨disk, cartridge.reset⟩)
  | ⟨disk, cartridge⟩, .saveMapping => pure (.ok (), ⟨disk, cartridge.saveMapping⟩)
  | ⟨disk, cartridge⟩, .mapRom bank => pure (.ok (), ⟨disk, cartridge.mapRom bank⟩)
  | ⟨disk, cartridge⟩, .restoreMapping =>
    (fun cartridge => (.ok (), ⟨disk, cartridge⟩)) <$> cartridge.restoreMapping
  | ⟨disk, cartridge⟩, .debugWrite address value =>
    pure (.ok (), ⟨disk, cartridge.debugWrite address value⟩)
  | ⟨disk, cartridge⟩, .loadBattery =>
    (fun (result, cartridge) => (result, ⟨disk, cartridge⟩)) <$> cartridge.loadBattery disk
  | ⟨disk, cartridge⟩, .saveBattery =>
    (fun (result, disk) => (result, ⟨disk, cartridge⟩)) <$> cartridge.saveBattery disk

/-- The session after operations in order. A failed transfer does not end it. -/
def run (session : Session) : List Operation → Logged Session
  | [] => pure session
  | operation :: rest => do
    let (_, session) ← session.step operation
    session.run rest

@[simp] theorem run_nil (session : Session) : session.run [] = pure session := rfl

theorem run_cons (session : Session) (operation : Operation) (rest : List Operation) :
    session.run (operation :: rest) = session.step operation >>= fun done => done.2.run rest := rfl

/-- A run may be cut anywhere. -/
theorem run_append (session : Session) (first second : List Operation) :
    session.run (first ++ second) = session.run first >>= fun between => between.run second := by
  induction first generalizing session with
  | nil => simp
  | cons operation rest ih => simp [run_cons, ih]

/-- What every step keeps, every run keeps. -/
theorem run_invariant (kept : Session → Prop)
    (hstep : ∀ session operation, kept session → kept (session.step operation).value.2)
    {session : Session} (h : kept session) (operations : List Operation) :
    kept (session.run operations).value := by
  induction operations generalizing session with
  | nil => exact h
  | cons operation rest ih => exact ih (hstep session operation h)

/-- The disk after the cartridge is unloaded. -/
def detach (session : Session) : Logged Disk :=
  session.cartridge.detach session.disk

/-- The disk after the cartridge is let go of without being unloaded. Only unloading saves. -/
def drop (session : Session) : Disk :=
  session.disk

end Session

end GamePak
