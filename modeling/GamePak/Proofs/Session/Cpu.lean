import GamePak.Proofs.Cartridge.Physical
import GamePak.Session

/-!
# `Proofs.Session.Cpu` — runs of a program

A program that runs undisturbed does two things to a cartridge: it writes, and it is reset. Such a run
leaves the disk alone and so is a run of the cartridge.

## Contents
- `CpuOperation`, `CpuOperation.toOperation`; `CpuOperation.written?`, `CpuOperation.onReset?`: what one of
  them gives a register.
- `Cartridge.operate`, `Cartridge.drive`: the cartridge after one operation and after many.
- `Cartridge.drive_invariant`; `WellFormed.drive`, `Cartridge.identity_drive`, `Cartridge.rom_drive`: what a
  program keeps.
- `Cartridge.drive_follows`: how a program goes along with its history.
- `Session.run_cpu`: a session's run of such operations.
-/

namespace GamePak

/-- What a program does to a cartridge. -/
inductive CpuOperation where
  | write (address : UInt16) (value : UInt8)
  | reset
deriving DecidableEq, Repr

namespace CpuOperation

/-- The same among all operations of a session. -/
def toOperation : CpuOperation → Operation
  | .write address value => .write address value
  | .reset => .reset

/-- The value of a write to an address from `first` to `last`. -/
def written? (first last : Nat) : CpuOperation → Option UInt8
  | .write address value =>
    if first ≤ address.toNat ∧ address.toNat ≤ last then some value else none
  | .reset => none

/-- What a reset gives a register that it sets to `a`. -/
def onReset? {α : Type} (a : α) : CpuOperation → Option α
  | .write _ _ => none
  | .reset => some a

end CpuOperation

namespace Cartridge

/-- The cartridge after an operation of the program. -/
def operate (cartridge : Cartridge) : CpuOperation → Cartridge
  | .write address value => (cartridge.write address value).value
  | .reset => cartridge.reset

/-- The cartridge after operations in order. -/
def drive (cartridge : Cartridge) (operations : List CpuOperation) : Cartridge :=
  operations.foldl operate cartridge

theorem drive_append (cartridge : Cartridge) (first second : List CpuOperation) :
    cartridge.drive (first ++ second) = (cartridge.drive first).drive second :=
  List.foldl_append

/-- What writes and resets keep, a program keeps. -/
theorem drive_invariant (kept : Cartridge → Prop)
    (hwrite : ∀ cartridge address value, kept cartridge → kept (cartridge.write address value).value)
    (hreset : ∀ cartridge, kept cartridge → kept cartridge.reset)
    {cartridge : Cartridge} (h : kept cartridge) (operations : List CpuOperation) :
    kept (cartridge.drive operations) := by
  induction operations generalizing cartridge with
  | nil => exact h
  | cons operation rest ih =>
      cases operation with
      | write address value => exact ih (hwrite cartridge address value h)
      | reset => exact ih (hreset cartridge h)

theorem WellFormed.drive {cartridge : Cartridge} (h : cartridge.WellFormed)
    (operations : List CpuOperation) : (cartridge.drive operations).WellFormed :=
  drive_invariant WellFormed (fun _ address value hwf => hwf.write address value)
    (fun _ hwf => hwf.reset) h operations

theorem identity_drive (cartridge : Cartridge) (operations : List CpuOperation) :
    (cartridge.drive operations).identity = cartridge.identity :=
  drive_invariant (fun later => later.identity = cartridge.identity)
    (fun later address value h => (later.identity_write address value).trans h)
    (fun _ h => h) rfl operations

/-- A program does not change its ROM. -/
theorem rom_drive (cartridge : Cartridge) (operations : List CpuOperation) :
    (cartridge.drive operations).rom = cartridge.rom :=
  drive_invariant (fun later => later.rom = cartridge.rom)
    (fun later address value h => (later.rom_write address value).trans h)
    (fun _ h => h) rfl operations

/-- What one operation carries a step further along the history, a program carries along all of its
operations. -/
theorem drive_follows {follows : List CpuOperation → Cartridge → Prop}
    (hoperate : ∀ past cartridge operation, follows past cartridge →
      follows (operation :: past) (cartridge.operate operation))
    {past : List CpuOperation} {cartridge : Cartridge} (h : follows past cartridge)
    (operations : List CpuOperation) :
    follows (operations.reverse ++ past) (cartridge.drive operations) := by
  -- what has just happened goes to the front of the history
  induction operations generalizing past cartridge with
  | nil => exact h
  | cons operation rest ih =>
      rw [List.reverse_cons, List.append_assoc]
      exact ih (hoperate past cartridge operation h)

end Cartridge

/-- A program works on the cartridge alone. -/
theorem Session.run_cpu (disk : Disk) (cartridge : Cartridge) (operations : List CpuOperation) :
    (Session.run ⟨disk, cartridge⟩ (operations.map CpuOperation.toOperation)).value =
      ⟨disk, cartridge.drive operations⟩ := by
  induction operations generalizing cartridge with
  | nil => rfl
  | cons operation rest ih =>
      cases operation with
      | write address value => exact ih (cartridge.write address value).value
      | reset => exact ih cartridge.reset

end GamePak
