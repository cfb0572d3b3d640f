import GamePak.Proofs.History
import GamePak.Proofs.Session.Cpu

/-!
# `Proofs.Controller.Register` — a register as a program knows it

A program knows a register by four things: the addresses at which it takes writes, what it keeps of the
value written, what it holds after power-on, and whether a reset brings that back. From these and the
history alone follows what the register holds, whatever other registers the same history set.

## Contents
- `Register`, and `Register.held`: what it holds after a history.
- `Register.held_write`, `Register.held_reset`: one more operation.
- `Register.held_induction`: what holds of everything that the register can keep.
-/

namespace GamePak

open History

/-- A register of a controller, told by how a program reaches it. -/
structure Register (α : Type) where
  /-- Whether a write to an address is for this register. -/
  answers : Nat → Bool
  /-- What it keeps of the value written. -/
  keep : UInt8 → α
  /-- What it holds after power-on. -/
  initial : α
  /-- Whether a reset brings that back. -/
  resets : Bool

namespace Register

/-- The addresses from `first` to `last`. -/
def window (first last address : Nat) : Bool :=
  first ≤ address && address ≤ last

variable {α : Type} (register : Register α)

/-- What an operation of the program gives the register, if anything. -/
def given? : CpuOperation → Option α
  | .write address value =>
    if register.answers address.toNat then some (register.keep value) else none
  | .reset => if register.resets then some register.initial else none

/-- What the register holds after a history: what it was given last. -/
def held : List CpuOperation → α :=
  latest (fun _ operation => register.given? operation) register.initial

theorem held_write (past : List CpuOperation) (address : UInt16) (value : UInt8) :
    register.held (.write address value :: past) =
      if register.answers address.toNat then register.keep value else register.held past := by
  unfold held
  by_cases h : register.answers address.toNat
  · rw [if_pos h]
    exact latest_cons_hit (if_pos h)
  · rw [if_neg h]
    exact latest_cons_miss (if_neg h)

theorem held_reset (past : List CpuOperation) :
    register.held (.reset :: past) =
      if register.resets then register.initial else register.held past := by
  unfold held
  by_cases h : register.resets
  · rw [if_pos h]
    exact latest_cons_hit (if_pos h)
  · rw [if_neg h]
    exact latest_cons_miss (if_neg h)

/-- What holds after power-on and of everything that the register keeps holds after every history. -/
theorem held_induction {P : α → Prop} (hinitial : P register.initial)
    (hkeep : ∀ value, P (register.keep value)) (history : List CpuOperation) :
    P (register.held history) := by
  refine latest_induction hinitial ?_ history
  intro past operation a hgiven
  cases operation with
  | write address value =>
      simp only [given?, Option.ite_none_right_eq_some, Option.some.injEq] at hgiven
      obtain ⟨-, rfl⟩ := hgiven
      exact hkeep value
  | reset =>
      simp only [given?, Option.ite_none_right_eq_some, Option.some.injEq] at hgiven
      obtain ⟨-, rfl⟩ := hgiven
      exact hinitial

end Register

end GamePak
