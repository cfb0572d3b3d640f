import GamePak.Proofs.History
import GamePak.Proofs.Session.Invariant

/-!
# `Proofs.Session.History` — what a session holds after a history

What an operation does depends on the state it meets, and so on everything that was done before. A history
lists that, newest first, so the state that an operation met is the one after the rest of the history.

## Contents
- `Session.after`: the session after a history (`Session.after_cons`, `Session.after_reverse`).
- `Session.latest_after`: from one step to a run, for anything that is seen of a session.
-/

namespace GamePak.Session

open History

/-- The session after a history, which has its newest operation first. -/
def after (start : Session) (history : List Operation) : Session :=
  (start.run history.reverse).value

@[simp] theorem after_nil (start : Session) : start.after [] = start := rfl

theorem after_cons (start : Session) (operation : Operation) (past : List Operation) :
    start.after (operation :: past) = ((start.after past).step operation).value.2 := by
  simp [after, run_append, run_cons]

theorem after_reverse (start : Session) (operations : List Operation) :
    start.after operations.reverse = (start.run operations).value := by
  rw [after, List.reverse_reverse]

theorem wellFormed_after {start : Session} (h : start.cartridge.WellFormed)
    (history : List Operation) : (start.after history).cartridge.WellFormed :=
  wellFormed_run h history.reverse

theorem header_after (start : Session) (history : List Operation) :
    (start.after history).cartridge.header = start.cartridge.header :=
  header_run start history.reverse

/-- **From a step to a run.** If each step gives what is seen of the session a new value where the step is
a hit, and leaves it where it is none, then after a run the latest hit shows. -/
theorem latest_after {α : Type} {start : Session} (hstart : start.cartridge.WellFormed)
    (view : Session → α) (hit : Session → Operation → Option α)
    (hstep : ∀ session operation, session.cartridge.WellFormed →
      view (session.step operation).value.2 = (hit session operation).getD (view session))
    (history : List Operation) :
    view (start.after history) =
      latest (fun past operation => hit (start.after past) operation) (view start) history := by
  induction history with
  | nil => rfl
  | cons operation past ih =>
      rw [after_cons, hstep _ _ (wellFormed_after hstart past), ih]
      rfl

end GamePak.Session
