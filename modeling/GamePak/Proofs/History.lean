/-!
# `Proofs.History` — what the last of many events says

A register holds what was last put into it. To say so of a whole run, the events of the run are listed as
a history, newest first, and searched backwards for the first one that hits the register. Whether an
event hits, and with what, may depend on the events before it.

## Contents
- `History.latest`: what the latest hit of a history gave.
- `History.latest_cons_hit`, `History.latest_cons_miss`: one more event.
- `History.latest_cases`: the latest hit has no hit after it.
-/

namespace GamePak.History

variable {ε α : Type}

/-- What the latest hit of a history gave, or `start` where nothing hit. The history has its newest
event first; `hit past event` is what `event` gives, coming after `past`, if it is a hit at all. -/
def latest (hit : List ε → ε → Option α) (start : α) : List ε → α
  | [] => start
  | event :: past => (hit past event).getD (latest hit start past)

variable {hit : List ε → ε → Option α} {start : α} {event : ε} {past : List ε}

/-- A hit decides. -/
theorem latest_cons_hit {a : α} (h : hit past event = some a) :
    latest hit start (event :: past) = a := by
  simp only [latest, h, Option.getD_some]

/-- A miss changes nothing. -/
theorem latest_cons_miss (h : hit past event = none) :
    latest hit start (event :: past) = latest hit start past := by
  simp only [latest, h, Option.getD_none]

/-- **The latest hit.** Either nothing hit and the start stands, or some event hit, nothing that came
after it did, and what it gave stands. -/
theorem latest_cases (hit : List ε → ε → Option α) (start : α) (history : List ε) :
    (latest hit start history = start ∧
      ∀ later event past, history = later ++ event :: past → hit past event = none) ∨
    ∃ recent event past, history = recent ++ event :: past ∧
      hit past event = some (latest hit start history) ∧
      ∀ later other earlier, recent = later ++ other :: earlier →
        hit (earlier ++ event :: past) other = none := by
  induction history with
  | nil =>
      refine Or.inl ⟨rfl, ?_⟩
      intro later event past hsplit
      simp at hsplit
  | cons newest rest ih =>
      cases hnewest : hit rest newest with
      | some a =>
          refine Or.inr ⟨[], newest, rest, rfl, ?_, ?_⟩
          · rw [latest_cons_hit hnewest]
            exact hnewest
          · intro later other earlier hsplit
            simp at hsplit
      | none =>
          rw [latest_cons_miss hnewest]
          -- a miss goes in front of the events that missed before
          rcases ih with ⟨hstart, hmiss⟩ | ⟨recent, event, past, rfl, hhit, hmiss⟩
          · refine Or.inl ⟨hstart, ?_⟩
            intro later event past hsplit
            rcases List.cons_eq_append_iff.1 hsplit with ⟨-, hnil⟩ | ⟨front, -, hrest⟩
            · cases hnil
              exact hnewest
            · exact hmiss front event past hrest
          · refine Or.inr ⟨newest :: recent, event, past, rfl, hhit, ?_⟩
            intro later other earlier hsplit
            rcases List.cons_eq_append_iff.1 hsplit with ⟨-, hnil⟩ | ⟨front, -, hrest⟩
            · cases hnil
              exact hnewest
            · exact hmiss front other earlier hrest

/-- What holds of the start and of everything that a hit can give holds of the latest. -/
theorem latest_induction {P : α → Prop} (hstart : P start)
    (hhit : ∀ past event a, hit past event = some a → P a) (history : List ε) :
    P (latest hit start history) := by
  rcases latest_cases hit start history with ⟨h, -⟩ | ⟨-, event, past, -, h, -⟩
  · rw [h]
    exact hstart
  · exact hhit past event _ h

end GamePak.History
