import GamePak.Log

/-!
# `Proofs.Log` — what stands in a log

An event is data, and who reads the log sees a level and a wording only. That is enough: the wordings at one
level differ in their second letter already, but for the two on the ROM that is loaded, and behind a wording's
first words stands what the event is about.

## Contents
- `Event.line`, `Logged.log`: what is seen of an event, and of work that reports.
- `Event.mark`, `Event.mark_of_toList`: the letter that tells a wording.
- `Event.line_eq_saveRead_iff`, `Event.line_eq_saveNotRead_iff`: a line on a save file tells its event.
- `Logged.mem_log_saveRead_iff`, `Logged.mem_log_saveNotRead_iff`: the same within a log.
-/

namespace GamePak

/-- The line of an event in a log. -/
def Event.line (event : Event) : Level × String :=
  (event.level, event.text)

/-- The log of work that reports: a line for each event, in order. -/
def Logged.log {α : Type} (work : Logged α) : List (Level × String) :=
  work.events.map Event.line

/-! ## One line -/

namespace Event

/-- The second letter of an event's wording. -/
def mark : Event → Char
  | .loadingRom _ => 'o'
  | .trailingBytes _ _ => 'O'
  | .badChecksum _ _ => 'h'
  | .romLoaded _ _ => 'o'
  | .typeUnsupported _ => 'a'
  | .saveRead _ => 'e'
  | .saveNotRead _ => 'r'
  | .saveWritten _ => 'r'
  | .saveNotWritten _ => 'r'
  | .ramBankSelected _ => 'B'
  | .mappingForced _ => 'a'
  | .mappingRestored _ => 'O'

theorem text_getElem?_one (event : Event) : event.text.toList[1]? = some event.mark := by
  -- opened as a whole, since the single equations of the wordings are slow to make
  unfold text
  cases event <;> simp only [String.toList_append] <;> rfl

/-- A wording has one second letter. -/
theorem mark_of_toList {event : Event} {chars : List Char} {letter : Char}
    (h : event.text.toList = chars) (hletter : chars[1]? = some letter) : event.mark = letter := by
  rw [← h, text_getElem?_one] at hletter
  exact Option.some.inj hletter

theorem line_eq_saveRead_iff (event : Event) (save : Path) :
    event.line = (.info, s!"Read SRAM from '{save}'") ↔ event = .saveRead save := by
  constructor
  · intro h
    obtain ⟨hlevel, htext⟩ := Prod.mk.inj h
    have hmark : event.mark = 'e' := by
      refine mark_of_toList (congrArg String.toList htext) ?_
      simp only [String.toList_append]
      rfl
    cases event with
    | saveRead other =>
        have hsame : s!"Read SRAM from '{other}'" = s!"Read SRAM from '{save}'" := htext
        have hpath : other.toString = save.toString := by
          simpa [ToString.toString] using hsame
        have hread := congrArg Path.ofString hpath
        rw [Path.ofString_toString, Path.ofString_toString] at hread
        exact congrArg saveRead hread
    | _ => simp [level, mark] at hlevel hmark
  · rintro rfl
    rfl

theorem line_eq_saveNotRead_iff (event : Event) (text : String) :
    event.line = (.warning, "Error loading battery RAM: " ++ text) ↔
      ∃ cause, event = .saveNotRead cause ∧ text = cause.message := by
  constructor
  · intro h
    obtain ⟨hlevel, htext⟩ := Prod.mk.inj h
    have hmark : event.mark = 'r' := by
      refine mark_of_toList (congrArg String.toList htext) ?_
      rw [String.toList_append]
      rfl
    cases event with
    | saveNotRead cause =>
        have hsame : s!"Error loading battery RAM: {cause}" =
            "Error loading battery RAM: " ++ text := htext
        exact ⟨cause, rfl, by simpa [ToString.toString] using hsame.symm⟩
    | _ => simp [level, mark] at hlevel hmark
  · rintro ⟨cause, rfl, rfl⟩
    rfl

end Event

/-! ## A log -/

namespace Logged

variable {α : Type}

theorem mem_log_saveRead_iff (work : Logged α) (save : Path) :
    (.info, s!"Read SRAM from '{save}'") ∈ work.log ↔ .saveRead save ∈ work.events := by
  simp [log, List.mem_map, Event.line_eq_saveRead_iff]

theorem mem_log_saveNotRead_iff (work : Logged α) (text : String) :
    (.warning, "Error loading battery RAM: " ++ text) ∈ work.log ↔
      ∃ cause, .saveNotRead cause ∈ work.events ∧ text = cause.message := by
  simp only [log, List.mem_map, Event.line_eq_saveNotRead_iff]
  constructor
  · rintro ⟨_, hmem, cause, rfl, htext⟩
    exact ⟨cause, hmem, htext⟩
  · rintro ⟨cause, hmem, htext⟩
    exact ⟨_, hmem, cause, rfl, htext⟩

end Logged

end GamePak
