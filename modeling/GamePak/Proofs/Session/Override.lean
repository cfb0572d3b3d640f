import GamePak.Proofs.Session.History

/-!
# `Proofs.Session.Override` — the note that a debugger goes back to

The override slot holds one note: the bank that the program had mapped when the debugger first broke in.
Later notes are not taken until the mapping is put back, whatever program and debugger do meanwhile. So
what the slot holds is told by the history: by the first note since the mapping was last put back.

## Contents
- `Session.Noted`, `Session.NotedAfter`: that a history left a note, and when it was taken.
- `Session.override_step_of_ne` and its companions: what one operation does to the slot.
- `Session.override_after_of_not_noted`, `Session.override_after_of_notedAfter`: the slot after a history.
- `Session.override_after_eq_idle_iff`, `Session.override_after_eq_pending_iff`.
- `Session.step_restoreMapping_idle`, `Session.step_restoreMapping_pending`: putting the mapping back.
- `Session.override_after_run`.
-/

namespace GamePak.Session

/-! ## Notes in a history -/

/-- In the history a note was taken, and the mapping was not put back since. -/
def Noted (history : List Operation) : Prop :=
  ∃ recent past, history = recent ++ .saveMapping :: past ∧ .restoreMapping ∉ recent

/-- The first such note was taken after `past`: there was none to keep then, and the mapping was not put
back since. -/
def NotedAfter (history past : List Operation) : Prop :=
  ¬ Noted past ∧ ∃ recent, history = recent ++ .saveMapping :: past ∧ .restoreMapping ∉ recent

theorem not_noted_nil : ¬ Noted [] := by
  rintro ⟨recent, past, hsplit, -⟩
  simp at hsplit

/-- A note is left by taking one, or by an earlier one that is not put back. -/
theorem noted_cons {operation : Operation} {past : List Operation} :
    Noted (operation :: past) ↔
      operation = .saveMapping ∨ (operation ≠ .restoreMapping ∧ Noted past) := by
  constructor
  · rintro ⟨recent, earlier, hsplit, hkept⟩
    rcases List.cons_eq_append_iff.1 hsplit with ⟨-, hnow⟩ | ⟨front, rfl, hpast⟩
    · cases hnow
      exact Or.inl rfl
    · rw [List.mem_cons, not_or] at hkept
      exact Or.inr ⟨Ne.symm hkept.1, front, earlier, hpast, hkept.2⟩
  · rintro (rfl | ⟨hne, recent, earlier, rfl, hkept⟩)
    · exact ⟨[], past, rfl, List.not_mem_nil⟩
    · refine ⟨operation :: recent, earlier, rfl, ?_⟩
      rw [List.mem_cons, not_or]
      exact ⟨Ne.symm hne, hkept⟩

/-- Where a note was left there is a first one. -/
theorem Noted.exists_first {history : List Operation} (h : Noted history) :
    ∃ past, NotedAfter history past := by
  induction history with
  | nil => exact absurd h not_noted_nil
  | cons operation past ih =>
      by_cases hbefore : Noted past
      · -- the first note is among the earlier operations, and this one does not put it back
        have hne : operation ≠ .restoreMapping := by
          rcases noted_cons.1 h with rfl | ⟨hne, -⟩
          · nofun
          · exact hne
        obtain ⟨first, hfirst, recent, rfl, hkept⟩ := ih hbefore
        refine ⟨first, hfirst, operation :: recent, rfl, ?_⟩
        rw [List.mem_cons, not_or]
        exact ⟨Ne.symm hne, hkept⟩
      · rcases noted_cons.1 h with rfl | ⟨-, hnoted⟩
        · exact ⟨past, hbefore, [], rfl, List.not_mem_nil⟩
        · exact absurd hnoted hbefore

/-! ## What one operation does to the slot -/

variable {session start : Session} {operation : Operation} {history past : List Operation}

/-- Writes, resets, patches and forced banks do not touch the slot. -/
theorem override_step_of_ne (hsave : operation ≠ .saveMapping)
    (hrestore : operation ≠ .restoreMapping) :
    (session.step operation).value.2.cartridge.override = session.cartridge.override := by
  cases operation with
  | saveMapping => exact absurd rfl hsave
  | restoreMapping => exact absurd rfl hrestore
  | write address value => exact Cartridge.override_apply _ _ _ _
  | reset => rfl
  | mapRom bank =>
      show (session.cartridge.mapRom bank).override = _
      unfold Cartridge.mapRom
      split <;> rfl
  | debugWrite address value =>
      exact congrArg (fun registers => registers.2.2)
        (session.cartridge.registers_debugWrite address value)
  | loadBattery =>
      show (session.cartridge.loadBattery session.disk).value.2.override = _
      rcases Cartridge.loadBattery_cases session.disk session.cartridge with
        hsame | ⟨data, -, hloaded⟩
      · rw [hsame]
      · rw [hloaded]
  | saveBattery => rfl

/-- A free slot takes the bank that is mapped. -/
theorem override_step_saveMapping_idle (hc : session.cartridge.controller ≠ .absent)
    (hidle : session.cartridge.override = .idle) :
    (session.step .saveMapping).value.2.cartridge.override =
      .pending session.cartridge.banks.romBank := by
  show session.cartridge.saveMapping.override = _
  unfold Cartridge.saveMapping
  split
  · next habsent => exact absurd habsent hc
  · next hpending _ =>
    rw [hidle] at hpending
    cases hpending
  · rfl

/-- A note that is there stays. -/
theorem override_step_saveMapping_pending {bank : Nat}
    (hpending : session.cartridge.override = .pending bank) :
    (session.step .saveMapping).value.2.cartridge.override = .pending bank := by
  show session.cartridge.saveMapping.override = _
  unfold Cartridge.saveMapping
  split
  · exact hpending
  · exact hpending
  · next hidle _ =>
    rw [hpending] at hidle
    cases hidle

/-- With a note in the slot the mapping goes back to the bank of the note, and that is reported. -/
theorem step_restoreMapping_pending {bank : Nat}
    (hpending : session.cartridge.override = .pending bank) :
    session.step .restoreMapping =
      ⟨(.ok (), { session with cartridge :=
        { session.cartridge with
          override := .idle, banks := session.cartridge.banks.mapRom bank } }),
        [.mappingRestored bank]⟩ := by
  obtain ⟨disk, cartridge⟩ := session
  have hrestored : cartridge.restoreMapping =
      ⟨{ cartridge with override := .idle, banks := cartridge.banks.mapRom bank },
        [.mappingRestored bank]⟩ := by
    unfold Cartridge.restoreMapping
    rw [hpending]
    rfl
  simp only [step, hrestored]
  rfl

/-- Without one nothing happens and nothing is reported. -/
theorem step_restoreMapping_idle (hidle : session.cartridge.override = .idle) :
    session.step .restoreMapping = pure (.ok (), session) := by
  obtain ⟨disk, cartridge⟩ := session
  have hrestored : cartridge.restoreMapping = pure cartridge := by
    unfold Cartridge.restoreMapping
    rw [hidle]
  simp only [step, hrestored]
  rfl

theorem override_step_restoreMapping (session : Session) :
    (session.step .restoreMapping).value.2.cartridge.override = .idle := by
  cases hslot : session.cartridge.override with
  | idle => rw [step_restoreMapping_idle hslot, Logged.value_pure, hslot]
  | pending bank => rw [step_restoreMapping_pending hslot]

/-! ## The slot after a history -/

/-- Where no note was left the slot is free. -/
theorem override_after_of_not_noted (hstart : start.cartridge.override = .idle)
    (h : ¬ Noted history) : (start.after history).cartridge.override = .idle := by
  induction history with
  | nil => exact hstart
  | cons operation past ih =>
      rw [noted_cons, not_or, not_and] at h
      obtain ⟨hsave, hrest⟩ := h
      rw [after_cons]
      by_cases hrestore : operation = .restoreMapping
      · rw [hrestore]
        exact override_step_restoreMapping _
      · rw [override_step_of_ne hsave hrestore]
        exact ih (hrest hrestore)

/-- **The slot holds the first note.** It is the bank that was mapped when the note was taken, whatever
happened since. -/
theorem override_after_of_notedAfter (hstart : start.cartridge.override = .idle)
    (hc : (start.after past).cartridge.controller ≠ .absent) (h : NotedAfter history past) :
    (start.after history).cartridge.override =
      .pending (start.after past).cartridge.banks.romBank := by
  obtain ⟨hfree, recent, rfl, hkept⟩ := h
  -- from the note on, each operation keeps the slot
  induction recent with
  | nil =>
      rw [List.nil_append, after_cons]
      exact override_step_saveMapping_idle hc (override_after_of_not_noted hstart hfree)
  | cons operation recent ih =>
      rw [List.mem_cons, not_or] at hkept
      have hpending := ih hkept.2
      rw [List.cons_append, after_cons]
      by_cases hsave : operation = .saveMapping
      · rw [hsave]
        exact override_step_saveMapping_pending hpending
      · rw [override_step_of_ne hsave (Ne.symm hkept.1)]
        exact hpending

/-- With a controller at every time the slot is free if and only if no note was left, -/
theorem override_after_eq_idle_iff (hstart : start.cartridge.override = .idle)
    (hc : ∀ past, (start.after past).cartridge.controller ≠ .absent) :
    (start.after history).cartridge.override = .idle ↔ ¬ Noted history := by
  constructor
  · intro hfree hnoted
    obtain ⟨past, hfirst⟩ := hnoted.exists_first
    rw [override_after_of_notedAfter hstart (hc past) hfirst] at hfree
    cases hfree
  · exact override_after_of_not_noted hstart

/-- and holds a bank if and only if that was mapped when the first note was taken. -/
theorem override_after_eq_pending_iff (hstart : start.cartridge.override = .idle)
    (hc : ∀ past, (start.after past).cartridge.controller ≠ .absent) {bank : Nat} :
    (start.after history).cartridge.override = .pending bank ↔
      ∃ past, NotedAfter history past ∧ bank = (start.after past).cartridge.banks.romBank := by
  constructor
  · intro hpending
    by_cases hnoted : Noted history
    · obtain ⟨past, hfirst⟩ := hnoted.exists_first
      rw [override_after_of_notedAfter hstart (hc past) hfirst] at hpending
      exact ⟨past, hfirst, (Override.pending.inj hpending).symm⟩
    · rw [override_after_of_not_noted hstart hnoted] at hpending
      cases hpending
  · rintro ⟨past, hfirst, rfl⟩
    exact override_after_of_notedAfter hstart (hc past) hfirst

/-- **The law of the override slot.** After any run on a cartridge with a controller a note is in the slot
if and only if one was taken since the mapping was last put back, and it is the bank that was mapped when
the first such note was taken. Putting the mapping back goes to exactly that bank, frees the slot and says
so once; with no note to go back to it does nothing. Without a controller the slot stays free and bank 1
mapped. -/
theorem override_after_run {disk : Disk} {loaded : Cartridge} (h : Cartridge.Loaded disk loaded)
    (operations : List Operation) :
    let start : Session := ⟨disk, loaded⟩
    let session := (start.run operations).value
    let slot := session.cartridge.override
    let history := operations.reverse
    (loaded.header.type.hasController = true →
      (slot = .idle ↔ ¬ Noted history) ∧
      ∀ bank, slot = .pending bank ↔
        ∃ past, NotedAfter history past ∧ bank = (start.after past).cartridge.banks.romBank) ∧
    (∀ bank, slot = .pending bank →
      let restored := session.step .restoreMapping
      restored.value.2.cartridge.banks.romBank = bank ∧
      restored.value.2.cartridge.override = .idle ∧
      restored.events.map (fun event => (event.level, event.text)) =
        [(.info, s!"ROM mapping restored to bank {hex 2 bank}")]) ∧
    (slot = .idle → session.step .restoreMapping = pure (.ok (), session)) ∧
    (loaded.header.type.hasController = false →
      slot = .idle ∧ session.cartridge.banks.romBank = 1) := by
  intro start session slot history
  have hstart : start.cartridge.WellFormed := h.wellFormed
  have hidle : start.cartridge.override = .idle := h.registers.2.2
  have hwf : session.cartridge.WellFormed := wellFormed_run hstart operations
  have hheader : session.cartridge.header = loaded.header := header_run start operations
  refine ⟨?_, ?_, step_restoreMapping_idle, ?_⟩
  · intro hcontroller
    have hc : ∀ past, (start.after past).cartridge.controller ≠ .absent := by
      intro past habsent
      rw [(wellFormed_after hstart past).absent_iff, header_after, hcontroller] at habsent
      cases habsent
    have hslot : slot = (start.after history).cartridge.override := by
      rw [after_reverse]
    rw [hslot]
    exact ⟨override_after_eq_idle_iff hidle hc, fun _ => override_after_eq_pending_iff hidle hc⟩
  · intro bank hpending restored
    have hrestored : restored = _ := step_restoreMapping_pending hpending
    rw [hrestored]
    exact ⟨rfl, rfl, rfl⟩
  · intro hflat
    rw [← hheader] at hflat
    obtain ⟨hbank, hslot⟩ := hwf.unmapped (hwf.absent_iff.2 hflat)
    exact ⟨hslot, hbank⟩

/-- The blank MBC1 cartridge on bank 5, with a second note taken after another bank was forced and a reset
on top: the note is bank 5, and that is where the mapping goes back to. -/
theorem override_after_run_blank :
    ∃ loaded, Cartridge.Loaded (Disk.empty []) loaded ∧ loaded.header.type = .mbc1 true true ∧
      let session := (Session.run ⟨Disk.empty [], loaded⟩ [.write 0x2000 5, .saveMapping,
        .mapRom 0xFFFF, .saveMapping, .reset]).value
      let restored := session.step .restoreMapping
      session.cartridge.override = .pending 5 ∧ restored.value.2.cartridge.banks.romBank = 5 ∧
        restored.value.2.cartridge.override = .idle ∧
        restored.events.map (fun event => (event.level, event.text)) =
          [(.info, "ROM mapping restored to bank 05")] := by
  obtain ⟨loaded, hload, htype, -, -⟩ :=
    Cartridge.exists_load_blankImage (Disk.empty []) 0x03 0x03 none
  have hloaded : Cartridge.Loaded (Disk.empty []) loaded := .ofImage _ {} hload
  have hmbc1 : loaded.header.type = .mbc1 true true := htype
  obtain ⟨hcontroller, hbanks, -⟩ := hloaded.registers
  rw [hmbc1] at hcontroller
  obtain ⟨hslot, hrestore, -, -⟩ := override_after_run hloaded [.write 0x2000 5, .saveMapping,
    .mapRom 0xFFFF, .saveMapping, .reset]
  have hpending := ((hslot (by rw [hmbc1]; rfl)).2 5).2 (by
    refine ⟨[.write 0x2000 5], ⟨by simp [noted_cons, not_noted_nil],
      [.reset, .saveMapping, .mapRom 0xFFFF], rfl, by decide⟩, ?_⟩
    simp [after_cons, step, Cartridge.write, Cartridge.apply, Controller.decode,
      Controller.decodeMbc1, Controller.lowBank, Controller.ofType, Banks.mapRom, Banks.powerOn,
      hcontroller, hbanks])
  obtain ⟨hbank, hidle, hevents⟩ := hrestore 5 hpending
  exact ⟨loaded, hloaded, hmbc1, hpending, hbank, hidle, hevents.trans (by decide +kernel)⟩

end GamePak.Session
