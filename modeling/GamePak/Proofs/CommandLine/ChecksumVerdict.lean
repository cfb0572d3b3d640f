import GamePak.Proofs.CommandLine.Inspection
import GamePak.Proofs.Log
import GamePak.Proofs.Text.Hex

/-!
# `Proofs.CommandLine.ChecksumVerdict` — one verdict on a checksum

A ROM file's checksum is judged in four places. A strict load refuses the file, any other load reports it,
one command makes a wrong checksum its failure and one prints what it found. They start from different
options and read the stored word at different times, and they agree: each asks about the declared part of the
same image.

## Contents
- `warnsOfChecksum`, `Logged.filter_log_warnsOfChecksum`: the warning of a wrong checksum in a log.
- `Cartridge.ofFile_cases`, `Cartridge.value_ofFile_declared`, `Cartridge.filter_log_ofFile`: how a ROM file
  opens, and what is logged of its checksum.
- `Command.result_verify`, `Command.result_info`: the two commands, from the cartridge that they look at.
- `checksum_verdicts_agree`.
-/

namespace GamePak

/-! ## The log -/

/-- Whether a line of a log is the warning of a wrong checksum, by its level and its first words. -/
def warnsOfChecksum (line : Level × String) : Bool :=
  line.1 = .warning ∧ "This cartridge has an invalid checksum".toList <+: line.2.toList

theorem warnsOfChecksum_line (event : Event) :
    warnsOfChecksum event.line = event.isChecksumWarning := by
  rw [Bool.eq_iff_iff]
  constructor
  · intro hwarns
    obtain ⟨hlevel, rest, htext⟩ := of_decide_eq_true hwarns
    have hmark : event.mark = 'h' := Event.mark_of_toList htext.symm rfl
    cases event with
    | badChecksum stored computed => rfl
    | _ => simp [Event.line, Event.level, Event.mark] at hlevel hmark
  · intro hwarning
    cases event with
    | badChecksum stored computed =>
        have hlead : "This cartridge has an invalid checksum".toList <+:
            "This cartridge has an invalid checksum (stored $".toList := by decide
        refine decide_eq_true ⟨rfl, hlead.trans ?_⟩
        unfold Event.line Event.text
        simp only [String.toList_append, List.append_assoc]
        exact List.prefix_append _ _
    | _ => cases hwarning

namespace Logged

theorem filter_log_warnsOfChecksum {α : Type} (work : Logged α) :
    work.log.filter warnsOfChecksum = (work.events.filter Event.isChecksumWarning).map Event.line := by
  have hline : warnsOfChecksum ∘ Event.line = Event.isChecksumWarning := funext warnsOfChecksum_line
  rw [log, List.filter_map, hline]

end Logged

/-! ## Opening a ROM file -/

namespace Cartridge

variable {disk : Disk} {path : Path} {image rom : Bytes} {header : Header}

/-- A ROM file is refused whatever the options are, or it holds an image of the declared size. -/
theorem ofFile_cases (disk : Disk) (path : Path) :
    (∃ cause, ∀ options, (ofFile disk path options).value = .error cause) ∨
      ∃ image header rom, disk.read path = .ok image ∧ declared image = .ok (header, rom) := by
  cases hread : disk.read path with
  | error cause =>
      refine Or.inl ⟨.unreadable path cause, fun options => ?_⟩
      rw [value_ofFile, hread]
  | ok image =>
      cases hdeclared : declared image with
      | error cause =>
          refine Or.inl ⟨cause, fun options => ?_⟩
          rw [value_ofFile, hread]
          simp only [value_load, hdeclared]
      | ok found =>
          obtain ⟨header, rom⟩ := found
          exact Or.inr ⟨image, header, rom, rfl, hdeclared⟩

/-- An image of the declared size makes a cartridge with that part of it, unless its checksum is wrong and the
load is strict. -/
theorem value_ofFile_declared (hread : disk.read path = .ok image)
    (hdeclared : declared image = .ok (header, rom)) (options : LoadOptions) :
    ∃ cartridge, cartridge.header = header ∧ cartridge.rom = rom ∧
      (ofFile disk path options).value =
        if options.strictChecksum ∧ ¬ Checksum.verify rom then
          .error (.badChecksum header.checksum (Checksum.compute rom))
        else .ok cartridge := by
  obtain ⟨hheader, hrom, -⟩ := start_powerOn (rfl : start disk header rom
    (if options.battery && header.type.isBatteryBacked then
      some (options.savePath.getD path.saveFile) else none) = _)
  refine ⟨_, hheader, hrom, ?_⟩
  rw [value_ofFile, hread]
  simp only [value_load, hdeclared]

/-- What a load reports of the checksum: that it is wrong, and a strict load reports nothing. -/
theorem filter_events_ofFile (hread : disk.read path = .ok image)
    (hdeclared : declared image = .ok (header, rom)) (options : LoadOptions) :
    (ofFile disk path options).events.filter Event.isChecksumWarning =
      if Checksum.verify rom ∨ options.strictChecksum then []
      else [.badChecksum header.checksum (Checksum.compute rom)] := by
  have hstart := filter_events_start disk header rom
    (if options.battery && header.type.isBatteryBacked then
      some (options.savePath.getD path.saveFile) else none)
  rw [ofFile_of_read hread, events_load hdeclared, List.filter_cons_of_neg Bool.false_ne_true,
    List.filter_append, filter_trailingWarning fun _ _ => rfl, List.nil_append]
  by_cases hverify : Checksum.verify rom
  · simp only [hverify, if_true, true_or]
    exact hstart
  by_cases hstrict : options.strictChecksum
  · simp [hverify, hstrict]
  · simp only [hverify, hstrict, Bool.false_eq_true, or_self, if_false]
    rw [List.filter_cons_of_pos rfl, hstart]

/-- And so says its log. -/
theorem filter_log_ofFile (hread : disk.read path = .ok image)
    (hdeclared : declared image = .ok (header, rom)) (options : LoadOptions) :
    (ofFile disk path options).log.filter warnsOfChecksum =
      if Checksum.verify rom ∨ options.strictChecksum then []
      else [(Event.badChecksum header.checksum (Checksum.compute rom)).line] := by
  rw [Logged.filter_log_warnsOfChecksum, filter_events_ofFile hread hdeclared,
    apply_ite (List.map Event.line)]
  rfl

end Cartridge

/-! ## The commands -/

namespace Command

theorem result_verify (disk : Disk) (rom : Path) :
    (Command.run disk (.verify rom)).value.result =
      match (Cartridge.ofFile disk rom Report.inspecting).value with
      | .error cause => .error (.loading rom cause)
      | .ok cartridge =>
        if cartridge.verifyChecksum then .ok ["Checksum Ok."]
        else .error (.badChecksum cartridge.header.checksum) := by
  show (Report.onCartridge disk rom Report.verify).value.result = _
  rw [Report.result_onCartridge]
  cases (Cartridge.ofFile disk rom Report.inspecting).value with
  | error cause => rfl
  | ok cartridge =>
      by_cases hverify : cartridge.verifyChecksum
      · simp [Report.verify, Report.ofLines, hverify]
      · simp [Report.verify, hverify]

/-- The first line of the inspection ends with the verdict. -/
theorem result_info (disk : Disk) (rom : Path) :
    ∃ front rest, (Command.run disk (.info rom)).value.result =
      match (Cartridge.ofFile disk rom Report.inspecting).value with
      | .error cause => .error (.loading rom cause)
      | .ok cartridge =>
        .ok ((front ++ if cartridge.verifyChecksum then "Checksum Ok." else "Checksum invalid!") ::
          rest) := by
  show ∃ front rest, (Report.onCartridge disk rom Report.info).value.result = _
  rw [Report.result_onCartridge]
  cases (Cartridge.ofFile disk rom Report.inspecting).value with
  | error cause => exact ⟨"", [], rfl⟩
  | ok cartridge => exact ⟨_, _, rfl⟩

end Command

/-- No line ends with both verdicts. -/
theorem invalid_ne_ok (front other : String) :
    front ++ "Checksum invalid!" ≠ other ++ "Checksum Ok." := by
  intro h
  have hlast := congrArg (fun line : String => line.toList.getLast?) h
  simp at hlast

/-! ## The verdicts -/

/-- **All verdicts on a checksum agree**, for every ROM file and whatever else the options are. A strict load
accepts the file exactly if another load gives a cartridge whose checksum is right and logs no warning of a
wrong one, exactly if the one command succeeds, and exactly if the first line of the other ends with the verdict
that all is well. Where only the strict load refuses, both commands say so and the other load logs it once. The
failure of the one command names the stored word in digits that read back, the warning names the computed word
as well, and the two words differ. -/
theorem checksum_verdicts_agree (disk : Disk) (rom : Path) (options : LoadOptions) :
    let strict := Cartridge.ofFile disk rom { options with strictChecksum := true }
    let lenient := Cartridge.ofFile disk rom { options with strictChecksum := false }
    let verified := (Command.run disk (.verify rom)).value.result
    let shown := (Command.run disk (.info rom)).value.result
    let accepted : Prop := ∃ cartridge, strict.value = .ok cartridge
    (accepted ↔ ∃ cartridge, lenient.value = .ok cartridge ∧ cartridge.verifyChecksum = true ∧
      lenient.log.filter warnsOfChecksum = []) ∧
    (accepted ↔ verified = .ok ["Checksum Ok."]) ∧
    (accepted ↔ ∃ front rest, shown = .ok ((front ++ "Checksum Ok.") :: rest)) ∧
    ∀ cartridge, lenient.value = .ok cartridge → ¬ accepted →
      let stored := cartridge.header.checksum
      let computed := Checksum.compute cartridge.rom
      let failure := Failure.badChecksum stored
      (verified = .error failure ∧ failure.message =
        s!"This cartridge has an invalid checksum (stored ${hex 4 stored.toNat}).") ∧
      (∃ front rest, shown = .ok ((front ++ "Checksum invalid!") :: rest)) ∧
      lenient.log.filter warnsOfChecksum =
        [(.warning, s!"This cartridge has an invalid checksum (stored ${hex 4 stored.toNat}, " ++
          s!"computed ${hex 4 computed.toNat}). It may not execute correctly.")] ∧
      (∀ word ∈ [stored, computed], Hex.read? (hex 4 word.toNat).toList = some word.toNat) ∧
      strict.value = .error (.badChecksum stored computed) ∧ stored ≠ computed := by
  intro strict lenient verified shown accepted
  obtain ⟨front, rest, hshown⟩ := Command.result_info disk rom
  have hverified := Command.result_verify disk rom
  rcases Cartridge.ofFile_cases disk rom with
    ⟨cause, hrefused⟩ | ⟨image, header, declared, hread, hdeclared⟩
  · -- nobody gets as far as the checksum
    have hstrict : strict.value = .error cause := hrefused _
    have hlenient : lenient.value = .error cause := hrefused _
    rw [hrefused] at hshown hverified
    simp [accepted, verified, shown, hstrict, hlenient, hshown, hverified]
  · obtain ⟨inspected, hheader, hrom, hinspected⟩ :=
      Cartridge.value_ofFile_declared hread hdeclared Report.inspecting
    obtain ⟨opened, hheader', hrom', hopened⟩ :=
      Cartridge.value_ofFile_declared hread hdeclared { options with strictChecksum := false }
    obtain ⟨trusted, -, -, htrusted⟩ :=
      Cartridge.value_ofFile_declared hread hdeclared { options with strictChecksum := true }
    have hlogged :=
      Cartridge.filter_log_ofFile hread hdeclared { options with strictChecksum := false }
    have hlenient : lenient.value = .ok opened := hopened
    rw [hinspected, if_neg (by simp [Report.inspecting])] at hverified hshown
    simp only [Cartridge.verifyChecksum, hrom, hheader] at hverified hshown
    by_cases hright : Checksum.verify declared
    · have hstrict : strict.value = .ok trusted := by
        rw [show strict.value = _ from htrusted, if_neg (by simp [hright])]
      have hquiet : lenient.log.filter warnsOfChecksum = [] := by
        rw [show lenient.log.filter _ = _ from hlogged, if_pos (Or.inl hright)]
      have haccepted : accepted := ⟨trusted, hstrict⟩
      simp only [hright, if_true] at hverified hshown
      refine ⟨iff_of_true haccepted ⟨opened, hlenient, ?_, hquiet⟩, iff_of_true haccepted hverified,
        iff_of_true haccepted ⟨front, rest, hshown⟩, fun _ _ hnot => absurd haccepted hnot⟩
      rw [Cartridge.verifyChecksum, hrom', hright]
    · have hstrict : strict.value =
          .error (.badChecksum header.checksum (Checksum.compute declared)) := by
        rw [show strict.value = _ from htrusted, if_pos ⟨rfl, hright⟩]
      have hwarned : lenient.log.filter warnsOfChecksum =
          [(Event.badChecksum header.checksum (Checksum.compute declared)).line] := by
        rw [show lenient.log.filter _ = _ from hlogged, if_neg (by simp [hright])]
      have hnot : ¬ accepted := by
        rintro ⟨cartridge, hcartridge⟩
        rw [hstrict] at hcartridge
        cases hcartridge
      simp only [hright, Bool.false_eq_true, if_false] at hverified hshown
      refine ⟨iff_of_false hnot ?_, iff_of_false hnot ?_, iff_of_false hnot ?_, ?_⟩
      · rintro ⟨cartridge, -, -, hquiet⟩
        rw [hwarned] at hquiet
        cases hquiet
      · rw [show verified = _ from hverified]
        nofun
      · rintro ⟨other, lines, hlines⟩
        rw [show shown = _ from hshown, Except.ok.injEq, List.cons.injEq] at hlines
        exact invalid_ne_ok front other hlines.1
      · intro cartridge hcartridge _ stored computed
        obtain rfl : opened = cartridge := Except.ok.inj (hlenient.symm.trans hcartridge)
        have hstored : stored = header.checksum := by rw [← hheader']
        have hcomputed : computed = Checksum.compute declared := by rw [← hrom']
        rw [hstored, hcomputed]
        refine ⟨⟨hverified, rfl⟩, ⟨front, rest, hshown⟩, hwarned, ?_, hstrict, ?_⟩
        · intro word _
          rw [hex, String.toList_ofList, Hex.read?_padded]
        · exact fun hsame => hright ((Cartridge.verify_declared hdeclared).2 hsame)

/-- The sum of a blank image's bytes is its type code. -/
theorem Checksum.total_blankImage (typeCode : UInt8) :
    Checksum.total (Cartridge.blankImage typeCode 0) 0x8000 = typeCode.toNat := by
  have htype : typeOffset ∈ Finset.range 0x8000 \ {checksumOffset, checksumOffset + 1} := by
    simp [typeOffset, checksumOffset]
  rw [Checksum.total, Finset.sum_eq_single_of_mem typeOffset htype]
  · simp [Cartridge.blankImage, typeOffset, ramSizeOffset]
  · intro i hi hother
    have hin : i < 0x8000 := Finset.mem_range.1 (Finset.mem_sdiff.1 hi).1
    simp [Cartridge.blankImage, Array.getD, Array.getElem_setIfInBounds, hin, hother.symm]

/-- A blank image has a zero in its checksum field, which is wrong if it has a type. -/
theorem checksum_verdicts_agree_blank :
    let rom : Path := ⟨['g', '.', 'g', 'b']⟩
    let disk : Disk := ⟨[([['g', '.', 'g', 'b']], .file (Cartridge.blankImage 0x03 0x00))], []⟩
    (∃ cartridge, (Cartridge.ofFile disk rom {}).value = .ok cartridge ∧
      (Cartridge.ofFile disk rom {}).log.filter warnsOfChecksum =
        [(.warning, "This cartridge has an invalid checksum (stored $0000, computed $0003). " ++
          "It may not execute correctly.")]) ∧
    (¬ ∃ cartridge, (Cartridge.ofFile disk rom { strictChecksum := true }).value = .ok cartridge) ∧
    ∃ failure, (Command.run disk (.verify rom)).value.result = .error failure ∧
      failure.message = "This cartridge has an invalid checksum (stored $0000)." := by
  intro rom disk
  have hread : disk.read rom = .ok (Cartridge.blankImage 0x03 0x00) := rfl
  obtain ⟨header, hparse, hbanks, -, -⟩ := Cartridge.exists_parse_blankImage 0x03 0x00
  have hsize : header.romSize ≤ (Cartridge.blankImage 0x03 0x00).size := by
    rw [Cartridge.size_blankImage, Header.romSize, hbanks]
    decide
  have hdeclared := Cartridge.declared_of_parse hparse hsize
  have hstored : header.checksum = 0 := by
    obtain ⟨-, -, hfield⟩ := Header.parse_eq_ok hparse
    rw [hfield]
    simp [Cartridge.blankImage, typeOffset, ramSizeOffset, checksumOffset]
    decide
  have hcomputed : Checksum.compute ((Cartridge.blankImage 0x03 0x00).extract 0 header.romSize) = 3 := by
    obtain ⟨hsum, -⟩ := Cartridge.checksum_declared hdeclared
    rw [hsum, Header.romSize, hbanks]
    show UInt16.ofNat (Checksum.total (Cartridge.blankImage 0x03 0) 0x8000) = 3
    rw [Checksum.total_blankImage]
    decide
  have hwrong : ¬ Checksum.verify ((Cartridge.blankImage 0x03 0x00).extract 0 header.romSize) := by
    rw [Cartridge.verify_declared hdeclared, hstored, hcomputed]
    decide
  obtain ⟨cartridge, hheader, hrom, hopened⟩ := Cartridge.value_ofFile_declared hread hdeclared {}
  obtain ⟨trusted, -, -, hrefused⟩ :=
    Cartridge.value_ofFile_declared hread hdeclared { strictChecksum := true }
  have hlenient : (Cartridge.ofFile disk rom {}).value = .ok cartridge := by
    rw [hopened, if_neg (by simp)]
  have hnot : ¬ ∃ cartridge,
      (Cartridge.ofFile disk rom { strictChecksum := true }).value = .ok cartridge := by
    rintro ⟨other, hother⟩
    rw [hrefused, if_pos ⟨rfl, hwrong⟩] at hother
    cases hother
  obtain ⟨-, -, -, hagree⟩ := checksum_verdicts_agree disk rom {}
  obtain ⟨⟨hverified, hmessage⟩, -, hwarned, -, -, -⟩ := hagree cartridge hlenient hnot
  rw [hheader, hstored] at hverified hmessage hwarned
  rw [hrom, hcomputed] at hwarned
  exact ⟨⟨cartridge, hlenient, hwarned.trans (by decide +kernel)⟩, hnot, _, hverified,
    hmessage.trans (by decide +kernel)⟩

end GamePak
