import GamePak.Proofs.Cartridge.Load

/-!
# `Proofs.Cartridge.LoadEvents` — what a load reports

A load that gets as far as the declared size reports in a fixed order: bytes beyond that size, then a wrong
checksum, then the loaded cartridge, and at the end its save file.

## Contents
- `Cartridge.start_cases`: a cartridge at its start, with the reports of it.
- `Cartridge.filter_loadedEvents`, `Cartridge.filter_trailingWarning`: reports of one kind are not among those of
  another.
- `Event.isChecksumWarning`, `Cartridge.filter_events_start`: the start does not speak of the checksum.
- `Cartridge.trailingWarning`, `Cartridge.events_load`: the reports of a load.
-/

namespace GamePak

/-- Whether an event tells of a wrong checksum. -/
def Event.isChecksumWarning : Event → Bool
  | .badChecksum _ _ => true
  | _ => false

namespace Cartridge

variable {disk : Disk} {image rom : Bytes} {header : Header} {options : LoadOptions}

/-! ## The start -/

/-- **How a cartridge starts.** There is nothing to read, or what there is cannot be read, and RAM is zero;
or the start of RAM is the start of the save file. A save file that was read, or should have been, is
reported. -/
theorem start_cases (disk : Disk) (header : Header) (rom : Bytes) (save : Option Path) :
    start disk header rom save = ⟨powerOn header rom save, loadedEvents header⟩ ∨
      (∃ cause, start disk header rom save =
        ⟨powerOn header rom save, loadedEvents header ++ [.saveNotRead cause]⟩) ∨
      ∃ path data, save = some path ∧ disk.read path = .ok data ∧
        header.savedLength ≤ data.size ∧
        start disk header rom save =
          ⟨{ powerOn header rom save with
              ram := data.extract 0 header.savedLength ++
                Array.replicate (ramCapacity - header.savedLength) 0 },
            loadedEvents header ++ [.saveRead path]⟩ := by
  cases save with
  | none =>
      refine Or.inl (Logged.ext rfl ?_)
      show loadedEvents header ++ [] = loadedEvents header
      rw [List.append_nil]
  | some path =>
      simp only [start, Option.isNone_some, Bool.false_eq_true, if_false]
      rcases loadBattery_eq disk (powerOn header rom (some path)) with
        ⟨cause, hfailed⟩ | ⟨-, hnothing⟩ | ⟨save, data, -, hsave, hread, hlen, hloaded⟩
      · refine Or.inr (Or.inl ⟨cause, ?_⟩)
        rw [hfailed]
        rfl
      · left
        rw [hnothing]
        exact Logged.ext rfl (List.append_nil _)
      · obtain rfl : path = save := Option.some.inj hsave
        refine Or.inr (Or.inr ⟨path, data, rfl, hread, hlen, ?_⟩)
        rw [hloaded, ← Bytes.overlay_replicate]
        rfl

/-- Reports that do not speak of the size or the type of the cartridge are not among the first of its start. -/
theorem filter_loadedEvents {told : Event → Bool}
    (hrom : ∀ banks type, told (.romLoaded banks type) = false)
    (htype : ∀ code, told (.typeUnsupported code) = false) (header : Header) :
    (loadedEvents header).filter told = [] := by
  unfold loadedEvents
  rw [List.filter_cons_of_neg (by simp [hrom])]
  split
  · rw [List.filter_cons_of_neg (by simp [htype]), List.filter_nil]
  · rfl

/-- The start does not speak of the checksum. -/
theorem filter_events_start (disk : Disk) (header : Header) (rom : Bytes) (save : Option Path) :
    (start disk header rom save).events.filter Event.isChecksumWarning = [] := by
  have hloaded : (loadedEvents header).filter Event.isChecksumWarning = [] :=
    filter_loadedEvents (fun _ _ => rfl) (fun _ => rfl) header
  rcases start_cases disk header rom save with
    hstart | ⟨cause, hstart⟩ | ⟨path, data, -, -, -, hstart⟩
  · rw [hstart]
    exact hloaded
  · rw [hstart]
    show (loadedEvents header ++ [Event.saveNotRead cause]).filter _ = []
    rw [List.filter_append, hloaded]
    rfl
  · rw [hstart]
    show (loadedEvents header ++ [Event.saveRead path]).filter _ = []
    rw [List.filter_append, hloaded]
    rfl

/-! ## The load -/

/-- The report of what stands in an image of `size` bytes beyond the declared ones. -/
def trailingWarning (header : Header) (size : Nat) : List Event :=
  if header.romSize < size then [.trailingBytes (size - header.romSize) header.romBanks] else []

theorem filter_trailingWarning {told : Event → Bool}
    (h : ∀ extra banks, told (.trailingBytes extra banks) = false) (header : Header) (size : Nat) :
    (trailingWarning header size).filter told = [] := by
  unfold trailingWarning
  split
  · rw [List.filter_cons_of_neg (by simp [h]), List.filter_nil]
  · rfl

/-- **The reports of a load**, in order. Where a wrong checksum is an error, they end there. -/
theorem events_load (h : declared image = .ok (header, rom)) (disk : Disk) (options : LoadOptions)
    (save : Option Path) :
    (load disk image options save).events =
      trailingWarning header image.size ++
        let started := (start disk header rom
          (if options.battery && header.type.isBatteryBacked then save else none)).events
        if Checksum.verify rom then started
        else if options.strictChecksum then []
        else .badChecksum header.checksum (Checksum.compute rom) :: started := by
  obtain ⟨-, hsize, hrom⟩ := declared_eq_ok h
  have hlength : rom.size = header.romSize := by
    rw [hrom, Array.size_extract]
    omega
  unfold load trailingWarning
  simp only [h, hlength]
  by_cases htrailing : header.romSize < image.size
  all_goals
    by_cases hverify : Checksum.verify rom
    · simp [htrailing, hverify]
    · by_cases hstrict : options.strictChecksum <;> simp [htrailing, hverify, hstrict]

end Cartridge

end GamePak
