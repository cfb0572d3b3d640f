import GamePak.Proofs.Disk
import GamePak.Proofs.Path

/-!
# `Proofs.Path.SaveFile` — a save file stands beside its ROM

The path of a save file is the text before the ROM's last name, unchanged, and another last name: the stem with
the extension of save files. Whatever stood behind the ROM's name is gone. So the save file is in the ROM's
directory wherever that directory is, its own save file is itself, and it is the ROM file only if the ROM has the
name of a save file to begin with. What has to be left out is a name that is `..` or becomes `..` when its
extension is taken off.

## Contents
- `Path.IsTrail`, `Path.EndsIn`: the last name of a path, in its text; `Path.endsIn_iff_leaf`.
- `Path.IsStem`, `Path.isStem_iff`: the stem of a name.
- `Path.LeadsUp`, `Path.EndsIn.not_leadsUp_saveName`: names that stand for the parent directory.
- `Path.saveName_eq_iff`, `Path.saveFile_eq`, `Path.endsIn_saveFile`: the path of a save file.
- `Path.saveFile_saveFile`: the save file of a save file.
- `Path.EndsIn.locate_beside`: two names in one directory.
- `Path.save_file_beside_rom`.
-/

namespace GamePak.Path

variable {path rom : Path} {directory : List Char} {name base : Name}

/-! ## The last name of a path -/

/-- What may stand behind the last name of a path: slashes, and pieces `.` behind a slash. -/
inductive IsTrail : List Char → Prop where
  | nil : IsTrail []
  | slash {rest : List Char} : IsTrail rest → IsTrail ('/' :: rest)
  | here {rest : List Char} : IsTrail rest → IsTrail ('/' :: '.' :: rest)

/-- The last name of a path is `name`, and `directory` is the text before it: all of it up to a slash, so that the
name is a whole piece and no blank one. Only a trail stands behind the name. -/
structure EndsIn (path : Path) (directory : List Char) (name : Name) : Prop where
  closed : directory = [] ∨ ∃ above, directory = above ++ ['/']
  no_slash : '/' ∉ name
  ne_nil : name ≠ []
  ne_here : name ≠ ['.']
  text : ∃ trail, IsTrail trail ∧ path.text = directory ++ name ++ trail

theorem EndsIn.isBlank (h : path.EndsIn directory name) : isBlank name = false := by
  rw [Bool.eq_false_iff, Ne, isBlank_iff, not_or]
  exact ⟨h.ne_nil, h.ne_here⟩

/-- A trail is blank pieces. -/
theorem IsTrail.exists_blanks {trail : List Char} (h : IsTrail trail) {name : Name}
    (hname : '/' ∉ name) :
    ∃ blanks, (∀ piece ∈ blanks, Path.isBlank piece = true) ∧
      (⟨name ++ trail⟩ : Path).pieces = name :: blanks := by
  -- a slash closes the name before it, and what the rest starts with is the next name
  induction h generalizing name with
  | nil =>
      refine ⟨[], nofun, ?_⟩
      rw [List.append_nil]
      exact List.splitOn_eq_singleton hname
  | @slash rest _ ih =>
      obtain ⟨blanks, hblanks, hpieces⟩ := @ih [] List.not_mem_nil
      refine ⟨[] :: blanks, ?_, ?_⟩
      · rw [List.forall_mem_cons]
        exact ⟨rfl, hblanks⟩
      · rw [← hpieces]
        exact List.splitOn_append_cons_self_of_not_mem hname rest
  | @here rest _ ih =>
      obtain ⟨blanks, hblanks, hpieces⟩ := @ih Path.here (by decide)
      refine ⟨Path.here :: blanks, ?_, ?_⟩
      · rw [List.forall_mem_cons]
        exact ⟨rfl, hblanks⟩
      · rw [← hpieces]
        exact List.splitOn_append_cons_self_of_not_mem hname ('.' :: rest)

/-- Blank pieces behind a name are a trail. -/
theorem isTrail_of_blanks {blanks : List Name} (h : ∀ piece ∈ blanks, Path.isBlank piece = true) :
    IsTrail (blanks.flatMap ('/' :: ·)) := by
  induction blanks with
  | nil => exact .nil
  | cons piece others ih =>
      rw [List.forall_mem_cons] at h
      rw [List.flatMap_cons]
      rcases isBlank_iff.1 h.1 with rfl | rfl
      · exact .slash (ih h.2)
      · exact .here (ih h.2)

/-- A text up to a slash is pieces of its own, whatever follows. -/
theorem exists_closed_pieces (h : directory = [] ∨ ∃ above, directory = above ++ ['/']) :
    ∃ front : List Name, front.flatMap (· ++ ['/']) = directory ∧
      ∀ rest, (⟨directory ++ rest⟩ : Path).pieces = front ++ (⟨rest⟩ : Path).pieces := by
  rcases h with rfl | ⟨above, rfl⟩
  · exact ⟨[], rfl, fun _ => rfl⟩
  · obtain ⟨front, last, hpieces, -, htext⟩ := exists_last_piece ⟨above⟩
    refine ⟨front ++ [last], ?_, ?_⟩
    · simp only at htext
      rw [htext]
      simp
    · intro rest
      rw [← hpieces, List.append_assoc, List.singleton_append]
      exact List.splitOn_append_cons_self above rest

/-- The pieces of a path with a last name: those of the directory, the name, and blank ones. -/
theorem EndsIn.exists_pieces (h : path.EndsIn directory name) :
    ∃ front blanks, front.flatMap (· ++ ['/']) = directory ∧
      (∀ rest, (⟨directory ++ rest⟩ : Path).pieces = front ++ (⟨rest⟩ : Path).pieces) ∧
      (∀ piece ∈ blanks, Path.isBlank piece = true) ∧ path.pieces = front ++ name :: blanks := by
  obtain ⟨front, hfront, hclosed⟩ := exists_closed_pieces h.closed
  obtain ⟨trail, htrail, htext⟩ := h.text
  obtain ⟨blanks, hblanks, hpieces⟩ := htrail.exists_blanks h.no_slash
  refine ⟨front, blanks, hfront, hclosed, hblanks, ?_⟩
  have hpath : path = ⟨directory ++ (name ++ trail)⟩ := by
    rw [← List.append_assoc, ← htext]
  rw [hpath, hclosed, hpieces]

/-- **The leaf of a path is its last name.** -/
theorem endsIn_iff_leaf :
    path.EndsIn directory name ↔ ∃ trailing, path.leaf = some ⟨directory, name, trailing⟩ := by
  constructor
  · intro h
    obtain ⟨front, blanks, hfront, -, hblanks, hpieces⟩ := h.exists_pieces
    rw [leaf_of_pieces hpieces h.isBlank hblanks, hfront]
    exact ⟨_, rfl⟩
  · rintro ⟨trailing, hleaf⟩
    obtain ⟨front, blanks, hpieces, hname, hblanks, rfl⟩ := pieces_of_leaf hleaf
    rw [Bool.eq_false_iff, Ne, isBlank_iff, not_or] at hname
    refine ⟨?_, ?_, hname.1, hname.2, _, isTrail_of_blanks hblanks, text_of_pieces hpieces⟩
    · rcases List.eq_nil_or_concat front with rfl | ⟨others, last, rfl⟩
      · exact Or.inl rfl
      · exact Or.inr ⟨others.flatMap (· ++ ['/']) ++ last, by simp⟩
    · exact slash_notMem_of_mem_pieces (hpieces ▸ List.mem_append_right _ (List.mem_cons_self ..))

/-! ## Stems -/

/-- The stem of a name: what is before its last dot, or all of a name without a dot or with only the one that it
starts with. -/
inductive IsStem : Name → List Char → Prop where
  | beforeLastDot {base extension : List Char} :
      base ≠ [] → '.' ∉ extension → IsStem (base ++ '.' :: extension) base
  | dotless {name : Name} : '.' ∉ name → IsStem name name
  | hidden {rest : List Char} : '.' ∉ rest → IsStem ('.' :: rest) ('.' :: rest)

theorem stem_append (hbase : base ≠ []) {extension : List Char} (hextension : '.' ∉ extension) :
    stem (base ++ '.' :: extension) = base := by
  rw [stem, splitExtension_append hbase hextension]
  rfl

theorem stem_eq_self (h : '.' ∉ name.tail) : stem name = name := by
  rw [stem, splitExtension_eq_none h]
  rfl

/-- Each name has one stem. -/
theorem isStem_iff : IsStem name base ↔ base = stem name := by
  constructor
  · intro h
    cases h with
    | beforeLastDot hbase hextension => exact (stem_append hbase hextension).symm
    | dotless hdot => exact (stem_eq_self fun hmem => hdot (List.mem_of_mem_tail hmem)).symm
    | hidden hdot => exact (@stem_eq_self ('.' :: _) hdot).symm
  · rintro rfl
    by_cases hdot : '.' ∈ name.tail
    · obtain ⟨base, extension, hbase, hextension, rfl⟩ := exists_last_dot hdot
      rw [stem_append hbase hextension]
      exact .beforeLastDot hbase hextension
    · rw [stem_eq_self hdot]
      cases name with
      | nil => exact .dotless List.not_mem_nil
      | cons c rest =>
          have hrest : '.' ∉ rest := hdot
          by_cases hc : c = '.'
          · rw [hc]
            exact .hidden hrest
          · refine .dotless ?_
            rw [List.mem_cons, not_or]
            exact ⟨Ne.symm hc, hrest⟩

theorem isStem_stem (name : Name) : IsStem name (stem name) :=
  isStem_iff.2 rfl

theorem IsStem.ne_nil (h : IsStem name base) (hname : name ≠ []) : base ≠ [] := by
  cases h with
  | beforeLastDot hbase _ => exact hbase
  | dotless _ => exact hname
  | hidden _ => exact hname

/-- The stem is the start of the name. -/
theorem IsStem.subset (h : IsStem name base) : base ⊆ name := by
  cases h with
  | beforeLastDot _ _ => exact List.subset_append_left ..
  | dotless _ => exact List.Subset.refl _
  | hidden _ => exact List.Subset.refl _

/-! ## The path of a save file -/

/-- The name is `..`, alone or with characters behind it of which none is a dot. Without its extension it is the
parent directory. -/
def LeadsUp (name : Name) : Prop :=
  ∃ extension, '.' ∉ extension ∧ name = '.' :: '.' :: extension

theorem ne_parent_of_not_leadsUp (hup : ¬ LeadsUp name) : name ≠ parent := by
  rintro rfl
  exact hup ⟨[], List.not_mem_nil, rfl⟩

theorem IsStem.ne_here (h : IsStem name base) (hname : name ≠ ['.']) (hup : ¬ LeadsUp name) :
    base ≠ ['.'] := by
  rintro rfl
  cases h with
  | beforeLastDot _ hextension => exact hup ⟨_, hextension, rfl⟩
  | dotless _ => exact hname rfl
  | hidden _ => exact hname rfl

theorem stem_saveName (hbase : base ≠ []) : stem (base ++ saveSuffix) = base :=
  stem_append hbase (by decide)

/-- The name of a save file does not lead up either: its stem would have to be a dot. -/
theorem EndsIn.not_leadsUp_saveName (h : rom.EndsIn directory name) (hup : ¬ LeadsUp name) :
    ¬ LeadsUp (stem name ++ saveSuffix) := by
  rintro ⟨extension, hextension, hname⟩
  have hdot : stem (['.'] ++ '.' :: extension) = ['.'] := stem_append (by decide) hextension
  rw [List.singleton_append, ← hname, stem_saveName ((isStem_stem name).ne_nil h.ne_nil)] at hdot
  exact (isStem_stem name).ne_here h.ne_here hup hdot

/-- A save file has the name of its ROM exactly if that is the name of a save file. -/
theorem saveName_eq_iff (hname : name ≠ []) :
    stem name ++ saveSuffix = name ↔ ∃ base, base ≠ [] ∧ name = base ++ saveSuffix := by
  constructor
  · intro h
    exact ⟨stem name, (isStem_stem name).ne_nil hname, h.symm⟩
  · rintro ⟨base, hbase, rfl⟩
    rw [stem_saveName hbase]

/-- **The path of a save file**: the text before the last name, the stem, and the suffix of save files. -/
theorem saveFile_eq (h : rom.EndsIn directory name) (hup : ¬ LeadsUp name) :
    rom.saveFile = ⟨directory ++ (stem name ++ saveSuffix)⟩ := by
  obtain ⟨trailing, hleaf⟩ := endsIn_iff_leaf.1 h
  unfold saveFile
  simp only [hleaf, if_neg (ne_parent_of_not_leadsUp hup)]
  split
  next c rest hsplit =>
    obtain ⟨-, hextension, hname⟩ := splitExtension_eq_some_iff.1 hsplit
    exact absurd ⟨c :: rest, hextension, hname⟩ hup
  next base _ _ hsplit =>
    rw [stem, hsplit, List.append_assoc]
    rfl
  next hsplit =>
    rw [stem, hsplit, List.append_assoc]
    rfl

/-- The path of a save file ends in its name, behind the same text. -/
theorem endsIn_saveFile (h : rom.EndsIn directory name) (hup : ¬ LeadsUp name) :
    rom.saveFile.EndsIn directory (stem name ++ saveSuffix) := by
  have hslash : '/' ∉ stem name := fun hmem => h.no_slash ((isStem_stem name).subset hmem)
  have hlength : (stem name ++ saveSuffix).length = (stem name).length + 4 := List.length_append
  refine ⟨h.closed, slash_notMem_saveName hslash, ?_, ?_, [], .nil, ?_⟩
  · intro hnil
    rw [hnil, List.length_nil] at hlength
    omega
  · intro hhere
    rw [hhere, List.length_singleton] at hlength
    omega
  · rw [saveFile_eq h hup, List.append_nil]

/-- The save file of a save file is itself. -/
theorem saveFile_saveFile (h : rom.EndsIn directory name) (hup : ¬ LeadsUp name) :
    rom.saveFile.saveFile = rom.saveFile := by
  have hbase : stem name ≠ [] := (isStem_stem name).ne_nil h.ne_nil
  rw [saveFile_eq (endsIn_saveFile h hup) (h.not_leadsUp_saveName hup), stem_saveName hbase,
    saveFile_eq h hup]

/-! ## On a disk -/

/-- A path is absolute if the text before its last name is. -/
theorem EndsIn.isAbsolute_eq (h : path.EndsIn directory name) :
    path.isAbsolute = (directory.head? == some '/') := by
  obtain ⟨trail, -, htext⟩ := h.text
  rw [isAbsolute, htext]
  cases directory with
  | nil =>
      obtain ⟨c, rest, rfl⟩ := List.exists_cons_of_ne_nil h.ne_nil
      have hc : c ≠ '/' := fun hslash => h.no_slash (hslash ▸ List.mem_cons_self ..)
      simpa using hc
  | cons c above => rfl

theorem EndsIn.text_ne_nil (h : path.EndsIn directory name) : path.text ≠ [] := by
  obtain ⟨trail, -, htext⟩ := h.text
  rw [htext]
  simp [h.ne_nil]

/-- **Two names in one directory.** A path that leads somewhere leads to its last name; and with another last name
and nothing behind it, to that name in the same directory. -/
theorem EndsIn.locate_beside {other : Name} (h : path.EndsIn directory name)
    (hother : (⟨directory ++ other⟩ : Path).EndsIn directory other) (hparent : name ≠ parent)
    (hparent' : other ≠ parent) {disk : Disk} {place : Location}
    (hlocate : disk.locate path = .ok place) :
    ∃ above, place = above ++ [name] ∧
      disk.locate ⟨directory ++ other⟩ = .ok (above ++ [other]) := by
  obtain ⟨front, blanks, -, hclosed, hblanks, hpieces⟩ := h.exists_pieces
  obtain ⟨-, hwalk⟩ := Disk.locate_eq_ok.1 hlocate
  rw [hpieces] at hwalk
  -- through the directory, to the name, and no further
  obtain ⟨above, habove, hrest⟩ := Disk.walk_append.1 hwalk
  obtain ⟨found, hname, hstay⟩ := Disk.walk_cons.1 hrest
  obtain ⟨hdirectory, -⟩ := Disk.follow_eq_ok hname
  obtain rfl : above ++ [name] = found :=
    Except.ok.inj ((Disk.follow_name hdirectory h.isBlank hparent).symm.trans hname)
  refine ⟨above, Disk.walk_blanks hblanks hstay, ?_⟩
  have hstart : disk.start ⟨directory ++ other⟩ = disk.start path := by
    rw [Disk.start, Disk.start, hother.isAbsolute_eq, h.isAbsolute_eq]
  have hpieces' : (⟨directory ++ other⟩ : Path).pieces = front ++ [other] := by
    rw [hclosed]
    exact congrArg (front ++ ·) (List.splitOn_eq_singleton hother.no_slash)
  rw [Disk.locate_eq_ok, hstart, hpieces']
  have hlast := Disk.follow_name hdirectory hother.isBlank hparent'
  exact ⟨hother.text_ne_nil, Disk.walk_append.2 ⟨above, habove, Disk.walk_cons.2 ⟨_, hlast, rfl⟩⟩⟩

/-- **A save file stands beside its ROM.** Take a path with a last name that does not lead up. The path of its
save file is the text before the name, the name's stem, and `.sav`. It ends in that name behind the same text,
its own save file is itself, and the name is the ROM's exactly if the ROM's is a stem and `.sav` already. On
every disk where the ROM's path leads somewhere, the path of the save file leads to its name in the same
directory, and to the same place only for such a ROM. -/
theorem save_file_beside_rom (h : rom.EndsIn directory name) (hup : ¬ LeadsUp name) :
    ∃ base, (∀ other, IsStem name other ↔ other = base) ∧
      rom.saveFile.text = directory ++ base ++ ['.', 's', 'a', 'v'] ∧
      rom.saveFile.EndsIn directory (base ++ ['.', 's', 'a', 'v']) ∧
      rom.saveFile.saveFile = rom.saveFile ∧
      (base ++ ['.', 's', 'a', 'v'] = name ↔
        ∃ other, other ≠ [] ∧ name = other ++ ['.', 's', 'a', 'v']) ∧
      ∀ (disk : Disk) (place : Location), disk.locate rom = .ok place →
        (∃ above, place = above ++ [name] ∧
          disk.locate rom.saveFile = .ok (above ++ [base ++ ['.', 's', 'a', 'v']])) ∧
        (disk.locate rom.saveFile = .ok place ↔
          ∃ other, other ≠ [] ∧ name = other ++ ['.', 's', 'a', 'v']) := by
  have hsuffix : saveSuffix = ['.', 's', 'a', 'v'] := rfl
  have hpath := saveFile_eq h hup
  have hends := endsIn_saveFile h hup
  have hsame := saveName_eq_iff h.ne_nil
  have hparent := ne_parent_of_not_leadsUp (h.not_leadsUp_saveName hup)
  rw [hsuffix] at hpath hends hsame hparent
  refine ⟨stem name, fun _ => isStem_iff, ?_, hends, saveFile_saveFile h hup, hsame, ?_⟩
  · rw [hpath, List.append_assoc]
  · intro disk place hlocate
    rw [hpath] at hends ⊢
    obtain ⟨above, rfl, hsave⟩ :=
      h.locate_beside hends (ne_parent_of_not_leadsUp hup) hparent hlocate
    refine ⟨⟨above, rfl, hsave⟩, ?_⟩
    -- the two places are the same if the two names are
    rw [hsave, ← hsame, Except.ok.injEq, List.append_cancel_left_eq, List.singleton_inj]

/-- A hidden ROM with a trail, whose name has two more dots; and on a disk, a ROM with the name of a save file. -/
theorem save_file_beside_rom_hidden :
    let rom : Path := ⟨['a', '/', '/', '.', 'r', '.', '1', '.', 'g', 'b', '/', '.', '/']⟩
    let other : Path := ⟨['a', '/', '.', '/', 'g', '.', 's', 'a', 'v']⟩
    let disk : Disk := ⟨[([['a']], .directory), ([['a'], ['g', '.', 's', 'a', 'v']], .file #[])], []⟩
    (rom.saveFile.text = ['a', '/', '/', '.', 'r', '.', '1', '.', 's', 'a', 'v'] ∧
      rom.saveFile.saveFile = rom.saveFile) ∧
    disk.locate other.saveFile = .ok [['a'], ['g', '.', 's', 'a', 'v']] := by
  intro rom other disk
  constructor
  · have hends : rom.EndsIn ['a', '/', '/'] ['.', 'r', '.', '1', '.', 'g', 'b'] :=
      ⟨Or.inr ⟨['a', '/'], rfl⟩, by decide, by decide, by decide, ['/', '.', '/'], .here (.slash .nil),
        rfl⟩
    have hup : ¬ LeadsUp ['.', 'r', '.', '1', '.', 'g', 'b'] := by
      rintro ⟨extension, -, hname⟩
      exact absurd (List.cons.inj (List.cons.inj hname).2).1 (by decide)
    obtain ⟨base, hbase, htext, -, hagain, -⟩ := save_file_beside_rom hends hup
    have hstem : IsStem (['.', 'r', '.', '1'] ++ '.' :: ['g', 'b']) ['.', 'r', '.', '1'] :=
      .beforeLastDot (by decide) (by decide)
    obtain rfl := (hbase _).1 hstem
    exact ⟨htext, hagain⟩
  · have hends : other.EndsIn ['a', '/', '.', '/'] ['g', '.', 's', 'a', 'v'] :=
      ⟨Or.inr ⟨['a', '/', '.'], rfl⟩, by decide, by decide, by decide, [], .nil, rfl⟩
    have hup : ¬ LeadsUp ['g', '.', 's', 'a', 'v'] := by
      rintro ⟨extension, -, hname⟩
      exact absurd (List.cons.inj hname).1 (by decide)
    obtain ⟨_, -, -, -, -, -, hdisk⟩ := save_file_beside_rom hends hup
    exact (hdisk disk [['a'], ['g', '.', 's', 'a', 'v']] (by rfl)).2.2 ⟨['g'], by decide, rfl⟩

/-- A name that is `..` without its extension is another matter: what stands behind it decides what its save file
is, and that has yet another one. -/
example :
    (⟨['.', '.', 'g', 'b', '/']⟩ : Path).saveFile = ⟨['.', '.', 's', 'a', 'v']⟩ ∧
      (⟨['.', '.', 's', 'a', 'v']⟩ : Path).saveFile = ⟨['.', '.']⟩ := by decide

end GamePak.Path
