import GamePak.Path.SaveFile
import Mathlib.Data.List.TakeWhile

/-!
# `Proofs.Path` — the last name of a path

A path's text is its pieces with slashes between them. What a path names is its last piece that is not blank, and
a name is cut into stem and extension at its last dot. The save file of a ROM has another last piece behind the
same text.

## Contents
- `Path.slash_notMem_of_mem_pieces`, `Path.text_of_pieces`: pieces and the text they come from.
- `Path.exists_last_piece`, `Path.getLast?_pieces_append`: a path's last piece, and a path with a given one.
- `Path.leaf_of_pieces`, `Path.pieces_of_leaf`: the last piece that names something is the leaf.
- `Path.splitExtension_eq_some_iff`, `Path.splitExtension_eq_none`: where a name is cut.
- `Path.last_piece_saveFile`: the last piece of a save file's path.
-/

namespace GamePak.Path

/-! ## Pieces -/

theorem slash_notMem_of_mem_pieces {path : Path} {piece : Name} (h : piece ∈ path.pieces) :
    '/' ∉ piece := by
  obtain ⟨text⟩ := path
  unfold pieces at h
  simp only at h
  induction text generalizing piece with
  | nil =>
      obtain rfl := List.mem_singleton.1 h
      exact List.not_mem_nil
  | cons c rest ih =>
      rw [List.splitOn_cons_eq_if_modifyHead] at h
      by_cases hslash : c = '/'
      · -- a slash closes an empty piece
        rw [if_pos (beq_iff_eq.2 hslash)] at h
        rcases List.mem_cons.1 h with rfl | hrest
        · exact List.not_mem_nil
        · exact ih hrest
      · rw [if_neg (by simpa using hslash)] at h
        obtain ⟨first, others, hpieces⟩ := List.exists_cons_of_ne_nil (List.splitOn_ne_nil '/' rest)
        rw [hpieces, List.modifyHead_cons] at h
        rcases List.mem_cons.1 h with rfl | hothers
        · intro hmem
          rcases List.mem_cons.1 hmem with hc | hfirst
          · exact hslash hc.symm
          · exact ih (hpieces ▸ List.mem_cons_self ..) hfirst
        · exact ih (hpieces ▸ List.mem_cons_of_mem _ hothers)

/-- The text of a path is that of its pieces, with slashes between them: seen from one piece, those before it
have their slash after them and those behind it have it in front. -/
theorem text_of_pieces {path : Path} {front rest : List Name} {name : Name}
    (h : path.pieces = front ++ name :: rest) :
    path.text = front.flatMap (· ++ ['/']) ++ name ++ rest.flatMap ('/' :: ·) := by
  have hjoined : path.text = ['/'].intercalate path.pieces := (List.intercalate_splitOn '/').symm
  rw [hjoined, h]
  clear h hjoined
  induction front with
  | nil =>
      induction rest generalizing name with
      | nil => simp
      | cons next others ih =>
          have hnext := @ih next
          rw [List.nil_append] at hnext ⊢
          rw [List.intercalate_cons_cons, hnext]
          simp
  | cons first others ih =>
      rw [List.cons_append, List.intercalate_cons_of_ne_nil (by simp), ih]
      simp

/-- The text of a path is that of its pieces: the last one, which has no slash, behind the others, each with a
slash after it. -/
theorem exists_last_piece (path : Path) :
    ∃ front name, path.pieces = front ++ [name] ∧ '/' ∉ name ∧
      path.text = front.flatMap (· ++ ['/']) ++ name := by
  have hne : path.pieces ≠ [] := List.splitOn_ne_nil '/' path.text
  have hpieces := (List.dropLast_concat_getLast hne).symm
  refine ⟨_, _, hpieces, slash_notMem_of_mem_pieces (List.getLast_mem hne), ?_⟩
  rw [text_of_pieces hpieces, List.flatMap_nil, List.append_nil]

/-- A text without a slash, behind pieces that are closed, is the last piece. -/
theorem getLast?_pieces_append {name : Name} (hname : '/' ∉ name) (front : List Name) :
    (⟨front.flatMap (· ++ ['/']) ++ name⟩ : Path).pieces.getLast? = some name := by
  unfold pieces
  induction front with
  | nil =>
      show (name.splitOn '/').getLast? = some name
      rw [List.splitOn_eq_singleton hname]
      rfl
  | cons first others ih =>
      have htext : (first :: others).flatMap (· ++ ['/']) ++ name =
          first ++ '/' :: (others.flatMap (· ++ ['/']) ++ name) := by simp
      simp only at ih ⊢
      rw [htext, List.splitOn_append_cons_self, List.getLast?_append, ih]
      rfl

/-! ## The leaf -/

theorem isBlank_iff {piece : Name} : isBlank piece = true ↔ piece = [] ∨ piece = ['.'] := by
  rw [isBlank, Bool.or_eq_true, beq_iff_eq, beq_iff_eq]
  rfl

/-- The last piece that is not blank is the leaf. -/
theorem leaf_of_pieces {path : Path} {front blanks : List Name} {name : Name}
    (h : path.pieces = front ++ name :: blanks) (hname : isBlank name = false)
    (hblanks : ∀ piece ∈ blanks, isBlank piece = true) :
    path.leaf = some ⟨front.flatMap (· ++ ['/']), name, !blanks.isEmpty⟩ := by
  have hbackwards : path.pieces.reverse = blanks.reverse ++ name :: front.reverse := by simp [h]
  have hdrop : path.pieces.reverse.dropWhile isBlank = name :: front.reverse := by
    rw [hbackwards, List.dropWhile_append_of_pos (by simpa using hblanks),
      List.dropWhile_cons_of_neg (by simp [hname])]
  have htrailing : path.pieces.reverse.head?.any isBlank = !blanks.isEmpty := by
    rw [hbackwards]
    rcases List.eq_nil_or_concat blanks with rfl | ⟨others, last, rfl⟩
    · simpa using hname
    · have hlast : isBlank last = true := hblanks last (by simp)
      simp [hlast]
  simp only [leaf, hdrop, htrailing, List.reverse_reverse]

/-- A last piece that names something is the leaf, and nothing follows it. -/
theorem leaf_of_last_piece {path : Path} {front : List Name} {name : Name}
    (h : path.pieces = front ++ [name]) (hname : isBlank name = false) :
    path.leaf = some ⟨front.flatMap (· ++ ['/']), name, false⟩ :=
  leaf_of_pieces h hname (fun _ hpiece => absurd hpiece List.not_mem_nil)

/-- The leaf is a piece with blank pieces behind it. -/
theorem pieces_of_leaf {path : Path} {leaf : Leaf} (h : path.leaf = some leaf) :
    ∃ front blanks, path.pieces = front ++ leaf.name :: blanks ∧ isBlank leaf.name = false ∧
      (∀ piece ∈ blanks, isBlank piece = true) ∧ leaf.directory = front.flatMap (· ++ ['/']) := by
  unfold Path.leaf at h
  simp only at h
  split at h
  · cases h
  next name before hdrop =>
    obtain rfl := Option.some.inj h
    refine ⟨before.reverse, (path.pieces.reverse.takeWhile isBlank).reverse, ?_, ?_, ?_, rfl⟩
    · have hsplit := List.takeWhile_append_dropWhile (p := isBlank) (l := path.pieces.reverse)
      rw [hdrop] at hsplit
      have hpieces := congrArg List.reverse hsplit
      rw [List.reverse_reverse] at hpieces
      exact hpieces.symm.trans (by simp)
    · have hhead := List.head?_dropWhile_not isBlank path.pieces.reverse
      rw [hdrop] at hhead
      exact hhead
    · intro piece hpiece
      exact List.mem_takeWhile_imp (List.mem_reverse.1 hpiece)

/-! ## Names cut at their last dot -/

theorem ne_dot_of_mem_reverse {text : List Char} (h : '.' ∉ text) :
    ∀ c ∈ text.reverse, (c != '.') = true := by
  intro c hc
  rw [bne_iff_ne]
  rintro rfl
  exact h (List.mem_reverse.1 hc)

/-- A dot with something before it and no dot behind it is where a name is cut. -/
theorem splitExtension_append {stem extension : List Char} (hstem : stem ≠ [])
    (hextension : '.' ∉ extension) :
    splitExtension (stem ++ '.' :: extension) = some (stem, extension) := by
  obtain ⟨c, rest, hbackwards⟩ := List.exists_cons_of_ne_nil (List.reverse_ne_nil_iff.2 hstem)
  have hname : (stem ++ '.' :: extension).reverse = extension.reverse ++ '.' :: c :: rest := by
    simp [hbackwards]
  have hdotless := ne_dot_of_mem_reverse hextension
  have hforwards : (c :: rest).reverse = stem := by rw [← hbackwards, List.reverse_reverse]
  unfold splitExtension
  simp only [hname, List.dropWhile_append_of_pos hdotless, List.takeWhile_append_of_pos hdotless]
  show some ((c :: rest).reverse, (extension.reverse ++ []).reverse) = _
  rw [hforwards, List.append_nil, List.reverse_reverse]

/-- A name is not cut at a dot that it starts with. -/
theorem splitExtension_eq_none {name : Name} (h : '.' ∉ name.tail) : splitExtension name = none := by
  cases name with
  | nil => rfl
  | cons c rest =>
      have hrest : '.' ∉ rest := h
      have hdotless := ne_dot_of_mem_reverse hrest
      unfold splitExtension
      simp only [List.reverse_cons, List.dropWhile_append_of_pos hdotless]
      by_cases hdot : c = '.'
      · rw [hdot]
        rfl
      · rw [List.dropWhile_cons_of_pos (by simpa using hdot)]
        rfl

/-- A dot behind the first character makes a last dot. -/
theorem exists_last_dot {name : Name} (h : '.' ∈ name.tail) :
    ∃ stem extension, stem ≠ [] ∧ '.' ∉ extension ∧ name = stem ++ '.' :: extension := by
  obtain ⟨c, rest, rfl⟩ := List.exists_cons_of_ne_nil (l := name) (by rintro rfl; cases h)
  obtain ⟨extension, before, hsplit, hextension⟩ :=
    List.eq_append_cons_of_mem (List.mem_reverse.2 h)
  refine ⟨c :: before.reverse, extension.reverse, List.cons_ne_nil _ _, ?_, ?_⟩
  · rw [List.mem_reverse]
    exact hextension
  · have hrest : rest = (extension ++ '.' :: before).reverse := by
      rw [← hsplit, List.tail_cons, List.reverse_reverse]
    rw [hrest]
    simp

/-- **Where a name is cut.** -/
theorem splitExtension_eq_some_iff {name stem extension : List Char} :
    splitExtension name = some (stem, extension) ↔
      stem ≠ [] ∧ '.' ∉ extension ∧ name = stem ++ '.' :: extension := by
  constructor
  · intro h
    by_cases hdot : '.' ∈ name.tail
    · obtain ⟨stem', extension', hstem, hextension, rfl⟩ := exists_last_dot hdot
      rw [splitExtension_append hstem hextension] at h
      obtain ⟨rfl, rfl⟩ := Prod.mk.inj (Option.some.inj h)
      exact ⟨hstem, hextension, rfl⟩
    · rw [splitExtension_eq_none hdot] at h
      cases h
  · rintro ⟨hstem, hextension, rfl⟩
    exact splitExtension_append hstem hextension

/-! ## The last piece of a save file's path -/

theorem slash_notMem_saveName {stem : List Char} (h : '/' ∉ stem) : '/' ∉ stem ++ saveSuffix := by
  have hsuffix : '/' ∉ saveSuffix := by decide
  intro hmem
  rcases List.mem_append.1 hmem with hstem | hextension
  · exact h hstem
  · exact hsuffix hextension

/-- **The last piece of a save file's path** ends with the suffix of save files, unless there is no name to
extend. -/
theorem last_piece_saveFile {rom : Path} {front : List Name} {name : Name}
    (h : rom.pieces = front ++ [name]) (hslash : '/' ∉ name) (hname : isBlank name = false) :
    ∃ last, rom.saveFile.pieces.getLast? = some last ∧
      (last = parent ∨ name ≠ parent ∧ saveSuffix <:+ last) := by
  unfold saveFile
  rw [leaf_of_last_piece h hname]
  simp only
  by_cases hparent : name = parent
  · rw [if_pos hparent]
    refine ⟨name, ?_, Or.inl hparent⟩
    rw [h, List.getLast?_concat]
  · rw [if_neg hparent]
    split
    · -- without its extension such a name is the parent directory
      exact ⟨parent, getLast?_pieces_append (by decide) front, Or.inl rfl⟩
    next stem extension _ hsplit =>
      obtain ⟨-, -, rfl⟩ := splitExtension_eq_some_iff.1 hsplit
      have hstem : '/' ∉ stem := fun hmem => hslash (List.mem_append_left _ hmem)
      refine ⟨stem ++ saveSuffix, ?_, Or.inr ⟨hparent, List.suffix_append ..⟩⟩
      rw [List.append_assoc]
      exact getLast?_pieces_append (slash_notMem_saveName hstem) front
    · refine ⟨name ++ saveSuffix, ?_, Or.inr ⟨hparent, List.suffix_append ..⟩⟩
      rw [List.append_assoc]
      exact getLast?_pieces_append (slash_notMem_saveName hslash) front

end GamePak.Path

