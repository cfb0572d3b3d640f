import GamePak.Disk

/-!
# `Proofs.Disk` — what a write leaves alone

A write changes one location, and one that is no directory. Paths go through directories only, so every
path that led somewhere before the write leads to the same place after it.

## Contents
- `Disk.FileSlot`, `Disk.Writable`: where a write through a path puts its file, and that it can.
- `Disk.read_of_locate`, `Disk.read_eq_ok`: a read that succeeds.
- `Disk.locate_eq_ok`, `Disk.walk_cons`, `Disk.walk_append`, `Disk.walk_blanks`: a path as a walk.
- `Disk.getLast?_of_locate`, `Disk.directory_of_locate`, `Disk.exists_name_of_target`: the last step of a path.
- `Disk.AgreeOff`: two disks that differ at one location at most.
- `Disk.locate_of_agree`, `Disk.target_of_agree`, `Disk.read_of_agree`: paths on such disks.
- `Disk.read_after_write`, `Disk.write_eq_ok`: a file holds what was last written to it.
- `Disk.locate_rewrite`, `Disk.read_rewrite_self`, `Disk.read_rewrite_of_ne`: other content in a file that
  is there already.
-/

namespace GamePak.Disk

variable {disk other : Disk} {path : Path} {place spot : Location}

/-! ## Where a write goes -/

/-- A write through `path` replaces or makes the file at `place`. -/
structure FileSlot (disk : Disk) (path : Path) (place : Location) : Prop where
  target : disk.target path = .ok place
  no_directory : disk.find? place ≠ some .directory

/-- Some content can be written through `path`. -/
def Writable (disk : Disk) (path : Path) : Prop :=
  ∃ data after, disk.write path data = .ok after

/-- The root is not a file. -/
theorem FileSlot.ne_root (h : disk.FileSlot path place) : place ≠ [] := by
  rintro rfl
  exact h.no_directory rfl

/-- Whatever the content, a write through a path with a slot succeeds. -/
theorem FileSlot.write (h : disk.FileSlot path place) (data : Bytes) :
    disk.write path data = .ok (disk.insert place (.file data)) := by
  simp only [Disk.write, h.target, bind, Except.bind]
  split
  next hdirectory => exact absurd hdirectory h.no_directory
  · rfl

/-- A path that can be written through has a slot. So whether a write succeeds does not depend on the
content. -/
theorem Writable.exists_slot (h : disk.Writable path) : ∃ place, disk.FileSlot path place := by
  obtain ⟨data, after, hwrite⟩ := h
  cases htarget : disk.target path with
  | error cause =>
      simp only [Disk.write, htarget, bind, Except.bind] at hwrite
      cases hwrite
  | ok place =>
      refine ⟨place, htarget, ?_⟩
      intro hdirectory
      simp only [Disk.write, htarget, bind, Except.bind, hdirectory] at hwrite
      cases hwrite

/-! ## What a read finds -/

/-- Two steps succeed if the first one does and the second one does on its result. -/
theorem bind_eq_ok {α β : Type} {first : Except DiskError α} {second : α → Except DiskError β}
    {result : β} : (first >>= second) = .ok result ↔ ∃ a, first = .ok a ∧ second a = .ok result := by
  cases first with
  | error cause => exact ⟨nofun, fun ⟨_, h, _⟩ => nomatch h⟩
  | ok a =>
      constructor
      · intro h
        exact ⟨a, rfl, h⟩
      · rintro ⟨_, ha, h⟩
        obtain rfl := Except.ok.inj ha
        exact h

/-- A path that leads to a file reads it. -/
theorem read_of_locate {data : Bytes} (hlocate : disk.locate path = .ok spot)
    (hfile : disk.find? spot = some (.file data)) : disk.read path = .ok data := by
  simp only [read, hlocate, bind, Except.bind, hfile]

/-- A read that succeeds finds a file where the path leads. -/
theorem read_eq_ok {data : Bytes} (h : disk.read path = .ok data) :
    ∃ spot, disk.locate path = .ok spot ∧ disk.find? spot = some (.file data) := by
  obtain ⟨spot, hlocate, hfound⟩ := bind_eq_ok.1 h
  split at hfound
  · cases hfound
  · cases hfound
  next found hfind =>
    cases hfound
    exact ⟨spot, hlocate, hfind⟩

/-! ## Walks and their last step -/

/-- A path that leads somewhere is not empty, and its pieces are a walk to that place. -/
theorem locate_eq_ok : disk.locate path = .ok spot ↔
    path.text ≠ [] ∧ path.pieces.foldlM disk.follow (disk.start path) = .ok spot := by
  unfold locate
  by_cases htext : path.text = []
  · rw [if_pos htext]
    constructor
    · nofun
    · rintro ⟨hne, -⟩
      exact absurd htext hne
  · rw [if_neg htext]
    exact ⟨fun h => ⟨htext, h⟩, And.right⟩

/-- A walk takes its first step and goes on from there. -/
theorem walk_cons {piece : Name} {rest : List Name} :
    (piece :: rest).foldlM disk.follow place = .ok spot ↔
      ∃ next, disk.follow place piece = .ok next ∧ rest.foldlM disk.follow next = .ok spot := by
  rw [List.foldlM_cons, bind_eq_ok]

/-- A walk in two parts goes through the place where the first part ends. -/
theorem walk_append {front rest : List Name} :
    (front ++ rest).foldlM disk.follow place = .ok spot ↔
      ∃ above, front.foldlM disk.follow place = .ok above ∧
        rest.foldlM disk.follow above = .ok spot := by
  rw [List.foldlM_append, bind_eq_ok]

/-- The last step is taken from the place that the pieces before lead to. -/
theorem follow_of_locate {front : List Name} {name : Name} (hpieces : path.pieces = front ++ [name])
    (h : disk.locate path = .ok spot) : ∃ above, disk.follow above name = .ok spot := by
  obtain ⟨-, hwalk⟩ := locate_eq_ok.1 h
  rw [hpieces] at hwalk
  obtain ⟨above, -, hlast⟩ := walk_append.1 hwalk
  obtain ⟨found, hfollow, hend⟩ := walk_cons.1 hlast
  obtain rfl := Except.ok.inj hend
  exact ⟨above, hfollow⟩

/-- A step is taken from a directory, and the piece says where it goes. -/
theorem follow_eq_ok {piece : Name} {found : Location} (h : disk.follow spot piece = .ok found) :
    disk.find? spot = some .directory ∧
      found = if Path.isBlank piece then spot
        else if piece = Path.parent then spot.dropLast
        else spot ++ [piece] := by
  unfold follow at h
  cases henter : disk.enter spot with
  | error cause =>
      rw [henter] at h
      cases h
  | ok entered =>
      obtain ⟨rfl, hdirectory⟩ := enter_eq_ok henter
      rw [henter] at h
      exact ⟨hdirectory, (Except.ok.inj h).symm⟩

/-- From a directory a step can be taken to every name. -/
theorem follow_name {name : Name} (hdirectory : disk.find? spot = some .directory)
    (hname : Path.isBlank name = false) (hparent : name ≠ Path.parent) :
    disk.follow spot name = .ok (spot ++ [name]) := by
  have henter : disk.enter spot = .ok spot := by simp only [enter, hdirectory]
  rw [follow, henter]
  simp only [Except.map, hname, Bool.false_eq_true, if_false, if_neg hparent]

/-- Blank pieces lead nowhere else. -/
theorem walk_blanks {blanks : List Name} (hblanks : ∀ piece ∈ blanks, Path.isBlank piece = true)
    (h : blanks.foldlM disk.follow place = .ok spot) : spot = place := by
  induction blanks with
  | nil => exact (Except.ok.inj h).symm
  | cons piece rest ih =>
      rw [List.forall_mem_cons] at hblanks
      obtain ⟨next, hnext, hrest⟩ := walk_cons.1 h
      obtain ⟨-, hstays⟩ := follow_eq_ok hnext
      rw [if_pos hblanks.1] at hstays
      subst hstays
      exact ih hblanks.2 hrest

/-- A path that ends in a name leads to a place with that name. -/
theorem getLast?_of_locate {front : List Name} {name : Name}
    (hpieces : path.pieces = front ++ [name]) (hname : Path.isBlank name = false)
    (hparent : name ≠ Path.parent) (h : disk.locate path = .ok spot) :
    spot.getLast? = some name := by
  obtain ⟨above, hfollow⟩ := follow_of_locate hpieces h
  obtain ⟨-, hspot⟩ := follow_eq_ok hfollow
  rw [hname, if_neg Bool.false_ne_true, if_neg hparent] at hspot
  rw [hspot, List.getLast?_concat]

/-- A path that ends in a blank piece leads to a directory. -/
theorem directory_of_locate {front : List Name} {name : Name}
    (hpieces : path.pieces = front ++ [name]) (hname : Path.isBlank name = true)
    (h : disk.locate path = .ok spot) : disk.find? spot = some .directory := by
  obtain ⟨above, hfollow⟩ := follow_of_locate hpieces h
  obtain ⟨hdirectory, hspot⟩ := follow_eq_ok hfollow
  rw [if_pos hname] at hspot
  rw [hspot]
  exact hdirectory

/-- A path that can be written through ends in a name. -/
theorem exists_name_of_target (h : disk.target path = .ok spot) :
    ∃ name, path.pieces.getLast? = some name ∧ Path.isBlank name = false ∧ name ≠ Path.parent := by
  unfold target at h
  split at h
  · cases h
  obtain ⟨above, -, h⟩ := bind_eq_ok.1 h
  obtain ⟨entered, -, h⟩ := bind_eq_ok.1 h
  split at h
  next name hlast =>
    split at h
    · cases h
    next hname =>
      rw [not_or] at hname
      exact ⟨name, hlast, Bool.eq_false_iff.2 hname.1, hname.2⟩
  · cases h

/-! ## Disks that differ at one location -/

/-- The disks have the same home and the same entries but for what stands at `place`. -/
structure AgreeOff (place : Location) (disk other : Disk) : Prop where
  home : other.home = disk.home
  entries : ∀ spot, spot ≠ place → other.find? spot = disk.find? spot

theorem AgreeOff.refl (place : Location) (disk : Disk) : AgreeOff place disk disk :=
  ⟨rfl, fun _ _ => rfl⟩

theorem AgreeOff.trans {third : Disk} (h : AgreeOff place disk other)
    (h' : AgreeOff place other third) : AgreeOff place disk third :=
  ⟨h'.home.trans h.home, fun spot hne => (h'.entries spot hne).trans (h.entries spot hne)⟩

theorem agreeOff_insert (place : Location) (disk : Disk) (entry : Entry) :
    AgreeOff place disk (disk.insert place entry) :=
  ⟨rfl, fun _ hne => find?_insert_of_ne disk entry hne⟩

theorem AgreeOff.start (h : AgreeOff place disk other) (path : Path) :
    other.start path = disk.start path := by
  unfold Disk.start
  rw [h.home]

section Paths

variable (hagree : AgreeOff place disk other) (hplace : disk.find? place ≠ some .directory)

include hagree hplace

/-- The location that differs was no directory, so each directory is still there. -/
theorem enter_of_agree {found : Location} (h : disk.enter spot = .ok found) :
    other.enter spot = .ok found := by
  obtain ⟨rfl, hdirectory⟩ := enter_eq_ok h
  have hne : found ≠ place := by
    rintro rfl
    exact hplace hdirectory
  simp only [enter, hagree.entries found hne, hdirectory]

theorem follow_of_agree {piece : Name} {found : Location} (h : disk.follow spot piece = .ok found) :
    other.follow spot piece = .ok found := by
  unfold follow at h ⊢
  cases henter : disk.enter spot with
  | error cause =>
      rw [henter] at h
      cases h
  | ok entered =>
      rw [henter] at h
      rw [enter_of_agree hagree hplace henter]
      exact h

/-- Piece by piece, a walk that came to its end comes to the same end. -/
theorem walk_of_agree {pieces : List Name} {found : Location}
    (h : pieces.foldlM disk.follow spot = .ok found) :
    pieces.foldlM other.follow spot = .ok found := by
  -- the walk starts anywhere, since each piece moves its start
  induction pieces generalizing spot with
  | nil => exact h
  | cons piece rest ih =>
      obtain ⟨next, hnext, hrest⟩ := walk_cons.1 h
      exact walk_cons.2 ⟨next, follow_of_agree hagree hplace hnext, ih hrest⟩

/-- A path leads to the same place on both disks. -/
theorem locate_of_agree (h : disk.locate path = .ok spot) : other.locate path = .ok spot := by
  obtain ⟨htext, hwalk⟩ := locate_eq_ok.1 h
  refine locate_eq_ok.2 ⟨htext, ?_⟩
  rw [hagree.start]
  exact walk_of_agree hagree hplace hwalk

/-- A write through a path goes to the same place on both disks. -/
theorem target_of_agree (h : disk.target path = .ok spot) : other.target path = .ok spot := by
  unfold target at h ⊢
  by_cases htext : path.text = []
  · rw [if_pos htext] at h
    cases h
  rw [if_neg htext] at h ⊢
  -- first the way to the directory, then the directory itself
  obtain ⟨above, hwalk, h⟩ := bind_eq_ok.1 h
  obtain ⟨entered, henter, hname⟩ := bind_eq_ok.1 h
  rw [hagree.start]
  exact bind_eq_ok.2 ⟨above, walk_of_agree hagree hplace hwalk,
    bind_eq_ok.2 ⟨entered, enter_of_agree hagree hplace henter, hname⟩⟩

/-- **A file elsewhere has the same content on both disks.** -/
theorem read_of_agree {data : Bytes} (helse : disk.locate path ≠ .ok place)
    (h : disk.read path = .ok data) : other.read path = .ok data := by
  obtain ⟨spot, hspot, hfile⟩ := read_eq_ok h
  have hne : spot ≠ place := by
    rintro rfl
    exact helse hspot
  exact read_of_locate (locate_of_agree hagree hplace hspot) ((hagree.entries spot hne).trans hfile)

end Paths

/-- What was a slot stays one as long as no directory is put there. -/
theorem FileSlot.of_agree (h : disk.FileSlot path place) (hagree : AgreeOff place disk other)
    (hother : other.find? place ≠ some .directory) : other.FileSlot path place :=
  ⟨target_of_agree hagree h.no_directory h.target, hother⟩

/-! ## After a write -/

theorem FileSlot.insert (h : disk.FileSlot path place) (data : Bytes) :
    (disk.insert place (.file data)).FileSlot path place := by
  refine h.of_agree (agreeOff_insert place disk _) ?_
  rw [find?_insert_self disk _ h.ne_root]
  nofun

/-- **A file holds what was last written to it.** -/
theorem read_after_write (h : disk.FileSlot path place) (data : Bytes) :
    (disk.insert place (.file data)).read path = .ok data :=
  read_of_locate (locate_of_target (h.insert data).target) (find?_insert_self disk _ h.ne_root)

/-- A write that succeeds puts its file into a slot. -/
theorem write_eq_ok {data : Bytes} (h : disk.write path data = .ok other) :
    ∃ place, disk.FileSlot path place ∧ other = disk.insert place (.file data) := by
  have hwritable : disk.Writable path := ⟨data, other, h⟩
  obtain ⟨place, hslot⟩ := hwritable.exists_slot
  rw [hslot.write data] at h
  exact ⟨place, hslot, (Except.ok.inj h).symm⟩

/-! ## Other content for a file

A file that gets other content is in nobody's way before or after, so all paths lead where they led,
also those that lead nowhere. -/

section Rewrite

variable {data : Bytes} (hfile : disk.find? place = some (.file data))

include hfile

theorem ne_root : place ≠ [] := by
  rintro rfl
  cases hfile

variable (content : Bytes)

theorem enter_rewrite (spot : Location) :
    (disk.insert place (.file content)).enter spot = disk.enter spot := by
  by_cases hspot : spot = place
  · subst hspot
    simp only [enter, find?_insert_self disk _ (ne_root hfile), hfile]
  · simp only [enter, find?_insert_of_ne disk _ hspot]

theorem follow_rewrite : (disk.insert place (.file content)).follow = disk.follow := by
  funext spot piece
  unfold follow
  rw [enter_rewrite hfile]

theorem locate_rewrite (path : Path) :
    (disk.insert place (.file content)).locate path = disk.locate path := by
  unfold locate
  rw [follow_rewrite hfile]
  rfl

theorem read_rewrite_self (hpath : disk.locate path = .ok place) :
    (disk.insert place (.file content)).read path = .ok content :=
  read_of_locate ((locate_rewrite hfile content path).trans hpath)
    (find?_insert_self disk _ (ne_root hfile))

theorem read_rewrite_of_ne (hpath : disk.locate path ≠ .ok place) :
    (disk.insert place (.file content)).read path = disk.read path := by
  unfold read
  rw [locate_rewrite hfile]
  cases hlocate : disk.locate path with
  | error cause => rfl
  | ok spot =>
      have hspot : spot ≠ place := by
        rintro rfl
        exact hpath hlocate
      simp only [bind, Except.bind, find?_insert_of_ne disk _ hspot]

end Rewrite

end GamePak.Disk
