import GamePak.Bytes
import GamePak.Path

/-!
# `GamePak.Disk` — a tree of files

A disk holds files and directories at locations below one root. Paths that do not start at the root
start at the disk's home directory. A path is followed piece by piece: each step needs a directory
to step from, blank pieces stay where they are and `..` goes up, the root being its own parent.

## Contents
- `Location`, `Entry`, `Disk`, `DiskError` with its wording.
- `Disk.find?`, `Disk.insert`, `Disk.erase`: the entry at a location
  (`Disk.find?_insert_self`, `Disk.find?_insert_of_ne`, `Disk.find?_erase_self`).
- `Disk.locate`, `Disk.target`: where a path leads, for reading and for writing
  (`Disk.locate_of_target`).
- `Disk.read`, `Disk.write`: file content by path. A write replaces the whole file or fails.
- `Disk.provide`, `Disk.provideDirectory`, `Disk.remove`: furnishing a disk.
-/

namespace GamePak

/-- A place in the tree: the names on the way from the root. -/
abbrev Location := List Name

/-- What stands at a location. -/
inductive Entry where
  | file (data : Bytes)
  | directory
deriving DecidableEq

/-- Why a path could not be read or written. -/
inductive DiskError where
  | notFound
  | isDirectory
  | notDirectory
deriving DecidableEq, Repr

/-- The wording of a disk error. -/
def DiskError.message : DiskError → String
  | .notFound => "No such file or directory (os error 2)"
  | .isDirectory => "Is a directory (os error 21)"
  | .notDirectory => "Not a directory (os error 20)"

instance : ToString DiskError := ⟨DiskError.message⟩

/-- A tree of files, and the directory that relative paths start from. -/
structure Disk where
  entries : List (Location × Entry)
  home : Location

namespace Disk

/-! ## Entries by location -/

/-- The entry at a location. The root is always a directory. -/
def find? (disk : Disk) (place : Location) : Option Entry :=
  if place = [] then some .directory else disk.entries.lookup place

/-- The disk without the entry at `place`. -/
def erase (disk : Disk) (place : Location) : Disk :=
  { disk with entries := disk.entries.filter (·.1 != place) }

/-- The disk with `entry` at `place`, instead of what was there. -/
def insert (disk : Disk) (place : Location) (entry : Entry) : Disk :=
  { disk with entries := (disk.erase place).entries ++ [(place, entry)] }

/-- The list without the entries at `place` has none there. -/
theorem lookup_filter_self (place : Location) (entries : List (Location × Entry)) :
    (entries.filter (·.1 != place)).lookup place = none := by
  rw [List.lookup_eq_none_iff]
  intro e he
  have hne : e.1 ≠ place := by simpa using (List.mem_filter.1 he).2
  simpa using hne.symm

/-- The list without the entries at `place` is the same list at every other location. -/
theorem lookup_filter_of_ne {place other : Location} (h : other ≠ place)
    (entries : List (Location × Entry)) :
    (entries.filter (·.1 != place)).lookup other = entries.lookup other := by
  induction entries with
  | nil => rfl
  | cons e rest ih =>
    obtain ⟨spot, entry⟩ := e
    by_cases hp : spot = place
    · have ho : (other == spot) = false := by simpa [hp] using h
      rw [List.lookup_cons, ho, ← ih]
      simp [hp]
    · rw [List.filter_cons_of_pos (by simpa using hp), List.lookup_cons, List.lookup_cons, ih]

/-- An entry that was put somewhere is found there. -/
theorem find?_insert_self (disk : Disk) {place : Location} (entry : Entry) (h : place ≠ []) :
    (disk.insert place entry).find? place = some entry := by
  simp [find?, insert, erase, h, List.lookup_append, lookup_filter_self]

/-- Putting an entry somewhere changes no other location. -/
theorem find?_insert_of_ne (disk : Disk) {place other : Location} (entry : Entry)
    (h : other ≠ place) : (disk.insert place entry).find? other = disk.find? other := by
  by_cases hr : other = []
  · simp [find?, hr]
  · have hs : (other == place) = false := by simpa using h
    simp [find?, insert, erase, hr, List.lookup_append, List.lookup_cons, hs,
      lookup_filter_of_ne h]

/-- Nothing is left where an entry was taken away. -/
theorem find?_erase_self (disk : Disk) {place : Location} (h : place ≠ []) :
    (disk.erase place).find? place = none := by
  simp [find?, erase, h, lookup_filter_self]

/-! ## Following a path -/

/-- Checks that `place` is a directory. -/
def enter (disk : Disk) (place : Location) : Except DiskError Location :=
  match disk.find? place with
  | none => .error .notFound
  | some (.file _) => .error .notDirectory
  | some .directory => .ok place

/-- One step from a directory along a piece of a path. -/
def follow (disk : Disk) (place : Location) (piece : Name) : Except DiskError Location :=
  (disk.enter place).map fun place =>
    if Path.isBlank piece then place
    else if piece = Path.parent then place.dropLast
    else place ++ [piece]

/-- Where a path starts. -/
def start (disk : Disk) (path : Path) : Location :=
  if path.isAbsolute then [] else disk.home

/-- Where a path leads. The last step may lead to a place with no entry. -/
def locate (disk : Disk) (path : Path) : Except DiskError Location :=
  if path.text = [] then .error .notFound
  else path.pieces.foldlM disk.follow (disk.start path)

/-- The location of the file that a write through `path` replaces or makes. The directory it stands
in must exist, and the path must end in a name with nothing after it. -/
def target (disk : Disk) (path : Path) : Except DiskError Location :=
  if path.text = [] then .error .notFound
  else do
    let above := (path.pieces.reverse.dropWhile (· == [])).tail.reverse
    let place ← above.foldlM disk.follow (disk.start path)
    let place ← disk.enter place
    match path.pieces.getLast? with
    | some name =>
      if Path.isBlank name ∨ name = Path.parent then .error .isDirectory
      else .ok (place ++ [name])
    | none => .error .isDirectory

/-- Only a directory can be entered. -/
theorem enter_eq_ok {disk : Disk} {place found : Location} (h : disk.enter place = .ok found) :
    found = place ∧ disk.find? place = some .directory := by
  unfold enter at h
  split at h <;> simp_all

/-- Where a write goes is where a read looks. -/
theorem locate_of_target {disk : Disk} {path : Path} {place : Location}
    (h : disk.target path = .ok place) : disk.locate path = .ok place := by
  unfold target at h
  split at h
  · cases h
  next htext =>
  simp only [bind, Except.bind] at h
  split at h
  · cases h
  next above habove =>
  split at h
  · cases h
  next found hplace =>
  split at h
  next name hlast =>
    split at h
    · cases h
    next hname =>
    cases h
    obtain ⟨front, hfront⟩ := List.getLast?_eq_some_iff.1 hlast
    have hne : name ≠ [] := by
      rintro rfl
      exact hname (Or.inl rfl)
    have hab : ((path.pieces.reverse.dropWhile (· == [])).tail.reverse) = front := by
      simp [hfront, hne]
    obtain ⟨rfl, hdir⟩ := enter_eq_ok hplace
    rw [hab] at habove
    simp only [locate, htext, if_false, hfront, List.foldlM_append, habove]
    simp only [bind, Except.bind, List.foldlM, follow, enter, hdir, Except.map, pure, Except.pure]
    simp only [not_or] at hname
    simp [hname]
  · cases h

/-! ## Reading and writing -/

/-- The content of the file that `path` names. -/
def read (disk : Disk) (path : Path) : Except DiskError Bytes := do
  let place ← disk.locate path
  match disk.find? place with
  | none => .error .notFound
  | some .directory => .error .isDirectory
  | some (.file data) => .ok data

/-- The disk with `data` as the whole content of the file that `path` names. -/
def write (disk : Disk) (path : Path) (data : Bytes) : Except DiskError Disk := do
  let place ← disk.target path
  match disk.find? place with
  | some .directory => .error .isDirectory
  | _ => .ok (disk.insert place (.file data))

/-! ## Furnishing a disk -/

/-- Makes directories of `place` and of every place above it that has no entry. Nothing is made below
a file. -/
def makeDirectories (disk : Disk) (place : Location) : Disk :=
  (List.range place.length).foldl (fun disk n =>
    let above := place.take n
    let next := place.take (n + 1)
    if disk.find? above = some .directory ∧ (disk.find? next).isNone then
      disk.insert next .directory
    else disk) disk

/-- An empty disk with the given home directory. -/
def empty (home : Location) : Disk :=
  makeDirectories ⟨[], home⟩ home

/-- The location that a path spells, whatever the disk holds. -/
def spelled (disk : Disk) (path : Path) : Location :=
  path.pieces.foldl (fun place piece =>
    if Path.isBlank piece then place
    else if piece = Path.parent then place.dropLast
    else place ++ [piece]) (disk.start path)

/-- The disk with a file at `path`, and the directories above it. A directory is not replaced, and
nothing is put below a file. -/
def provide (disk : Disk) (path : Path) (data : Bytes) : Disk :=
  let place := disk.spelled path
  let disk := disk.makeDirectories place.dropLast
  if disk.find? place.dropLast = some .directory ∧ disk.find? place ≠ some .directory then
    disk.insert place (.file data)
  else disk

/-- The disk with a directory at `path`, and those above it. -/
def provideDirectory (disk : Disk) (path : Path) : Disk :=
  disk.makeDirectories (disk.spelled path)

/-- The disk without the file at `path`. -/
def remove (disk : Disk) (path : Path) : Disk :=
  let place := disk.spelled path
  match disk.find? place with
  | some (.file _) => disk.erase place
  | _ => disk

/-- What stands in the home directory and below it, each by its place within it. -/
def contents (disk : Disk) : List (Location × Entry) :=
  disk.entries.filterMap fun (place, entry) =>
    match disk.home.isPrefixOf? place with
    | some (name :: rest) => some (name :: rest, entry)
    | _ => none

end Disk

end GamePak
