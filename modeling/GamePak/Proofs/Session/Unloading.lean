import GamePak.Proofs.Path
import GamePak.Proofs.Session.PowerCycle

/-!
# `Proofs.Session.Unloading` — a ROM file and its save file after a session

A ROM file that is opened with the default options has its save file beside it. Unloading replaces the save
file by the start of RAM, whatever is there: a save file of another length does not come back as it was, and
a ROM file with the extension of save files is its own save file.

## Contents
- `Session.Overwrites`, `Session.suffix_of_overwrites`: a session saves to its ROM file.
- `Session.read_rom_of_overwrites`, `Session.read_rom_of_not_overwrites`: what becomes of the ROM file.
- `Session.rom_file_after_session`, and a ROM file that is lost.
- `Session.saved_of_open`, `Session.read_saveFile`: from the save file to RAM and back.
- `Session.save_file_after_idle_session`, and a save file that is lost.
-/

namespace GamePak.Session

variable {disk : Disk} {rom : Path} {cartridge : Cartridge}

/-! ## The ROM file -/

/-- A session with this cartridge saves to the ROM file: there is a battery, and the save path leads to the
ROM file and can be written through. -/
def Overwrites (disk : Disk) (rom : Path) (cartridge : Cartridge) : Prop :=
  cartridge.header.type.isBatteryBacked ∧ disk.Writable rom.saveFile ∧
    disk.locate rom.saveFile = disk.locate rom

/-- Only a ROM file with the name of a save file is saved to. -/
theorem suffix_of_overwrites (hover : Overwrites disk rom cartridge) :
    Path.saveSuffix <:+ rom.text := by
  obtain ⟨-, hwritable, hsame⟩ := hover
  obtain ⟨place, hslot⟩ := hwritable.exists_slot
  have hsave : disk.locate rom.saveFile = .ok place := Disk.locate_of_target hslot.target
  have hrom : disk.locate rom = .ok place := hsame.symm.trans hsave
  obtain ⟨front, name, hpieces, hslash, htext⟩ := rom.exists_last_piece
  obtain ⟨written, hwritten, hnamed, hproper⟩ := Disk.exists_name_of_target hslot.target
  obtain ⟨front', hpieces'⟩ := List.getLast?_eq_some_iff.1 hwritten
  have hname : Path.isBlank name = false := by
    rw [Bool.eq_false_iff]
    intro hblank
    -- a blank piece at the end asks for a directory
    exact hslot.no_directory (Disk.directory_of_locate hpieces hblank hrom)
  obtain ⟨last, hlast, hends⟩ := Path.last_piece_saveFile hpieces hslash hname
  obtain rfl : last = written := Option.some.inj (hlast.symm.trans hwritten)
  rcases hends with hparent | ⟨hparent, hsuffix⟩
  · exact absurd hparent hproper
  · -- both paths lead to the place, which has the last piece of either for its name
    have hplace := Disk.getLast?_of_locate hpieces hname hparent hrom
    have hplace' := Disk.getLast?_of_locate hpieces' hnamed hproper hsave
    obtain rfl : name = last := Option.some.inj (hplace.symm.trans hplace')
    rw [htext]
    exact hsuffix.trans (List.suffix_append ..)

theorem savePath_of_open (hopen : (Cartridge.ofFile disk rom {}).value = .ok cartridge)
    (hbattery : cartridge.header.type.isBatteryBacked) :
    cartridge.savePath = some rom.saveFile := by
  obtain ⟨image, -, hload⟩ := Cartridge.exists_load_of_ofFile hopen
  have hsave := Cartridge.savePath_of_load hload
  rw [hbattery] at hsave
  exact hsave

/-- A ROM file that the session saves to ends as a save file. -/
theorem read_rom_of_overwrites (hopen : (Cartridge.ofFile disk rom {}).value = .ok cartridge)
    (hover : Overwrites disk rom cartridge) (operations : List Operation) :
    let last := (run ⟨disk, cartridge⟩ operations).value
    last.detach.value.read rom =
      .ok (last.cartridge.ram.extract 0 cartridge.header.savedLength) := by
  intro last
  obtain ⟨hbattery, hwritable, hsame⟩ := hover
  obtain ⟨place, hslot⟩ := hwritable.exists_slot
  have hrom : disk.locate rom = .ok place := hsame.symm.trans (Disk.locate_of_target hslot.target)
  obtain ⟨hagree, hfile, -⟩ :=
    detach_of_saving hslot (savePath_of_open hopen hbattery) hbattery operations
  exact Disk.read_of_locate (Disk.locate_of_agree hagree hslot.no_directory hrom) hfile

/-- Any other ROM file is left alone. -/
theorem read_rom_of_not_overwrites {image : Bytes}
    (hopen : (Cartridge.ofFile disk rom {}).value = .ok cartridge) (hread : disk.read rom = .ok image)
    (hnot : ¬ Overwrites disk rom cartridge) (operations : List Operation) :
    (run ⟨disk, cartridge⟩ operations).value.detach.value.read rom = .ok image := by
  by_cases hsaves : cartridge.header.type.isBatteryBacked ∧ disk.Writable rom.saveFile
  · obtain ⟨hbattery, hwritable⟩ := hsaves
    obtain ⟨place, hslot⟩ := hwritable.exists_slot
    obtain ⟨hagree, -, -⟩ :=
      detach_of_saving hslot (savePath_of_open hopen hbattery) hbattery operations
    refine Disk.read_of_agree hagree hslot.no_directory ?_ hread
    intro hrom
    exact hnot ⟨hbattery, hwritable, (Disk.locate_of_target hslot.target).trans hrom.symm⟩
  · -- without a battery there is no save path, and otherwise it cannot be written through
    have hunwritable : ∀ save, cartridge.savePath = some save → ¬ disk.Writable save := by
      intro save hsave hwritable
      obtain ⟨image, -, hload⟩ := Cartridge.exists_load_of_ofFile hopen
      rw [Cartridge.savePath_of_load hload] at hsave
      by_cases hbattery : cartridge.header.type.isBatteryBacked
      · rw [hbattery] at hsave
        obtain rfl : rom.saveFile = save := Option.some.inj hsave
        exact hsaves ⟨hbattery, hwritable⟩
      · simp [hbattery] at hsave
    rw [detach_of_unwritable hunwritable]
    exact hread

/-- **A session leaves its ROM file alone unless that is its save file.** Take a ROM file that opens with the
default options, any run and the unloading after it. The file holds the image that it held, except where a
battery-backed cartridge has a save path that leads back to the ROM file and can be written through: then it
holds the start of RAM instead. That is so of no path but one that ends in the suffix of save files. -/
theorem rom_file_after_session (hopen : (Cartridge.ofFile disk rom {}).value = .ok cartridge)
    (operations : List Operation) :
    let last := (Session.run ⟨disk, cartridge⟩ operations).value
    let after := last.detach.value
    let len :=
      match cartridge.header.type with
      | .mbc2 _ => 512
      | _ => if cartridge.header.ramSizeCode = 3 then 32768 else 8192
    ∃ image, disk.read rom = .ok image ∧
      (¬ Overwrites disk rom cartridge → after.read rom = .ok image) ∧
      (Overwrites disk rom cartridge → ['.', 's', 'a', 'v'] <:+ rom.text ∧
        after.read rom = .ok (last.cartridge.ram.extract 0 len)) := by
  intro last after len
  obtain ⟨image, hread, -⟩ := Cartridge.exists_load_of_ofFile hopen
  refine ⟨image, hread, ?_, ?_⟩
  · intro hnot
    exact read_rom_of_not_overwrites hopen hread hnot operations
  · intro hover
    exact ⟨suffix_of_overwrites hover, read_rom_of_overwrites hopen hover operations⟩

/-- A ROM file with a battery: its image is still there after a session that saves. -/
theorem rom_file_after_session_blank :
    let rom : Path := ⟨['g', '.', 'g', 'b']⟩
    let disk : Disk := ⟨[([['g', '.', 'g', 'b']], .file (Cartridge.blankImage 0x03 0x02))], []⟩
    ∃ cartridge, (Cartridge.ofFile disk rom {}).value = .ok cartridge ∧
      cartridge.header.type.isBatteryBacked ∧
      (Session.run ⟨disk, cartridge⟩
        [.write 0x0000 0x0A, .write 0xA000 1, .saveBattery]).value.detach.value.read rom =
          .ok (Cartridge.blankImage 0x03 0x02) := by
  intro rom disk
  have hread : disk.read rom = .ok (Cartridge.blankImage 0x03 0x02) := rfl
  obtain ⟨cartridge, hopen, htype, -⟩ := Cartridge.exists_ofFile_blankImage hread
  have hbattery : cartridge.header.type.isBatteryBacked := by
    rw [htype]
    rfl
  obtain ⟨image, hheld, hkept, -⟩ :=
    rom_file_after_session hopen [.write 0x0000 0x0A, .write 0xA000 1, .saveBattery]
  have himage : image = Cartridge.blankImage 0x03 0x02 :=
    Except.ok.inj (hheld.symm.trans hread)
  refine ⟨cartridge, hopen, hbattery, ?_⟩
  rw [← himage]
  apply hkept
  rintro ⟨-, -, hsame⟩
  have hsave : rom.saveFile = ⟨['g', '.', 's', 'a', 'v']⟩ := by decide
  have hother : disk.locate ⟨['g', '.', 's', 'a', 'v']⟩ = .ok [['g', '.', 's', 'a', 'v']] := rfl
  have hrom : disk.locate rom = .ok [['g', '.', 'g', 'b']] := rfl
  rw [hsave, hother, hrom] at hsame
  simp at hsame

/-- The save file of `game.sav` is `game.sav`: a session in which nothing happens leaves 8 KiB of a 32 KiB
image. -/
theorem rom_file_overwritten :
    let rom : Path := ⟨['g', 'a', 'm', 'e', '.', 's', 'a', 'v']⟩
    let disk : Disk :=
      ⟨[([['g', 'a', 'm', 'e', '.', 's', 'a', 'v']], .file (Cartridge.blankImage 0x03 0x02))], []⟩
    disk.read rom = .ok (Cartridge.blankImage 0x03 0x02) ∧
      (Cartridge.blankImage 0x03 0x02).size = 32768 ∧
      ∃ cartridge left, (Cartridge.ofFile disk rom {}).value = .ok cartridge ∧
        (Session.run ⟨disk, cartridge⟩ []).value.detach.value.read rom = .ok left ∧
        left.size = 8192 ∧
        (Session.run ⟨disk, cartridge⟩ []).value.detach.value.read rom ≠ disk.read rom := by
  intro rom disk
  have hread : disk.read rom = .ok (Cartridge.blankImage 0x03 0x02) := rfl
  obtain ⟨cartridge, hopen, htype, hcode⟩ := Cartridge.exists_ofFile_blankImage hread
  have hsave : rom.saveFile = rom := by decide
  have hover : Overwrites disk rom cartridge := by
    refine ⟨?_, ?_, ?_⟩
    · rw [htype]
      rfl
    · rw [hsave]
      exact ⟨#[], _, rfl⟩
    · rw [hsave]
  have hlost := read_rom_of_overwrites hopen hover []
  have hsize := size_saved (.ofFile rom {} hopen) []
  have hlength : cartridge.header.savedLength = 8192 := by
    rw [Header.savedLength, htype, hcode]
    rfl
  rw [hlength] at hlost hsize
  refine ⟨hread, Cartridge.size_blankImage _ _, cartridge, _, hopen, hlost, hsize, ?_⟩
  rw [hlost, hread]
  intro hsame
  rw [Except.ok.inj hsame, Cartridge.size_blankImage] at hsize
  cases hsize

/-! ## The save file -/

/-- What opening takes from a save file and unloading would write there again: its first bytes, or zeros if
it is too short. -/
theorem saved_of_open {saved : Bytes} (hopen : (Cartridge.ofFile disk rom {}).value = .ok cartridge)
    (hbattery : cartridge.header.type.isBatteryBacked) (hsaved : disk.read rom.saveFile = .ok saved) :
    cartridge.ram.extract 0 cartridge.header.savedLength =
      if saved.size < cartridge.header.savedLength then
        Array.replicate cartridge.header.savedLength 0
      else saved.extract 0 cartridge.header.savedLength := by
  obtain ⟨image, hread, hbacked⟩ := backed_of_open hopen hbattery
  have hfits := cartridge.header.savedLength_le
  let fresh := Cartridge.powerOn cartridge.header
    (image.extract 0 cartridge.header.romSize) (some rom.saveFile)
  have hram : cartridge.ram = (fresh.loadBattery disk).value.2.ram :=
    congrArg Cartridge.ram (Except.ok.inj (hopen.symm.trans (value_open hbacked hread)))
  have hbacked' : fresh.header.type.isBatteryBacked := hbattery
  have hsave : fresh.savePath = some rom.saveFile := rfl
  by_cases hshort : saved.size < cartridge.header.savedLength
  · rw [Cartridge.loadBattery_of_short hbacked' hsave hsaved hshort] at hram
    have hzero : cartridge.ram = Array.replicate ramCapacity 0 := hram
    rw [if_pos hshort, hzero, Array.extract_replicate, Nat.min_eq_left hfits, Nat.sub_zero]
  · have hlong := Nat.not_lt.1 hshort
    let kept := saved.extract 0 cartridge.header.savedLength
    have hsize : kept.size = cartridge.header.savedLength := by
      rw [Array.size_extract, Nat.min_eq_left hlong, Nat.sub_zero]
    rw [Cartridge.loadBattery_of_read hbacked' hsave hsaved hlong] at hram
    have hfilled : cartridge.ram =
        kept ++ Array.replicate (ramCapacity - cartridge.header.savedLength) 0 :=
      hram.trans Bytes.overlay_replicate
    rw [if_neg hshort]
    calc cartridge.ram.extract 0 cartridge.header.savedLength
        = (kept ++ Array.replicate (ramCapacity - cartridge.header.savedLength) 0).extract 0
            kept.size := by rw [← hfilled, hsize]
      _ = kept := by rw [Array.extract_append_left, Array.extract_size]

/-- Unloading leaves the start of RAM in a save file that can be written. -/
theorem read_saveFile (hopen : (Cartridge.ofFile disk rom {}).value = .ok cartridge)
    (hbattery : cartridge.header.type.isBatteryBacked) (hwritable : disk.Writable rom.saveFile)
    (operations : List Operation) :
    let last := (run ⟨disk, cartridge⟩ operations).value
    last.detach.value.read rom.saveFile =
      .ok (last.cartridge.ram.extract 0 cartridge.header.savedLength) := by
  intro last
  obtain ⟨place, hslot⟩ := hwritable.exists_slot
  obtain ⟨-, -, hread⟩ :=
    detach_of_saving hslot (savePath_of_open hopen hbattery) hbattery operations
  exact hread

/-- **A session that leaves RAM as it was leaves as much of the save file as it reads.** Take a ROM file that
opens to a battery-backed cartridge, its save file as it is then, and a run at the end of which RAM holds what
it held after opening. After unloading, a save file of exactly the battery's length is as it was. Where it can
be written, a longer one is cut to that length, and a shorter one holds zeros. Where it cannot be written it
is as it was. -/
theorem save_file_after_idle_session {saved : Bytes}
    (hopen : (Cartridge.ofFile disk rom {}).value = .ok cartridge)
    (hbattery : cartridge.header.type.isBatteryBacked)
    (hsaved : disk.read rom.saveFile = .ok saved) (operations : List Operation)
    (hidle : (Session.run ⟨disk, cartridge⟩ operations).value.cartridge.ram = cartridge.ram) :
    let after := (Session.run ⟨disk, cartridge⟩ operations).value.detach.value
    let len :=
      match cartridge.header.type with
      | .mbc2 _ => 512
      | _ => if cartridge.header.ramSizeCode = 3 then 32768 else 8192
    (saved.size = len → after.read rom.saveFile = .ok saved) ∧
    (disk.Writable rom.saveFile →
      (len ≤ saved.size → after.read rom.saveFile = .ok (saved.extract 0 len)) ∧
      (saved.size < len → after.read rom.saveFile = .ok (Array.replicate len 0))) ∧
    (¬ disk.Writable rom.saveFile → after.read rom.saveFile = .ok saved) := by
  intro after len
  have hunwritable : ¬ disk.Writable rom.saveFile → after.read rom.saveFile = .ok saved := by
    intro hnot
    have hafter : after = disk := by
      apply detach_of_unwritable
      intro save hsave
      obtain rfl : rom.saveFile = save :=
        Option.some.inj ((savePath_of_open hopen hbattery).symm.trans hsave)
      exact hnot
    rw [hafter]
    exact hsaved
  have hwritten : disk.Writable rom.saveFile → after.read rom.saveFile =
      .ok (if saved.size < len then Array.replicate len 0 else saved.extract 0 len) := by
    intro hwritable
    have hread := read_saveFile hopen hbattery hwritable operations
    simp only [hidle, saved_of_open hopen hbattery hsaved] at hread
    exact hread
  refine ⟨?_, ?_, hunwritable⟩
  · intro hsize
    by_cases hwritable : disk.Writable rom.saveFile
    · rw [hwritten hwritable, if_neg (Nat.not_lt.2 (Nat.le_of_eq hsize.symm)), ← hsize,
        Array.extract_size]
    · exact hunwritable hwritable
  · intro hwritable
    rw [hwritten hwritable]
    constructor
    · intro hlong
      rw [if_neg (Nat.not_lt.2 hlong)]
    · intro hshort
      rw [if_pos hshort]

/-- Three bytes too many in a save file: they are cut off. -/
theorem save_file_after_idle_session_blank :
    let rom : Path := ⟨['g', '.', 'g', 'b']⟩
    let save : Path := ⟨['g', '.', 's', 'a', 'v']⟩
    let disk : Disk := ⟨[([['g', '.', 'g', 'b']], .file (Cartridge.blankImage 0x03 0x02)),
      ([['g', '.', 's', 'a', 'v']], .file (Array.replicate 8195 7))], []⟩
    rom.saveFile = save ∧ disk.read save = .ok (Array.replicate 8195 7) ∧ disk.Writable save ∧
      ∃ cartridge, (Cartridge.ofFile disk rom {}).value = .ok cartridge ∧
        cartridge.header.type.isBatteryBacked ∧
        let last := (Session.run ⟨disk, cartridge⟩ [.mapRom 5, .reset, .saveBattery]).value
        last.cartridge.ram = cartridge.ram ∧
          last.detach.value.read save = .ok (Array.replicate 8192 7) := by
  intro rom save disk
  have hread : disk.read rom = .ok (Cartridge.blankImage 0x03 0x02) := rfl
  have hsaved : disk.read save = .ok (Array.replicate 8195 7) := rfl
  have hsave : rom.saveFile = save := by decide
  have hwritable : disk.Writable save := ⟨#[], _, rfl⟩
  obtain ⟨cartridge, hopen, htype, hcode⟩ := Cartridge.exists_ofFile_blankImage hread
  have hbattery : cartridge.header.type.isBatteryBacked := by
    rw [htype]
    rfl
  have hidle : (Session.run ⟨disk, cartridge⟩
      [.mapRom 5, .reset, .saveBattery]).value.cartridge.ram = cartridge.ram :=
    congrArg Prod.snd (cartridge.memory_mapRom 5)
  obtain ⟨-, hwritten, -⟩ := save_file_after_idle_session hopen hbattery (hsave ▸ hsaved)
    [.mapRom 5, .reset, .saveBattery] hidle
  obtain ⟨hlong, -⟩ := hwritten (hsave ▸ hwritable)
  rw [htype, hcode, hsave] at hlong
  refine ⟨hsave, hsaved, hwritable, cartridge, hopen, hbattery, hidle, ?_⟩
  have hcut := hlong (by
    rw [Array.size_replicate]
    decide)
  rw [Array.extract_replicate] at hcut
  exact hcut

/-- A save file of one byte: it does not load, and a session in which nothing happens leaves zeros. -/
theorem short_save_file_lost :
    let rom : Path := ⟨['g', '.', 'g', 'b']⟩
    let save : Path := ⟨['g', '.', 's', 'a', 'v']⟩
    let disk : Disk := ⟨[([['g', '.', 'g', 'b']], .file (Cartridge.blankImage 0x03 0x02)),
      ([['g', '.', 's', 'a', 'v']], .file #[7])], []⟩
    rom.saveFile = save ∧ disk.locate save ≠ disk.locate rom ∧ disk.read save = .ok #[7] ∧
      ∃ cartridge left, (Cartridge.ofFile disk rom {}).value = .ok cartridge ∧
        cartridge.header.type.isBatteryBacked ∧
        (Session.run ⟨disk, cartridge⟩ []).value.cartridge.ram = cartridge.ram ∧
        (Session.run ⟨disk, cartridge⟩ []).value.detach.value.read save = .ok left ∧
        left[0]? = some 0 := by
  intro rom save disk
  have hread : disk.read rom = .ok (Cartridge.blankImage 0x03 0x02) := rfl
  have hsaved : disk.read save = .ok #[7] := rfl
  have hsave : rom.saveFile = save := by decide
  have hwritable : disk.Writable save := ⟨#[], _, rfl⟩
  have hapart : disk.locate save ≠ disk.locate rom := by
    have hrom : disk.locate rom = .ok [['g', '.', 'g', 'b']] := rfl
    have hother : disk.locate save = .ok [['g', '.', 's', 'a', 'v']] := rfl
    rw [hrom, hother]
    simp
  obtain ⟨cartridge, hopen, htype, hcode⟩ := Cartridge.exists_ofFile_blankImage hread
  have hbattery : cartridge.header.type.isBatteryBacked := by
    rw [htype]
    rfl
  have hlength : cartridge.header.savedLength = 8192 := by
    rw [Header.savedLength, htype, hcode]
    rfl
  have hkept := saved_of_open hopen hbattery (hsave ▸ hsaved)
  have hleft := read_saveFile hopen hbattery (hsave ▸ hwritable) []
  rw [hlength, if_pos (by decide)] at hkept
  rw [hlength, hsave] at hleft
  refine ⟨hsave, hapart, hsaved, cartridge, _, hopen, hbattery, rfl, hleft, ?_⟩
  show (cartridge.ram.extract 0 8192)[0]? = some 0
  rw [hkept]
  simp

end GamePak.Session
