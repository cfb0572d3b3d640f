import GamePak.Proofs.Cartridge.LoadEvents
import GamePak.Proofs.Checksum
import GamePak.Proofs.Disk

/-!
# `Proofs.Cartridge.Decision` — which images load

A load passes four tests: bank 0 is there, the ROM size code is known, the image has the declared size, and,
where that is asked for, the checksum is right. They are made in this order and on the image alone, and the
last looks at no byte beyond the declared size. So bytes behind that size make no difference.

## Contents
- `declaredBanks?`, `romBanks?_eq`: the ROM size codes.
- `Cartridge.verdict`: the tests, and `Cartridge.value_load_verdict`: a load makes them.
- `Header.parse_append`, `Cartridge.declared_append`, `Cartridge.load_append`: a longer image.
- `SaveFile.load_append`, `Cartridge.start_congr`: a longer save file.
- `Cartridge.load_congr`, `Cartridge.ofFile_congr`: the files that a load looks at.
- `Source`: where an image comes from.
- `Cartridge.image_decides_load`.
-/

namespace GamePak

/-! ## ROM sizes -/

/-- The number of banks that a ROM size code declares: two for the code zero and twice as many for each
code up to 7, and three odd sizes. -/
def declaredBanks? (code : UInt8) : Option Nat :=
  if code.toNat ≤ 7 then some (2 <<< code.toNat)
  else if code = 0x52 then some 72
  else if code = 0x53 then some 80
  else if code = 0x54 then some 96
  else none

theorem romBanks?_eq (code : UInt8) : romBanks? code = declaredBanks? code := by
  have hall : ∀ n : Fin 256, romBanks? (UInt8.ofFin n) = declaredBanks? (UInt8.ofFin n) := by
    decide +kernel
  exact hall code.toFin

/-! ## Longer images -/

theorem Bytes.getD_append {image : Bytes} {i : Nat} (hi : i < image.size) (extra : Bytes)
    (blank : UInt8) : (image ++ extra).getD i blank = image.getD i blank := by
  rw [Array.getD_eq_getD_getElem?, Array.getElem?_append_left hi, Array.getD_eq_getD_getElem?]

theorem Bytes.extract_append_left {image : Bytes} {start stop : Nat} (hstop : stop ≤ image.size)
    (extra : Bytes) : (image ++ extra).extract start stop = image.extract start stop := by
  have hnone : extra.extract (start - image.size) (stop - image.size) = #[] := by
    simp
    omega
  rw [Array.extract_append, hnone, Array.append_empty]

/-- The header is in bank 0. -/
theorem Header.parse_append {image : Bytes} (hbank : romBankSize ≤ image.size) (extra : Bytes) :
    Header.parse (image ++ extra) = Header.parse image := by
  have hfields : checksumOffset + 1 < image.size := Nat.lt_of_lt_of_le (by decide) hbank
  have htype : typeOffset < image.size := Nat.lt_of_lt_of_le (by decide) hbank
  have hrom : romSizeOffset < image.size := Nat.lt_of_lt_of_le (by decide) hbank
  have hram : ramSizeOffset < image.size := Nat.lt_of_lt_of_le (by decide) hbank
  have htitle : titleOffset + titleSize ≤ image.size := Nat.le_trans (by decide) hbank
  have hshort : ¬ image.size < romBankSize := Nat.not_lt.2 hbank
  have hlonger : ¬ (image ++ extra).size < romBankSize := by
    rw [Array.size_append]
    omega
  simp only [Header.parse, if_neg hshort, if_neg hlonger, Bytes.getD_append htype,
    Bytes.getD_append hrom, Bytes.getD_append hram, Bytes.getD_append hfields,
    Bytes.getD_append (Nat.lt_of_succ_lt hfields), Bytes.extract_append_left htitle]

namespace Cartridge

variable {disk later : Disk} {image rom : Bytes} {header : Header}

/-- What an image declares is all that matters of it. -/
theorem declared_append (h : declared image = .ok (header, rom)) (extra : Bytes) :
    declared (image ++ extra) = .ok (header, rom) := by
  obtain ⟨hparse, hsize, rfl⟩ := declared_eq_ok h
  obtain ⟨hbank, -, -⟩ := Header.parse_eq_ok hparse
  have hlonger : header.romSize ≤ (image ++ extra).size := by
    rw [Array.size_append]
    omega
  rw [declared_of_parse ((Header.parse_append hbank extra).trans hparse) hlonger,
    Bytes.extract_append_left hsize]

/-! ## The verdict -/

/-- **What the bytes of an image decide**: why it is refused, or how many of them are the ROM. -/
def verdict (image : Bytes) (strict : Bool) : Except LoadError Nat :=
  if image.size < 16384 then .error (.tooShort image.size)
  else
    match declaredBanks? (image.getD 0x148 0) with
    | none => .error (.unknownRomSize (image.getD 0x148 0))
    | some banks =>
      let size := banks * 16384
      let stored := Word.ofBytes (image.getD 0x14E 0) (image.getD 0x14F 0)
      let computed := UInt16.ofNat (Checksum.total image size)
      if image.size < size then .error (.truncated size image.size)
      else if strict ∧ stored ≠ computed then .error (.badChecksum stored computed)
      else .ok size

/-- The checksum of the declared part is made of the bytes of the image, and compared with the word in its
header. -/
theorem checksum_declared (h : declared image = .ok (header, rom)) :
    Checksum.compute rom = UInt16.ofNat (Checksum.total image header.romSize) ∧
      Checksum.stored? rom = some header.checksum := by
  obtain ⟨hparse, hsize, rfl⟩ := declared_eq_ok h
  obtain ⟨-, -, hstored⟩ := Header.parse_eq_ok hparse
  have hbanks := Header.two_le_romBanks_of_parse hparse
  have hlong : checksumOffset + 2 ≤ header.romSize := by
    unfold Header.romSize romBankSize checksumOffset
    omega
  have hlength : (image.extract 0 header.romSize).size = header.romSize := by
    rw [Array.size_extract]
    omega
  have hfield : checksumOffset + 2 ≤ (image.extract 0 header.romSize).size := by
    rw [hlength]
    exact hlong
  constructor
  · rw [Checksum.compute_eq hfield, hlength, Checksum.total_extract hsize]
  · rw [Checksum.stored?_eq hfield, Bytes.getD_extract hsize (by omega),
      Bytes.getD_extract hsize (by omega), hstored]

theorem verify_declared (h : declared image = .ok (header, rom)) :
    Checksum.verify rom = true ↔ header.checksum = Checksum.compute rom := by
  obtain ⟨-, hstored⟩ := checksum_declared h
  rw [Checksum.verify, hstored, beq_iff_eq, Option.some.injEq]

theorem declared_of_short (hshort : image.size < romBankSize) :
    declared image = .error (.tooShort image.size) := by
  simp only [declared, Header.parse, if_pos hshort, bind, Except.bind]

theorem declared_of_unknown (hbank : romBankSize ≤ image.size)
    (hunknown : romBanks? (image.getD romSizeOffset 0) = none) :
    declared image = .error (.unknownRomSize (image.getD romSizeOffset 0)) := by
  simp only [declared, Header.parse, if_neg (Nat.not_lt.2 hbank), hunknown, bind, Except.bind]

theorem declared_of_truncated (hparse : Header.parse image = .ok header)
    (hless : image.size < header.romSize) :
    declared image = .error (.truncated header.romSize image.size) := by
  simp only [declared, hparse, bind, Except.bind, if_pos hless]

/-- **A load makes the tests of the verdict.** -/
theorem value_load_verdict (disk : Disk) (image : Bytes) (options : LoadOptions)
    (save : Option Path) :
    match verdict image options.strictChecksum with
    | .error cause => (load disk image options save).value = .error cause
    | .ok size => ∃ header, Header.parse image = .ok header ∧ header.romSize = size ∧
        size ≤ image.size ∧
        (load disk image options save).value = .ok (start disk header (image.extract 0 size)
          (if options.battery && header.type.isBatteryBacked then save else none)).value := by
  unfold verdict
  by_cases hshort : image.size < 16384
  · simp only [if_pos hshort, value_load, declared_of_short hshort]
  have hbank : romBankSize ≤ image.size := Nat.not_lt.1 hshort
  simp only [if_neg hshort]
  cases hbanks : declaredBanks? (image.getD 0x148 0) with
  | none =>
      have hunknown : romBanks? (image.getD romSizeOffset 0) = none := (romBanks?_eq _).trans hbanks
      simp only [value_load, declared_of_unknown hbank hunknown]
      rfl
  | some banks =>
      have hknown : romBanks? (image.getD romSizeOffset 0) = some banks :=
        (romBanks?_eq _).trans hbanks
      obtain ⟨header, hparse, rfl, -, -⟩ := Header.exists_parse hbank hknown
      by_cases hless : image.size < header.romBanks * 16384
      · simp only [if_pos hless, value_load, declared_of_truncated hparse hless]
        rfl
      have hsize : header.romSize ≤ image.size := Nat.not_lt.1 hless
      have hdeclared := declared_of_parse hparse hsize
      obtain ⟨hcomputed, -⟩ := checksum_declared hdeclared
      obtain ⟨-, -, hstored⟩ := Header.parse_eq_ok hparse
      -- the same test in the words of the bytes and in those of the header
      have htest : (options.strictChecksum = true ∧
            Word.ofBytes (image.getD 0x14E 0) (image.getD 0x14F 0) ≠
              UInt16.ofNat (Checksum.total image (header.romBanks * 16384))) ↔
          (options.strictChecksum = true ∧
            ¬ Checksum.verify (image.extract 0 header.romSize) = true) := by
        rw [verify_declared hdeclared, hcomputed, hstored]
        rfl
      simp only [if_neg hless, value_load, hdeclared]
      by_cases hbad : options.strictChecksum = true ∧
          Word.ofBytes (image.getD 0x14E 0) (image.getD 0x14F 0) ≠
            UInt16.ofNat (Checksum.total image (header.romBanks * 16384))
      · rw [if_pos hbad, if_pos (htest.1 hbad), hstored, hcomputed]
        rfl
      · rw [if_neg hbad, if_neg (fun h => hbad (htest.2 h))]
        exact ⟨header, hparse, rfl, hsize, rfl⟩

end Cartridge

/-! ## Longer save files -/

/-- A transfer into RAM depends on the first bytes of the save file alone. -/
theorem SaveFile.load_append {disk later : Disk} {save : Path} {data : Bytes} {len : Nat}
    (hlen : len ≤ data.size) (extra ram : Bytes) (hread : disk.read save = .ok data)
    (hlater : later.read save = .ok (data ++ extra)) :
    load later save ram len = load disk save ram len := by
  have hlong : ¬ data.size < len := Nat.not_lt.2 hlen
  have hlonger : ¬ (data ++ extra).size < len := by
    rw [Array.size_append]
    omega
  simp only [load, hread, hlater, if_neg hlong, if_neg hlonger, Bytes.overlay,
    Bytes.extract_append_left hlen]

theorem SaveFile.load_congr {disk later : Disk} {save : Path}
    (hread : later.read save = disk.read save) (ram : Bytes) (len : Nat) :
    load later save ram len = load disk save ram len := by
  simp only [load, hread]

namespace Cartridge

variable {disk later : Disk} {image rom : Bytes} {header : Header}

/-- The disk has a part in the start through the save file alone. -/
theorem start_congr (header : Header) (rom : Bytes) {save : Option Path}
    (h : ∀ path, save = some path → ∀ ram, SaveFile.load later path ram header.savedLength =
      SaveFile.load disk path ram header.savedLength) :
    start later header rom save = start disk header rom save := by
  have hload : (powerOn header rom save).loadBattery later =
      (powerOn header rom save).loadBattery disk := by
    unfold loadBattery
    split
    · rfl
    · rfl
    next path len hbattery =>
      obtain ⟨-, hsave, rfl⟩ := of_battery_eq_some hbattery
      have hsame : SaveFile.load later path (powerOn header rom save).ram header.savedLength =
          SaveFile.load disk path (powerOn header rom save).ram header.savedLength := h path hsave _
      show SaveFile.load later path _ header.savedLength >>= _ = _
      rw [hsame]
      rfl
  simp only [start, hload]

/-- A load looks at no file but the save file that it is given, and not at that one unless battery RAM is
wanted. -/
theorem load_congr (image : Bytes) {options : LoadOptions} {save : Option Path}
    (h : ∀ path, options.battery → save = some path → later.read path = disk.read path) :
    load later image options save = load disk image options save := by
  have hstart : ∀ (header : Header) (rom : Bytes),
      start later header rom
        (if options.battery && header.type.isBatteryBacked then save else none) =
      start disk header rom
        (if options.battery && header.type.isBatteryBacked then save else none) := by
    intro header rom
    apply start_congr
    intro path hpath ram
    simp only [Bool.and_eq_true, Option.ite_none_right_eq_some] at hpath
    exact SaveFile.load_congr (h path hpath.1.1 hpath.2) ram header.savedLength
  simp only [load, hstart]

/-- Nor does opening a ROM file look at any other. -/
theorem ofFile_congr {path : Path} {options : LoadOptions} (hrom : later.read path = disk.read path)
    (hsave : options.battery → later.read (options.savePath.getD path.saveFile) =
      disk.read (options.savePath.getD path.saveFile)) :
    ofFile later path options = ofFile disk path options := by
  have hload : ∀ image : Bytes,
      load later image options (some (options.savePath.getD path.saveFile)) =
        load disk image options (some (options.savePath.getD path.saveFile)) := by
    intro image
    apply load_congr
    rintro save hbattery ⟨⟩
    exact hsave hbattery
  simp only [ofFile, hrom, hload]

/-- What a cartridge is at its start: as after power-on, but for what was read into its RAM. -/
theorem start_powerOn {save : Option Path} {started : Logged Cartridge}
    (h : start disk header rom save = started) :
    started.value.header = header ∧ started.value.rom = rom ∧
      started.value.controller = Controller.ofType header.type ∧
      started.value.banks = Banks.powerOn ∧ started.value.override = .idle ∧
      (started.value.ram = Array.replicate ramCapacity 0 ∨
        ∃ path data, started.value.savePath = some path ∧ disk.read path = .ok data ∧
          .saveRead path ∈ started.events ∧
          started.value.ram = data.extract 0 header.savedLength ++
            Array.replicate (ramCapacity - header.savedLength) 0) := by
  subst h
  rcases start_cases disk header rom save with
    hstart | ⟨cause, hstart⟩ | ⟨path, data, hsave, hread, -, hstart⟩
  · rw [hstart]
    exact ⟨rfl, rfl, rfl, rfl, rfl, Or.inl rfl⟩
  · rw [hstart]
    exact ⟨rfl, rfl, rfl, rfl, rfl, Or.inl rfl⟩
  · rw [hstart]
    have hreported : Event.saveRead path ∈ loadedEvents header ++ [.saveRead path] :=
      List.mem_append_right _ (List.mem_singleton_self _)
    exact ⟨rfl, rfl, rfl, rfl, rfl, Or.inr ⟨path, data, hsave, hread, hreported, rfl⟩⟩

/-- What is reported of the start is reported of the load, if that gives a cartridge. -/
theorem mem_events_load {options : LoadOptions} {save : Option Path} {cartridge : Cartridge}
    {event : Event} (hdeclared : declared image = .ok (header, rom))
    (hvalue : (load disk image options save).value = .ok cartridge)
    (hevent : event ∈ (start disk header rom
      (if options.battery && header.type.isBatteryBacked then save else none)).events) :
    event ∈ (load disk image options save).events := by
  rw [events_load hdeclared]
  apply List.mem_append_right
  by_cases hverify : Checksum.verify rom
  · simp only [hverify, if_true]
    exact hevent
  by_cases hstrict : options.strictChecksum
  · simp [value_load, hdeclared, hverify, hstrict] at hvalue
  · simp only [hverify, hstrict, Bool.false_eq_true, if_false]
    exact List.mem_cons_of_mem _ hevent

/-- A longer image loads to the same, and only what is reported of its trailing bytes changes. -/
theorem load_append (hdeclared : declared image = .ok (header, rom)) (extra : Bytes)
    (options : LoadOptions) {save : Option Path}
    (hstart : ∀ kept, kept = save ∨ kept = none →
      start later header rom kept = start disk header rom kept) :
    (load later (image ++ extra) options save).value = (load disk image options save).value ∧
      ∃ after,
        (load disk image options save).events = trailingWarning header image.size ++ after ∧
        (load later (image ++ extra) options save).events =
          trailingWarning header (image.size + extra.size) ++ after := by
  have hkept : (if options.battery && header.type.isBatteryBacked then save else none) = save ∨
      (if options.battery && header.type.isBatteryBacked then save else none) = none := by
    split
    · exact Or.inl rfl
    · exact Or.inr rfl
  have hlonger := declared_append hdeclared extra
  have hsame := hstart _ hkept
  constructor
  · simp only [value_load, hdeclared, hlonger, hsame]
  · refine ⟨_, events_load hdeclared disk options save, ?_⟩
    rw [events_load hlonger, hsame, Array.size_append]

end Cartridge

/-! ## Where images come from -/

/-- An image is in memory, or it is what a ROM file holds. -/
inductive Source where
  | memory
  | file (rom : Path)
deriving DecidableEq, Repr

namespace Source

/-- On this disk the image is there to be loaded. -/
def Holds (disk : Disk) (image : Bytes) : Source → Prop
  | .memory => True
  | .file rom => disk.read rom = .ok image

/-- What loading it comes to. -/
def load (disk : Disk) (image : Bytes) (options : LoadOptions) :
    Source → Logged (Except LoadError Cartridge)
  | .memory => Cartridge.ofImage disk image options
  | .file rom => Cartridge.ofFile disk rom options

/-- The disk is the same but for another image. -/
def Replaced (disk : Disk) (image : Bytes) (later : Disk) : Source → Prop
  | .memory => later = disk
  | .file rom => disk.write rom image = .ok later

variable {disk later : Disk} {image extra : Bytes} {source : Source}

/-- Both ways of loading are the same but for the first report and the save file. -/
theorem load_eq (source : Source) (options : LoadOptions) :
    ∃ before save, ∀ disk image, source.Holds disk image →
      source.load disk image options = ⟨(Cartridge.load disk image options save).value,
        before ++ (Cartridge.load disk image options save).events⟩ := by
  cases source with
  | memory => exact ⟨[], options.savePath, fun disk image _ => rfl⟩
  | file rom =>
      refine ⟨[.loadingRom rom], some (options.savePath.getD rom.saveFile), ?_⟩
      intro disk image hread
      exact Cartridge.ofFile_of_read hread options

theorem Replaced.holds (h : source.Replaced disk image later) : source.Holds later image := by
  cases source with
  | memory => exact trivial
  | file rom =>
      obtain ⟨place, hslot, rfl⟩ := Disk.write_eq_ok h
      exact Disk.read_after_write hslot image

/-- Where the image has grown, so have the paths that lead to it, and nothing else. -/
theorem Replaced.read (hholds : source.Holds disk image)
    (h : source.Replaced disk (image ++ extra) later) (path : Path) :
    later.read path = disk.read path ∨
      (disk.read path = .ok image ∧ later.read path = .ok (image ++ extra)) := by
  cases source with
  | memory =>
      left
      rw [show later = disk from h]
  | file rom =>
      obtain ⟨place, hslot, rfl⟩ := Disk.write_eq_ok h
      obtain ⟨spot, hspot, hfile⟩ := Disk.read_eq_ok hholds
      obtain rfl : place = spot :=
        Except.ok.inj ((Disk.locate_of_target hslot.target).symm.trans hspot)
      by_cases hpath : disk.locate path = .ok place
      · right
        exact ⟨Disk.read_of_locate hpath hfile, Disk.read_rewrite_self hfile _ hpath⟩
      · left
        exact Disk.read_rewrite_of_ne hfile _ hpath

end Source

/-- No save file is longer than the smallest ROM. -/
theorem Header.savedLength_le_romSize {image : Bytes} {header : Header}
    (h : Header.parse image = .ok header) : header.savedLength ≤ header.romSize := by
  have hbanks := Header.two_le_romBanks_of_parse h
  have hsaved : header.savedLength ≤ 2 * 16384 := by
    unfold Header.savedLength
    split
    · decide
    · split <;> decide
  exact Nat.le_trans hsaved (Nat.mul_le_mul_right 16384 hbanks)

/-- So a ROM file that serves as its own save file fills RAM with the same bytes when it has grown. -/
theorem Source.Replaced.start_eq {disk later : Disk} {image extra : Bytes} {source : Source}
    {header : Header} (hholds : source.Holds disk image)
    (h : source.Replaced disk (image ++ extra) later) (hparse : Header.parse image = .ok header)
    (hsize : header.romSize ≤ image.size) (rom : Bytes) (save : Option Path) :
    Cartridge.start later header rom save = Cartridge.start disk header rom save := by
  apply Cartridge.start_congr
  intro path _ ram
  rcases h.read hholds path with hsame | ⟨hread, hlater⟩
  · exact SaveFile.load_congr hsame ram _
  · have hlen : header.savedLength ≤ image.size :=
      Nat.le_trans (Header.savedLength_le_romSize hparse) hsize
    exact SaveFile.load_append hlen extra ram hread hlater

/-! ## The decision -/

/-- **The image alone decides whether it loads.** An image in memory, or the content of a ROM file, is
refused for the first of the tests that it fails, and otherwise makes a cartridge at power-on of its header
and its declared bytes, with RAM zero unless a save file was read. Bytes behind the declared size change
neither, whether the image in memory grows or the file: they are reported, and that is all. -/
theorem image_decides_load {disk : Disk} {image : Bytes} {source : Source}
    (h : source.Holds disk image) (options : LoadOptions) :
    let loading := source.load disk image options
    (match Cartridge.verdict image options.strictChecksum with
      | .error cause => loading.value = .error cause
      | .ok size => ∃ cartridge, loading.value = .ok cartridge ∧ size ≤ image.size ∧
          cartridge.rom = image.extract 0 size ∧ Header.parse image = .ok cartridge.header ∧
          cartridge.controller = Controller.ofType cartridge.header.type ∧
          cartridge.banks = ⟨1, 16384, 0, 0, false⟩ ∧ cartridge.override = .idle ∧
          (cartridge.ram = Array.replicate 65536 0 ∨
            ∃ save data, cartridge.savePath = some save ∧ disk.read save = .ok data ∧
              .saveRead save ∈ loading.events ∧
              cartridge.ram = data.extract 0 cartridge.header.savedLength ++
                Array.replicate (65536 - cartridge.header.savedLength) 0)) ∧
    ∀ extra later banks, source.Replaced disk (image ++ extra) later →
      declaredBanks? (image.getD 0x148 0) = some banks → banks * 16384 ≤ image.size →
      let longer := source.load later (image ++ extra) options
      let trailing := fun size : Nat => if banks * 16384 < size then
        [Event.trailingBytes (size - banks * 16384) banks] else []
      longer.value = loading.value ∧
      ∃ before after, loading.events = before ++ trailing image.size ++ after ∧
        longer.events = before ++ trailing (image.size + extra.size) ++ after := by
  intro loading
  obtain ⟨before, save, hload⟩ := Source.load_eq source options
  have hloading : loading = ⟨_, _⟩ := hload disk image h
  constructor
  · have hverdict := Cartridge.value_load_verdict disk image options save
    split at hverdict
    next cause hcause =>
      rw [hloading]
      exact hverdict
    next size hsize =>
      obtain ⟨header, hparse, rfl, hlong, hvalue⟩ := hverdict
      have hdeclared := Cartridge.declared_of_parse hparse hlong
      obtain ⟨hheader, hrom, hcontroller, hbanks, hidle, hram⟩ := Cartridge.start_powerOn (rfl :
        Cartridge.start disk header (image.extract 0 header.romSize)
          (if options.battery && header.type.isBatteryBacked then save else none) = _)
      rw [hloading]
      refine ⟨_, hvalue, hlong, hrom, ?_, ?_, hbanks, hidle, ?_⟩
      · rw [hheader]
        exact hparse
      · rw [hheader]
        exact hcontroller
      · rw [hheader]
        rcases hram with hzero | ⟨path, data, hsave, hread, hreported, hloaded⟩
        · exact Or.inl hzero
        · refine Or.inr ⟨path, data, hsave, hread, List.mem_append_right _ ?_, hloaded⟩
          exact Cartridge.mem_events_load hdeclared hvalue hreported
  · intro extra later banks hreplaced hbanks hlong longer trailing
    have hknown : romBanks? (image.getD romSizeOffset 0) = some banks := (romBanks?_eq _).trans hbanks
    have hbank : romBankSize ≤ image.size := by
      have htwo := two_le_romBanks hknown
      unfold romBankSize
      omega
    obtain ⟨header, hparse, rfl, -, -⟩ := Header.exists_parse hbank hknown
    have hdeclared := Cartridge.declared_of_parse hparse hlong
    have hlonger : longer = ⟨_, _⟩ := hload later (image ++ extra) hreplaced.holds
    obtain ⟨hvalue, after, hevents, hevents'⟩ :=
      Cartridge.load_append hdeclared extra options
        (fun kept _ => hreplaced.start_eq h hparse hlong _ kept)
    rw [hloading, hlonger]
    refine ⟨hvalue, before, after, ?_, ?_⟩
    · simp only [hevents, List.append_assoc]
      rfl
    · simp only [hevents', List.append_assoc]
      rfl

theorem Cartridge.declaredBanks?_blankImage (typeCode ramSizeCode : UInt8) :
    declaredBanks? ((Cartridge.blankImage typeCode ramSizeCode).getD 0x148 0) = some 2 := by
  have hcode : (Cartridge.blankImage typeCode ramSizeCode).getD 0x148 0 = 0 := by
    simp [Cartridge.blankImage, typeOffset, ramSizeOffset]
  rw [hcode]
  decide

theorem Cartridge.verdict_blankImage (typeCode ramSizeCode : UInt8) :
    Cartridge.verdict (Cartridge.blankImage typeCode ramSizeCode) false = .ok 32768 := by
  have hshort : ¬ (Cartridge.blankImage typeCode ramSizeCode).size < 16384 := by
    rw [Cartridge.size_blankImage]
    decide
  have hlong : ¬ (Cartridge.blankImage typeCode ramSizeCode).size < 2 * 16384 := by
    rw [Cartridge.size_blankImage]
    decide
  simp only [Cartridge.verdict, if_neg hshort, Cartridge.declaredBanks?_blankImage, if_neg hlong,
    Bool.false_eq_true, false_and, if_false]

/-- The blank MBC1 image as a ROM file, and the same file with three more bytes. -/
theorem image_decides_load_blank :
    let rom : Path := ⟨['g', '.', 'g', 'b']⟩
    let image := Cartridge.blankImage 0x03 0x03
    let disk : Disk := ⟨[([['g', '.', 'g', 'b']], .file image)], []⟩
    let later : Disk := ⟨[([['g', '.', 'g', 'b']], .file (image ++ #[1, 2, 3]))], []⟩
    disk.read rom = .ok image ∧ disk.write rom (image ++ #[1, 2, 3]) = .ok later ∧
      ∃ cartridge, (Cartridge.ofFile disk rom {}).value = .ok cartridge ∧
        cartridge.rom = image.extract 0 32768 ∧ cartridge.banks = ⟨1, 16384, 0, 0, false⟩ ∧
        (Cartridge.ofFile later rom {}).value = .ok cartridge := by
  intro rom image disk later
  have hread : disk.read rom = .ok image := rfl
  have hwrite : disk.write rom (image ++ #[1, 2, 3]) = .ok later := rfl
  have hholds : (Source.file rom).Holds disk image := hread
  have hverdict : Cartridge.verdict image ({} : LoadOptions).strictChecksum = .ok 32768 :=
    Cartridge.verdict_blankImage 0x03 0x03
  have hboth := image_decides_load hholds {}
  simp only [hverdict] at hboth
  obtain ⟨⟨cartridge, hvalue, hsize, hrom, -, -, hbanks, -⟩, hlonger⟩ := hboth
  have hknown : declaredBanks? (image.getD 0x148 0) = some 2 :=
    Cartridge.declaredBanks?_blankImage 0x03 0x03
  obtain ⟨hsame, -⟩ := hlonger #[1, 2, 3] later 2 hwrite hknown hsize
  exact ⟨hread, hwrite, cartridge, hvalue, hrom, hbanks, hsame.trans hvalue⟩

end GamePak
