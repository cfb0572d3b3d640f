import GamePak.Cartridge.Load
import GamePak.Proofs.Cartridge.Frame

/-!
# `Proofs.Cartridge.Load` — what a successful load gives

A load decides from the image and the options alone whether there is a cartridge; the disk only
decides what its RAM holds. `Cartridge.value_load` states that decision, and `Cartridge.Loaded` names
the cartridges that come out of it.

## Contents
- `two_le_romBanks`: every known ROM size has at least two banks.
- `Header.parse_eq_ok`, `Header.exists_parse`: which images have a header.
- `Cartridge.declared_eq_ok`, `Cartridge.declared_of_parse`: the header and the ROM of an image.
- `Cartridge.value_start`, `Cartridge.value_load`, `Cartridge.ofFile_of_read`, `Cartridge.value_ofFile`: the
  outcome of a load.
- `Cartridge.exists_load_of_ofFile`, `Cartridge.parse_of_load`, `Cartridge.savePath_of_load`: the image, the
  header and the save path of what was loaded.
- `Cartridge.Loaded`, `Cartridge.Loaded.origin`; `Cartridge.LoadedFrom`, where the image matters.
-/

namespace GamePak

/-! ## Images -/

/-- Every known ROM size has room for both ROM windows. -/
theorem two_le_romBanks {code : UInt8} {banks : Nat} (h : romBanks? code = some banks) :
    2 ≤ banks := by
  -- the table is short enough to look at every row
  have htable : ∀ row ∈ romBanksTable, 2 ≤ row.2 := by decide
  obtain ⟨before, after, hsplit, -⟩ := List.lookup_eq_some_iff.1 h
  have hmem : (code, banks) ∈ romBanksTable := by
    rw [hsplit]
    exact List.mem_append_right _ List.mem_cons_self
  exact htable _ hmem

/-- A header that is read comes from an image with all of bank 0 and a known ROM size, and repeats fields
of the image. -/
theorem Header.parse_eq_ok {image : Bytes} {header : Header} (h : Header.parse image = .ok header) :
    romBankSize ≤ image.size ∧ romBanks? (image.getD romSizeOffset 0) = some header.romBanks ∧
      header.checksum =
        Word.ofBytes (image.getD checksumOffset 0) (image.getD (checksumOffset + 1) 0) := by
  unfold Header.parse at h
  by_cases hshort : image.size < romBankSize
  · rw [if_pos hshort] at h
    cases h
  · rw [if_neg hshort] at h
    cases hbanks : romBanks? (image.getD romSizeOffset 0) with
    | none =>
        simp only [hbanks] at h
        cases h
    | some banks =>
        simp only [hbanks] at h
        obtain rfl := Except.ok.inj h
        exact ⟨Nat.not_lt.1 hshort, rfl, rfl⟩

theorem Header.two_le_romBanks_of_parse {image : Bytes} {header : Header}
    (h : Header.parse image = .ok header) : 2 ≤ header.romBanks := by
  obtain ⟨-, hbanks, -⟩ := Header.parse_eq_ok h
  exact two_le_romBanks hbanks

/-- An image with all of bank 0 and a known ROM size has a header. -/
theorem Header.exists_parse {image : Bytes} {banks : Nat} (hsize : romBankSize ≤ image.size)
    (hbanks : romBanks? (image.getD romSizeOffset 0) = some banks) :
    ∃ header, Header.parse image = .ok header ∧ header.romBanks = banks ∧
      header.type = CartridgeType.ofCode (image.getD typeOffset 0) ∧
      header.ramSizeCode = image.getD ramSizeOffset 0 := by
  simp only [Header.parse, if_neg (Nat.not_lt.2 hsize), hbanks]
  exact ⟨_, rfl, rfl, rfl, rfl⟩

namespace Cartridge

variable {disk : Disk} {image rom : Bytes} {header : Header}

/-- What an image declares is its header and exactly as many of its bytes as the header says. -/
theorem declared_eq_ok (h : declared image = .ok (header, rom)) :
    Header.parse image = .ok header ∧ header.romSize ≤ image.size ∧
      rom = image.extract 0 header.romSize := by
  unfold declared at h
  cases hparse : Header.parse image with
  | error cause =>
      rw [hparse] at h
      cases h
  | ok parsed =>
      simp only [hparse, bind, Except.bind] at h
      split at h
      · cases h
      next hsize =>
      cases h
      exact ⟨rfl, Nat.not_lt.1 hsize, rfl⟩

theorem declared_of_parse (hparse : Header.parse image = .ok header)
    (hsize : header.romSize ≤ image.size) :
    declared image = .ok (header, image.extract 0 header.romSize) := by
  simp only [declared, hparse, bind, Except.bind, if_neg (Nat.not_lt.2 hsize)]

/-! ## Outcomes -/

/-- A cartridge starts at power-on, its RAM filled from the save file where that can be done. -/
theorem value_start (disk : Disk) (header : Header) (rom : Bytes) (save : Option Path) :
    (start disk header rom save).value = ((powerOn header rom save).loadBattery disk).value.2 := by
  cases save with
  | none =>
      -- without a save path nothing is transferred, with a battery or without
      have hnone : ((powerOn header rom none).loadBattery disk).value.2 = powerOn header rom none := by
        unfold loadBattery
        split
        · rfl
        · rfl
        next save len hbattery => exact absurd (of_battery_eq_some hbattery).2.1 nofun
      simp [start, hnone]
  | some save =>
      simp only [start, Option.isNone_some, Bool.false_eq_true, if_false, Logged.value_bind]
      split <;> rfl

@[simp] theorem identity_start (disk : Disk) (header : Header) (rom : Bytes)
    (save : Option Path) : (start disk header rom save).value.identity = (header, save) := by
  rw [value_start, identity_loadBattery]
  rfl

/-- **The decision of a load.** The disk has no part in it. -/
theorem value_load (disk : Disk) (image : Bytes) (options : LoadOptions) (save : Option Path) :
    (load disk image options save).value =
      match declared image with
      | .error cause => .error cause
      | .ok (header, rom) =>
        if options.strictChecksum ∧ ¬ Checksum.verify rom then
          .error (.badChecksum header.checksum (Checksum.compute rom))
        else
          .ok (start disk header rom
            (if options.battery && header.type.isBatteryBacked then save else none)).value := by
  unfold load
  cases declared image with
  | error cause => rfl
  | ok found =>
      obtain ⟨header, rom⟩ := found
      -- trailing bytes are only reported, so they do not matter to the outcome
      by_cases htrailing : rom.size < image.size
      all_goals
        by_cases hverify : Checksum.verify rom
        · simp [htrailing, hverify]
        · by_cases hstrict : options.strictChecksum <;> simp [htrailing, hverify, hstrict]

/-- An image that loads has a header and the size that the header declares, and what it loads to is at
power-on but for its RAM. -/
theorem origin_of_load {options : LoadOptions} {save : Option Path} {cartridge : Cartridge}
    (h : (load disk image options save).value = .ok cartridge) :
    ∃ header kept, Header.parse image = .ok header ∧ header.romSize ≤ image.size ∧
      cartridge =
        ((powerOn header (image.extract 0 header.romSize) kept).loadBattery disk).value.2 := by
  rw [value_load] at h
  split at h
  · cases h
  next header rom hdeclared =>
  split at h
  · cases h
  obtain ⟨hparse, hsize, rfl⟩ := declared_eq_ok hdeclared
  cases h
  exact ⟨header, _, hparse, hsize, value_start ..⟩

/-- What was loaded has the header of its image. -/
theorem parse_of_load {options : LoadOptions} {save : Option Path} {cartridge : Cartridge}
    (h : (load disk image options save).value = .ok cartridge) :
    Header.parse image = .ok cartridge.header ∧ cartridge.header.romSize ≤ image.size := by
  obtain ⟨header, kept, hparse, hsize, horigin⟩ := origin_of_load h
  have hheader : cartridge.header = header := by
    rw [horigin]
    exact congrArg Prod.fst (identity_loadBattery ..)
  rw [hheader]
  exact ⟨hparse, hsize⟩

/-- Where a wrong checksum is no error, a header and enough bytes make a cartridge. -/
theorem value_load_lenient {options : LoadOptions} (hlenient : options.strictChecksum = false)
    (hparse : Header.parse image = .ok header) (hsize : header.romSize ≤ image.size) (disk : Disk)
    (save : Option Path) :
    (load disk image options save).value =
      .ok (start disk header (image.extract 0 header.romSize)
        (if options.battery && header.type.isBatteryBacked then save else none)).value := by
  have hdeclared := declared_of_parse hparse hsize
  have hnot : ¬ (options.strictChecksum ∧
      ¬ Checksum.verify (image.extract 0 header.romSize)) := by
    simp [hlenient]
  simp only [value_load, hdeclared, if_neg hnot]

/-- A ROM file that can be read is loaded as its image is, with one report before. -/
theorem ofFile_of_read {path : Path} (hread : disk.read path = .ok image) (options : LoadOptions) :
    ofFile disk path options =
      ⟨(load disk image options (some (options.savePath.getD path.saveFile))).value,
        .loadingRom path ::
          (load disk image options (some (options.savePath.getD path.saveFile))).events⟩ := by
  unfold ofFile
  rw [hread]
  rfl

theorem value_ofFile (disk : Disk) (rom : Path) (options : LoadOptions) :
    (ofFile disk rom options).value =
      match disk.read rom with
      | .error cause => .error (.unreadable rom cause)
      | .ok image =>
        (load disk image options (some (options.savePath.getD rom.saveFile))).value := by
  unfold ofFile
  cases disk.read rom <;> rfl

/-- With the default options a ROM file is loaded as its image is, and the save file is the one beside
it. -/
theorem value_ofFile_default {rom : Path} (hread : disk.read rom = .ok image) :
    (ofFile disk rom {}).value = (load disk image {} (some rom.saveFile)).value := by
  rw [value_ofFile, hread]
  rfl

/-- A ROM file that opens holds an image that loads. -/
theorem exists_load_of_ofFile {rom : Path} {options : LoadOptions} {cartridge : Cartridge}
    (h : (ofFile disk rom options).value = .ok cartridge) :
    ∃ image, disk.read rom = .ok image ∧
      (load disk image options (some (options.savePath.getD rom.saveFile))).value =
        .ok cartridge := by
  rw [value_ofFile] at h
  cases hread : disk.read rom with
  | error cause =>
      rw [hread] at h
      cases h
  | ok image =>
      rw [hread] at h
      exact ⟨image, rfl, h⟩

/-- The save path that was offered is taken by a battery-backed cartridge, if battery RAM is wanted, and by
no other. -/
theorem savePath_of_load {options : LoadOptions} {save : Option Path} {cartridge : Cartridge}
    (h : (load disk image options save).value = .ok cartridge) :
    cartridge.savePath =
      if options.battery && cartridge.header.type.isBatteryBacked then save else none := by
  rw [value_load] at h
  split at h
  · cases h
  next header rom hdeclared =>
  split at h
  · cases h
  obtain rfl := Except.ok.inj h
  have hidentity := identity_start disk header rom
    (if options.battery && header.type.isBatteryBacked then save else none)
  rw [identity, Prod.mk.injEq] at hidentity
  rw [hidentity.1, hidentity.2]

/-! ## Loaded cartridges -/

/-- A cartridge right after a successful load, with any options, from an image in memory or from a
ROM file. -/
inductive Loaded (disk : Disk) (cartridge : Cartridge) : Prop
  | ofImage (image : Bytes) (options : LoadOptions)
      (h : (Cartridge.ofImage disk image options).value = .ok cartridge) : Loaded disk cartridge
  | ofFile (rom : Path) (options : LoadOptions)
      (h : (Cartridge.ofFile disk rom options).value = .ok cartridge) : Loaded disk cartridge

/-- Both ways of loading go through `load`. -/
theorem Loaded.exists_load {cartridge : Cartridge} (h : Loaded disk cartridge) :
    ∃ image options save, (load disk image options save).value = .ok cartridge := by
  cases h with
  | ofImage image options h => exact ⟨image, options, _, h⟩
  | ofFile rom options h =>
      obtain ⟨image, -, hload⟩ := exists_load_of_ofFile h
      exact ⟨image, options, _, hload⟩

/-- **Where a loaded cartridge comes from.** Its image has a header and the size that the header
declares, and the cartridge is at power-on but for its RAM. -/
theorem Loaded.origin {cartridge : Cartridge} (h : Loaded disk cartridge) :
    ∃ image header save, Header.parse image = .ok header ∧ header.romSize ≤ image.size ∧
      cartridge =
        ((powerOn header (image.extract 0 header.romSize) save).loadBattery disk).value.2 := by
  obtain ⟨image, options, save, hload⟩ := h.exists_load
  exact ⟨image, origin_of_load hload⟩

/-- A cartridge right after a successful load from `image`, which was in memory or is what the ROM file
holds. -/
inductive LoadedFrom (disk : Disk) (image : Bytes) (cartridge : Cartridge) : Prop
  | ofImage (options : LoadOptions)
      (h : (Cartridge.ofImage disk image options).value = .ok cartridge) :
      LoadedFrom disk image cartridge
  | ofFile (rom : Path) (options : LoadOptions) (hread : disk.read rom = .ok image)
      (h : (Cartridge.ofFile disk rom options).value = .ok cartridge) :
      LoadedFrom disk image cartridge

theorem LoadedFrom.loaded {cartridge : Cartridge} (h : LoadedFrom disk image cartridge) :
    Loaded disk cartridge := by
  cases h with
  | ofImage options h => exact .ofImage image options h
  | ofFile rom options hread h => exact .ofFile rom options h

/-- Its ROM is the part of the image that the header declares. -/
theorem LoadedFrom.rom_eq {cartridge : Cartridge} (h : LoadedFrom disk image cartridge) :
    cartridge.rom = image.extract 0 cartridge.header.romSize ∧
      cartridge.header.romSize ≤ image.size := by
  have hload : ∃ options save, (load disk image options save).value = .ok cartridge := by
    cases h with
    | ofImage options h => exact ⟨options, _, h⟩
    | ofFile rom options hread h =>
        rw [value_ofFile, hread] at h
        exact ⟨options, _, h⟩
  obtain ⟨options, save, hvalue⟩ := hload
  obtain ⟨header, save', -, hsize, rfl⟩ := origin_of_load hvalue
  -- the save file has no part in the ROM
  rcases loadBattery_cases disk (powerOn header (image.extract 0 header.romSize) save') with
    hsame | ⟨data, -, hloaded⟩
  · rw [hsame]
    exact ⟨rfl, hsize⟩
  · rw [hloaded]
    exact ⟨rfl, hsize⟩

/-- Its registers are those of power-on. -/
theorem Loaded.registers {cartridge : Cartridge} (h : Loaded disk cartridge) :
    cartridge.controller = Controller.ofType cartridge.header.type ∧
      cartridge.banks = Banks.powerOn ∧ cartridge.override = .idle := by
  obtain ⟨image, header, save, -, -, rfl⟩ := h.origin
  rcases loadBattery_cases disk (powerOn header (image.extract 0 header.romSize) save) with
    hsame | ⟨data, -, hloaded⟩
  · rw [hsame]
    exact ⟨rfl, rfl, rfl⟩
  · rw [hloaded]
    exact ⟨rfl, rfl, rfl⟩

/-! ## Blank images -/

/-- The smallest ROM of a type: two banks of zeros but for the type byte and the RAM size code. -/
def blankImage (typeCode ramSizeCode : UInt8) : Bytes :=
  ((Array.replicate 0x8000 0).setIfInBounds typeOffset typeCode).setIfInBounds ramSizeOffset
    ramSizeCode

@[simp] theorem size_blankImage (typeCode ramSizeCode : UInt8) :
    (blankImage typeCode ramSizeCode).size = 0x8000 := by
  simp [blankImage]

theorem exists_parse_blankImage (typeCode ramSizeCode : UInt8) :
    ∃ header, Header.parse (blankImage typeCode ramSizeCode) = .ok header ∧ header.romBanks = 2 ∧
      header.type = CartridgeType.ofCode typeCode ∧ header.ramSizeCode = ramSizeCode := by
  have htype : (blankImage typeCode ramSizeCode).getD typeOffset 0 = typeCode := by
    simp [blankImage, typeOffset, ramSizeOffset]
  have hrom : (blankImage typeCode ramSizeCode).getD romSizeOffset 0 = 0 := by
    simp [blankImage, typeOffset, romSizeOffset, ramSizeOffset]
  have hram : (blankImage typeCode ramSizeCode).getD ramSizeOffset 0 = ramSizeCode := by
    simp [blankImage, typeOffset, ramSizeOffset]
  have hsize : romBankSize ≤ (blankImage typeCode ramSizeCode).size := by
    rw [size_blankImage]
    decide
  have hbanks : romBanks? ((blankImage typeCode ramSizeCode).getD romSizeOffset 0) = some 2 := by
    rw [hrom]
    decide
  obtain ⟨header, hparse, htwo, hty, hcode⟩ := Header.exists_parse hsize hbanks
  exact ⟨header, hparse, htwo, hty.trans (by rw [htype]), hcode.trans hram⟩

/-- **There is a cartridge of every type**, with every RAM size code: its blank image loads. -/
theorem exists_load_blankImage (disk : Disk) (typeCode ramSizeCode : UInt8) (save : Option Path) :
    ∃ cartridge, (load disk (blankImage typeCode ramSizeCode) {} save).value = .ok cartridge ∧
      cartridge.header.type = CartridgeType.ofCode typeCode ∧
      cartridge.header.ramSizeCode = ramSizeCode ∧ cartridge.header.romBanks = 2 := by
  obtain ⟨header, hparse, htwo, htype, hcode⟩ := exists_parse_blankImage typeCode ramSizeCode
  have hsize : header.romSize ≤ (blankImage typeCode ramSizeCode).size := by
    rw [size_blankImage, Header.romSize, htwo]
    decide
  have hheader := congrArg Prod.fst (identity_start disk header
    ((blankImage typeCode ramSizeCode).extract 0 header.romSize)
    (if header.type.isBatteryBacked then save else none))
  refine ⟨_, value_load_lenient rfl hparse hsize disk save, ?_, ?_, ?_⟩
  · exact (congrArg Header.type hheader).trans htype
  · exact (congrArg Header.ramSizeCode hheader).trans hcode
  · exact (congrArg Header.romBanks hheader).trans htwo

/-- The same of a file that holds it. -/
theorem exists_ofFile_blankImage {rom : Path} {typeCode ramSizeCode : UInt8}
    (hread : disk.read rom = .ok (blankImage typeCode ramSizeCode)) :
    ∃ cartridge, (ofFile disk rom {}).value = .ok cartridge ∧
      cartridge.header.type = CartridgeType.ofCode typeCode ∧
      cartridge.header.ramSizeCode = ramSizeCode := by
  obtain ⟨cartridge, hload, htype, hcode, -⟩ :=
    exists_load_blankImage disk typeCode ramSizeCode (some rom.saveFile)
  exact ⟨cartridge, (value_ofFile_default hread).trans hload, htype, hcode⟩

end Cartridge

end GamePak
