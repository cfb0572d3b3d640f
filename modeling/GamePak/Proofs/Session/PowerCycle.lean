import GamePak.Proofs.Session.Persistence

/-!
# `Proofs.Session.PowerCycle` — battery RAM across power cycles

A power cycle opens a ROM file, uses the cartridge and unloads it. Between opening and unloading the disk
changes at the save file only, so the next opening finds the same ROM and, in the save file, the RAM that
was left there.

## Contents
- `Session.powerCycle`: the disk after one.
- `Disk.Hosts`: a ROM file with a place for its save file, kept by every power cycle.
- `Session.Opened`: what the ROM file opens to, whatever the save file holds.
- `Session.battery_survives_power_cycles`: the file, the rest of the disk and the next opening.
-/

namespace GamePak

/-! ## Disks with a ROM file -/

/-- The disk holds `image` as the ROM file `rom`, and `place`, which is another location, for its save
file. -/
structure Disk.Hosts (disk : Disk) (rom : Path) (image : Bytes) (place : Location) : Prop where
  read_rom : disk.read rom = .ok image
  apart : disk.locate rom ≠ .ok place
  slot : disk.FileSlot rom.saveFile place

/-- A disk that differs at the save file only does so too. -/
theorem Disk.Hosts.of_agree {disk other : Disk} {rom : Path} {image : Bytes} {place : Location}
    (h : disk.Hosts rom image place) (hagree : AgreeOff place disk other)
    (hother : other.find? place ≠ some .directory) : other.Hosts rom image place := by
  have hplace := h.slot.no_directory
  obtain ⟨spot, hspot, -⟩ := Disk.read_eq_ok h.read_rom
  refine ⟨Disk.read_of_agree hagree hplace h.apart h.read_rom, ?_, h.slot.of_agree hagree hother⟩
  rw [Disk.locate_of_agree hagree hplace hspot, ← hspot]
  exact h.apart

namespace Session

variable {disk : Disk} {rom : Path} {image : Bytes} {header : Header} {place : Location}
  {cartridge : Cartridge}

/-! ## Opening -/

/-- The cartridge is what the ROM file `rom` with content `image` opens to: at power-on, except that its
RAM is not stated. -/
structure Opened (rom : Path) (image : Bytes) (header : Header) (cartridge : Cartridge) : Prop where
  header_eq : cartridge.header = header
  rom_eq : cartridge.rom = image.extract 0 header.romSize
  savePath_eq : cartridge.savePath = some rom.saveFile
  registers_eq : cartridge.registers = (Controller.ofType header.type, Banks.powerOn, .idle)

/-- The image declares a battery-backed cartridge and is long enough for it. -/
structure Backed (image : Bytes) (header : Header) : Prop where
  parse : Header.parse image = .ok header
  size : header.romSize ≤ image.size
  battery : header.type.isBatteryBacked

/-- **How a battery-backed ROM file opens.** Only RAM depends on the rest of the disk. -/
theorem value_open (hbacked : Backed image header) (hread : disk.read rom = .ok image) :
    (Cartridge.ofFile disk rom {}).value =
      .ok ((Cartridge.powerOn header (image.extract 0 header.romSize)
        (some rom.saveFile)).loadBattery disk).value.2 := by
  have hlenient : ({} : LoadOptions).strictChecksum = false := rfl
  rw [Cartridge.value_ofFile_default hread]
  simp only [Cartridge.value_load_lenient hlenient hbacked.parse hbacked.size,
    Cartridge.value_start, hbacked.battery, Bool.and_self, if_true]

/-- It does open, to the same cartridge whatever the save file holds, but for its RAM. -/
theorem exists_open (hbacked : Backed image header) (hread : disk.read rom = .ok image) :
    ∃ cartridge, (Cartridge.ofFile disk rom {}).value = .ok cartridge ∧
      Opened rom image header cartridge := by
  refine ⟨_, value_open hbacked hread, ?_⟩
  rcases Cartridge.loadBattery_cases disk (Cartridge.powerOn header
    (image.extract 0 header.romSize) (some rom.saveFile)) with hsame | ⟨data, -, hloaded⟩
  · rw [hsame]
    exact ⟨rfl, rfl, rfl, rfl⟩
  · rw [hloaded]
    exact ⟨rfl, rfl, rfl, rfl⟩

/-- A save file of the right length is the start of RAM after opening, and the rest of RAM is zero. -/
theorem ram_of_open {saved : Bytes} (hbacked : Backed image header)
    (hread : disk.read rom = .ok image) (hsaved : disk.read rom.saveFile = .ok saved)
    (hsize : saved.size = header.savedLength)
    (hopen : (Cartridge.ofFile disk rom {}).value = .ok cartridge) :
    cartridge.ram = saved ++ Array.replicate (ramCapacity - header.savedLength) 0 := by
  rw [value_open hbacked hread] at hopen
  obtain rfl := Except.ok.inj hopen
  let fresh := Cartridge.powerOn header (image.extract 0 header.romSize) (some rom.saveFile)
  have hbattery : fresh.header.type.isBatteryBacked := hbacked.battery
  have hsave : fresh.savePath = some rom.saveFile := rfl
  rw [Cartridge.loadBattery_of_read hbattery hsave hsaved (Nat.le_of_eq hsize.symm)]
  show Bytes.overlay (Array.replicate ramCapacity 0) saved header.savedLength = _
  rw [Bytes.overlay_replicate, ← hsize, Array.extract_size]

/-- A battery-backed cartridge that was opened came from an image that declares it. -/
theorem backed_of_open
    (hopen : (Cartridge.ofFile disk rom {}).value = .ok cartridge)
    (hbattery : cartridge.header.type.isBatteryBacked) :
    ∃ image, disk.read rom = .ok image ∧ Backed image cartridge.header := by
  obtain ⟨image, hread, hload⟩ := Cartridge.exists_load_of_ofFile hopen
  obtain ⟨hparse, hsize⟩ := Cartridge.parse_of_load hload
  exact ⟨image, hread, hparse, hsize, hbattery⟩

/-! ## Power cycles -/

/-- The disk after a ROM file was opened, the cartridge used and unloaded. A file that does not open
changes nothing. -/
def powerCycle (rom : Path) (disk : Disk) (operations : List Operation) : Disk :=
  match (Cartridge.ofFile disk rom {}).value with
  | .error _ => disk
  | .ok cartridge => (Session.run ⟨disk, cartridge⟩ operations).value.detach.value

/-- At the end of a run there is RAM for a whole save file. -/
theorem size_saved (hloaded : Cartridge.Loaded disk cartridge) (operations : List Operation) :
    ((run ⟨disk, cartridge⟩ operations).value.cartridge.ram.extract 0
      cartridge.header.savedLength).size = cartridge.header.savedLength := by
  have hram : (run ⟨disk, cartridge⟩ operations).value.cartridge.ram.size = ramCapacity :=
    (wellFormed_run hloaded.wellFormed operations).ram_size
  rw [Array.size_extract, hram, Nat.min_eq_left cartridge.header.savedLength_le, Nat.sub_zero]

/-- **One session.** The save file holds the start of RAM, and the disk hosts the ROM file as before. -/
theorem session_saved (hbacked : Backed image header) (hhosts : disk.Hosts rom image place)
    (hopen : (Cartridge.ofFile disk rom {}).value = .ok cartridge)
    (hopened : Opened rom image header cartridge) (operations : List Operation) :
    let last := (run ⟨disk, cartridge⟩ operations).value
    let saved := last.cartridge.ram.extract 0 header.savedLength
    let after := last.detach.value
    saved.size = header.savedLength ∧ after.read rom.saveFile = .ok saved ∧
      Disk.AgreeOff place disk after ∧ after.Hosts rom image place := by
  intro last saved after
  obtain rfl := hopened.header_eq
  obtain ⟨hagree, hfile, hread⟩ :=
    detach_of_saving hhosts.slot hopened.savePath_eq hbacked.battery operations
  refine ⟨size_saved (.ofFile rom {} hopen) operations, hread, hagree, hhosts.of_agree hagree ?_⟩
  rw [hfile]
  nofun

theorem powerCycle_of_open (hopen : (Cartridge.ofFile disk rom {}).value = .ok cartridge)
    (operations : List Operation) :
    powerCycle rom disk operations = (run ⟨disk, cartridge⟩ operations).value.detach.value := by
  simp only [powerCycle, hopen]

/-- A power cycle keeps the ROM file and everything but the save file. -/
theorem hosts_powerCycle (hbacked : Backed image header) (hhosts : disk.Hosts rom image place)
    (operations : List Operation) :
    (powerCycle rom disk operations).Hosts rom image place ∧
      Disk.AgreeOff place disk (powerCycle rom disk operations) := by
  obtain ⟨cartridge, hopen, hopened⟩ := exists_open hbacked hhosts.read_rom
  obtain ⟨-, -, hagree, hafter⟩ := session_saved hbacked hhosts hopen hopened operations
  rw [powerCycle_of_open hopen]
  exact ⟨hafter, hagree⟩

/-- So do any number of them. -/
theorem hosts_powerCycles (hbacked : Backed image header) (h : disk.Hosts rom image place)
    (earlier : List (List Operation)) :
    (earlier.foldl (powerCycle rom) disk).Hosts rom image place ∧
      Disk.AgreeOff place disk (earlier.foldl (powerCycle rom) disk) := by
  induction earlier generalizing disk with
  | nil => exact ⟨h, .refl place disk⟩
  | cons operations rest ih =>
      -- each power cycle leaves a disk that the next one can start from
      obtain ⟨hcycle, hagree⟩ := hosts_powerCycle hbacked h operations
      obtain ⟨hrest, hagree'⟩ := ih hcycle
      exact ⟨hrest, hagree.trans hagree'⟩

/-- **Battery RAM survives power cycles.** Take a ROM file that opens to a battery-backed cartridge, whose
save file is another file and can be written. After any number of power cycles it opens again, and after
any run on it unloading leaves the start of RAM in the save file and the rest of the disk as it was. The
next opening finds those bytes at the start of RAM, zeros behind them, and everything else at power-on. -/
theorem battery_survives_power_cycles
    (hopen : (Cartridge.ofFile disk rom {}).value = .ok cartridge)
    (hbattery : cartridge.header.type.isBatteryBacked)
    (hdistinct : disk.locate rom.saveFile ≠ disk.locate rom)
    (hwritable : disk.Writable rom.saveFile)
    (earlier : List (List Operation)) (operations : List Operation) :
    let before := earlier.foldl (powerCycle rom) disk
    let len :=
      match cartridge.header.type with
      | .mbc2 _ => 512
      | _ => if cartridge.header.ramSizeCode = 3 then 32768 else 8192
    ∃ opened, (Cartridge.ofFile before rom {}).value = .ok opened ∧
      opened.header = cartridge.header ∧ opened.savePath = some rom.saveFile ∧
      opened.header.batteryLength = some len ∧
      let last := (Session.run ⟨before, opened⟩ operations).value
      let saved := last.cartridge.ram.extract 0 len
      let after := last.detach.value
      after = powerCycle rom before operations ∧
      saved.size = len ∧ after.read rom.saveFile = .ok saved ∧
      after.home = disk.home ∧
      (∀ spot, disk.locate rom.saveFile ≠ .ok spot →
        after.find? spot = before.find? spot ∧ after.find? spot = disk.find? spot) ∧
      ∃ again image, (Cartridge.ofFile after rom {}).value = .ok again ∧
        again.header = cartridge.header ∧ again.savePath = some rom.saveFile ∧
        again.ram = saved ++ Array.replicate (65536 - len) 0 ∧
        again.controller = Controller.ofType cartridge.header.type ∧
        again.banks = ⟨1, 16384, 0, 0, false⟩ ∧ again.override = .idle ∧
        disk.read rom = .ok image ∧ cartridge.header.romSize ≤ image.size ∧
        again.rom = image.extract 0 cartridge.header.romSize := by
  obtain ⟨image, hread, hbacked⟩ := backed_of_open hopen hbattery
  obtain ⟨place, hslot⟩ := hwritable.exists_slot
  have hplace : disk.locate rom.saveFile = .ok place := Disk.locate_of_target hslot.target
  have hhosts : disk.Hosts rom image place :=
    ⟨hread, fun hrom => hdistinct (hplace.trans hrom.symm), hslot⟩
  -- the sessions before leave a disk of the same kind, so the last one starts like the first
  obtain ⟨hbefore, hagree⟩ := hosts_powerCycles hbacked hhosts earlier
  obtain ⟨opened, hreopen, hopened⟩ := exists_open hbacked hbefore.read_rom
  obtain ⟨hsize, hsaved, hsince, hafter⟩ :=
    session_saved hbacked hbefore hreopen hopened operations
  obtain ⟨again, hagain, hpower⟩ := exists_open hbacked hafter.read_rom
  have hram := ram_of_open hbacked hafter.read_rom hsaved hsize hagain
  have hlength : opened.header.batteryLength = some cartridge.header.savedLength := by
    rw [Header.batteryLength_eq, hopened.header_eq, if_pos hbattery]
  have hregisters := hpower.registers_eq
  simp only [Cartridge.registers, Prod.mk.injEq] at hregisters
  obtain ⟨hcontroller, hbanks, hidle⟩ := hregisters
  refine ⟨opened, hreopen, hopened.header_eq, hopened.savePath_eq, hlength,
    (powerCycle_of_open hreopen operations).symm, hsize, hsaved, hsince.home.trans hagree.home, ?_,
    again, image, hagain, hpower.header_eq, hpower.savePath_eq, hram, hcontroller,
    hbanks.trans (by decide), hidle, hread, hbacked.size, hpower.rom_eq⟩
  intro spot helse
  have hne : spot ≠ place := by
    rintro rfl
    exact helse hplace
  have hlast := hsince.entries spot hne
  exact ⟨hlast, hlast.trans (hagree.entries spot hne)⟩

/-- A blank MBC1 cartridge with four banks of battery RAM, alone on its disk: two sessions, the second
of which finds what the first has written. -/
theorem battery_survives_power_cycles_blank :
    let rom : Path := ⟨['g', '.', 'g', 'b']⟩
    let disk : Disk := ⟨[([['g', '.', 'g', 'b']], .file (Cartridge.blankImage 0x03 0x03))], []⟩
    let before := [[.write 0x0000 0x0A, .write 0xA000 1]].foldl (powerCycle rom) disk
    ∃ cartridge opened again, (Cartridge.ofFile disk rom {}).value = .ok cartridge ∧
      cartridge.header.type.isBatteryBacked ∧ disk.locate rom.saveFile ≠ disk.locate rom ∧
      disk.Writable rom.saveFile ∧ (Cartridge.ofFile before rom {}).value = .ok opened ∧
      let last := (Session.run ⟨before, opened⟩ [.write 0x0000 0x0A, .write 0xA001 2]).value
      last.detach.value.read ⟨['g', '.', 's', 'a', 'v']⟩ = .ok (last.cartridge.ram.extract 0 32768) ∧
        (Cartridge.ofFile last.detach.value rom {}).value = .ok again ∧
        again.ram = last.cartridge.ram.extract 0 32768 ++ Array.replicate 32768 0 := by
  intro rom disk before
  obtain ⟨cartridge, hopen, htype, hcode, -⟩ :=
    Cartridge.exists_load_blankImage disk 0x03 0x03 (some rom.saveFile)
  have hread : disk.read rom = .ok (Cartridge.blankImage 0x03 0x03) := rfl
  have hload : (Cartridge.ofFile disk rom {}).value = .ok cartridge :=
    (Cartridge.value_ofFile_default hread).trans hopen
  have hbattery : cartridge.header.type.isBatteryBacked := by
    rw [htype]
    rfl
  have hsave : rom.saveFile = ⟨['g', '.', 's', 'a', 'v']⟩ := by decide
  have hdistinct : disk.locate rom.saveFile ≠ disk.locate rom := by
    have hrom : disk.locate rom = .ok [['g', '.', 'g', 'b']] := rfl
    have hother : disk.locate ⟨['g', '.', 's', 'a', 'v']⟩ = .ok [['g', '.', 's', 'a', 'v']] := rfl
    rw [hsave, hrom, hother]
    simp
  have hwritable : disk.Writable rom.saveFile := by
    rw [hsave]
    exact ⟨#[], _, rfl⟩
  obtain ⟨opened, hreopen, -, -, -, -, -, hsaved, -, -, again, -, hagain, -, -, hram, -⟩ :=
    battery_survives_power_cycles hload hbattery hdistinct hwritable
      [[.write 0x0000 0x0A, .write 0xA000 1]] [.write 0x0000 0x0A, .write 0xA001 2]
  rw [hsave, htype, hcode] at hsaved
  rw [htype, hcode] at hram
  exact ⟨cartridge, opened, again, hload, hbattery, hdistinct, hwritable, hreopen, hsaved, hagain,
    hram⟩

end Session

end GamePak
