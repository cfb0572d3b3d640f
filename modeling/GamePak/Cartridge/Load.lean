import GamePak.Cartridge.Battery
import GamePak.Path.SaveFile

/-!
# `GamePak.Cartridge.Load` — from an image to a cartridge

An image makes a cartridge if bank 0 is there, its header declares a known size and the image has at
least that size. What follows the declared size is ignored. A wrong checksum is reported, and is an
error only where the options say so.

## Contents
- `LoadOptions`.
- `Cartridge.declared`: the header of an image and the part of the image that it declares.
- `Cartridge.ofImage`: a cartridge from an image in memory.
- `Cartridge.ofFile`: a cartridge from a ROM file, with its save file beside it.
-/

namespace GamePak

/-- How to load a cartridge. -/
structure LoadOptions where
  /-- Whether a wrong checksum is an error. -/
  strictChecksum : Bool := false
  /-- Whether battery RAM is read on loading and written on detaching. -/
  battery : Bool := true
  /-- The save file to use instead of the one beside the ROM. -/
  savePath : Option Path := none
deriving DecidableEq, Repr

namespace Cartridge

/-- The header of an image, and the leading part of the image that it declares. -/
def declared (image : Bytes) : Except LoadError (Header × Bytes) := do
  let header ← Header.parse image
  if image.size < header.romSize then .error (.truncated header.romSize image.size)
  else .ok (header, image.extract 0 header.romSize)

/-- The events of a load that has come to its end but for the save file. -/
def loadedEvents (header : Header) : List Event :=
  .romLoaded header.romBanks header.type ::
    match header.type with
    | .unsupported code => [.typeUnsupported code]
    | _ => []

/-- A cartridge at power-on, with battery RAM read from its save file if it has one. A save file
that does not load is reported and RAM starts at zero. -/
def start (disk : Disk) (header : Header) (rom : Bytes) (savePath : Option Path) :
    Logged Cartridge := do
  ⟨(), loadedEvents header⟩
  let cartridge := powerOn header rom savePath
  if savePath.isNone then pure cartridge
  else
    let (result, cartridge) ← cartridge.loadBattery disk
    match result with
    | .ok () => pure cartridge
    | .error cause => do
      .report (.saveNotRead cause)
      pure cartridge

/-- Makes a cartridge of an image, which keeps its battery RAM in the file `save`. -/
def load (disk : Disk) (image : Bytes) (options : LoadOptions) (save : Option Path) :
    Logged (Except LoadError Cartridge) :=
  match declared image with
  | .error cause => pure (.error cause)
  | .ok (header, rom) => do
    let kept := options.battery && header.type.isBatteryBacked
    let savePath := if kept then save else none
    if rom.size < image.size then
      .report (.trailingBytes (image.size - rom.size) header.romBanks)
    if Checksum.verify rom then .ok <$> start disk header rom savePath
    else
      let computed := Checksum.compute rom
      if options.strictChecksum then pure (.error (.badChecksum header.checksum computed))
      else
        .report (.badChecksum header.checksum computed)
        .ok <$> start disk header rom savePath

/-- A cartridge from an image in memory. Battery RAM is kept only where the options name a file. -/
def ofImage (disk : Disk) (image : Bytes) (options : LoadOptions) :
    Logged (Except LoadError Cartridge) :=
  load disk image options options.savePath

/-- A cartridge from a ROM file. Battery RAM is kept beside it, unless the options name a file. -/
def ofFile (disk : Disk) (rom : Path) (options : LoadOptions) :
    Logged (Except LoadError Cartridge) :=
  match disk.read rom with
  | .error cause => pure (.error (.unreadable rom cause))
  | .ok image => do
    .report (.loadingRom rom)
    load disk image options (some (options.savePath.getD rom.saveFile))

end Cartridge

end GamePak
