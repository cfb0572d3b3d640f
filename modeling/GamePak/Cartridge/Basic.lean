import GamePak.Checksum
import GamePak.Controller
import GamePak.Header

/-!
# `GamePak.Cartridge.Basic` — a cartridge on the CPU bus

A cartridge is a ROM, a RAM and the controller between them and the CPU. The CPU reads bytes, writes
bytes and resets.

## Contents
- `Cartridge`, and `Override`: the debugger's note of the program's own bank.
- `Cartridge.powerOn`: a cartridge as it is right after power-on.
- `Cartridge.byteAt`, `Cartridge.setByte`: one physical byte (`Cartridge.byteAt_setByte_of_ne`).
- `Cartridge.read`, `Cartridge.write`, `Cartridge.reset`: what the CPU does.
- `Cartridge.info`: title, size and checksum in a line.
-/

namespace GamePak

/-- The debugger's note of the ROM bank to go back to. -/
inductive Override where
  | idle
  | pending (savedBank : Nat)
deriving DecidableEq, Repr

/-- A cartridge in some state. The save path is there if and only if battery RAM is kept in a
file. -/
structure Cartridge where
  header : Header
  rom : Bytes
  ram : Bytes
  controller : Controller
  banks : Banks
  override : Override
  savePath : Option Path
deriving DecidableEq

namespace Cartridge

/-- A cartridge right after power-on: RAM zero, bank 1 mapped, no override. -/
def powerOn (header : Header) (rom : Bytes) (savePath : Option Path) : Cartridge where
  header := header
  rom := rom
  ram := Array.replicate ramCapacity 0
  controller := Controller.ofType header.type
  banks := Banks.powerOn
  override := .idle
  savePath := savePath

/-! ## Physical bytes -/

/-- What the bus shows where no byte answers. -/
def openBus : UInt8 := 0xFF

/-- The byte in a cell. Nothing answers past the end of a memory. -/
def byteAt (cartridge : Cartridge) : Cell → UInt8
  | .rom offset => cartridge.rom.getD offset openBus
  | .ram offset => cartridge.ram.getD offset openBus

/-- The cartridge with a byte stored in a cell. Past the end of a memory nothing changes. -/
def setByte (cartridge : Cartridge) (value : UInt8) : Cell → Cartridge
  | .rom offset => { cartridge with rom := cartridge.rom.setIfInBounds offset value }
  | .ram offset => { cartridge with ram := cartridge.ram.setIfInBounds offset value }

@[simp] theorem header_setByte (cartridge : Cartridge) (value : UInt8) (cell : Cell) :
    (cartridge.setByte value cell).header = cartridge.header := by
  cases cell <;> rfl

@[simp] theorem controller_setByte (cartridge : Cartridge) (value : UInt8) (cell : Cell) :
    (cartridge.setByte value cell).controller = cartridge.controller := by
  cases cell <;> rfl

@[simp] theorem banks_setByte (cartridge : Cartridge) (value : UInt8) (cell : Cell) :
    (cartridge.setByte value cell).banks = cartridge.banks := by
  cases cell <;> rfl

@[simp] theorem override_setByte (cartridge : Cartridge) (value : UInt8) (cell : Cell) :
    (cartridge.setByte value cell).override = cartridge.override := by
  cases cell <;> rfl

@[simp] theorem savePath_setByte (cartridge : Cartridge) (value : UInt8) (cell : Cell) :
    (cartridge.setByte value cell).savePath = cartridge.savePath := by
  cases cell <;> rfl

/-- Storing a byte in one cell leaves every other cell as it was. -/
theorem byteAt_setByte_of_ne (cartridge : Cartridge) (value : UInt8) {cell other : Cell}
    (h : other ≠ cell) : (cartridge.setByte value cell).byteAt other = cartridge.byteAt other := by
  cases cell <;> cases other <;> simp only [setByte, byteAt]
  all_goals
    rename_i i j
    have hij : i ≠ j := fun e => h (by rw [e])
    simp [Array.getD_eq_getD_getElem?, Array.getElem?_setIfInBounds_ne hij]

/-! ## What the CPU does -/

/-- The byte that the CPU reads at an address. RAM can be read while it is disabled. -/
def read (cartridge : Cartridge) (address : UInt16) : UInt8 :=
  match cartridge.banks.cell? address with
  | some cell => cartridge.byteAt cell
  | none => openBus

/-- The cartridge after an effect of a write. -/
def apply (cartridge : Cartridge) (address : UInt16) (value : UInt8) : Effect → Cartridge
  | .nothing => cartridge
  | .enableRam enabled =>
    { cartridge with banks := { cartridge.banks with ramEnabled := enabled } }
  | .mapRom bank => { cartridge with banks := cartridge.banks.mapRom bank }
  | .mapRam bank => { cartridge with banks := cartridge.banks.mapRam bank }
  | .setLargeRam largeRam => { cartridge with controller := .mbc1 largeRam }
  | .store =>
    match cartridge.banks.cell? address with
    | some cell => cartridge.setByte value cell
    | none => cartridge

/-- A write by the CPU: it programs the controller or goes to RAM, as the controller decides. -/
def write (cartridge : Cartridge) (address : UInt16) (value : UInt8) : Logged Cartridge :=
  let controller := cartridge.controller
  let effect := controller.decode cartridge.banks address value
  ⟨cartridge.apply address value effect, controller.reports effect⟩

/-- A reset maps ROM bank 1 again and leaves everything else. -/
def reset (cartridge : Cartridge) : Cartridge :=
  { cartridge with banks := cartridge.banks.mapRom 1 }

/-! ## Inspection -/

/-- How many whole banks the ROM has. -/
def romBanks (cartridge : Cartridge) : Nat :=
  cartridge.rom.size / romBankSize

/-- Whether the stored checksum is right. -/
def verifyChecksum (cartridge : Cartridge) : Bool :=
  Checksum.verify cartridge.rom

/-- Title, size and checksum in a line. -/
def info (cartridge : Cartridge) : String :=
  let size := cartridge.romBanks * 128
  let status := if cartridge.verifyChecksum then "Checksum Ok." else "Checksum invalid!"
  s!"ROM Info: Name = {cartridge.header.title}, Size = {size}Kbit, {status}"

end Cartridge

end GamePak
