import GamePak.Banks
import GamePak.CartridgeType
import GamePak.Log

/-!
# `GamePak.Controller` — bank controllers

A controller sees every write the CPU makes to the cartridge. The address decides which of its
registers the value goes to, if any, or whether it is for RAM.

## Contents
- `Controller`: the families, each with the registers of its own.
- `Effect`, `Controller.decode`: what a write does.
- `Controller.reports`: the events of an effect.
- `Controller.describe`: the mapping, for the debugger.
-/

namespace GamePak

/-- A bank controller. -/
inductive Controller where
  /-- ROM and perhaps RAM with nothing to program. -/
  | absent
  /-- MBC1, with its mode latch: set, the register at 4000–5FFF selects a RAM bank; clear, the upper
  bits of the ROM bank. -/
  | mbc1 (largeRam : Bool)
  | mbc2
  | mbc5 (rumble : Bool)
  /-- A family this library does not know: it ignores every write. -/
  | unsupported
deriving DecidableEq, Repr

/-- What a write does. -/
inductive Effect where
  | nothing
  | enableRam (enabled : Bool)
  | mapRom (bank : Nat)
  | mapRam (bank : Nat)
  | setLargeRam (largeRam : Bool)
  /-- The value goes into the RAM byte behind the address. -/
  | store
deriving DecidableEq, Repr

namespace Controller

/-- The controller of a cartridge type, after power-on. -/
def ofType : CartridgeType → Controller
  | .romOnly => .absent
  | .romRam _ => .absent
  | .mbc1 _ _ => .mbc1 false
  | .mbc2 _ => .mbc2
  | .mbc5 _ _ rumble => .mbc5 rumble
  | .unsupported _ => .unsupported

/-! ## Writes -/

/-- The value that unlocks RAM has A in its low four bits. -/
def unlocksRam (value : Nat) : Bool :=
  value % 16 == 0x0A

/-- A five-bit bank number, in which zero stands for one. -/
def lowBank (value : Nat) : Nat :=
  if value % 32 = 0 then 1 else value % 32

/-- A write to A000–BFFF lands while RAM is enabled. -/
def gatedStore (banks : Banks) : Effect :=
  if banks.ramEnabled then .store else .nothing

/-- MBC1: RAM latch, low five bits of the ROM bank, two bits for the upper ROM bank or the RAM bank,
mode latch. The two parts of the ROM bank number are set without touching each other. -/
def decodeMbc1 (largeRam : Bool) (banks : Banks) (address value : Nat) : Effect :=
  if address < 0x2000 then .enableRam (unlocksRam value)
  else if address < 0x4000 then .mapRom (banks.romBank / 32 % 4 * 32 + lowBank value)
  else if address < 0x6000 then
    if largeRam then .mapRam (value % 4)
    else .mapRom (value % 4 * 32 + banks.romBank % 32)
  else if address < 0x8000 then .setLargeRam (value % 2 == 1)
  else if 0xA000 ≤ address ∧ address < 0xC000 then gatedStore banks
  else .nothing

/-- Whether address bit 8, which tells the two registers of an MBC2 apart, is set. -/
def onOddPage (address : Nat) : Bool :=
  address / 256 % 2 == 1

/-- MBC2: the RAM latch on even pages below 2000, the ROM bank on odd pages of 2000–3FFF. -/
def decodeMbc2 (banks : Banks) (address value : Nat) : Effect :=
  if address < 0x2000 then
    if onOddPage address then .nothing else .enableRam (unlocksRam value)
  else if address < 0x4000 then
    if onOddPage address then .mapRom (lowBank value) else .nothing
  else if 0xA000 ≤ address ∧ address < 0xC000 then gatedStore banks
  else .nothing

/-- MBC5: the low eight bits of the ROM bank, the ninth bit, the RAM bank. Bank 0 may be mapped, and
RAM takes writes without being enabled. -/
def decodeMbc5 (banks : Banks) (address value : Nat) : Effect :=
  if address < 0x2000 then .nothing
  else if address < 0x3000 then .mapRom (banks.romBank / 256 % 2 * 256 + value)
  else if address < 0x4000 then .mapRom (value % 2 * 256 + banks.romBank % 256)
  else if address < 0x6000 then .mapRam (value % 8)
  else if 0xA000 ≤ address ∧ address < 0xC000 then .store
  else .nothing

/-- What a write of `value` to `address` does. -/
def decode (controller : Controller) (banks : Banks) (address : UInt16) (value : UInt8) : Effect :=
  match controller with
  | .absent => .nothing
  | .mbc1 largeRam => decodeMbc1 largeRam banks address.toNat value.toNat
  | .mbc2 => decodeMbc2 banks address.toNat value.toNat
  | .mbc5 _ => decodeMbc5 banks address.toNat value.toNat
  | .unsupported => .nothing

/-- The events of an effect. -/
def reports : Controller → Effect → List Event
  | .mbc1 _, .mapRam bank => [.ramBankSelected bank]
  | _, _ => []

/-! ## Description -/

/-- The size of RAM and ROM that an MBC1 mode is said to be for. -/
def modeText (largeRam : Bool) : String :=
  if largeRam then "Cartridge is in 16MBit ROM/8KByte RAM Mode."
  else "Cartridge is in 4MBit ROM/32KByte RAM Mode."

/-- The current mapping in a line. The mode of an MBC1 is told where there is RAM. -/
def describe (controller : Controller) (banks : Banks) (hasRam : Bool) : String :=
  let mapped := s!"ROM bank {hex 2 banks.romBank} mapped to 4000 - 7FFF"
  match controller with
  | .absent => "This ROM has no mapper."
  | .mbc1 largeRam =>
    if hasRam then s!"MBC1: {mapped}.  {modeText largeRam}" else s!"MBC1: {mapped}"
  | .mbc2 => s!"MBC2: {mapped}"
  | .mbc5 rumble => if rumble then s!"MBC5: {mapped} (rumble)" else s!"MBC5: {mapped}"
  | .unsupported => "Unknown mapper."

end Controller

end GamePak
