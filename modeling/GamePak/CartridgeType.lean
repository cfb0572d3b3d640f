import GamePak.Geometry
import GamePak.Header.Size

/-!
# `GamePak.CartridgeType` — the cartridge type byte

The type byte of a header names the controller chip and what is fitted beside it.

## Contents
- `CartridgeType`, read from its byte by `ofCode` and written back by `code` (`code_ofCode`).
- `CartridgeType.name`: the customary name.
- `Features`: RAM, battery and rumble motor, with their text and bits.
- `CartridgeType.batteryLength`: how many bytes of RAM the battery keeps.
-/

namespace GamePak

/-! ## Features -/

/-- What is fitted beside the controller. -/
structure Features where
  ram : Bool
  battery : Bool
  rumble : Bool
deriving DecidableEq, Repr

namespace Features

/-- Nothing fitted. -/
def empty : Features := ⟨false, false, false⟩

/-- One bit for each feature, from the lowest: RAM, battery, rumble. -/
def bits (f : Features) : Nat :=
  f.ram.toNat + 2 * f.battery.toNat + 4 * f.rumble.toNat

/-- The names of the features fitted. -/
def names (f : Features) : List String :=
  (if f.ram then ["RAM"] else []) ++ (if f.battery then ["BATTERY"] else []) ++
    (if f.rumble then ["RUMBLE"] else [])

/-- The features as they are reported: their names, or a zero where there are none. -/
def text (f : Features) : String :=
  let shown := if f.names = [] then "0x0" else " | ".intercalate f.names
  s!"CartFeatures({shown})"

end Features

/-! ## Types -/

/-- A cartridge type: the family of the controller and what is fitted. -/
inductive CartridgeType where
  | romOnly
  | romRam (battery : Bool)
  | mbc1 (ram battery : Bool)
  | mbc2 (battery : Bool)
  | mbc5 (ram battery rumble : Bool)
  | unsupported (code : UInt8)
deriving DecidableEq, Repr

namespace CartridgeType

/-- The type that a type byte names. -/
def ofCode : UInt8 → CartridgeType
  | 0x00 => .romOnly
  | 0x01 => .mbc1 false false
  | 0x02 => .mbc1 true false
  | 0x03 => .mbc1 true true
  | 0x05 => .mbc2 false
  | 0x06 => .mbc2 true
  | 0x08 => .romRam false
  | 0x09 => .romRam true
  | 0x19 => .mbc5 false false false
  | 0x1A => .mbc5 true false false
  | 0x1B => .mbc5 true true false
  | 0x1C => .mbc5 false false true
  | 0x1D => .mbc5 true false true
  | 0x1E => .mbc5 true true true
  | code => .unsupported code

/-- The type byte. A battery without RAM to keep has no byte of its own. -/
def code : CartridgeType → UInt8
  | .romOnly => 0x00
  | .romRam false => 0x08
  | .romRam true => 0x09
  | .mbc1 false _ => 0x01
  | .mbc1 true false => 0x02
  | .mbc1 true true => 0x03
  | .mbc2 false => 0x05
  | .mbc2 true => 0x06
  | .mbc5 false _ false => 0x19
  | .mbc5 true false false => 0x1A
  | .mbc5 true true false => 0x1B
  | .mbc5 false _ true => 0x1C
  | .mbc5 true false true => 0x1D
  | .mbc5 true true true => 0x1E
  | .unsupported code => code

/-- The customary name of the cartridges with a type byte. -/
def nameOfCode : UInt8 → String
  | 0x00 => "ROM Only"
  | 0x01 => "ROM+MBC1"
  | 0x02 => "ROM+MBC1+RAM"
  | 0x03 => "ROM+MBC1+RAM+BATTERY"
  | 0x05 => "ROM+MBC2"
  | 0x06 => "ROM+MBC2+BATTERY"
  | 0x08 => "ROM+RAM"
  | 0x09 => "ROM+RAM+BATTERY"
  | 0x0B => "Unsupported ROM+MMM01+SRAM"
  | 0x0C => "Unsupported ROM+MMM01+SRAM+BATTERY"
  | 0x0E => "Unsupported ROM+MBC3+TIMER+BATTERY"
  | 0x0F => "Unsupported ROM+MBC3+TIMER+RAM+BATTERY"
  | 0x10 => "Unsupported ROM+MBC3"
  | 0x11 => "Unsupported ROM+MBC3+RAM"
  | 0x12 => "Unsupported ROM+MBC3+RAM+BATTERY"
  | 0x19 => "ROM+MBC5"
  | 0x1A => "ROM+MBC5+RAM"
  | 0x1B => "ROM+MBC5+RAM+BATTERY"
  | 0x1C => "ROM+MBC5+RUMBLE"
  | 0x1D => "ROM+MBC5+RUMBLE+RAM"
  | 0x1E => "ROM+MBC5+RUMBLE+RAM+BATTERY"
  | _ => "Unknown"

/-- The customary name of a type. -/
def name (type : CartridgeType) : String :=
  nameOfCode type.code

/-- What is fitted beside the controller. An MBC2 has its RAM inside. -/
def features : CartridgeType → Features
  | .romOnly => .empty
  | .romRam battery => ⟨true, battery, false⟩
  | .mbc1 ram battery => ⟨ram, battery, false⟩
  | .mbc2 battery => ⟨true, battery, false⟩
  | .mbc5 ram battery rumble => ⟨ram, battery, rumble⟩
  | .unsupported _ => .empty

/-- Whether a battery keeps the RAM: both must be fitted. -/
def isBatteryBacked (type : CartridgeType) : Bool :=
  type.features.ram && type.features.battery

/-- How many bytes of RAM the battery keeps, for a RAM size code; `none` without a battery. -/
def batteryLength (type : CartridgeType) (ramSizeCode : UInt8) : Option Nat :=
  if type.isBatteryBacked then
    match type with
    | .mbc2 _ => some mbc2RamSize
    | _ => some (ramBanks ramSizeCode * ramBankSize)
  else none

/-- Reading a type byte loses nothing. -/
theorem code_ofCode (code : UInt8) : (ofCode code).code = code := by
  unfold ofCode
  split <;> rfl

end CartridgeType

end GamePak
