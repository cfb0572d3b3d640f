import GamePak.Cartridge.Basic

/-!
# `GamePak.Cartridge.Debugger` — the debugger's hold on a cartridge

A debugger may look through the switched ROM window at any bank and patch any byte. Before it remaps
the window it notes the program's own bank, and it puts that bank back when it is done.

## Contents
- `Cartridge.saveMapping`, `Cartridge.restoreMapping`: the override slot.
- `Cartridge.mapRom`: any bank into the switched window.
- `Cartridge.debugCell?`, `Cartridge.debugWrite`: patching a byte.
- `Cartridge.mapInfo`: the mapping in a line.
-/

namespace GamePak.Cartridge

/-- Notes the program's bank. Only the first call since the last restore does; without a controller
there is nothing to note. -/
def saveMapping (cartridge : Cartridge) : Cartridge :=
  match cartridge.controller, cartridge.override with
  | .absent, _ => cartridge
  | _, .pending _ => cartridge
  | _, .idle => { cartridge with override := .pending cartridge.banks.romBank }

/-- Puts the noted bank back, if there is one. -/
def restoreMapping (cartridge : Cartridge) : Logged Cartridge :=
  match cartridge.override with
  | .idle => pure cartridge
  | .pending bank => do
    .report (.mappingRestored bank)
    pure { cartridge with override := .idle, banks := cartridge.banks.mapRom bank }

/-- Maps any bank to 4000–7FFF, past the controller. Without a controller bank 1 stays there. -/
def mapRom (cartridge : Cartridge) (bank : UInt16) : Cartridge :=
  match cartridge.controller with
  | .absent => cartridge
  | _ => { cartridge with banks := cartridge.banks.mapRom bank.toNat }

/-- The byte that a patch at an address goes to. Without a controller the two ROM windows are one
flat ROM, so the address is the offset. -/
def debugCell? (cartridge : Cartridge) (address : UInt16) : Option Cell :=
  if cartridge.controller = .absent ∧ address.toNat < 0x8000 then some (.rom address.toNat)
  else cartridge.banks.cell? address

/-- Stores a byte straight into the ROM or RAM behind an address, past the controller. -/
def debugWrite (cartridge : Cartridge) (address : UInt16) (value : UInt8) : Cartridge :=
  match cartridge.debugCell? address with
  | some cell => cartridge.setByte value cell
  | none => cartridge

/-- The mapping in a line. -/
def mapInfo (cartridge : Cartridge) : String :=
  cartridge.controller.describe cartridge.banks cartridge.header.type.features.ram

end GamePak.Cartridge
