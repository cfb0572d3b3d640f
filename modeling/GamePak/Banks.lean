import GamePak.Bytes
import GamePak.Geometry

/-!
# `GamePak.Banks` — which banks the CPU sees

The CPU reaches the cartridge through three windows: bank 0 of the ROM at 0000–3FFF, a switched ROM
bank at 4000–7FFF and a switched RAM bank at A000–BFFF. Beside each bank number stands the offset of
the bank's first byte; only `Banks.mapRom` and `Banks.mapRam` set either, both together.

## Contents
- `Banks`: the bank numbers, their first bytes, and the RAM latch.
- `Banks.mapRom`, `Banks.mapRam`.
- `Cell`: one physical byte of ROM or RAM; `Banks.cell?` finds the one behind an address.
-/

namespace GamePak

/-- The banks in the two switched windows, and whether RAM accepts writes. -/
structure Banks where
  romBank : Nat
  romStart : Nat
  ramBank : Nat
  ramStart : Nat
  ramEnabled : Bool
deriving DecidableEq, Repr

namespace Banks

/-- Maps a ROM bank to 4000–7FFF. -/
def mapRom (banks : Banks) (bank : Nat) : Banks :=
  { banks with romBank := bank, romStart := bank * romBankSize }

/-- Maps a RAM bank to A000–BFFF. -/
def mapRam (banks : Banks) (bank : Nat) : Banks :=
  { banks with ramBank := bank, ramStart := bank * ramBankSize }

/-- After power-on the windows show ROM bank 1 and RAM bank 0, and RAM is off. -/
def powerOn : Banks :=
  Banks.mapRom ⟨0, 0, 0, 0, false⟩ 1

end Banks

/-! ## Physical bytes -/

/-- One byte of the ROM or of the RAM, by its offset. -/
inductive Cell where
  | rom (offset : Nat)
  | ram (offset : Nat)
deriving DecidableEq, Repr

/-- The byte behind an address; `none` outside the three windows. -/
def Banks.cell? (banks : Banks) (address : UInt16) : Option Cell :=
  let a := address.toNat
  if a < 0x4000 then some (.rom a)
  else if a < 0x8000 then some (.rom (banks.romStart + (a - 0x4000)))
  else if 0xA000 ≤ a ∧ a < 0xC000 then some (.ram (banks.ramStart + (a - 0xA000)))
  else none

end GamePak
