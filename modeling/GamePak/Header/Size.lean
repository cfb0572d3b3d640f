/-!
# `GamePak.Header.Size` — what the size codes of a header mean

## Contents
- `romBanksTable`, `romBanks?`: ROM size code to number of 16 KiB banks.
- `ramBanks`: RAM size code to number of 8 KiB banks in a save file.
-/

namespace GamePak

/-- The known ROM size codes with their numbers of banks: powers of two, and three odd sizes. -/
def romBanksTable : List (UInt8 × Nat) :=
  [(0x00, 2), (0x01, 4), (0x02, 8), (0x03, 16), (0x04, 32), (0x05, 64), (0x06, 128), (0x07, 256),
    (0x52, 72), (0x53, 80), (0x54, 96)]

/-- The number of ROM banks that a size code declares. -/
def romBanks? (code : UInt8) : Option Nat :=
  romBanksTable.lookup code

/-- The number of RAM banks that a save file holds. Only the code of the 32 KiB chip is told apart;
save files of every other cartridge hold one bank. -/
def ramBanks (code : UInt8) : Nat :=
  if code = 0x03 then 4 else 1

end GamePak
