/-!
# `GamePak.Geometry` — sizes and offsets of the hardware

The sizes of banks and memories, and the offsets of the header's fields in bank 0.
-/

namespace GamePak

/-! ## Sizes -/

/-- One switchable ROM bank: 16 KiB. -/
def romBankSize : Nat := 0x4000

/-- One switchable external RAM bank: 8 KiB. -/
def ramBankSize : Nat := 0x2000

/-- The RAM kept for every cartridge: eight banks, as many as any controller can select. -/
def ramCapacity : Nat := 0x10000

/-- The cells of RAM inside an MBC2 controller. -/
def mbc2RamSize : Nat := 512

/-! ## Where the header's fields are -/

/-- The first byte of the title. -/
def titleOffset : Nat := 0x134

/-- The length of the title field. -/
def titleSize : Nat := 16

/-- The cartridge type byte. -/
def typeOffset : Nat := 0x147

/-- The ROM size code. -/
def romSizeOffset : Nat := 0x148

/-- The RAM size code. -/
def ramSizeOffset : Nat := 0x149

/-- The high byte of the global checksum; the low byte follows. -/
def checksumOffset : Nat := 0x14E

end GamePak
