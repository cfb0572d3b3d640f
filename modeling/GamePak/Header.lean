import GamePak.Bytes
import GamePak.CartridgeType
import GamePak.Error

/-!
# `GamePak.Header` — the header in bank 0

## Contents
- `Header`, read from the first bank of an image by `Header.parse`.
- `Header.titleText`: the title in a title field.
- `Header.romSize`: the ROM size that the header declares.
-/

namespace GamePak

/-- What a header says. -/
structure Header where
  title : String
  type : CartridgeType
  romSizeCode : UInt8
  ramSizeCode : UInt8
  romBanks : Nat
  checksum : UInt16
deriving DecidableEq, Repr

namespace Header

/-- The characters of a title field: those before the first zero byte, without the ones that cannot
be printed, and without the spaces at the end. -/
def titleChars (field : List UInt8) : List Char :=
  let shown := ((field.takeWhile (· != 0)).filter Byte.isPrintable).map Byte.toChar
  (shown.reverse.dropWhile (· == ' ')).reverse

/-- The title in a title field. -/
def titleText (field : List UInt8) : String :=
  String.ofList (titleChars field)

/-- Reads the header of an image. Only bank 0 has to be there. -/
def parse (image : Bytes) : Except LoadError Header :=
  if image.size < romBankSize then .error (.tooShort image.size)
  else
    let romSizeCode := image.getD romSizeOffset 0
    match romBanks? romSizeCode with
    | none => .error (.unknownRomSize romSizeCode)
    | some romBanks =>
      .ok {
        title := titleText (image.extract titleOffset (titleOffset + titleSize)).toList
        type := CartridgeType.ofCode (image.getD typeOffset 0)
        romSizeCode := romSizeCode
        ramSizeCode := image.getD ramSizeOffset 0
        romBanks := romBanks
        checksum :=
          Word.ofBytes (image.getD checksumOffset 0) (image.getD (checksumOffset + 1) 0) }

/-- The declared ROM size in bytes. -/
def romSize (header : Header) : Nat :=
  header.romBanks * romBankSize

/-- How many bytes of RAM the battery keeps; `none` without a battery. -/
def batteryLength (header : Header) : Option Nat :=
  header.type.batteryLength header.ramSizeCode

end Header

end GamePak
