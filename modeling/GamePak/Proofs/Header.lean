import GamePak.Proofs.Cartridge.Decision
import Mathlib.Data.List.DropRight

/-!
# `Proofs.Header` — headers written and read back

A header is read from 21 bytes of bank 0 and from nothing else. Written into any image it reads back, for every
title that a title field can hold. And a title that is read is always one that a title field can hold, whatever
the field had in it: the field is cut at its first zero byte before anything is dropped, and spaces are taken
from the end only when all that cannot be printed is gone. So reading and writing a title are inverse to each
other from the first reading on.

## Contents
- `Bytes.getElem?_patch`: bytes stored in a row.
- `IsTitle`, `titleBytes`: the titles that a field can hold, and how it holds them; `Header.isTitle_titleText`,
  `Header.titleText_titleBytes`, `Header.titleText_congr`.
- `Header.titleField`, `Header.parse_of_known`; `Header.Reads`, `Header.parse_congr`: the bytes of a header.
- `Label`, `Label.store`, `Label.parse_store`: a header written into an image.
- `Header.parse_patch_title`, `Header.parse_patch_congr`: another title field.
- `header_reads_back`.
-/

namespace GamePak

/-! ## Bytes stored in a row -/

/-- Bytes that are stored inside an image are where they were put, and every other byte is as before. -/
theorem Bytes.getElem?_patch {data : Bytes} {offset : Nat} {bytes : List UInt8}
    (hin : offset + bytes.length ≤ data.size) (i : Nat) :
    (data.patch offset bytes)[i]? =
      if offset ≤ i ∧ i < offset + bytes.length then bytes[i - offset]? else data[i]? := by
  -- the first byte is stored first, and no later one comes back to its place
  induction bytes generalizing data offset with
  | nil =>
      have hnone : ¬ (offset ≤ i ∧ i < offset + ([] : List UInt8).length) := by
        rw [List.length_nil]
        omega
      rw [patch_nil, if_neg hnone]
  | cons b rest ih =>
      rw [List.length_cons] at hin ⊢
      have hrest : offset + 1 + rest.length ≤ (data.setIfInBounds offset b).size := by
        rw [Array.size_setIfInBounds]
        omega
      rw [patch, ih hrest]
      by_cases hfirst : i = offset
      · subst hfirst
        rw [if_neg (by omega), if_pos (by omega), Array.getElem?_setIfInBounds_self, if_pos (by omega),
          Nat.sub_self, List.getElem?_cons_zero]
      · rw [Array.getElem?_setIfInBounds_ne (Ne.symm hfirst)]
        by_cases hlater : offset + 1 ≤ i ∧ i < offset + 1 + rest.length
        · have hplace : i - offset = i - (offset + 1) + 1 := by omega
          rw [if_pos hlater, if_pos (by omega), hplace, List.getElem?_cons_succ]
        · rw [if_neg hlater, if_neg (by omega)]

/-! ## Titles -/

/-- What a title field can hold: sixteen characters at most, all of them printable, the last one no space. -/
structure IsTitle (title : String) : Prop where
  length_le : title.length ≤ 16
  printable : ∀ c ∈ title.toList, 0x20 ≤ c.toNat ∧ c.toNat ≤ 0x7E
  last_ne_space : title.toList.getLast? ≠ some ' '

/-- A title as its field holds it: a byte for each character, and zeros up to sixteen bytes. -/
def titleBytes (title : String) : List UInt8 :=
  (title.toList.map fun c => UInt8.ofNat c.toNat).rightpad 16 0

theorem length_titleBytes {title : String} (h : IsTitle title) : (titleBytes title).length = 16 := by
  have hlength := h.length_le
  rw [← String.length_toList] at hlength
  rw [titleBytes, List.length_rightpad, List.length_map]
  omega

namespace Byte

theorem isPrintable_iff (b : UInt8) : isPrintable b = true ↔ 0x20 ≤ b.toNat ∧ b.toNat < 0x7F := by
  rw [isPrintable, Bool.and_eq_true, decide_eq_true_eq, decide_eq_true_eq, UInt8.le_iff_toNat_le,
    UInt8.lt_iff_toNat_lt]
  rfl

/-- The byte of a printable character is not zero, is printable, and stands for the character. -/
theorem of_printable {c : Char} (h : 0x20 ≤ c.toNat ∧ c.toNat ≤ 0x7E) :
    (UInt8.ofNat c.toNat != 0) = true ∧ isPrintable (UInt8.ofNat c.toNat) = true ∧
      toChar (UInt8.ofNat c.toNat) = c := by
  have hbyte : c.toNat < 256 := by omega
  have hvalue : (UInt8.ofNat c.toNat).toNat = c.toNat := UInt8.toNat_ofNat_of_lt' hbyte
  refine ⟨?_, ?_, ?_⟩
  · rw [bne_iff_ne, ne_eq, ← UInt8.toNat_inj, hvalue, UInt8.toNat_zero]
    omega
  · rw [isPrintable_iff, hvalue]
    omega
  · rw [toChar, hvalue, Char.ofNat_toNat]

/-- A printable byte stands for a printable character. -/
theorem toNat_toChar {b : UInt8} (h : isPrintable b = true) :
    0x20 ≤ (toChar b).toNat ∧ (toChar b).toNat ≤ 0x7E := by
  obtain ⟨hlow, hhigh⟩ := (isPrintable_iff b).1 h
  have hvalid : b.toNat.isValidChar := Or.inl (by omega)
  have hvalue : (toChar b).toNat = b.toNat := by
    rw [toChar, Char.ofNat, dif_pos hvalid]
    rfl
  omega

end Byte

namespace Header

/-- What is shown of a title field before spaces are taken from its end. -/
def shownChars (field : List UInt8) : List Char :=
  ((field.takeWhile (· != 0)).filter Byte.isPrintable).map Byte.toChar

theorem titleChars_eq (field : List UInt8) :
    titleChars field = (shownChars field).rdropWhile (· == ' ') := rfl

theorem length_shownChars_le (field : List UInt8) : (shownChars field).length ≤ field.length := by
  rw [shownChars, List.length_map]
  exact Nat.le_trans (List.length_filter_le _ _) (List.takeWhile_prefix _).length_le

theorem printable_of_mem_shownChars {field : List UInt8} {c : Char} (h : c ∈ shownChars field) :
    0x20 ≤ c.toNat ∧ c.toNat ≤ 0x7E := by
  obtain ⟨b, hb, rfl⟩ := List.mem_map.1 h
  exact Byte.toNat_toChar (List.mem_filter.1 hb).2

/-- **Every title that is read can be held by a field**, whatever the field had in it. -/
theorem isTitle_titleText {field : List UInt8} (h : field.length = 16) : IsTitle (titleText field) := by
  have hstart : titleChars field <+: shownChars field := List.rdropWhile_prefix _ _
  refine ⟨?_, ?_, ?_⟩
  · rw [titleText, String.length_ofList]
    exact Nat.le_trans hstart.length_le (h ▸ length_shownChars_le field)
  · intro c hc
    rw [titleText, String.toList_ofList] at hc
    exact printable_of_mem_shownChars (hstart.mem hc)
  · intro hspace
    rw [titleText, String.toList_ofList, titleChars_eq] at hspace
    -- the end that is left is one where the dropping stopped
    have hne : (shownChars field).rdropWhile (· == ' ') ≠ [] := by
      intro hnil
      rw [hnil] at hspace
      cases hspace
    rw [List.getLast?_eq_getLast_of_ne_nil hne, Option.some.injEq] at hspace
    exact List.rdropWhile_last_not _ _ hne (beq_iff_eq.2 hspace)

/-- **A title is read from the bytes that hold it.** None of them is zero or unprintable, so nothing of it is
cut or dropped, and the zeros behind it are. -/
theorem titleText_titleBytes {title : String} (h : IsTitle title) :
    titleText (titleBytes title) = title := by
  have hbytes : ∀ b ∈ title.toList.map (fun c => UInt8.ofNat c.toNat),
      (b != 0) = true ∧ Byte.isPrintable b = true := by
    intro b hb
    obtain ⟨c, hc, rfl⟩ := List.mem_map.1 hb
    obtain ⟨hne, hprintable, -⟩ := Byte.of_printable (h.printable c hc)
    exact ⟨hne, hprintable⟩
  have hzeros : ∀ count, (List.replicate count (0 : UInt8)).takeWhile (· != 0) = [] := by
    intro count
    cases count <;> rfl
  have hshown : shownChars (titleBytes title) = title.toList := by
    rw [shownChars, titleBytes, List.rightpad, List.takeWhile_append_of_pos fun b hb => (hbytes b hb).1,
      hzeros, List.append_nil, List.filter_eq_self.2 fun b hb => (hbytes b hb).2, List.map_map]
    calc title.toList.map (Byte.toChar ∘ fun c => UInt8.ofNat c.toNat)
        = title.toList.map id :=
          List.map_congr_left fun c hc => (Byte.of_printable (h.printable c hc)).2.2
      _ = title.toList := List.map_id _
  have hlast : title.toList.rdropWhile (· == ' ') = title.toList := by
    rw [List.rdropWhile_eq_self_iff]
    intro hne hspace
    apply h.last_ne_space
    rw [List.getLast?_eq_getLast_of_ne_nil hne, beq_iff_eq.1 hspace]
  rw [titleText, titleChars_eq, hshown, hlast, String.ofList_toList]

/-- What follows the first zero byte of a field does not matter. -/
theorem titleText_congr {field other : List UInt8}
    (h : other.takeWhile (· != 0) = field.takeWhile (· != 0)) : titleText other = titleText field := by
  rw [titleText, titleText, titleChars_eq, titleChars_eq, shownChars, shownChars, h]

/-! ## Which bytes a header is read from -/

/-- The title field of an image. -/
def titleField (image : Bytes) : List UInt8 :=
  (image.extract titleOffset (titleOffset + titleSize)).toList

theorem getElem?_titleField {image : Bytes} (hbank : romBankSize ≤ image.size) (i : Nat) :
    (titleField image)[i]? = if i < 16 then image[0x134 + i]? else none := by
  have hfield : min (titleOffset + titleSize) image.size - titleOffset = 16 := by
    unfold titleOffset titleSize
    unfold romBankSize at hbank
    omega
  rw [titleField, Array.getElem?_toList, Array.getElem?_extract, hfield]
  rfl

theorem titleField_congr {image other : Bytes} (hbank : romBankSize ≤ image.size)
    (hbank' : romBankSize ≤ other.size) (h : ∀ i < 16, other[0x134 + i]? = image[0x134 + i]?) :
    titleField other = titleField image := by
  apply List.ext_getElem?
  intro i
  rw [getElem?_titleField hbank, getElem?_titleField hbank']
  by_cases hi : i < 16
  · rw [if_pos hi, if_pos hi, h i hi]
  · rw [if_neg hi, if_neg hi]

/-- An image with all of bank 0 and a known ROM size has a header, and this is what it says. -/
theorem parse_of_known {image : Bytes} {banks : Nat} (hbank : romBankSize ≤ image.size)
    (hbanks : romBanks? (image.getD romSizeOffset 0) = some banks) :
    parse image = .ok {
      title := titleText (titleField image)
      type := CartridgeType.ofCode (image.getD typeOffset 0)
      romSizeCode := image.getD romSizeOffset 0
      ramSizeCode := image.getD ramSizeOffset 0
      romBanks := banks
      checksum :=
        Word.ofBytes (image.getD checksumOffset 0) (image.getD (checksumOffset + 1) 0) } := by
  simp only [parse, titleField, if_neg (Nat.not_lt.2 hbank), hbanks]

/-- Of an image with all of bank 0, a header depends on the title and on five bytes. -/
theorem parse_congr_fields {image other : Bytes} (hbank : romBankSize ≤ image.size)
    (hbank' : romBankSize ≤ other.size)
    (htitle : titleText (titleField other) = titleText (titleField image))
    (hbytes : ∀ offset ∈ [typeOffset, romSizeOffset, ramSizeOffset, checksumOffset, checksumOffset + 1],
      other.getD offset 0 = image.getD offset 0) : parse other = parse image := by
  have htype := hbytes typeOffset (by decide)
  have hrom := hbytes romSizeOffset (by decide)
  have hram := hbytes ramSizeOffset (by decide)
  have hhigh := hbytes checksumOffset (by decide)
  have hlow := hbytes (checksumOffset + 1) (by decide)
  cases hbanks : romBanks? (image.getD romSizeOffset 0) with
  | none =>
      simp only [parse, if_neg (Nat.not_lt.2 hbank), if_neg (Nat.not_lt.2 hbank'), hrom, hbanks]
  | some banks =>
      have hbanks' := hrom ▸ hbanks
      rw [parse_of_known hbank hbanks, parse_of_known hbank' hbanks', htitle, htype, hrom, hram, hhigh,
        hlow]

/-- The offsets of the bytes that a header is read from. -/
def Reads (offset : Nat) : Prop :=
  (0x134 ≤ offset ∧ offset ≤ 0x143) ∨ (0x147 ≤ offset ∧ offset ≤ 0x149) ∨
    (0x14E ≤ offset ∧ offset ≤ 0x14F)

instance (offset : Nat) : Decidable (Reads offset) :=
  inferInstanceAs (Decidable (_ ∨ _ ∨ _))

/-- **A header is read from its own bytes and from no other.** -/
theorem parse_congr {image other : Bytes} (hbank : romBankSize ≤ image.size)
    (hbank' : romBankSize ≤ other.size) (h : ∀ offset, Reads offset → other[offset]? = image[offset]?) :
    parse other = parse image := by
  refine parse_congr_fields hbank hbank' (congrArg titleText ?_) ?_
  · apply titleField_congr hbank hbank'
    intro i hi
    exact h (0x134 + i) (Or.inl ⟨by omega, by omega⟩)
  · intro offset hoffset
    have hread : ∀ offset ∈ [typeOffset, romSizeOffset, ramSizeOffset, checksumOffset,
        checksumOffset + 1], Reads offset := by decide
    rw [Array.getD_eq_getD_getElem?, Array.getD_eq_getD_getElem?, h offset (hread offset hoffset)]

end Header

/-! ## Headers written into an image -/

/-- What a header can be made to say. -/
structure Label where
  title : String
  typeCode : UInt8
  romSizeCode : UInt8
  ramSizeCode : UInt8
  checksum : UInt16
deriving DecidableEq, Repr

/-- The image with a header written into it: the title, the three bytes from 147 on, and the checksum with its
high byte first. -/
def Label.store (label : Label) (image : Bytes) : Bytes :=
  ((image.patch 0x134 (titleBytes label.title)).patch 0x147
    [label.typeCode, label.romSizeCode, label.ramSizeCode]).patch 0x14E (Word.toBytes label.checksum)

namespace Header

variable {image : Bytes}

/-- A field of sixteen bytes is read as it was written. -/
theorem titleField_patch (hbank : romBankSize ≤ image.size) {field : List UInt8}
    (hfield : field.length = 16) : titleField (image.patch 0x134 field) = field := by
  have hin : 0x134 + field.length ≤ image.size := by
    unfold romBankSize at hbank
    omega
  apply List.ext_getElem?
  intro i
  rw [getElem?_titleField (by rw [Bytes.size_patch]; exact hbank), Bytes.getElem?_patch hin]
  by_cases hi : i < 16
  · rw [if_pos hi, if_pos (by omega), Nat.add_sub_cancel_left]
  · rw [if_neg hi, List.getElem?_eq_none (by omega)]

/-- What stands behind the title is as before. -/
theorem getD_patch_title (hbank : romBankSize ≤ image.size) {field : List UInt8}
    (hfield : field.length = 16) {offset : Nat} (hbehind : 0x144 ≤ offset) :
    (image.patch 0x134 field).getD offset 0 = image.getD offset 0 := by
  have hin : 0x134 + field.length ≤ image.size := by
    unfold romBankSize at hbank
    omega
  rw [Array.getD_eq_getD_getElem?, Bytes.getElem?_patch hin, if_neg (by omega),
    Array.getD_eq_getD_getElem?]

/-- A header with any sixteen bytes for a title field. -/
theorem parse_patch_title (hbank : romBankSize ≤ image.size) {field : List UInt8}
    (hfield : field.length = 16) {banks : Nat} (hbanks : declaredBanks? (image.getD 0x148 0) = some banks) :
    parse (image.patch 0x134 field) = .ok {
      title := titleText field
      type := CartridgeType.ofCode (image.getD typeOffset 0)
      romSizeCode := image.getD romSizeOffset 0
      ramSizeCode := image.getD ramSizeOffset 0
      romBanks := banks
      checksum :=
        Word.ofBytes (image.getD checksumOffset 0) (image.getD (checksumOffset + 1) 0) } := by
  have hsize : romBankSize ≤ (image.patch 0x134 field).size := by
    rw [Bytes.size_patch]
    exact hbank
  have hknown : romBanks? ((image.patch 0x134 field).getD romSizeOffset 0) = some banks := by
    rw [getD_patch_title hbank hfield (by decide), romBanks?_eq]
    exact hbanks
  rw [parse_of_known hsize hknown, titleField_patch hbank hfield,
    getD_patch_title hbank hfield (by decide), getD_patch_title hbank hfield (by decide),
    getD_patch_title hbank hfield (by decide), getD_patch_title hbank hfield (by decide),
    getD_patch_title hbank hfield (by decide)]

/-- Only the title is different where another title field is stored. -/
theorem parse_patch_congr (hbank : romBankSize ≤ image.size) {field other : List UInt8}
    (hfield : field.length = 16) (hother : other.length = 16) (htitle : titleText other = titleText field) :
    parse (image.patch 0x134 other) = parse (image.patch 0x134 field) := by
  have hsize : ∀ bytes, romBankSize ≤ (image.patch 0x134 bytes).size := by
    intro bytes
    rw [Bytes.size_patch]
    exact hbank
  refine parse_congr_fields (hsize field) (hsize other) ?_ ?_
  · rw [titleField_patch hbank hfield, titleField_patch hbank hother, htitle]
  · intro offset hoffset
    have hbehind : ∀ offset ∈ [typeOffset, romSizeOffset, ramSizeOffset, checksumOffset,
        checksumOffset + 1], 0x144 ≤ offset := by decide
    rw [getD_patch_title hbank hfield (hbehind offset hoffset),
      getD_patch_title hbank hother (hbehind offset hoffset)]

end Header

namespace Label

variable {image : Bytes} {label : Label}

theorem size_store (label : Label) (image : Bytes) : (label.store image).size = image.size := by
  rw [store, Bytes.size_patch, Bytes.size_patch, Bytes.size_patch]

/-- Every byte of an image with a header written into it. -/
theorem getElem?_store (hbank : romBankSize ≤ image.size) (htitle : IsTitle label.title) (i : Nat) :
    (label.store image)[i]? =
      if 0x14E ≤ i ∧ i < 0x150 then (Word.toBytes label.checksum)[i - 0x14E]?
      else if 0x147 ≤ i ∧ i < 0x14A then [label.typeCode, label.romSizeCode, label.ramSizeCode][i - 0x147]?
      else if 0x134 ≤ i ∧ i < 0x144 then (titleBytes label.title)[i - 0x134]?
      else image[i]? := by
  have hlength := length_titleBytes htitle
  unfold romBankSize at hbank
  have hfirst : 0x134 + (titleBytes label.title).length ≤ image.size := by omega
  have hsecond : 0x147 + [label.typeCode, label.romSizeCode, label.ramSizeCode].length ≤
      (image.patch 0x134 (titleBytes label.title)).size := by
    rw [Bytes.size_patch]
    show 0x147 + 3 ≤ image.size
    omega
  have hthird : 0x14E + (Word.toBytes label.checksum).length ≤
      ((image.patch 0x134 (titleBytes label.title)).patch 0x147
        [label.typeCode, label.romSizeCode, label.ramSizeCode]).size := by
    rw [Bytes.size_patch, Bytes.size_patch]
    show 0x14E + 2 ≤ image.size
    omega
  rw [store, Bytes.getElem?_patch hthird, Bytes.getElem?_patch hsecond, Bytes.getElem?_patch hfirst,
    hlength]
  rfl

/-- **A header that is written reads back**, whatever else the image holds. -/
theorem parse_store (hbank : romBankSize ≤ image.size) (htitle : IsTitle label.title) {banks : Nat}
    (hbanks : romBanks? label.romSizeCode = some banks) :
    Header.parse (label.store image) = .ok {
      title := label.title
      type := CartridgeType.ofCode label.typeCode
      romSizeCode := label.romSizeCode
      ramSizeCode := label.ramSizeCode
      romBanks := banks
      checksum := label.checksum } := by
  have hsize : romBankSize ≤ (label.store image).size := by
    rw [size_store]
    exact hbank
  have hbyte : ∀ i, (label.store image).getD i 0 = ((label.store image)[i]?).getD 0 := fun i =>
    Array.getD_eq_getD_getElem?
  have htype : (label.store image).getD typeOffset 0 = label.typeCode := by
    rw [hbyte, getElem?_store hbank htitle]
    rfl
  have hrom : (label.store image).getD romSizeOffset 0 = label.romSizeCode := by
    rw [hbyte, getElem?_store hbank htitle]
    rfl
  have hram : (label.store image).getD ramSizeOffset 0 = label.ramSizeCode := by
    rw [hbyte, getElem?_store hbank htitle]
    rfl
  have hhigh : (label.store image).getD checksumOffset 0 = UInt8.ofNat (label.checksum.toNat / 256) := by
    rw [hbyte, getElem?_store hbank htitle]
    rfl
  have hlow : (label.store image).getD (checksumOffset + 1) 0 =
      UInt8.ofNat (label.checksum.toNat % 256) := by
    rw [hbyte, getElem?_store hbank htitle]
    rfl
  have hfield : Header.titleField (label.store image) = titleBytes label.title := by
    have hlength := length_titleBytes htitle
    apply List.ext_getElem?
    intro i
    rw [Header.getElem?_titleField hsize, getElem?_store hbank htitle]
    by_cases hi : i < 16
    · rw [if_pos hi, if_neg (by omega), if_neg (by omega), if_pos (by omega), Nat.add_sub_cancel_left]
    · rw [if_neg hi, List.getElem?_eq_none (by omega)]
  rw [Header.parse_of_known hsize (by rw [hrom]; exact hbanks), hfield, htype, hrom, hram, hhigh, hlow,
    Header.titleText_titleBytes htitle, Word.ofBytes_toBytes]

end Label

/-- **Headers read back, and from their own bytes alone.** In an image with all of bank 0, whatever else it
holds: a label with a title that a field can hold and a known ROM size reads back once it is written; any other
image with the same bytes at the offsets of the header reads the same, or fails the same; and with any sixteen
bytes for a title field the title read is one that a field can hold, bytes behind the first zero make no
difference, and the title written again reads again. -/
theorem header_reads_back {image : Bytes} (hbank : 16384 ≤ image.size) :
    (∀ (label : Label) (banks : Nat), IsTitle label.title → declaredBanks? label.romSizeCode = some banks →
      ∃ header, Header.parse (label.store image) = .ok header ∧
        header.title = label.title ∧ header.type = CartridgeType.ofCode label.typeCode ∧
        header.type.code = label.typeCode ∧ header.romSizeCode = label.romSizeCode ∧
        header.romBanks = banks ∧ header.ramSizeCode = label.ramSizeCode ∧
        header.checksum = label.checksum ∧ header.romSize = banks * 16384) ∧
    (∀ other : Bytes, 16384 ≤ other.size →
      (∀ offset, Header.Reads offset → other[offset]? = image[offset]?) →
      Header.parse other = Header.parse image) ∧
    ∀ (field : List UInt8) (banks : Nat), field.length = 16 →
      declaredBanks? (image.getD 0x148 0) = some banks →
      ∃ header, Header.parse (image.patch 0x134 field) = .ok header ∧ IsTitle header.title ∧
        (∀ other : List UInt8, other.length = 16 →
          other.takeWhile (· != 0) = field.takeWhile (· != 0) →
          Header.parse (image.patch 0x134 other) = .ok header) ∧
        Header.parse (image.patch 0x134 (titleBytes header.title)) = .ok header := by
  refine ⟨?_, ?_, ?_⟩
  · intro label banks htitle hbanks
    rw [← romBanks?_eq] at hbanks
    exact ⟨_, Label.parse_store hbank htitle hbanks, rfl, rfl, CartridgeType.code_ofCode _, rfl, rfl, rfl,
      rfl, rfl⟩
  · intro other hbank' hagree
    exact Header.parse_congr hbank hbank' hagree
  · intro field banks hfield hbanks
    have hparse := Header.parse_patch_title hbank hfield hbanks
    have htitle := Header.isTitle_titleText hfield
    refine ⟨_, hparse, htitle, ?_, ?_⟩
    · intro other hother hsame
      rw [Header.parse_patch_congr hbank hfield hother (Header.titleText_congr hsame), hparse]
    · have hagain := Header.titleText_titleBytes htitle
      rw [Header.parse_patch_congr hbank hfield (length_titleBytes htitle) hagain, hparse]

/-- The blank MBC1 image with a label written into it, with another byte in front of its title, and with a title
field in which a space stands before bytes that are dropped. -/
theorem header_reads_back_blank :
    let image := Cartridge.blankImage 0x03 0x00
    let label : Label := ⟨"TETRIS 2", 0x1B, 0x05, 0x03, 0xBEEF⟩
    let field : List UInt8 := [0x41, 0x42, 0x20, 0x01, 0x20, 0x80, 0, 0x43, 0, 0, 0, 0, 0, 0, 0, 0x44]
    (∃ header, Header.parse (label.store image) = .ok header ∧ header.title = "TETRIS 2" ∧
      header.type = .mbc5 true true false ∧ header.romSize = 64 * 16384 ∧ header.checksum = 0xBEEF) ∧
    Header.parse (image.setIfInBounds 0x133 0xFF) = Header.parse image ∧
    ∃ header, Header.parse (image.patch 0x134 field) = .ok header ∧ header.title = "AB" ∧
      Header.parse (image.patch 0x134 (titleBytes "AB")) = .ok header := by
  intro image label field
  have hsize : image.size = 0x8000 := Cartridge.size_blankImage 0x03 0x00
  have hbank : 16384 ≤ image.size := by
    rw [hsize]
    decide
  have hknown : declaredBanks? (image.getD 0x148 0) = some 2 := Cartridge.declaredBanks?_blankImage 0x03 0x00
  have hprintable : ∀ c ∈ "TETRIS 2".toList, 0x20 ≤ c.toNat ∧ c.toNat ≤ 0x7E := by simp
  have htitle : IsTitle label.title := ⟨by decide, hprintable, by decide⟩
  obtain ⟨hlabel, hagree, hfield⟩ := header_reads_back hbank
  refine ⟨?_, ?_, ?_⟩
  · obtain ⟨header, hparse, htext, htype, -, -, -, -, hsum, hrom⟩ := hlabel label 64 htitle (by decide)
    exact ⟨header, hparse, htext, htype, hrom, hsum⟩
  · refine hagree _ (by rw [Array.size_setIfInBounds]; exact hbank) ?_
    intro offset hread
    have hother : 0x133 ≠ offset := by
      rintro rfl
      exact absurd hread (by decide)
    exact Array.getElem?_setIfInBounds_ne hother
  · obtain ⟨header, hparse, -, -, hagain⟩ := hfield field 2 rfl hknown
    have hlength : field.length = 16 := rfl
    have htext : header.title = "AB" := by
      rw [Header.parse_patch_title hbank hlength hknown] at hparse
      obtain rfl := Except.ok.inj hparse
      decide
    exact ⟨header, hparse, htext, htext ▸ hagain⟩

end GamePak
