import GamePak.Checksum
import Mathlib.Algebra.BigOperators.Intervals

/-!
# `Proofs.Checksum` — the global checksum as a number

The checksum is made by adding bytes to a word that wraps. As a number it is the sum of all bytes outside
the checksum field, modulo 65536, and it is compared with the word in the field.

## Contents
- `Checksum.total`: the sum, without wrapping.
- `Checksum.compute_eq`, `Checksum.stored?_eq`: the two words that are compared.
- `Bytes.getD_extract`, `Checksum.total_extract`: the same for the leading part of an image.
- `Bytes.getD_set_self`, `Bytes.getD_set_of_ne`, `Checksum.total_set_field`, `Checksum.total_set`: the sum with
  another byte in one place.
- `Checksum.verify_iff`, `Checksum.verify_of_short`: the verdict in numbers.
- `Checksum.compute_patch`, `Checksum.stamp_eq`, `Checksum.verify_stamp`: sealing an image.
- `Checksum.verify_set_of_ne`: no single byte can be changed unseen.
-/

namespace GamePak

/-- A leading part of an image has its bytes. -/
theorem Bytes.getD_extract {image : Bytes} {size i : Nat} (hsize : size ≤ image.size) (hi : i < size)
    (blank : UInt8) : (image.extract 0 size).getD i blank = image.getD i blank := by
  have hin : i < min size image.size - 0 := by omega
  rw [Array.getD_eq_getD_getElem?, Array.getElem?_extract, if_pos hin, Nat.zero_add,
    Array.getD_eq_getD_getElem?]

/-- A byte that is stored is there, -/
theorem Bytes.getD_set_self {data : Bytes} {offset : Nat} (hoffset : offset < data.size)
    (value blank : UInt8) : (data.setIfInBounds offset value).getD offset blank = value := by
  rw [Array.getD_eq_getD_getElem?, Array.getElem?_setIfInBounds_self, if_pos hoffset,
    Option.getD_some]

/-- and every other byte is as before. -/
theorem Bytes.getD_set_of_ne {data : Bytes} {offset other : Nat} (hne : other ≠ offset)
    (value blank : UInt8) :
    (data.setIfInBounds offset value).getD other blank = data.getD other blank := by
  rw [Array.getD_eq_getD_getElem?, Array.getElem?_setIfInBounds_ne hne.symm,
    Array.getD_eq_getD_getElem?]

namespace Checksum

/-- The sum of the first `size` bytes, but for those of the checksum field. -/
def total (data : Bytes) (size : Nat) : Nat :=
  ∑ i ∈ Finset.range size \ {checksumOffset, checksumOffset + 1}, (data.getD i 0).toNat

/-- Only the bytes that are added matter. -/
theorem total_extract {image : Bytes} {size : Nat} (hsize : size ≤ image.size) :
    total (image.extract 0 size) size = total image size := by
  apply Finset.sum_congr rfl
  intro i hi
  have hin : i < size := Finset.mem_range.1 (Finset.mem_sdiff.1 hi).1
  rw [Bytes.getD_extract hsize hin]

/-- The checksum field divides the bytes into those before it and those behind it. -/
theorem total_eq (data : Bytes) {size : Nat} (hfield : checksumOffset + 2 ≤ size) :
    total data size =
      (∑ i ∈ Finset.Ico 0 checksumOffset, (data.getD i 0).toNat) +
        ∑ i ∈ Finset.Ico (checksumOffset + 2) size, (data.getD i 0).toNat := by
  have hdivide : Finset.range size \ {checksumOffset, checksumOffset + 1} =
      Finset.Ico 0 checksumOffset ∪ Finset.Ico (checksumOffset + 2) size := by
    ext i
    simp only [Finset.mem_sdiff, Finset.mem_range, Finset.mem_insert, Finset.mem_singleton,
      Finset.mem_union, Finset.mem_Ico]
    omega
  have hapart : Disjoint (Finset.Ico 0 checksumOffset) (Finset.Ico (checksumOffset + 2) size) := by
    rw [Finset.disjoint_left]
    intro i hbefore hbehind
    rw [Finset.mem_Ico] at hbefore hbehind
    omega
  rw [total, hdivide, Finset.sum_union hapart]

/-- Adding the bytes of a range to a word adds their sum to its number, up to wrapping. -/
theorem toNat_sum {data : Bytes} {start stop : Nat} (hstop : stop ≤ data.size) (word : UInt16) :
    (sum data start stop word).toNat =
      (word.toNat + ∑ i ∈ Finset.Ico start stop, (data.getD i 0).toNat) % 65536 := by
  unfold sum
  -- the last byte of the range is the one added last
  induction stop with
  | zero =>
      rw [Array.foldl_eq_foldl_extract]
      simp
  | succ stop ih =>
      by_cases hstart : start ≤ stop
      · have hin : stop < data.size := by omega
        have hlast : data.extract start (stop + 1) = (data.extract start stop).push data[stop] :=
          Array.extract_succ_right (by omega) hin
        have hbyte : data.getD stop 0 = data[stop] := by simp [Array.getD, hin]
        rw [Array.foldl_eq_foldl_extract, hlast, Array.foldl_push, ← Array.foldl_eq_foldl_extract,
          Finset.sum_Ico_succ_top hstart, hbyte, UInt16.toNat_add, ih (by omega)]
        simp only [UInt8.toNat_toUInt16]
        omega
      · have hempty : data.extract start (stop + 1) = #[] := by
          simp
          omega
        rw [Array.foldl_eq_foldl_extract, hempty, Finset.Ico_eq_empty (by omega)]
        simp

/-- **The computed checksum** is the sum of all other bytes modulo 65536. -/
theorem compute_eq {rom : Bytes} (hfield : checksumOffset + 2 ≤ rom.size) :
    compute rom = UInt16.ofNat (total rom rom.size) := by
  apply UInt16.toNat_inj.1
  have hbefore : checksumOffset ≤ rom.size := by omega
  rw [compute, toNat_sum le_rfl, toNat_sum hbefore, total_eq rom hfield, UInt16.toNat_ofNat']
  simp only [UInt16.toNat_zero, Nat.zero_add]
  omega

/-- **The stored checksum** is the word in the checksum field. -/
theorem stored?_eq {rom : Bytes} (hfield : checksumOffset + 2 ≤ rom.size) :
    stored? rom =
      some (Word.ofBytes (rom.getD checksumOffset 0) (rom.getD (checksumOffset + 1) 0)) := by
  have hhigh : checksumOffset < rom.size := by omega
  have hlow : checksumOffset + 1 < rom.size := by omega
  simp [stored?, Array.getD, hhigh, hlow]

/-! ## Another byte in one place -/

/-- The bytes of the checksum field are not added. -/
theorem total_set_field {data : Bytes} {offset : Nat}
    (hfield : offset = checksumOffset ∨ offset = checksumOffset + 1) (value : UInt8) (size : Nat) :
    total (data.setIfInBounds offset value) size = total data size := by
  apply Finset.sum_congr rfl
  intro i hi
  have hother : i ≠ offset := by
    rintro rfl
    simp [hfield] at hi
  rw [Bytes.getD_set_of_ne hother]

/-- Every other byte is added once. -/
theorem total_set {data : Bytes} {offset : Nat} (hin : offset < data.size)
    (hhigh : offset ≠ checksumOffset) (hlow : offset ≠ checksumOffset + 1) (value : UInt8) :
    total (data.setIfInBounds offset value) data.size + (data.getD offset 0).toNat =
      total data data.size + value.toNat := by
  have hadded : offset ∈ Finset.range data.size \ {checksumOffset, checksumOffset + 1} := by
    simp [hin, hhigh, hlow]
  have hothers : ∀ i ∈ (Finset.range data.size \ {checksumOffset, checksumOffset + 1}).erase offset,
      ((data.setIfInBounds offset value).getD i 0).toNat = (data.getD i 0).toNat := by
    intro i hi
    rw [Bytes.getD_set_of_ne (Finset.ne_of_mem_erase hi)]
  rw [total, total, ← Finset.add_sum_erase _ _ hadded, ← Finset.add_sum_erase _ _ hadded,
    Finset.sum_congr rfl hothers, Bytes.getD_set_self hin]
  omega

/-! ## The verdict -/

/-- **The verdict in numbers.** The field, read high byte first, is the sum of the other bytes modulo
65536. -/
theorem verify_iff {rom : Bytes} (hfield : checksumOffset + 2 ≤ rom.size) :
    verify rom = true ↔
      (rom.getD checksumOffset 0).toNat * 256 + (rom.getD (checksumOffset + 1) 0).toNat =
        total rom rom.size % 65536 := by
  have hhigh := (rom.getD checksumOffset 0).toNat_lt
  have hlow := (rom.getD (checksumOffset + 1) 0).toNat_lt
  rw [verify, beq_iff_eq, stored?_eq hfield, compute_eq hfield, Option.some.injEq,
    ← UInt16.toNat_inj, Word.ofBytes, UInt16.toNat_ofNat', UInt16.toNat_ofNat']
  omega

/-- An image that ends before its checksum has none. -/
theorem verify_of_short {rom : Bytes} (hshort : rom.size < checksumOffset + 2) :
    verify rom = false := by
  have hlow : rom[checksumOffset + 1]? = none := Array.getElem?_eq_none (by omega)
  have hnone : stored? rom = none := by
    rw [stored?, hlow]
    cases rom[checksumOffset]? <;> rfl
  rw [verify, hnone]
  rfl

/-- What stands in the checksum field does not matter to the sum. -/
theorem compute_patch {rom : Bytes} (hfield : checksumOffset + 2 ≤ rom.size) (high low : UInt8) :
    compute (rom.patch checksumOffset [high, low]) = compute rom := by
  have hsize : (rom.patch checksumOffset [high, low]).size = rom.size := rom.size_patch _ _
  rw [compute_eq hfield, compute_eq (hsize.symm ▸ hfield), hsize]
  show UInt16.ofNat (total ((rom.setIfInBounds checksumOffset high).setIfInBounds
    (checksumOffset + 1) low) rom.size) = _
  rw [total_set_field (Or.inr rfl), total_set_field (Or.inl rfl)]

/-- A sealed image has its sum in the field, the high byte first, -/
theorem stamp_eq (rom : Bytes) :
    stamp rom = (rom.setIfInBounds checksumOffset (UInt8.ofNat ((compute rom).toNat / 256))).setIfInBounds
      (checksumOffset + 1) (UInt8.ofNat ((compute rom).toNat % 256)) := rfl

/-- and is the same image elsewhere. -/
theorem getD_stamp_of_ne {rom : Bytes} {offset : Nat} (hhigh : offset ≠ checksumOffset)
    (hlow : offset ≠ checksumOffset + 1) (blank : UInt8) :
    (stamp rom).getD offset blank = rom.getD offset blank := by
  rw [stamp_eq, Bytes.getD_set_of_ne hlow, Bytes.getD_set_of_ne hhigh]

@[simp] theorem size_stamp (rom : Bytes) : (stamp rom).size = rom.size :=
  rom.size_patch _ _

/-- **Sealing an image makes its checksum right.** -/
theorem verify_stamp {rom : Bytes} (hfield : checksumOffset + 2 ≤ rom.size) :
    verify (stamp rom) = true := by
  have hhigh : (stamp rom).getD checksumOffset 0 = UInt8.ofNat ((compute rom).toNat / 256) := by
    rw [stamp_eq, Bytes.getD_set_of_ne (by omega), Bytes.getD_set_self (by omega)]
  have hlow : (stamp rom).getD (checksumOffset + 1) 0 = UInt8.ofNat ((compute rom).toNat % 256) := by
    rw [stamp_eq, Bytes.getD_set_self (by rw [Array.size_setIfInBounds]; omega)]
  have hcompute : compute (stamp rom) = compute rom := compute_patch hfield _ _
  have hstamped : checksumOffset + 2 ≤ (stamp rom).size := by
    rw [size_stamp]
    exact hfield
  rw [verify, beq_iff_eq, stored?_eq hstamped, hhigh, hlow, hcompute, Word.ofBytes_toBytes]

/-- **No single byte can be changed unseen.** The change of a byte is less than 256 and not zero, so it is
no multiple of 65536 in the sum and changes the field by as much. -/
theorem verify_set_of_ne {rom : Bytes} {offset : Nat} {value : UInt8} (h : verify rom = true)
    (hin : offset < rom.size) (hother : rom[offset]? ≠ some value) :
    verify (rom.setIfInBounds offset value) = false := by
  by_cases hshort : rom.size < checksumOffset + 2
  · rw [verify_of_short hshort] at h
    cases h
  have hfield : checksumOffset + 2 ≤ rom.size := Nat.not_lt.1 hshort
  have hsize : (rom.setIfInBounds offset value).size = rom.size := Array.size_setIfInBounds
  have hchange : value.toNat ≠ (rom.getD offset 0).toNat := by
    intro heq
    apply hother
    rw [UInt8.toNat_inj.1 heq, Array.getD_eq_getD_getElem?, Array.getElem?_eq_getElem hin,
      Option.getD_some]
  have hvalue := value.toNat_lt
  have hold := (rom.getD offset 0).toNat_lt
  rw [verify_iff hfield] at h
  rw [Bool.eq_false_iff, ne_eq, verify_iff (hsize.symm ▸ hfield), hsize]
  by_cases hhigh : offset = checksumOffset
  · subst hhigh
    rw [total_set_field (Or.inl rfl), Bytes.getD_set_self hin, Bytes.getD_set_of_ne (by omega)]
    omega
  by_cases hlow : offset = checksumOffset + 1
  · subst hlow
    rw [total_set_field (Or.inr rfl), Bytes.getD_set_self hin, Bytes.getD_set_of_ne (by omega)]
    omega
  · have htotal := total_set hin hhigh hlow value
    rw [Bytes.getD_set_of_ne (Ne.symm hhigh), Bytes.getD_set_of_ne (Ne.symm hlow)]
    omega

end Checksum

end GamePak
