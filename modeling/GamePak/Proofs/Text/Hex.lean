import GamePak.Text.Hex
import Mathlib.Algebra.Group.Nat.Defs

/-!
# `Proofs.Text.Hex` — hexadecimal text read back

A number that is printed can be read back from its digits, whatever zeros stand before them. The reader here
knows nothing of the printer: it takes the value of a digit from its place in the list of digits and adds up
from the left.

## Contents
- `Hex.value?`, `Hex.read?`: the reader; `Hex.of_value?`: there are sixteen digits; `Hex.read?_concat`: one more.
- `Hex.read?_padded`: the round trip.
- `Hex.readFrom?`: the reader after a number already read; `Hex.isSome_of_readFrom?`,
  `Hex.notMem_of_readFrom?`: what reads is digits.
- `Hex.length_padded`: a number that fits its field fills it exactly.
-/

namespace GamePak.Hex

/-- The value of a digit: its place among the sixteen. -/
def value? (c : Char) : Option Nat :=
  ['0', '1', '2', '3', '4', '5', '6', '7', '8', '9', 'A', 'B', 'C', 'D', 'E', 'F'].idxOf? c

/-- Reads digits from the left. -/
def read? (text : List Char) : Option Nat :=
  text.foldlM (fun n c => (value? c).map (16 * n + ·)) 0

/-! ## One digit -/

theorem value?_digit {n : Nat} (h : n < 16) : value? (digit n) = some n := by
  have hall : ∀ i : Fin 16, value? (digit i) = some i.val := by decide
  exact hall ⟨n, h⟩

/-- What holds of the sixteen digits holds of every character with a value. -/
theorem of_value? (holds : Char → Prop) (hall : ∀ i : Fin 16, holds (digit i)) {c : Char}
    (h : (value? c).isSome) : holds c := by
  obtain ⟨n, hn⟩ := Option.isSome_iff_exists.1 h
  obtain ⟨hlt, hc, -⟩ := List.idxOf?_eq_some_iff.1 hn
  have hplace : ∀ i : Fin 16,
      ['0', '1', '2', '3', '4', '5', '6', '7', '8', '9', 'A', 'B', 'C', 'D', 'E', 'F'][i] = digit i := by
    decide
  have hdigit : c = digit n := hc.symm.trans (hplace ⟨n, hlt⟩)
  rw [hdigit]
  exact hall ⟨n, hlt⟩

theorem read?_concat {text : List Char} {n : Nat} (h : read? text = some n) (c : Char) :
    read? (text ++ [c]) = (value? c).map (16 * n + ·) := by
  unfold read? at h ⊢
  rw [List.foldlM_append, h]
  simp

/-! ## The round trip -/

/-- Zeros before the digits do not count. -/
theorem read?_zeros_append (count : Nat) (text : List Char) :
    read? (List.replicate count '0' ++ text) = read? text := by
  induction count with
  | zero => rfl
  | succ count ih =>
      rw [List.replicate_succ, List.cons_append, ← ih]
      rfl

theorem read?_digits (n : Nat) : read? (digits n) = some n := by
  -- the last digit is the remainder, and the digits before it are those of the quotient
  induction n using digits.induct with
  | case1 n hsmall =>
      rw [digits, if_pos hsmall]
      show (value? (digit n)).map (16 * 0 + ·) >>= some = some n
      rw [value?_digit hsmall]
      simp
  | case2 n hlarge ih =>
      rw [digits, if_neg hlarge, read?_concat ih, value?_digit (Nat.mod_lt n (by decide))]
      exact congrArg some (Nat.div_add_mod n 16)

/-- **What is printed reads back**, in a field of any width. -/
theorem read?_padded (width n : Nat) : read? (padded width n) = some n := by
  unfold padded List.leftpad
  rw [read?_zeros_append, read?_digits]

/-! ## What reads -/

/-- Reads digits behind a part that is worth `start`. -/
def readFrom? (start : Nat) (text : List Char) : Option Nat :=
  text.foldlM (fun n c => (value? c).map (16 * n + ·)) start

theorem readFrom?_cons (start : Nat) (c : Char) (rest : List Char) :
    readFrom? start (c :: rest) = (value? c).bind fun d => readFrom? (16 * start + d) rest := by
  rw [readFrom?, List.foldlM_cons]
  cases value? c <;> rfl

/-- What reads has digits only. -/
theorem isSome_of_readFrom? {start n : Nat} {text : List Char} (h : readFrom? start text = some n) :
    ∀ c ∈ text, (value? c).isSome := by
  induction text generalizing start with
  | nil => nofun
  | cons first rest ih =>
      rw [readFrom?_cons] at h
      obtain ⟨d, hfirst, hrest⟩ := Option.bind_eq_some_iff.1 h
      intro c hc
      rcases List.mem_cons.1 hc with rfl | hc
      · rw [hfirst]
        rfl
      · exact ih hrest c hc

/-- A character that is no digit stands in no number. -/
theorem notMem_of_readFrom? {start n : Nat} {text : List Char} (h : readFrom? start text = some n) {c : Char}
    (hc : value? c = none) : c ∉ text := by
  intro hmem
  have hsome := isSome_of_readFrom? h c hmem
  rw [hc] at hsome
  cases hsome

/-! ## Width -/

theorem length_digits_le {width n : Nat} (hwidth : 0 < width) (h : n < 16 ^ width) :
    (digits n).length ≤ width := by
  induction n using digits.induct generalizing width with
  | case1 n hsmall =>
      rw [digits, if_pos hsmall]
      exact hwidth
  | case2 n hlarge ih =>
      obtain _ | _ | width := width
      · exact absurd hwidth (Nat.lt_irrefl 0)
      · omega
      · have hquotient : n / 16 < 16 ^ (width + 1) := by
          rw [Nat.pow_succ] at h
          exact Nat.div_lt_of_lt_mul (Nat.mul_comm .. ▸ h)
        rw [digits, if_neg hlarge, List.length_append]
        exact Nat.succ_le_succ (ih (Nat.succ_pos width) hquotient)

theorem length_padded {width n : Nat} (hwidth : 0 < width) (h : n < 16 ^ width) :
    (padded width n).length = width := by
  unfold padded
  rw [List.length_leftpad]
  exact Nat.max_eq_left (length_digits_le hwidth h)

end GamePak.Hex
