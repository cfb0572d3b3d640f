import GamePak.CommandLine.Value

/-!
# `Proofs.CommandLine.Value` — numbers on the command line read right

A decimal is worth what its digits are worth, as long as it is within the limit: the running total only grows,
so a total that is within the limit at the end never passed it on the way. And no text that is read as a number
begins with a hyphen, so none of them can be taken for an option.

## Contents
- `Numeral.le_ofDigitChars`, `Numeral.readDigits_decimal`: the running total.
- `Value.readLength_decimal`: a length in decimal, zeros in front or not.
- `Value.head?_ne_hyphen_of_decimal`, `Value.head?_ne_hyphen_of_readHexWord`.
-/

namespace GamePak

namespace Numeral

variable {text : List Char} {c : Char}

/-! ## Decimal digits -/

theorem digitOf_of_isDigit (h : c.isDigit = true) : digitOf 10 c = some (c.toNat - '0'.toNat) := by
  have hrange : '0' ≤ c ∧ c ≤ '9' := by
    rw [Char.isDigit, Bool.and_eq_true, decide_eq_true_eq, decide_eq_true_eq] at h
    exact h
  have hvalue : c.toNat - '0'.toNat < 10 := by
    have hnine : c.toNat ≤ '9'.toNat := hrange.2
    show c.toNat - 48 < 10
    have : '9'.toNat = 57 := rfl
    omega
  rw [digitOf, digitValue, if_pos hrange, Option.filter_some, if_pos (decide_eq_true hvalue)]

/-- Digits to the right never make a number smaller. -/
theorem le_ofDigitChars (text : List Char) (value : Nat) : value ≤ Nat.ofDigitChars 10 text value := by
  induction text generalizing value with
  | nil => exact Nat.le_refl value
  | cons c rest ih =>
      rw [Nat.ofDigitChars_cons]
      exact Nat.le_trans (by omega) (ih _)

theorem readDigits_decimal {limit value : Nat} {beyond : Fault} (hdigits : ∀ c ∈ text, c.isDigit = true)
    (hle : Nat.ofDigitChars 10 text value ≤ limit) :
    readDigits 10 limit beyond value text = .ok (Nat.ofDigitChars 10 text value) := by
  induction text generalizing value with
  | nil => rfl
  | cons c rest ih =>
      rw [Nat.ofDigitChars_cons, Nat.mul_comm] at hle ⊢
      have hin : value * 10 + (c.toNat - '0'.toNat) ≤ limit := Nat.le_trans (le_ofDigitChars rest _) hle
      rw [readDigits, digitOf_of_isDigit (hdigits c List.mem_cons_self)]
      simp only [if_pos hin]
      exact ih (fun d hd => hdigits d (List.mem_cons_of_mem c hd)) hle

theorem unsigned_decimal {limit : Nat} (hne : text ≠ []) (hdigits : ∀ c ∈ text, c.isDigit = true)
    (hle : Nat.ofDigitChars 10 text 0 ≤ limit) :
    unsigned 10 limit text = .ok (Nat.ofDigitChars 10 text 0) := by
  unfold unsigned
  split
  · exact absurd rfl hne
  · exact absurd (hdigits '+' List.mem_cons_self) (by decide)
  · exact readDigits_decimal hdigits hle

theorem signed_decimal {limit : Nat} (hne : text ≠ []) (hdigits : ∀ c ∈ text, c.isDigit = true)
    (hle : Nat.ofDigitChars 10 text 0 ≤ limit) :
    signed 10 limit text = .ok (Nat.ofDigitChars 10 text 0 : Int) := by
  unfold signed
  split
  · exact absurd (hdigits '-' List.mem_cons_self) (by decide)
  · rw [unsigned_decimal hne hdigits hle]
    rfl

end Numeral

namespace Value

variable {text : List Char}

/-- A decimal in range is read as what it is worth, with any number of zeros in front. -/
theorem readLength_decimal (hne : text ≠ []) (hdigits : ∀ c ∈ text, c.isDigit = true)
    (hle : Nat.ofDigitChars 10 text 0 ≤ 65535) :
    readLength text = .ok (UInt16.ofNat (Nat.ofDigitChars 10 text 0)) := by
  have hlimit : Nat.ofDigitChars 10 text 0 ≤ decimalLimit := Nat.le_trans hle (by decide)
  have hrange : (0 : Int) ≤ Nat.ofDigitChars 10 text 0 ∧
      (Nat.ofDigitChars 10 text 0 : Int) ≤ (wordLimit : Nat) := by
    unfold wordLimit
    omega
  rw [readLength, Numeral.signed_decimal hne hdigits hlimit]
  simp only [if_pos hrange, Int.toNat_natCast]

/-! ## Hyphens -/

theorem head?_ne_hyphen_of_decimal (h : ∀ c ∈ text, c.isDigit = true) : text.head? ≠ some '-' := by
  intro hhead
  have hdigit := h '-' (List.mem_of_mem_head? hhead)
  exact absurd hdigit (by decide)

/-- A text with a hyphen in front is not read: it has no lead to drop, and a hyphen is no digit. -/
theorem head?_ne_hyphen_of_readHexWord {word : UInt16} (h : readHexWord text = .ok word) :
    text.head? ≠ some '-' := by
  intro hhead
  obtain ⟨rest, rfl⟩ := List.head?_eq_some_iff.1 hhead
  have hdrop : dropLeads ('-' :: rest) = '-' :: rest := by
    cases rest <;> rfl
  rw [readHexWord, hdrop] at h
  cases h

end Value

end GamePak
