import GamePak.CommandLine.Value
import GamePak.Proofs.Text.Hex
import Mathlib.Data.List.TakeWhile

/-!
# `Proofs.CommandLine.HexWord` — which texts are a word in hexadecimal

A word may be written with leads of three kinds, in this order and as many of each as one likes, with a plus
sign, and in digits of either case. The leads share the digit zero with the number behind them, so they could be
cut off too far or not far enough. They are not: no digit and no sign is one of the letters of a lead or a
dollar, so what is cut off is what was written, and whatever is cut off was a lead.

## Contents
- `Hex.read?_cases`, `Numeral.digitOf_hex`: digits of either case.
- `Numeral.readDigits_hex_iff`, `Numeral.unsigned_hex_iff`: which numerals are read, and as what.
- `Value.exists_dropPairs`, `Value.dropPairs_append`: leads of two characters; `Value.exists_dropLeads`.
- `HexSpelling`, `HexSpelling.Means`: a word as it may be written; `Value.dropLeads_text`.
- `Value.readHexWord_sound`, `Value.readHexWord_complete`.
- `Value.hex_word_grammar`.
-/

namespace GamePak

/-! ## Digits -/

namespace Hex

/-- More digits never make a number smaller. -/
theorem le_of_readFrom? {start n : Nat} {text : List Char} (h : readFrom? start text = some n) :
    start ≤ n := by
  induction text generalizing start with
  | nil => exact Nat.le_of_eq (Option.some.inj h)
  | cons c rest ih =>
      rw [readFrom?_cons] at h
      obtain ⟨d, -, hrest⟩ := Option.bind_eq_some_iff.1 h
      have hle := ih hrest
      omega

/-- The digits that are printed are those of upper case, and they come back from lower case. -/
theorem toUpper_of_value? {c : Char} (h : (value? c).isSome) : c.toUpper = c ∧ c.toLower.toUpper = c := by
  have hall : ∀ i : Fin 16, (digit i).toUpper = digit i ∧ (digit i).toLower.toUpper = digit i := by decide
  exact of_value? (fun d => d.toUpper = d ∧ d.toLower.toUpper = d) hall h

theorem padded_ne_nil (width n : Nat) : padded width n ≠ [] := by
  intro hnil
  have hlength := congrArg List.length hnil
  rw [padded, List.length_leftpad, List.length_nil] at hlength
  have hdigits : (digits n).length ≠ 0 := by
    unfold digits
    split
    · exact Nat.one_ne_zero
    · rw [List.length_append]
      exact Nat.succ_ne_zero _
  omega

/-- A number that is printed is worth itself, in upper case and in lower case. -/
theorem read?_cases (width n : Nat) :
    read? ((padded width n).map Char.toUpper) = some n ∧
      read? (((padded width n).map Char.toLower).map Char.toUpper) = some n := by
  have hread := read?_padded width n
  have hcase : ∀ c ∈ padded width n, c.toUpper = c ∧ c.toLower.toUpper = c := by
    intro c hc
    exact toUpper_of_value? (isSome_of_readFrom? hread c hc)
  have hupper : (padded width n).map Char.toUpper = padded width n :=
    (List.map_congr_left fun c hc => (hcase c hc).1).trans (List.map_id' _)
  have hlower : ((padded width n).map Char.toLower).map Char.toUpper = padded width n := by
    rw [List.map_map]
    exact (List.map_congr_left fun c hc => (hcase c hc).2).trans (List.map_id' _)
  rw [hupper, hlower]
  exact ⟨hread, hread⟩

end Hex

namespace Numeral

/-- The digits of base sixteen are the sixteen digits of either case. -/
theorem digitOf_hex (c : Char) : digitOf 16 c = Hex.value? c.toUpper := by
  by_cases hascii : c.toNat < 128
  · have hall : ∀ i : Fin 128, digitOf 16 (Char.ofNat i) = Hex.value? (Char.ofNat i).toUpper := by decide
    have hc := hall ⟨c.toNat, hascii⟩
    rw [Char.ofNat_toNat] at hc
    exact hc
  · -- past the ASCII characters there is no digit and no letter with another case
    have hpast : ∀ d : Char, d.toNat < 128 → ¬ c ≤ d := by
      intro d hd hle
      have hle : c.toNat ≤ d.toNat := hle
      omega
    have hnine := hpast '9' (by decide)
    have hsmall := hpast 'z' (by decide)
    have hlarge := hpast 'Z' (by decide)
    have hvalue : digitValue c = none := by
      rw [digitValue, if_neg fun h => hnine h.2, if_neg fun h => hsmall h.2, if_neg fun h => hlarge h.2]
    have hupper : c.toUpper = c := by
      unfold Char.toUpper
      exact dif_neg fun h => hsmall h.2
    have hdigit : Hex.value? c = none := by
      by_contra hsome
      have hall : ∀ i : Fin 16, (Hex.digit i).toNat < 128 := by decide
      exact hascii (Hex.of_value? (·.toNat < 128) hall (Option.isSome_iff_ne_none.2 hsome))
    rw [digitOf, hvalue, hupper, hdigit]
    rfl

/-- **Which digits are read, and as what.** The running total only grows, so it stays within the limit if it ends
there. -/
theorem readDigits_hex_iff {limit start n : Nat} {beyond : Fault} {text : List Char} (h : start ≤ limit) :
    readDigits 16 limit beyond start text = .ok n ↔
      Hex.readFrom? start (text.map Char.toUpper) = some n ∧ n ≤ limit := by
  induction text generalizing start with
  | nil =>
      show Except.ok start = Except.ok n ↔ some start = some n ∧ n ≤ limit
      constructor
      · intro hstart
        obtain rfl := Except.ok.inj hstart
        exact ⟨rfl, h⟩
      · rintro ⟨hstart, -⟩
        rw [Option.some.inj hstart]
  | cons c rest ih =>
      rw [List.map_cons, Hex.readFrom?_cons, readDigits, digitOf_hex]
      cases hdigit : Hex.value? c.toUpper with
      | none =>
          constructor
          · nofun
          · rintro ⟨hnone, -⟩
            cases hnone
      | some d =>
          have htotal : start * 16 + d = 16 * start + d := by omega
          simp only [Option.bind_some, htotal]
          by_cases hin : 16 * start + d ≤ limit
          · rw [if_pos hin]
            exact ih hin
          · rw [if_neg hin]
            constructor
            · nofun
            · rintro ⟨hread, hle⟩
              exact absurd (Nat.le_trans (Hex.le_of_readFrom? hread) hle) hin

/-- **Which numerals are read, and as what**: digits, with at most one plus sign in front. -/
theorem unsigned_hex_iff {limit n : Nat} {text : List Char} :
    unsigned 16 limit text = .ok n ↔
      ∃ (plus : Bool) (digits : List Char), text = (if plus then ['+'] else []) ++ digits ∧ digits ≠ [] ∧
        Hex.read? (digits.map Char.toUpper) = some n ∧ n ≤ limit := by
  have hdigits : ∀ {text : List Char}, readDigits 16 limit .tooLarge 0 text = .ok n ↔
      Hex.read? (text.map Char.toUpper) = some n ∧ n ≤ limit := readDigits_hex_iff (Nat.zero_le limit)
  constructor
  · intro h
    unfold unsigned at h
    split at h
    · cases h
    · next c rest => exact ⟨true, c :: rest, rfl, nofun, hdigits.1 h⟩
    · next hne _ => exact ⟨false, text, rfl, hne, hdigits.1 h⟩
  · rintro ⟨plus, digits, rfl, hne, hread⟩
    obtain ⟨c, rest, rfl⟩ := List.exists_cons_of_ne_nil hne
    cases plus with
    | true => exact hdigits.2 hread
    | false =>
        -- a sign is no digit, so it is the digits that are read
        have hsign : c ≠ '+' := by
          rintro rfl
          have hplus : Hex.value? '+'.toUpper = none := by decide
          exact Hex.notMem_of_readFrom? hread.1 hplus List.mem_cons_self
        show unsigned 16 limit (c :: rest) = .ok n
        unfold unsigned
        split
        · next heq => cases heq
        · next heq => exact absurd (List.cons.inj heq).1 hsign
        · exact hdigits.2 hread

end Numeral

/-! ## Leads -/

namespace Value

variable {first second : Char}

/-- Whatever pairs are cut off were there. -/
theorem exists_dropPairs (first second : Char) (text : List Char) :
    ∃ count, text = (List.replicate count [first, second]).flatten ++ dropPairs first second text := by
  induction text using dropPairs.induct first second with
  | case1 c d rest hpair ih =>
      obtain ⟨count, hrest⟩ := ih
      obtain ⟨rfl, rfl⟩ := hpair
      refine ⟨count + 1, ?_⟩
      rw [dropPairs, if_pos ⟨rfl, rfl⟩, List.replicate_succ, List.flatten_cons, List.append_assoc, ← hrest]
      rfl
  | case2 c d rest hother =>
      refine ⟨0, ?_⟩
      rw [dropPairs, if_neg hother]
      rfl
  | case3 text hshort =>
      refine ⟨0, ?_⟩
      rw [dropPairs]
      · rfl
      · exact hshort

/-- All pairs in front are cut off, and nothing of a text without the second character of the pair. -/
theorem dropPairs_append {rest : List Char} (h : second ∉ rest) (count : Nat) :
    dropPairs first second ((List.replicate count [first, second]).flatten ++ rest) = rest := by
  induction count with
  | zero =>
      show dropPairs first second rest = rest
      unfold dropPairs
      split
      · next c d tail =>
        have hd : d ≠ second := fun he => h (he ▸ List.mem_cons_of_mem c List.mem_cons_self)
        rw [if_neg fun hpair => hd hpair.2]
      · rfl
  | succ count ih =>
      show dropPairs first second (first :: second :: _) = rest
      rw [dropPairs, if_pos ⟨rfl, rfl⟩]
      exact ih

/-- Whatever dollars are cut off were there. -/
theorem exists_dollars (text : List Char) :
    ∃ count, text = List.replicate count '$' ++ text.dropWhile (· == '$') := by
  have hdollars : ∀ c ∈ text.takeWhile (· == '$'), c = '$' := by
    intro c hc
    have hdollar := List.mem_takeWhile_imp hc
    exact beq_iff_eq.1 hdollar
  refine ⟨(text.takeWhile (· == '$')).length, ?_⟩
  rw [← List.eq_replicate_of_mem hdollars, List.takeWhile_append_dropWhile]

/-- All dollars in front are cut off. -/
theorem dropWhile_dollars {rest : List Char} (h : '$' ∉ rest) (count : Nat) :
    (List.replicate count '$' ++ rest).dropWhile (· == '$') = rest := by
  have hall : ∀ c ∈ List.replicate count '$', (c == '$') = true := by
    intro c hc
    rw [List.eq_of_mem_replicate hc]
    rfl
  rw [List.dropWhile_append_of_pos hall]
  cases rest with
  | nil => rfl
  | cons c tail =>
      have hc : ¬ (c == '$') = true := by
        intro he
        exact h (beq_iff_eq.1 he ▸ List.mem_cons_self)
      exact List.dropWhile_cons_of_neg hc

/-- Whatever is cut off as leads was leads. -/
theorem exists_dropLeads (text : List Char) :
    ∃ small large dollars,
      text = (List.replicate small ['0', 'x']).flatten ++ ((List.replicate large ['0', 'X']).flatten ++
        (List.replicate dollars '$' ++ dropLeads text)) := by
  obtain ⟨small, hsmall⟩ := exists_dropPairs '0' 'x' text
  obtain ⟨large, hlarge⟩ := exists_dropPairs '0' 'X' (dropPairs '0' 'x' text)
  obtain ⟨dollars, hdollars⟩ := exists_dollars (dropPairs '0' 'X' (dropPairs '0' 'x' text))
  refine ⟨small, large, dollars, ?_⟩
  rw [dropLeads, ← hdollars, ← hlarge]
  exact hsmall

end Value

/-! ## Words as they may be written -/

/-- A word as it may be written: leads, a sign perhaps, and digits. -/
structure HexSpelling where
  /-- How many times `0x` is written. -/
  smallLeads : Nat
  /-- How many times `0X` is written behind that. -/
  largeLeads : Nat
  dollars : Nat
  plus : Bool
  digits : List Char
deriving DecidableEq, Repr

namespace HexSpelling

def text (spelling : HexSpelling) : List Char :=
  (List.replicate spelling.smallLeads ['0', 'x']).flatten ++
    ((List.replicate spelling.largeLeads ['0', 'X']).flatten ++
      (List.replicate spelling.dollars '$' ++
        ((if spelling.plus then ['+'] else []) ++ spelling.digits)))

/-- There are digits, of either case, and together they are worth the word. -/
structure Means (spelling : HexSpelling) (word : UInt16) : Prop where
  digits_ne_nil : spelling.digits ≠ []
  worth : Hex.read? (spelling.digits.map Char.toUpper) = some word.toNat

variable {spelling : HexSpelling} {word : UInt16}

/-- No digit is one of the letters that leads are told by. -/
theorem Means.notMem (h : spelling.Means word) {c : Char} (hc : Hex.value? c.toUpper = none)
    (hplus : c ≠ '+') : c ∉ (if spelling.plus then ['+'] else []) ++ spelling.digits := by
  intro hmem
  rcases List.mem_append.1 hmem with hsign | hdigit
  · split at hsign
    · exact hplus (List.mem_singleton.1 hsign)
    · cases hsign
  · exact Hex.notMem_of_readFrom? h.worth hc (List.mem_map_of_mem hdigit)

/-- **Of a word that is written with leads, exactly the leads are cut off.** -/
theorem Means.dropLeads_text (h : spelling.Means word) :
    Value.dropLeads spelling.text = (if spelling.plus then ['+'] else []) ++ spelling.digits := by
  have hx := h.notMem (show Hex.value? 'x'.toUpper = none by decide) (by decide)
  have hX := h.notMem (show Hex.value? 'X'.toUpper = none by decide) (by decide)
  have hdollar := h.notMem (show Hex.value? '$'.toUpper = none by decide) (by decide)
  -- the letters of one lead are not in the leads behind it either
  have hX' : 'X' ∉ List.replicate spelling.dollars '$' ++
      ((if spelling.plus then ['+'] else []) ++ spelling.digits) := by
    rw [List.mem_append, not_or]
    exact ⟨fun hmem => absurd (List.eq_of_mem_replicate hmem) (by decide), hX⟩
  have hx' : 'x' ∉ (List.replicate spelling.largeLeads ['0', 'X']).flatten ++
      (List.replicate spelling.dollars '$' ++
        ((if spelling.plus then ['+'] else []) ++ spelling.digits)) := by
    rw [List.mem_append, List.mem_append, not_or, not_or]
    refine ⟨?_, fun hmem => absurd (List.eq_of_mem_replicate hmem) (by decide), hx⟩
    intro hmem
    obtain ⟨pair, hpair, hin⟩ := List.mem_flatten.1 hmem
    rw [List.eq_of_mem_replicate hpair] at hin
    exact absurd hin (by decide)
  rw [Value.dropLeads, text, Value.dropPairs_append hx', Value.dropPairs_append hX',
    Value.dropWhile_dollars hdollar]

end HexSpelling

namespace Value

variable {text : List Char} {word : UInt16}

theorem readHexWord_cases (text : List Char) :
    (∃ word, readHexWord text = .ok word) ∨ ∃ fault, readHexWord text = .error (.hex text fault) := by
  unfold readHexWord
  split
  · exact Or.inl ⟨_, rfl⟩
  · exact Or.inr ⟨_, rfl⟩

/-- What is read was written as a word may be. -/
theorem readHexWord_sound (h : readHexWord text = .ok word) :
    ∃ spelling : HexSpelling, spelling.text = text ∧ spelling.Means word := by
  unfold readHexWord at h
  split at h
  · next n hread =>
    obtain ⟨plus, digits, hrest, hne, hworth, hle⟩ := Numeral.unsigned_hex_iff.1 hread
    obtain ⟨small, large, dollars, htext⟩ := exists_dropLeads text
    have hword : word.toNat = n := by
      rw [← Except.ok.inj h]
      exact UInt16.toNat_ofNat_of_lt' (Nat.lt_of_le_of_lt hle (by decide))
    refine ⟨⟨small, large, dollars, plus, digits⟩, ?_, hne, ?_⟩
    · rw [hrest] at htext
      exact htext.symm
    · rw [hword]
      exact hworth
  · cases h

/-- What is written as a word may be is read. -/
theorem readHexWord_complete {spelling : HexSpelling} (h : spelling.Means word) :
    readHexWord spelling.text = .ok word := by
  have hread : Numeral.unsigned 16 wordLimit (dropLeads spelling.text) = .ok word.toNat :=
    Numeral.unsigned_hex_iff.2 ⟨spelling.plus, spelling.digits, h.dropLeads_text, h.digits_ne_nil, h.worth,
      Nat.le_of_lt_succ word.toNat_lt⟩
  rw [readHexWord, hread]
  exact congrArg Except.ok UInt16.ofNat_toNat

/-- **Which texts are a word in hexadecimal.** A text is read as a word exactly if it is leads of the three kinds
in their order, at most one plus sign, and one digit or more that are worth the word; every other text is refused,
and the refusal holds the text. In particular a word that is printed with any number of zeros in front, in upper
or lower case, is read as itself behind any number of leads. -/
theorem hex_word_grammar :
    (∀ text word, readHexWord text = .ok word ↔
      ∃ spelling : HexSpelling, spelling.text = text ∧ spelling.Means word) ∧
    (∀ text, (∃ fault, readHexWord text = .error (.hex text fault)) ↔
      ¬ ∃ (spelling : HexSpelling) (word : UInt16), spelling.text = text ∧ spelling.Means word) ∧
    ∀ (word : UInt16) (width small large dollars : Nat) (plus : Bool),
      let shown := Hex.padded width word.toNat
      readHexWord (HexSpelling.text ⟨small, large, dollars, plus, shown⟩) = .ok word ∧
        readHexWord (HexSpelling.text ⟨small, large, dollars, plus, shown.map Char.toLower⟩) = .ok word := by
  have hgrammar : ∀ text word, readHexWord text = .ok word ↔
      ∃ spelling : HexSpelling, spelling.text = text ∧ spelling.Means word := by
    intro text word
    constructor
    · exact readHexWord_sound
    · rintro ⟨spelling, rfl, hmeans⟩
      exact readHexWord_complete hmeans
  refine ⟨hgrammar, ?_, ?_⟩
  · intro text
    constructor
    · rintro ⟨fault, hfault⟩ ⟨spelling, word, hspelling⟩
      rw [(hgrammar text word).2 ⟨spelling, hspelling⟩] at hfault
      cases hfault
    · intro hnone
      rcases readHexWord_cases text with ⟨word, hword⟩ | hfault
      · obtain ⟨spelling, hspelling⟩ := (hgrammar text word).1 hword
        exact absurd ⟨spelling, word, hspelling⟩ hnone
      · exact hfault
  · intro word width small large dollars plus shown
    obtain ⟨hupper, hlower⟩ := Hex.read?_cases width word.toNat
    have hne : shown ≠ [] := Hex.padded_ne_nil width word.toNat
    constructor
    · exact readHexWord_complete ⟨hne, hupper⟩
    · exact readHexWord_complete ⟨mt List.map_eq_nil_iff.1 hne, hlower⟩

end Value

end GamePak
