import GamePak.Proofs.Controller.Mbc1
import GamePak.Proofs.Session.Invariant
import GamePak.Proofs.Text.Hex
import Mathlib.Data.List.Basic
import Mathlib.Data.List.TakeWhile

/-!
# `Proofs.Session.MapInfo` — what the mapping line tells

The mapping line tells the ROM bank and, for an MBC1 with RAM, the mode by the sizes it is for. The bank is the
one that is mapped. A mode is for the large RAM if a write to 4000–5FFF selects a RAM bank in it, and for the
large ROM if that write sets the upper bits of the ROM bank. Compared with what such a write does, the sizes that
are told are those of the other mode.

## Contents
- `TellsBank`, `Says`: what a line tells; `TellsBank.unique`, `infix_at_mark_iff`.
- `CartridgeType.chip?`, `Controller.tellsBank_describe`: the bank, for each family.
- `Controller.says_size_iff`, `Controller.says_describe`: the sizes, for each mode.
- `Cartridge.SelectsRamBank`, `Cartridge.SelectsUpperBits`: what a write does; `selectsRamBank_iff`,
  `selectsUpperBits_iff`.
- `Session.map_info_after_run`; `Session.map_info_names_other_mode`.
-/

namespace GamePak

/-! ## What stands in a line -/

/-- The line is about a chip and tells one bank of it, in at least two hexadecimal digits. -/
def TellsBank (line chip : String) (bank : Nat) : Prop :=
  ∃ digits rest, line.toList =
      chip.toList ++ ": ROM bank ".toList ++ (digits ++ (" mapped to 4000 - 7FFF".toList ++ rest)) ∧
    2 ≤ digits.length ∧ Hex.read? digits = some bank

/-- These words stand in the line. -/
def Says (line words : String) : Prop :=
  words.toList <:+: line.toList

/-- Digits end where a space stands behind them. -/
theorem Hex.takeWhile_of_read? {digits : List Char} {n : Nat} (h : read? digits = some n) (rest : List Char) :
    (digits ++ ' ' :: rest).takeWhile (· ≠ ' ') = digits := by
  have hdigits : ∀ c ∈ digits, decide (c ≠ ' ') = true := by
    intro c hc
    refine decide_eq_true ?_
    rintro rfl
    exact notMem_of_readFrom? h (by decide) hc
  rw [List.takeWhile_append_of_pos hdigits, List.takeWhile_cons_of_neg (by decide), List.append_nil]

/-- A line tells one bank only. -/
theorem TellsBank.unique {line chip : String} {bank other : Nat} (h : TellsBank line chip bank)
    (hother : TellsBank line chip other) : bank = other := by
  obtain ⟨digits, rest, hline, -, hread⟩ := h
  obtain ⟨digits', rest', hline', -, hread'⟩ := hother
  have hbehind : digits ++ (" mapped to 4000 - 7FFF".toList ++ rest) =
      digits' ++ (" mapped to 4000 - 7FFF".toList ++ rest') :=
    List.append_cancel_left (hline.symm.trans hline')
  have hsame : digits = digits' := by
    calc
      digits = (digits ++ (" mapped to 4000 - 7FFF".toList ++ rest)).takeWhile (· ≠ ' ') :=
        (Hex.takeWhile_of_read? hread _).symm
      _ = (digits' ++ (" mapped to 4000 - 7FFF".toList ++ rest')).takeWhile (· ≠ ' ') := by rw [hbehind]
      _ = digits' := Hex.takeWhile_of_read? hread' _
  rw [hsame, hread'] at hread
  exact (Option.some.inj hread).symm

/-- Words around a mark that the text has once stand there if their two parts stand on either side of it. Of the
text before the mark only the end matters. -/
theorem infix_at_mark_iff {α : Type} {mark : α} {before after lead tail back : List α} (hlead : mark ∉ lead)
    (htail : mark ∉ tail) (hback : mark ∉ back) (hlength : before.length ≤ tail.length) :
    before ++ mark :: after <:+: lead ++ (tail ++ mark :: back) ↔ before <:+ tail ∧ after <+: back := by
  rw [← List.append_assoc]
  constructor
  · rintro ⟨left, right, htext⟩
    have hsplit : (lead ++ tail) ++ mark :: back = (left ++ before) ++ mark :: (after ++ right) := by
      rw [← htext]
      simp only [List.append_assoc, List.cons_append]
    have hfront : mark ∉ lead ++ tail := by
      rw [List.mem_append]
      exact not_or.2 ⟨hlead, htail⟩
    obtain ⟨hleft, -, hright⟩ := (List.append_cons_inj_of_notMem hfront hback).1 hsplit
    have hbefore : before <:+ lead ++ tail := ⟨left, hleft.symm⟩
    exact ⟨List.suffix_of_suffix_length_le hbefore (List.suffix_append lead tail) hlength,
      right, hright.symm⟩
  · rintro ⟨⟨left, rfl⟩, ⟨right, rfl⟩⟩
    exact ⟨lead ++ left, right, by simp only [List.append_assoc, List.cons_append]⟩

/-! ## The bank -/

/-- The chip, as the mapping line names it, of the types whose ROM bank can be programmed. -/
def CartridgeType.chip? : CartridgeType → Option String
  | .mbc1 _ _ => some "MBC1"
  | .mbc2 _ => some "MBC2"
  | .mbc5 _ _ _ => some "MBC5"
  | _ => none

namespace Controller

/-- A line that shows a bank in this place tells it. -/
theorem tellsBank_of_toList {line chip : String} {bank : Nat} (rest : List Char)
    (h : line.toList = chip.toList ++ ": ROM bank ".toList ++
      (Hex.padded 2 bank ++ (" mapped to 4000 - 7FFF".toList ++ rest))) :
    TellsBank line chip bank := by
  refine ⟨Hex.padded 2 bank, rest, h, ?_, Hex.read?_padded 2 bank⟩
  rw [Hex.padded, List.length_leftpad]
  exact Nat.le_max_left _ _

/-- **The line tells the bank that is mapped**, for each family and in each mode of it. -/
theorem tellsBank_describe {controller : Controller} {type : CartridgeType} {chip : String}
    (hfamily : controller.unlatched = ofType type) (hchip : type.chip? = some chip) (banks : Banks)
    (hasRam : Bool) : TellsBank (controller.describe banks hasRam) chip banks.romBank := by
  cases type with
  | mbc1 ram battery =>
      cases hchip
      cases controller with
      | mbc1 largeRam =>
          cases hasRam
          · exact tellsBank_of_toList [] (by simp [describe, hex, ToString.toString])
          · exact tellsBank_of_toList (".  ".toList ++ (modeText largeRam).toList)
              (by simp [describe, hex, ToString.toString])
      | _ => cases hfamily
  | mbc2 battery =>
      cases hchip
      cases controller with
      | mbc2 => exact tellsBank_of_toList [] (by simp [describe, hex, ToString.toString])
      | _ => cases hfamily
  | mbc5 ram battery rumble =>
      cases hchip
      cases controller with
      | mbc5 motor =>
          cases motor
          · exact tellsBank_of_toList [] (by simp [describe, hex, ToString.toString])
          · exact tellsBank_of_toList " (rumble)".toList (by simp [describe, hex, ToString.toString])
      | _ => cases hfamily
  | _ => cases hchip

/-! ## The mode -/

/-- The text of a mode up to the only K in it. -/
def modeFront (largeRam : Bool) : String :=
  if largeRam then "Cartridge is in 16MBit ROM/8" else "Cartridge is in 4MBit ROM/32"

theorem toList_modeText (largeRam : Bool) :
    (modeText largeRam).toList = (modeFront largeRam).toList ++ 'K' :: "Byte RAM Mode.".toList := by
  cases largeRam <;> decide

/-- A size of RAM is told if it ends the text in front of the K. -/
theorem says_size_iff (largeRam : Bool) (banks : Banks) {words : String} {size : List Char}
    (hwords : words.toList = size ++ 'K' :: "Byte RAM".toList)
    (hlength : size.length ≤ (modeFront largeRam).toList.length) :
    Says (describe (.mbc1 largeRam) banks true) words ↔ size <:+ (modeFront largeRam).toList := by
  -- there is no K among the digits of the bank, nor anywhere else before the sizes
  have hlead : 'K' ∉ "MBC1: ROM bank ".toList ++
      (Hex.padded 2 banks.romBank ++ " mapped to 4000 - 7FFF.  ".toList) := by
    rw [List.mem_append, List.mem_append, not_or, not_or]
    exact ⟨by decide, Hex.notMem_of_readFrom? (Hex.read?_padded 2 banks.romBank) (by decide), by decide⟩
  have hfront : 'K' ∉ (modeFront largeRam).toList := by
    cases largeRam <;> decide
  have hline : (describe (.mbc1 largeRam) banks true).toList =
      ("MBC1: ROM bank ".toList ++ (Hex.padded 2 banks.romBank ++ " mapped to 4000 - 7FFF.  ".toList)) ++
        (modeText largeRam).toList := by
    simp [describe, hex, ToString.toString]
  rw [Says, hwords, hline, toList_modeText, infix_at_mark_iff hlead hfront (by decide) hlength]
  exact and_iff_left (by decide)

/-- **The sizes that are told**: the small RAM while the latch is set, and the large RAM while it is clear. -/
theorem says_describe (largeRam : Bool) (banks : Banks) :
    let line := describe (.mbc1 largeRam) banks true
    (Says line "8KByte RAM" ↔ largeRam = true) ∧ (Says line "32KByte RAM" ↔ largeRam = false) := by
  intro line
  have hsmall : Says line "8KByte RAM" ↔ ['8'] <:+ (modeFront largeRam).toList :=
    says_size_iff largeRam banks (by decide) (by cases largeRam <;> decide)
  have hlarge : Says line "32KByte RAM" ↔ ['3', '2'] <:+ (modeFront largeRam).toList :=
    says_size_iff largeRam banks (by decide) (by cases largeRam <;> decide)
  rw [hsmall, hlarge]
  cases largeRam <;> decide

end Controller

namespace Cartridge

/-- A write to 4000–5FFF selects one of the four RAM banks and leaves the ROM bank alone. -/
def SelectsRamBank (cartridge : Cartridge) : Prop :=
  ∀ (address : UInt16) (value : UInt8), 0x4000 ≤ address.toNat → address.toNat ≤ 0x5FFF →
    let after := (cartridge.write address value).value
    after.banks.ramBank = (value &&& 3).toNat ∧ after.banks.romBank = cartridge.banks.romBank

/-- A write to 4000–5FFF sets the upper bits of the ROM bank and leaves the RAM bank alone. -/
def SelectsUpperBits (cartridge : Cartridge) : Prop :=
  ∀ (address : UInt16) (value : UInt8), 0x4000 ≤ address.toNat → address.toNat ≤ 0x5FFF →
    let after := (cartridge.write address value).value
    after.banks.romBank = (value &&& 3).toNat * 32 + cartridge.banks.romBank % 32 ∧
      after.banks.ramBank = cartridge.banks.ramBank

variable {cartridge : Cartridge} {largeRam : Bool}

/-- What a write to 4000–5FFF does to the two banks of an MBC1. -/
theorem banks_write_mbc1 (hc : cartridge.controller = .mbc1 largeRam) {address : UInt16} (value : UInt8)
    (hlow : 0x4000 ≤ address.toNat) (hhigh : address.toNat ≤ 0x5FFF) :
    let after := (cartridge.write address value).value
    after.banks.ramBank = (if largeRam then (value &&& 3).toNat else cartridge.banks.ramBank) ∧
      after.banks.romBank = (if largeRam then cartridge.banks.romBank
        else (value &&& 3).toNat * 32 + cartridge.banks.romBank % 32) := by
  obtain ⟨-, -, hram, hrom⟩ := Mbc1.registers_write hc address value
  rw [if_neg (by omega)] at hrom
  cases largeRam
  · rw [if_neg (by simp)] at hram
    rw [if_pos ⟨⟨hlow, hhigh⟩, rfl⟩] at hrom
    exact ⟨hram, hrom⟩
  · rw [if_pos ⟨⟨hlow, hhigh⟩, rfl⟩] at hram
    rw [if_neg (by simp)] at hrom
    exact ⟨hram, hrom⟩

/-- **A set latch is for the large RAM.** -/
theorem selectsRamBank_iff (hc : cartridge.controller = .mbc1 largeRam) :
    cartridge.SelectsRamBank ↔ largeRam = true := by
  constructor
  · intro hselects
    cases largeRam
    · -- two writes cannot leave one RAM bank and select two
      obtain ⟨hzero, -⟩ := hselects 0x4000 0 (by decide) (by decide)
      obtain ⟨hone, -⟩ := hselects 0x4000 1 (by decide) (by decide)
      rw [(banks_write_mbc1 hc _ (by decide) (by decide)).1] at hzero hone
      exact absurd (hzero.symm.trans hone) (by decide)
    · rfl
  · rintro rfl address value hlow hhigh
    exact banks_write_mbc1 hc value hlow hhigh

/-- **A clear latch is for the large ROM.** -/
theorem selectsUpperBits_iff (hc : cartridge.controller = .mbc1 largeRam) :
    cartridge.SelectsUpperBits ↔ largeRam = false := by
  constructor
  · intro hselects
    cases largeRam
    · rfl
    · -- two writes cannot leave one ROM bank and set it to two
      obtain ⟨hzero, -⟩ := hselects 0x4000 0 (by decide) (by decide)
      obtain ⟨hone, -⟩ := hselects 0x4000 1 (by decide) (by decide)
      rw [(banks_write_mbc1 hc _ (by decide) (by decide)).2] at hzero hone
      have hsame := Nat.add_right_cancel (hzero.symm.trans hone)
      exact absurd hsame (by decide)
  · rintro rfl address value hlow hhigh
    exact (banks_write_mbc1 hc value hlow hhigh).symm

/-- The mode that an MBC1 with RAM is said to be in is the other one. -/
theorem says_mapInfo (hc : cartridge.controller = .mbc1 largeRam)
    (hram : cartridge.header.type.features.ram = true) :
    (Says cartridge.mapInfo "8KByte RAM" ↔ cartridge.SelectsRamBank) ∧
      (Says cartridge.mapInfo "32KByte RAM" ↔ cartridge.SelectsUpperBits) := by
  obtain ⟨hsmall, hlarge⟩ := Controller.says_describe largeRam cartridge.banks
  rw [selectsRamBank_iff hc, selectsUpperBits_iff hc, mapInfo, hc, hram]
  exact ⟨hsmall, hlarge⟩

end Cartridge

namespace Session

/-- There is an MBC1 cartridge with RAM: the blank one, whose latch is clear right after it is loaded. -/
theorem exists_loaded_mbc1 :
    ∃ loaded, Cartridge.Loaded (Disk.empty []) loaded ∧ loaded.header.type = .mbc1 true true ∧
      loaded.controller = .mbc1 false := by
  obtain ⟨loaded, hload, htype, -, -⟩ :=
    Cartridge.exists_load_blankImage (Disk.empty []) 0x03 0x03 none
  have hloaded : Cartridge.Loaded (Disk.empty []) loaded := .ofImage _ {} hload
  have hc : loaded.controller = .mbc1 false := by
    rw [hloaded.registers.1, htype]
    rfl
  exact ⟨loaded, hloaded, htype, hc⟩

/-- **The mapping line tells the bank that is mapped and the mode that is not in use.** After any run, of an
MBC1, an MBC2 or an MBC5 the line tells one bank, and it is the one at 4000–7FFF. Of an MBC1 with RAM it says
8KByte RAM just when a write to 4000–5FFF selects a RAM bank, and 32KByte RAM just when such a write sets the
upper bits of the ROM bank; it does one of the two. -/
theorem map_info_after_run {disk : Disk} {loaded : Cartridge} (h : Cartridge.Loaded disk loaded)
    (operations : List Operation) :
    let cartridge := (Session.run ⟨disk, loaded⟩ operations).value.cartridge
    (∀ chip, loaded.header.type.chip? = some chip →
      ∀ bank, TellsBank cartridge.mapInfo chip bank ↔ bank = cartridge.banks.romBank) ∧
    (∀ battery, loaded.header.type = .mbc1 true battery →
      (Says cartridge.mapInfo "8KByte RAM" ↔ cartridge.SelectsRamBank) ∧
      (Says cartridge.mapInfo "32KByte RAM" ↔ cartridge.SelectsUpperBits) ∧
      (cartridge.SelectsRamBank ∨ cartridge.SelectsUpperBits)) := by
  intro cartridge
  have hheader : cartridge.header = loaded.header := header_run ⟨disk, loaded⟩ operations
  have hwf : cartridge.WellFormed := wellFormed_run h.wellFormed operations
  have hfamily := hwf.family
  rw [hheader] at hfamily
  constructor
  · intro chip hchip bank
    have htells : TellsBank cartridge.mapInfo chip cartridge.banks.romBank :=
      Controller.tellsBank_describe hfamily hchip cartridge.banks _
    constructor
    · exact fun hbank => hbank.unique htells
    · rintro rfl
      exact htells
  · intro battery htype
    rw [htype] at hfamily
    have hram : cartridge.header.type.features.ram = true := by
      rw [hheader, htype]
      rfl
    cases hc : cartridge.controller with
    | mbc1 largeRam =>
        obtain ⟨hsmall, hlarge⟩ := Cartridge.says_mapInfo hc hram
        refine ⟨hsmall, hlarge, ?_⟩
        rw [Cartridge.selectsRamBank_iff hc, Cartridge.selectsUpperBits_iff hc]
        exact Bool.eq_false_or_eq_true largeRam
    | _ =>
        rw [hc] at hfamily
        cases hfamily

/-- The blank MBC1 cartridge with RAM, in the mode for large RAM, while the debugger shows a bank of three
digits. -/
theorem map_info_after_run_blank :
    ∃ loaded, Cartridge.Loaded (Disk.empty []) loaded ∧ loaded.header.type = .mbc1 true true ∧
      let cartridge := (Session.run ⟨Disk.empty [], loaded⟩
        [.write 0x6000 1, .mapRom 0x1FF]).value.cartridge
      TellsBank cartridge.mapInfo "MBC1" 0x1FF ∧ Says cartridge.mapInfo "8KByte RAM" ∧
        cartridge.SelectsRamBank := by
  obtain ⟨loaded, hloaded, htype, hc⟩ := exists_loaded_mbc1
  -- the write sets the latch, and the debugger leaves it alone
  have hlatch : (loaded.write 0x6000 1).value.controller = .mbc1 true :=
    (Mbc1.registers_write hc 0x6000 1).2.1
  have hafter : ((loaded.write 0x6000 1).value.mapRom 0x1FF).controller = .mbc1 true ∧
      ((loaded.write 0x6000 1).value.mapRom 0x1FF).banks.romBank = 0x1FF := by
    unfold Cartridge.mapRom
    rw [hlatch]
    exact ⟨rfl, rfl⟩
  have hselects := (Cartridge.selectsRamBank_iff hafter.1).2 rfl
  obtain ⟨hbank, hmode⟩ := map_info_after_run hloaded [.write 0x6000 1, .mapRom 0x1FF]
  have hchip : loaded.header.type.chip? = some "MBC1" := by
    rw [htype]
    rfl
  exact ⟨loaded, hloaded, htype, (hbank "MBC1" hchip 0x1FF).2 hafter.2.symm,
    (hmode true htype).1.2 hselects, hselects⟩

/-- Right after it is loaded an MBC1 cartridge is said to be in the mode for 32KByte RAM, though a write to
4000–5FFF selects no RAM bank. -/
theorem map_info_names_other_mode :
    ∃ loaded, Cartridge.Loaded (Disk.empty []) loaded ∧ loaded.header.type = .mbc1 true true ∧
      Says loaded.mapInfo "32KByte RAM" ∧ ¬ loaded.SelectsRamBank := by
  obtain ⟨loaded, hloaded, htype, hc⟩ := exists_loaded_mbc1
  have hram : loaded.header.type.features.ram = true := by
    rw [htype]
    rfl
  refine ⟨loaded, hloaded, htype, ?_, ?_⟩
  · exact (Cartridge.says_mapInfo hc hram).2.2 ((Cartridge.selectsUpperBits_iff hc).2 rfl)
  · intro hselects
    cases (Cartridge.selectsRamBank_iff hc).1 hselects

end Session

end GamePak
