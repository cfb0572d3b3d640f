import GamePak.Proofs.CommandLine.Dump

/-!
# `Proofs.CommandLine.DumpExtent` — which rows a dump prints

A dump starts at the row that holds its first address and prints rows while they start before its end. The end
is not rounded, so a row that starts at or behind the first address holds an address that was asked for: its
own. The first row may start before the first address; it holds that address, which is one that was asked for
if any was. That leaves one dump that prints too much: no bytes at all, from the middle of a row.

## Contents
- `Dump.Asked`: what a dump is asked for; `Dump.not_asked_zero`.
- `Dump.mem_rowStarts_iff`: where rows start; `Dump.exists_asked`, `Dump.rowStarts_zero`.
- `Report.result_run_peek`: the lines of a dump; `Dump.exists_row_of_mem`: each line behind the first is a row.
- `dump_rows_asked_for`; `row_not_asked_for`: a row of a dump of no bytes.
-/

namespace GamePak

namespace Dump

variable {address length start : UInt16}

/-- An address that a dump is asked for. -/
def Asked (address length : UInt16) (a : Nat) : Prop :=
  address.toNat ≤ a ∧ a < min (address.toNat + length.toNat) 0x10000

/-- A dump of no bytes is asked for none. -/
theorem not_asked_zero (address : UInt16) (a : Nat) : ¬ Asked address 0 a := by
  rintro ⟨hle, hlt⟩
  have hzero : (0 : UInt16).toNat = 0 := rfl
  omega

/-! ## Where rows start -/

/-- **Rows start at the multiples of sixteen** from that of the first address up to the end, which is never
behind FFFF. -/
theorem mem_rowStarts_iff :
    start ∈ rowStarts address length ↔
      start.toNat % 16 = 0 ∧ address.toNat / 16 * 16 ≤ start.toNat ∧
        start.toNat < min (address.toNat + length.toNat) 0xFFFF := by
  rw [List.mem_iff_getElem?]
  constructor
  · rintro ⟨k, hk⟩
    obtain ⟨hplace, -⟩ := toNat_of_rowStarts hk
    rw [rowStarts, getElem?_rowStartsFrom, toNat_stop, toNat_rowOf, rowSize] at hk
    split at hk
    · next hbefore => omega
    · cases hk
  · rintro ⟨hmultiple, hfirst, hbefore⟩
    have hplace : address.toNat / 16 * 16 + 16 * (start.toNat / 16 - address.toNat / 16) = start.toNat := by
      omega
    refine ⟨start.toNat / 16 - address.toNat / 16, ?_⟩
    rw [rowStarts, getElem?_rowStartsFrom, toNat_stop, toNat_rowOf, rowSize, hplace, if_pos hbefore,
      UInt16.ofNat_toNat]

/-- A row holds an address that was asked for, if any was or the first address starts a row. -/
theorem exists_asked (hstart : start ∈ rowStarts address length)
    (h : length ≠ 0 ∨ address.toNat % 16 = 0) :
    ∃ a, Asked address length a ∧ start.toNat ≤ a ∧ a < start.toNat + 16 := by
  obtain ⟨hmultiple, hfirst, hbefore⟩ := mem_rowStarts_iff.1 hstart
  have haddress := address.toNat_lt
  have hlength : length ≠ 0 → 0 < length.toNat := by
    intro hne
    exact Nat.pos_of_ne_zero fun hzero => hne (UInt16.toNat_inj.1 hzero)
  unfold Asked
  by_cases hbehind : address.toNat ≤ start.toNat
  · exact ⟨start.toNat, ⟨hbehind, by omega⟩, le_rfl, by omega⟩
  · -- the first row, which holds the first address and does not start with it
    rcases h with hne | haligned
    · have hpos := hlength hne
      exact ⟨address.toNat, ⟨le_rfl, by omega⟩, by omega, by omega⟩
    · omega

/-- A dump of no bytes has a row where its address does not start one, and none where it does. -/
theorem rowStarts_zero (address : UInt16) :
    rowStarts address 0 = if address.toNat % 16 = 0 then [] else [rowOf address] := by
  have haddress := address.toNat_lt
  have hzero : (0 : UInt16).toNat = 0 := rfl
  apply List.ext_getElem?
  intro k
  rw [rowStarts, getElem?_rowStartsFrom, toNat_stop, toNat_rowOf, rowSize, hzero]
  by_cases haligned : address.toNat % 16 = 0
  · rw [if_pos haligned, if_neg (by omega)]
    rfl
  · rw [if_neg haligned]
    cases k with
    | zero =>
        rw [if_pos (by omega)]
        rfl
    | succ k =>
        rw [if_neg (by omega)]
        rfl

/-- Each line of a dump is the row at one of the starts. -/
theorem exists_row_of_mem {cartridge : Cartridge} {line : String}
    (h : line ∈ rows cartridge address length) :
    ∃ start row, start ∈ rowStarts address length ∧ readRow? line = some row ∧
      row.start = start.toNat := by
  obtain ⟨start, hstart, rfl⟩ := List.mem_map.1 h
  obtain ⟨k, hk⟩ := List.getElem?_of_mem hstart
  exact ⟨start, _, hstart, readRow?_row cartridge (toNat_of_rowStarts hk).2, rfl⟩

end Dump

/-- The lines of a dump: the mapping, and the rows under the bank that was asked for. -/
theorem Report.result_run_peek {disk : Disk} {rom : Path} {cartridge : Cartridge}
    (h : (Cartridge.ofFile disk rom inspecting).value = .ok cartridge) (address length : UInt16)
    (bank : Option UInt16) :
    ((Command.peek rom address bank length).run disk).value.result =
      .ok ((cartridge.underBank bank).mapInfo ::
        Dump.rows (cartridge.underBank bank) address length) := by
  rw [Command.run, Report.result_onCartridge, h]
  exact Report.result_peek ⟨disk, cartridge⟩ address length bank

/-- A file that holds a blank image can be inspected. -/
theorem Report.exists_inspecting_blankImage {disk : Disk} {rom : Path} (typeCode ramSizeCode : UInt8)
    (h : disk.read rom = .ok (Cartridge.blankImage typeCode ramSizeCode)) :
    ∃ cartridge, (Cartridge.ofFile disk rom inspecting).value = .ok cartridge := by
  obtain ⟨header, hparse, htwo, -⟩ := Cartridge.exists_parse_blankImage typeCode ramSizeCode
  have hfits : header.romSize ≤ (Cartridge.blankImage typeCode ramSizeCode).size := by
    rw [Cartridge.size_blankImage, Header.romSize, htwo]
    decide
  obtain ⟨cartridge, hload, -⟩ := exists_inspecting h hparse hfits
  exact ⟨cartridge, hload⟩

/-- **Every row holds an address that was asked for, but for one dump.** For a ROM file that loads, with any
address, any length and any bank or none: if there is something to print, or if the address starts a row, each
row that is printed holds an address that was asked for. No bytes from an address that starts a row print no
row. No bytes from any other address print one, the row that holds the address, though nothing was asked for. -/
theorem dump_rows_asked_for {disk : Disk} {rom : Path} {cartridge : Cartridge}
    (h : (Cartridge.ofFile disk rom Report.inspecting).value = .ok cartridge)
    (address length : UInt16) (bank : Option UInt16) :
    ∃ mapping rows, ((Command.peek rom address bank length).run disk).value.result =
        .ok (mapping :: rows) ∧
      (length ≠ 0 ∨ address.toNat % 16 = 0 → ∀ line ∈ rows, ∃ row a, Dump.readRow? line = some row ∧
        Dump.Asked address length a ∧ row.start ≤ a ∧ a < row.start + 16) ∧
      (length = 0 → address.toNat % 16 = 0 → rows = []) ∧
      (length = 0 → address.toNat % 16 ≠ 0 → (∀ a, ¬ Dump.Asked address length a) ∧
        ∃ line row, rows = [line] ∧ Dump.readRow? line = some row ∧
          row.start = address.toNat / 16 * 16) := by
  refine ⟨_, _, Report.result_run_peek h address length bank, ?_, ?_, ?_⟩
  · intro hasked line hline
    obtain ⟨start, row, hstart, hrow, hplace⟩ := Dump.exists_row_of_mem hline
    obtain ⟨a, ha, hle, hlt⟩ := Dump.exists_asked hstart hasked
    rw [← hplace] at hle hlt
    exact ⟨row, a, hrow, ha, hle, hlt⟩
  · rintro rfl haligned
    rw [Dump.rows, Dump.rowStarts_zero, if_pos haligned]
    rfl
  · rintro rfl hinside
    refine ⟨Dump.not_asked_zero address, ?_⟩
    rw [Dump.rows, Dump.rowStarts_zero, if_neg hinside]
    exact ⟨_, _, rfl, Dump.readRow?_row _ (Dump.toNat_rowOf_le address), Dump.toNat_rowOf address⟩

/-- Two dumps of a blank ROM: sixteen bytes across the edge of the switched window, and no bytes from the
middle of a row. -/
theorem dump_rows_asked_for_blank :
    let rom : Path := ⟨['g', '.', 'g', 'b']⟩
    let disk : Disk := ⟨[([['g', '.', 'g', 'b']], .file (Cartridge.blankImage 0x01 0x00))], []⟩
    ∃ cartridge, (Cartridge.ofFile disk rom Report.inspecting).value = .ok cartridge ∧
      (∃ mapping rows,
        ((Command.peek rom 0x3FF8 none 16).run disk).value.result = .ok (mapping :: rows) ∧
        ∀ line ∈ rows, ∃ row a, Dump.readRow? line = some row ∧ Dump.Asked 0x3FF8 16 a ∧
          row.start ≤ a ∧ a < row.start + 16) ∧
      ∃ mapping line row,
        ((Command.peek rom 0x4008 none 0).run disk).value.result = .ok [mapping, line] ∧
        Dump.readRow? line = some row ∧ row.start = 0x4000 := by
  intro rom disk
  have hfile : disk.read rom = .ok (Cartridge.blankImage 0x01 0x00) := rfl
  obtain ⟨cartridge, hload⟩ := Report.exists_inspecting_blankImage 0x01 0x00 hfile
  obtain ⟨mapping, rows, hrun, hrows, -⟩ := dump_rows_asked_for hload 0x3FF8 16 none
  obtain ⟨mapping', rows', hrun', -, -, hnone⟩ := dump_rows_asked_for hload 0x4008 0 none
  obtain ⟨-, line, row, rfl, hrow, hstart⟩ := hnone rfl (by decide)
  exact ⟨cartridge, hload, ⟨mapping, rows, hrun, hrows (.inl (by decide))⟩,
    mapping', line, row, hrun', hrow, hstart⟩

/-- A dump of no bytes from address 8 of a blank ROM prints the row at 0, though no address was asked for. -/
theorem row_not_asked_for :
    let rom : Path := ⟨['g', '.', 'g', 'b']⟩
    let disk : Disk := ⟨[([['g', '.', 'g', 'b']], .file (Cartridge.blankImage 0x01 0x00))], []⟩
    ∃ cartridge mapping line row, (Cartridge.ofFile disk rom Report.inspecting).value = .ok cartridge ∧
      ((Command.peek rom 8 none 0).run disk).value.result = .ok [mapping, line] ∧
      Dump.readRow? line = some row ∧
      ¬ ∃ a, Dump.Asked 8 0 a ∧ row.start ≤ a ∧ a < row.start + 16 := by
  intro rom disk
  have hfile : disk.read rom = .ok (Cartridge.blankImage 0x01 0x00) := rfl
  obtain ⟨cartridge, hload⟩ := Report.exists_inspecting_blankImage 0x01 0x00 hfile
  have hrun := Report.result_run_peek hload 8 0 none
  rw [Dump.rows, Dump.rowStarts_zero, if_neg (by decide)] at hrun
  refine ⟨cartridge, _, _, _, hload, hrun, Dump.readRow?_row _ (Dump.toNat_rowOf_le 8), ?_⟩
  rintro ⟨a, hasked, -⟩
  exact Dump.not_asked_zero 8 a hasked

end GamePak
