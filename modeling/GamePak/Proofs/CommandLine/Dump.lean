import GamePak.Proofs.CommandLine.Inspection
import GamePak.Proofs.Session.Confinement
import GamePak.Proofs.Text.Hex

/-!
# `Proofs.CommandLine.Dump` — what a hex dump shows

A dump can be read back: every row stands in columns of fixed width, so that its address, its sixteen bytes and
its sixteen characters are found by counting. What is read is then compared with memory. The rows are made by
a loop that ends where the address space does; one lemma says which row the loop gives in which place, and that
no row is skipped, repeated or started past FFF0 follows from it.

## Contents
- `Dump.Row`, `Dump.readRow?`: a row as its columns have it; `Dump.readRow?_row`.
- `Dump.getElem?_rowStartsFrom`: the loop; `Dump.existsUnique_row`: every address asked for is in one row.
- `Dump.bankShown`, `Dump.Shows`, `Dump.Row.Faithful`: memory and rows compared; `Dump.faithful_row`.
- `Cartridge.underBank`, `Cartridge.Loaded.banks_underBank`, `Report.result_peek`: how a dump comes about.
- `dump_shows_memory`.
-/

namespace GamePak

namespace Dump

/-! ## Rows read back -/

/-- What stands in a row. -/
structure Row where
  start : Nat
  bytes : List UInt8
  shown : List Char
deriving DecidableEq, Repr

/-- Reads pairs of digits with a space after each. -/
def readBytes? : List Char → Option (List UInt8)
  | [] => some []
  | high :: low :: ' ' :: rest => do
    let n ← Hex.read? [high, low]
    let bytes ← readBytes? rest
    some (UInt8.ofNat n :: bytes)
  | _ => none

/-- Reads a row by its columns: four digits, three spaces, sixteen pairs of digits with a space after each, two
spaces, and sixteen characters. -/
def readRow? (line : String) : Option Row :=
  let text := line.toList
  if text.length = 73 ∧ (text.drop 4).take 3 = [' ', ' ', ' '] ∧ (text.drop 55).take 2 = [' ', ' '] then do
    let start ← Hex.read? (text.take 4)
    let bytes ← readBytes? ((text.drop 7).take 48)
    some ⟨start, bytes, text.drop 57⟩
  else none

/-- The text of bytes in hexadecimal. -/
def bytesText (bytes : List UInt8) : List Char :=
  bytes.flatMap fun b => Hex.padded 2 b.toNat ++ [' ']

theorem length_padded_byte (b : UInt8) : (Hex.padded 2 b.toNat).length = 2 :=
  Hex.length_padded (by decide) b.toNat_lt

theorem length_bytesText (bytes : List UInt8) : (bytesText bytes).length = 3 * bytes.length := by
  induction bytes with
  | nil => rfl
  | cons b rest ih =>
      show (Hex.padded 2 b.toNat ++ [' '] ++ bytesText rest).length = 3 * (rest.length + 1)
      rw [List.length_append, List.length_append, length_padded_byte, ih]
      show 2 + 1 + 3 * rest.length = 3 * (rest.length + 1)
      omega

theorem readBytes?_bytesText (bytes : List UInt8) : readBytes? (bytesText bytes) = some bytes := by
  induction bytes with
  | nil => rfl
  | cons b rest ih =>
      obtain ⟨high, low, hpair⟩ := List.length_eq_two.1 (length_padded_byte b)
      have hread : Hex.read? [high, low] = some b.toNat := hpair ▸ Hex.read?_padded 2 b.toNat
      show readBytes? (Hex.padded 2 b.toNat ++ [' '] ++ bytesText rest) = some (b :: rest)
      rw [hpair]
      show (do
        let n ← Hex.read? [high, low]
        let bytes ← readBytes? (bytesText rest)
        some (UInt8.ofNat n :: bytes)) = some (b :: rest)
      rw [hread, ih]
      exact congrArg (fun byte => some (byte :: rest)) UInt8.ofNat_toNat

/-- Five columns of the right widths make a row. -/
theorem readRow?_of_columns {line : String} {digits pairs shown : List Char} {start : Nat}
    {bytes : List UInt8}
    (hline : line.toList = digits ++ ([' ', ' ', ' '] ++ (pairs ++ ([' ', ' '] ++ shown))))
    (hdigits : digits.length = 4) (hpairs : pairs.length = 48) (hshown : shown.length = 16)
    (hstart : Hex.read? digits = some start) (hbytes : readBytes? pairs = some bytes) :
    readRow? line = some ⟨start, bytes, shown⟩ := by
  have hlength : line.toList.length = 73 := by
    rw [hline]
    simp only [List.length_append, hdigits, hpairs, hshown, List.length_cons, List.length_nil]
  -- each column is found by counting what stands before it
  have hfour : line.toList.take 4 = digits := by rw [hline, List.take_left' hdigits]
  have hgap : line.toList.drop 4 = [' ', ' ', ' '] ++ (pairs ++ ([' ', ' '] ++ shown)) := by
    rw [hline, List.drop_left' hdigits]
  have hseven : line.toList.drop 7 = pairs ++ ([' ', ' '] ++ shown) := by
    rw [← List.drop_drop (i := 3) (j := 4), hgap]
    rfl
  have hlast : line.toList.drop 55 = [' ', ' '] ++ shown := by
    rw [← List.drop_drop (i := 48) (j := 7), hseven, List.drop_left' hpairs]
  have hshown' : line.toList.drop 57 = shown := by
    rw [← List.drop_drop (i := 2) (j := 55), hlast]
    rfl
  have hspaces : (line.toList.drop 4).take 3 = [' ', ' ', ' '] := by
    rw [hgap]
    rfl
  have hspaces' : (line.toList.drop 55).take 2 = [' ', ' '] := by
    rw [hlast]
    rfl
  unfold readRow?
  rw [if_pos ⟨hlength, hspaces, hspaces'⟩, hfour, hseven, List.take_left' hpairs, hshown', hstart, hbytes]
  rfl

/-- A row that the end of the address space does not cut off is full. -/
theorem length_rowBytes (cartridge : Cartridge) {start : UInt16} (hstart : start.toNat ≤ 0xFFF0) :
    (rowBytes cartridge start).length = 16 := by
  rw [rowBytes, List.length_map, List.length_range, rowSize]
  omega

/-- **A full row reads back.** -/
theorem readRow?_row (cartridge : Cartridge) {start : UInt16} (hstart : start.toNat ≤ 0xFFF0) :
    readRow? (row cartridge start) =
      some ⟨start.toNat, rowBytes cartridge start, (rowBytes cartridge start).map shownChar⟩ := by
  have hsize := length_rowBytes cartridge hstart
  refine readRow?_of_columns ?_ (Hex.length_padded (by decide) start.toNat_lt) ?_ ?_
    (Hex.read?_padded 4 start.toNat) (readBytes?_bytesText (rowBytes cartridge start))
  · rw [row, String.toList_ofList, rowText]
    simp only [List.append_assoc]
    rfl
  · rw [length_bytesText, hsize]
  · rw [List.length_map, hsize]

/-! ## Where rows start -/

section Loop

variable {address length stop start : UInt16}

/-- **The loop, place by place.** The row in place `k` starts `k` rows on, if that is before the end; where the
address space leaves no room for another row, the end has been passed too. -/
theorem getElem?_rowStartsFrom (stop start : UInt16) (k : Nat) :
    (rowStartsFrom stop start)[k]? =
      if start.toNat + rowSize * k < stop.toNat then some (UInt16.ofNat (start.toNat + rowSize * k))
      else none := by
  have hstop := stop.toNat_lt
  -- each turn of the loop moves every later row one place on
  induction start using rowStartsFrom.induct stop generalizing k with
  | case1 start hbefore hroom ih =>
      have hin : start.toNat < stop.toNat := hbefore
      rw [rowStartsFrom, if_pos hbefore, dif_pos hroom]
      cases k with
      | zero =>
          rw [List.getElem?_cons_zero, Nat.mul_zero, Nat.add_zero, if_pos hin, UInt16.ofNat_toNat]
      | succ k =>
          have hsame : start.toNat + rowSize + rowSize * k = start.toNat + rowSize * (k + 1) := by
            rw [Nat.mul_succ]
            omega
          rw [List.getElem?_cons_succ, ih, UInt16.toNat_ofNat_of_lt' hroom, hsame]
  | case2 start hbefore hlast =>
      have hin : start.toNat < stop.toNat := hbefore
      rw [rowStartsFrom, if_pos hbefore, dif_neg hlast]
      cases k with
      | zero =>
          rw [List.getElem?_cons_zero, Nat.mul_zero, Nat.add_zero, if_pos hin, UInt16.ofNat_toNat]
      | succ k =>
          -- a further row would start past FFFF, where no end can be
          have hpast : ¬ start.toNat + rowSize * (k + 1) < stop.toNat := by
            rw [Nat.mul_succ]
            omega
          rw [List.getElem?_cons_succ, if_neg hpast]
          rfl
  | case3 start hpast =>
      have hpast' : ¬ start.toNat + rowSize * k < stop.toNat := fun h =>
        hpast (UInt16.lt_iff_toNat_lt.2 (Nat.lt_of_le_of_lt (Nat.le_add_right _ _) h))
      rw [rowStartsFrom, if_neg hpast, if_neg hpast']
      rfl

theorem toNat_stop (address length : UInt16) :
    (Dump.stop address length).toNat = min (address.toNat + length.toNat) 0xFFFF :=
  UInt16.toNat_ofNat_of_lt' (Nat.lt_of_le_of_lt (Nat.min_le_right _ _) (by decide))

theorem toNat_rowOf (address : UInt16) : (rowOf address).toNat = address.toNat / 16 * 16 :=
  UInt16.toNat_ofNat_of_lt' (Nat.lt_of_le_of_lt (Nat.div_mul_le_self _ _) address.toNat_lt)

theorem toNat_rowOf_le (address : UInt16) : (rowOf address).toNat ≤ 0xFFF0 := by
  have haddress := address.toNat_lt
  rw [toNat_rowOf]
  omega

/-- Rows start at multiples of sixteen from that of the first address on, so the last that can start before
FFFF starts at FFF0. -/
theorem toNat_of_rowStarts {k : Nat} (h : (rowStarts address length)[k]? = some start) :
    start.toNat = address.toNat / 16 * 16 + 16 * k ∧ start.toNat ≤ 0xFFF0 := by
  rw [rowStarts, getElem?_rowStartsFrom, toNat_stop, toNat_rowOf, rowSize] at h
  split at h
  · next hbefore =>
    obtain rfl := Option.some.inj h
    have hin : address.toNat / 16 * 16 + 16 * k < 0xFFFF := by omega
    rw [UInt16.toNat_ofNat_of_lt' (Nat.lt_trans hin (by decide))]
    omega
  · cases h

/-- The row that holds an address asked for is there: the end comes after the row's start even where it had to
be cut to FFFF. -/
theorem getElem?_rowStarts {a : Nat} (ha : address.toNat ≤ a)
    (ha' : a < min (address.toNat + length.toNat) 0x10000) :
    (rowStarts address length)[a / 16 - address.toNat / 16]? = some (UInt16.ofNat (a / 16 * 16)) := by
  have hplace : address.toNat / 16 * 16 + 16 * (a / 16 - address.toNat / 16) = a / 16 * 16 := by omega
  have hbefore : a / 16 * 16 < min (address.toNat + length.toNat) 0xFFFF := by omega
  rw [rowStarts, getElem?_rowStartsFrom, toNat_stop, toNat_rowOf, rowSize, hplace, if_pos hbefore]

end Loop

/-! ## What rows say of memory -/

/-- The bank that a dump shows at 4000–7FFF: the one asked for, with all its bits, where there is a controller
to map it. -/
def bankShown (type : CartridgeType) : Option UInt16 → Nat
  | none => 1
  | some bank => if type.hasController then bank.toNat else 1

/-- The byte that memory has at an address while `bank` is mapped to 4000–7FFF and RAM is blank. -/
structure Shows (rom : Bytes) (bank address : Nat) (byte : UInt8) : Prop where
  bank0 : address < 0x4000 → rom[address]? = some byte
  /-- Past the end of the ROM nothing answers. -/
  switched : 0x4000 ≤ address → address < 0x8000 →
    byte = rom.getD (bank * 16384 + (address - 0x4000)) 0xFF
  ram : 0xA000 ≤ address → address < 0xC000 → byte = 0x00
  outside : 0x8000 ≤ address → ¬ (0xA000 ≤ address ∧ address < 0xC000) → byte = 0xFF

/-- A row at `start` that is full and shows what memory has there. -/
structure Row.Faithful (row : Row) (rom : Bytes) (bank start : Nat) : Prop where
  start_eq : row.start = start
  length_bytes : row.bytes.length = 16
  length_shown : row.shown.length = 16
  byte : ∀ (i : Nat) (b : UInt8), row.bytes[i]? = some b → Shows rom bank (start + i) b
  /-- A byte that is a printable character is shown as that character. -/
  char : ∀ (i : Nat) (b : UInt8), row.bytes[i]? = some b →
    row.shown[i]? = some (if 0x20 ≤ b ∧ b < 0x7F then Char.ofNat b.toNat else '.')

theorem shownChar_eq (b : UInt8) :
    shownChar b = if 0x20 ≤ b ∧ b < 0x7F then Char.ofNat b.toNat else '.' := by
  unfold shownChar Byte.isPrintable Byte.toChar
  simp only [Bool.and_eq_true, decide_eq_true_eq]

variable {cartridge : Cartridge}

theorem shows_read (h : cartridge.WellFormed) (hblank : cartridge.ram = Array.replicate ramCapacity 0)
    (address : UInt16) :
    Shows cartridge.rom cartridge.banks.romBank address.toNat (cartridge.read address) where
  bank0 := h.read_bank0
  switched := h.read_switched
  ram := by
    intro hlow hhigh
    have hread := h.read_ram hlow hhigh
    rw [hblank, Array.getElem?_replicate] at hread
    split at hread
    · exact (Option.some.inj hread).symm
    · cases hread
  outside := cartridge.read_outside

/-- A full row is faithful. -/
theorem faithful_row (h : cartridge.WellFormed) (hblank : cartridge.ram = Array.replicate ramCapacity 0)
    {start : UInt16} (hstart : start.toNat ≤ 0xFFF0) :
    ∃ row, readRow? (Dump.row cartridge start) = some row ∧
      row.Faithful cartridge.rom cartridge.banks.romBank start.toNat := by
  refine ⟨_, readRow?_row cartridge hstart, rfl, length_rowBytes _ hstart, ?_, ?_, ?_⟩
  · rw [List.length_map, length_rowBytes _ hstart]
  · intro i b hb
    rw [rowBytes, List.getElem?_map, Option.map_eq_some_iff] at hb
    obtain ⟨j, hj, rfl⟩ := hb
    obtain ⟨hi, rfl⟩ := List.getElem?_eq_some_iff.1 hj
    rw [List.length_range, rowSize] at hi
    have haddress : (UInt16.ofNat (start.toNat + i)).toNat = start.toNat + i :=
      UInt16.toNat_ofNat_of_lt' (by show start.toNat + i < 0x10000; omega)
    have hshows := shows_read h hblank (UInt16.ofNat (start.toNat + i))
    rw [haddress] at hshows
    rw [List.getElem_range]
    exact hshows
  · intro i b hb
    show ((rowBytes cartridge start).map shownChar)[i]? = _
    rw [List.getElem?_map, hb, Option.map_some, shownChar_eq]

/-- **Every address asked for is in one row**, and in no other. -/
theorem existsUnique_row {address length : UInt16} {a : Nat} (ha : address.toNat ≤ a)
    (ha' : a < min (address.toNat + length.toNat) 0x10000) :
    ∃! k : Nat, ∃ line row, (rows cartridge address length)[k]? = some line ∧ readRow? line = some row ∧
      row.start ≤ a ∧ a < row.start + 16 := by
  refine ⟨a / 16 - address.toNat / 16, ?_, ?_⟩
  · have hstart : (UInt16.ofNat (a / 16 * 16)).toNat = a / 16 * 16 :=
      UInt16.toNat_ofNat_of_lt' (by show a / 16 * 16 < 0x10000; omega)
    have hfull : (UInt16.ofNat (a / 16 * 16)).toNat ≤ 0xFFF0 := by
      rw [hstart]
      omega
    refine ⟨_, _, ?_, readRow?_row cartridge hfull, ?_⟩
    · rw [rows, List.getElem?_map, getElem?_rowStarts ha ha', Option.map_some]
    · show (UInt16.ofNat (a / 16 * 16)).toNat ≤ a ∧ a < (UInt16.ofNat (a / 16 * 16)).toNat + 16
      rw [hstart]
      omega
  · -- two rows that hold one address start at the same multiple of sixteen
    rintro k ⟨line, row, hline, hrow, hle, hlt⟩
    rw [rows, List.getElem?_map, Option.map_eq_some_iff] at hline
    obtain ⟨start, hstart, rfl⟩ := hline
    obtain ⟨hplace, hfull⟩ := toNat_of_rowStarts hstart
    obtain rfl := Option.some.inj ((readRow?_row cartridge hfull).symm.trans hrow)
    have hfirst : start.toNat ≤ a := hle
    have hlast : a < start.toNat + 16 := hlt
    omega

end Dump

/-! ## How a dump comes about -/

namespace Cartridge

/-- A cartridge with a bank mapped for a dump, if one is given. -/
def underBank (cartridge : Cartridge) : Option UInt16 → Cartridge
  | none => cartridge
  | some bank => cartridge.saveMapping.mapRom bank

variable {cartridge : Cartridge}

theorem memory_underBank (cartridge : Cartridge) (bank : Option UInt16) :
    (cartridge.underBank bank).memory = cartridge.memory := by
  cases bank with
  | none => rfl
  | some bank => exact (memory_mapRom _ _).trans (memory_saveMapping _)

theorem WellFormed.underBank (h : cartridge.WellFormed) (bank : Option UInt16) :
    (cartridge.underBank bank).WellFormed := by
  cases bank with
  | none => exact h
  | some bank => exact h.saveMapping.mapRom bank

theorem header_underBank (cartridge : Cartridge) (bank : Option UInt16) :
    (cartridge.underBank bank).header = cartridge.header := by
  cases bank with
  | none => rfl
  | some bank => exact congrArg Prod.fst ((identity_mapRom _ _).trans (identity_saveMapping _))

/-- The note of the program's bank is no mapping. -/
theorem mapping_saveMapping (cartridge : Cartridge) :
    cartridge.saveMapping.controller = cartridge.controller ∧
      cartridge.saveMapping.banks = cartridge.banks := by
  unfold saveMapping
  split <;> exact ⟨rfl, rfl⟩

theorem controller_underBank (cartridge : Cartridge) (bank : Option UInt16) :
    (cartridge.underBank bank).controller = cartridge.controller := by
  cases bank with
  | none => rfl
  | some bank =>
      show (cartridge.saveMapping.mapRom bank).controller = _
      rw [← cartridge.mapping_saveMapping.1]
      unfold mapRom
      split <;> rfl

theorem banks_underBank (cartridge : Cartridge) (bank : UInt16) :
    (cartridge.underBank (some bank)).banks =
      if cartridge.controller = .absent then cartridge.banks else cartridge.banks.mapRom bank.toNat := by
  show (cartridge.saveMapping.mapRom bank).banks = _
  rw [← cartridge.mapping_saveMapping.1, ← cartridge.mapping_saveMapping.2]
  unfold mapRom
  split
  · next habsent => rw [if_pos habsent]
  · next hpresent => rw [if_neg hpresent]

/-- Right after power-on the bank that is asked for is mapped, if there is a controller, and bank 1 else. -/
theorem Loaded.banks_underBank {disk : Disk} (h : Loaded disk cartridge) (bank : Option UInt16) :
    (cartridge.underBank bank).banks =
      Banks.powerOn.mapRom (Dump.bankShown cartridge.header.type bank) := by
  obtain ⟨-, hbanks, -⟩ := h.registers
  cases bank with
  | none => exact hbanks
  | some bank =>
      rw [Cartridge.banks_underBank, hbanks, Dump.bankShown]
      have habsent := h.wellFormed.absent_iff
      by_cases hnone : cartridge.controller = .absent
      · have hflat := habsent.1 hnone
        rw [if_pos hnone, hflat]
        rfl
      · have hsome := Bool.eq_true_of_not_eq_false (mt habsent.2 hnone)
        rw [if_neg hnone, if_pos hsome]

end Cartridge

namespace Report

theorem value_mapBank (session : Session) (bank : Option UInt16) :
    (mapBank session bank).value = ⟨session.disk, session.cartridge.underBank bank⟩ := by
  cases bank <;> rfl

/-- The lines are made while the bank is mapped; putting the program's bank back does not change them. -/
theorem result_peek (session : Session) (address length : UInt16) (bank : Option UInt16) :
    (peek address bank length session).value.result =
      .ok ((session.cartridge.underBank bank).mapInfo ::
        Dump.rows (session.cartridge.underBank bank) address length) := by
  simp only [peek, Logged.value_bind, value_mapBank]
  rfl

/-- An image with a header and enough bytes can be inspected, whatever its checksum is. -/
theorem exists_inspecting {disk : Disk} {rom : Path} {image : Bytes} {header : Header}
    (hread : disk.read rom = .ok image) (hparse : Header.parse image = .ok header)
    (hsize : header.romSize ≤ image.size) :
    ∃ cartridge, (Cartridge.ofFile disk rom inspecting).value = .ok cartridge ∧
      cartridge.header = header := by
  have hlenient : inspecting.strictChecksum = false := rfl
  have hload := Cartridge.value_load_lenient hlenient hparse hsize disk (some rom.saveFile)
  have hidentity := Cartridge.identity_start disk header (image.extract 0 header.romSize) none
  refine ⟨_, ?_, congrArg Prod.fst hidentity⟩
  rw [Cartridge.value_ofFile, hread]
  exact hload

end Report

/-- **A dump shows memory, whole and in order.** For a ROM file that loads, with any address, any length and any
bank or none, a dump prints the mapping and then rows. Read back by its columns, the row in place `k` starts at
the multiple of sixteen that is `k` rows on from the first address, never past FFF0, and holds the sixteen bytes
that memory has there under the bank shown, as numbers and as characters. Every address asked for, up to the end
of the address space, is in exactly one row. -/
theorem dump_shows_memory {disk : Disk} {rom : Path} {cartridge : Cartridge}
    (h : (Cartridge.ofFile disk rom Report.inspecting).value = .ok cartridge)
    (address length : UInt16) (bank : Option UInt16) :
    let shown := Dump.bankShown cartridge.header.type bank
    ∃ image rows, disk.read rom = .ok image ∧
      cartridge.rom = image.extract 0 cartridge.header.romSize ∧
      cartridge.header.romSize ≤ image.size ∧
      ((Command.peek rom address bank length).run disk).value.result =
        .ok ((Controller.ofType cartridge.header.type).describe (Banks.powerOn.mapRom shown)
          cartridge.header.type.features.ram :: rows) ∧
      (∀ (k : Nat) line, rows[k]? = some line →
        let start := address.toNat / 16 * 16 + 16 * k
        start ≤ 0xFFF0 ∧
          ∃ row, Dump.readRow? line = some row ∧ row.Faithful cartridge.rom shown start) ∧
      ∀ a, address.toNat ≤ a → a < min (address.toNat + length.toNat) 0x10000 →
        ∃! k : Nat, ∃ line row, rows[k]? = some line ∧ Dump.readRow? line = some row ∧
          row.start ≤ a ∧ a < row.start + 16 := by
  intro shown
  obtain ⟨image, hread, -⟩ := Cartridge.exists_load_of_ofFile h
  have hfrom : Cartridge.LoadedFrom disk image cartridge := .ofFile rom Report.inspecting hread h
  have hloaded := hfrom.loaded
  obtain ⟨hrom, hsize⟩ := hfrom.rom_eq
  -- the cartridge as the rows see it
  have hwf := hloaded.wellFormed.underBank bank
  have hmemory := cartridge.memory_underBank bank
  have hbanks := hloaded.banks_underBank bank
  have hsame : (cartridge.underBank bank).rom = cartridge.rom := congrArg Prod.fst hmemory
  have hblank : (cartridge.underBank bank).ram = Array.replicate ramCapacity 0 :=
    (congrArg Prod.snd hmemory).trans (hloaded.ram_of_no_path (Report.savePath_of_inspecting h))
  have hshown : (cartridge.underBank bank).banks.romBank = shown := by
    rw [hbanks]
    rfl
  refine ⟨image, Dump.rows (cartridge.underBank bank) address length, hread, hrom, hsize, ?_, ?_, ?_⟩
  · rw [Command.run, Report.result_onCartridge, h]
    show (Report.peek address bank length ⟨disk, cartridge⟩).value.result = _
    rw [Report.result_peek, Cartridge.mapInfo, cartridge.controller_underBank, hloaded.registers.1, hbanks,
      cartridge.header_underBank]
  · intro k line hline
    rw [Dump.rows, List.getElem?_map, Option.map_eq_some_iff] at hline
    obtain ⟨start, hstart, rfl⟩ := hline
    obtain ⟨hplace, hlast⟩ := Dump.toNat_of_rowStarts hstart
    obtain ⟨row, hrow, hright⟩ := Dump.faithful_row hwf hblank hlast
    rw [hsame, hshown, hplace] at hright
    rw [hplace] at hlast
    exact ⟨hlast, row, hrow, hright⟩
  · intro a ha ha'
    exact Dump.existsUnique_row ha ha'

/-- A dump of two bytes across the edge of the switched window, with a bank mapped that the ROM does not have:
the second row is all open bus from its first byte. -/
theorem dump_shows_memory_past_rom :
    let rom : Path := ⟨['g', '.', 'g', 'b']⟩
    let disk : Disk := ⟨[([['g', '.', 'g', 'b']], .file (Cartridge.blankImage 0x01 0x00))], []⟩
    ∃ cartridge mapping rows line row,
      (Cartridge.ofFile disk rom Report.inspecting).value = .ok cartridge ∧
      ((Command.peek rom 0x3FFF (some 0x105) 2).run disk).value.result = .ok (mapping :: rows) ∧
      rows[1]? = some line ∧ Dump.readRow? line = some row ∧ row.start = 0x4000 ∧
      row.bytes[0]? = some 0xFF := by
  intro rom disk
  have hfile : disk.read rom = .ok (Cartridge.blankImage 0x01 0x00) := rfl
  obtain ⟨header, hparse, htwo, htype, -⟩ := Cartridge.exists_parse_blankImage 0x01 0x00
  have hfits : header.romSize ≤ (Cartridge.blankImage 0x01 0x00).size := by
    rw [Cartridge.size_blankImage, Header.romSize, htwo]
    decide
  obtain ⟨cartridge, hload, rfl⟩ := Report.exists_inspecting hfile hparse hfits
  obtain ⟨image, rows, hread, hrom, -, hresult, hrows, hcover⟩ :=
    dump_shows_memory hload 0x3FFF 2 (some 0x105)
  obtain rfl : Cartridge.blankImage 0x01 0x00 = image := Except.ok.inj (hfile.symm.trans hread)
  have hbank : Dump.bankShown cartridge.header.type (some 0x105) = 0x105 := by
    rw [htype]
    rfl
  -- the second address asked for is in the row in place 1
  obtain ⟨k, ⟨line, row, hline, hrow, hle, hlt⟩, -⟩ := hcover 0x4000 (by decide) (by decide)
  obtain ⟨-, row', hrow', hfaithful⟩ := hrows k line hline
  obtain rfl := Option.some.inj (hrow.symm.trans hrow')
  have hstart : row.start = 0x3FF0 + 16 * k := hfaithful.start_eq
  obtain rfl : k = 1 := by omega
  obtain ⟨byte, hbyte⟩ : ∃ byte, row.bytes[0]? = some byte :=
    ⟨_, List.getElem?_eq_getElem (by rw [hfaithful.length_bytes]; decide)⟩
  have hshows := (hfaithful.byte 0 byte hbyte).switched (by decide) (by decide)
  have hsize : cartridge.rom.size ≤ 0x8000 := by
    rw [hrom, Array.size_extract, Cartridge.size_blankImage]
    omega
  have hpast : ∀ offset, cartridge.rom.size ≤ 0x105 * 16384 + offset := by
    intro offset
    omega
  have hopen : byte = 0xFF := by
    rw [hshows, hbank, Array.getD_eq_getD_getElem?, Array.getElem?_eq_none (hpast _)]
    rfl
  exact ⟨cartridge, _, rows, line, row, hload, hresult, hline, hrow, hstart, hopen ▸ hbyte⟩

end GamePak
