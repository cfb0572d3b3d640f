import GamePak.Cartridge.Battery

/-!
# `Proofs.Cartridge.Battery` — which bytes the battery keeps

A transfer of battery RAM touches the RAM and the disk and nothing else, and never changes the size of
the RAM.

## Contents
- `Bytes.size_overlay`, `Bytes.getElem?_overlay`, `Bytes.overlay_replicate`: the bytes of a RAM after a
  transfer into it.
- `Header.batteryLength_eq`: how many bytes the battery keeps, for every type and RAM size code.
- `SaveFile.load_cases`: a save file loads into every RAM or into none.
- `Cartridge.loadBattery_eq`, `Cartridge.loadBattery_outcome`, `Cartridge.loadBattery_cases`: a transfer
  from the save file copies the whole of it or nothing.
- `Cartridge.saveBattery_cases`, `Cartridge.saveBattery_of_backed`, `Cartridge.saveBattery_of_error`: a transfer
  to the save file replaces it or nothing.
- `Cartridge.value_detach`, `Cartridge.detach_of_write`: unloading.
-/

namespace GamePak

/-! ## RAM after a transfer -/

/-- As many bytes are put in as are taken out. -/
theorem Bytes.size_overlay {base data : Bytes} {len : Nat} (hbase : len ≤ base.size)
    (hdata : len ≤ data.size) : (base.overlay data len).size = base.size := by
  simp only [Bytes.overlay, Array.size_append, Array.size_extract]
  omega

/-- The transferred bytes stand in front, and behind them what was there before. -/
theorem Bytes.getElem?_overlay {base data : Bytes} {len : Nat} (hdata : len ≤ data.size)
    (offset : Nat) :
    (base.overlay data len)[offset]? = if offset < len then data[offset]? else base[offset]? := by
  have hsize : (data.extract 0 len).size = len := by
    rw [Array.size_extract]
    omega
  unfold Bytes.overlay
  by_cases hoffset : offset < len
  · rw [if_pos hoffset, Array.getElem?_append_left (by omega), Array.getElem?_extract]
    grind
  · rw [if_neg hoffset, Array.getElem?_append_right (by omega), Array.getElem?_extract, hsize]
    grind

/-- Over a blank memory exactly the transferred bytes show, and the blank behind them. -/
theorem Bytes.overlay_replicate {data : Bytes} {len capacity : Nat} {blank : UInt8} :
    Bytes.overlay (Array.replicate capacity blank) data len =
      data.extract 0 len ++ Array.replicate (capacity - len) blank := by
  simp [Bytes.overlay, Array.extract_replicate]

/-! ## How many bytes -/

namespace Header

/-- How many bytes of RAM a save file holds: the cells of an MBC2, four banks where the header tells
of the 32 KiB chip, one bank otherwise. -/
def savedLength (header : Header) : Nat :=
  match header.type with
  | .mbc2 _ => 512
  | _ => if header.ramSizeCode = 0x03 then 32768 else 8192

/-- **The battery's length.** A cartridge has one if and only if it is battery-backed. -/
theorem batteryLength_eq (header : Header) :
    header.batteryLength =
      if header.type.isBatteryBacked then some header.savedLength else none := by
  unfold batteryLength CartridgeType.batteryLength
  by_cases hbattery : header.type.isBatteryBacked
  · have hbanks : ramBanks header.ramSizeCode * ramBankSize =
        if header.ramSizeCode = 0x03 then 32768 else 8192 := by
      unfold ramBanks
      by_cases hcode : header.ramSizeCode = 0x03
      · rw [if_pos hcode, if_pos hcode]
        rfl
      · rw [if_neg hcode, if_neg hcode]
        rfl
    rw [if_pos hbattery, if_pos hbattery, hbanks]
    unfold savedLength
    cases header.type <;> rfl
  · rw [if_neg hbattery, if_neg hbattery]

/-- A save file fits into RAM. -/
theorem savedLength_le (header : Header) : header.savedLength ≤ ramCapacity := by
  unfold savedLength ramCapacity
  split
  · decide
  · split <;> decide

end Header

/-! ## Transfers -/

/-- **How a save file loads.** It is refused by every RAM for the same reason, or its first bytes go to the
start of every RAM. -/
theorem SaveFile.load_cases (disk : Disk) (save : Path) (len : Nat) :
    (∃ cause, ∀ ram, load disk save ram len = pure (.error cause, ram)) ∨
      ∃ data, disk.read save = .ok data ∧ len ≤ data.size ∧
        ∀ ram, load disk save ram len = ⟨(.ok (), ram.overlay data len), [.saveRead save]⟩ := by
  cases hread : disk.read save with
  | error cause =>
      refine Or.inl ⟨.unreachable save cause, ?_⟩
      intro ram
      simp only [load, hread]
  | ok data =>
      by_cases hshort : data.size < len
      · refine Or.inl ⟨.short save len data.size, ?_⟩
        intro ram
        simp only [load, hread, if_pos hshort]
      · refine Or.inr ⟨data, rfl, Nat.not_lt.1 hshort, ?_⟩
        intro ram
        simp only [load, hread, if_neg hshort]
        rfl

namespace Cartridge

variable {disk : Disk} {cartridge : Cartridge} {save : Path}

theorem battery_of_backed (hbacked : cartridge.header.type.isBatteryBacked)
    (hsave : cartridge.savePath = some save) :
    cartridge.battery = .ok (some (save, cartridge.header.savedLength)) := by
  simp only [battery, Header.batteryLength_eq, if_pos hbacked, hsave]

/-- Only a battery-backed cartridge with a save path has a file to transfer to or from. -/
theorem of_battery_eq_some {len : Nat} (h : cartridge.battery = .ok (some (save, len))) :
    cartridge.header.type.isBatteryBacked ∧ cartridge.savePath = some save ∧
      len = cartridge.header.savedLength := by
  by_cases hbacked : cartridge.header.type.isBatteryBacked
  · simp only [battery, Header.batteryLength_eq, if_pos hbacked] at h
    cases hsave : cartridge.savePath with
    | none =>
        rw [hsave] at h
        cases h
    | some path =>
        rw [hsave] at h
        cases h
        exact ⟨hbacked, rfl, rfl⟩
  · simp only [battery, Header.batteryLength_eq, if_neg hbacked] at h
    cases h

/-- A save file that is too short leaves RAM as it was. -/
theorem loadBattery_of_short {data : Bytes} (hbacked : cartridge.header.type.isBatteryBacked)
    (hsave : cartridge.savePath = some save) (hread : disk.read save = .ok data)
    (hshort : data.size < cartridge.header.savedLength) :
    (cartridge.loadBattery disk).value =
      (.error (.short save cartridge.header.savedLength data.size), cartridge) := by
  simp [loadBattery, battery_of_backed hbacked hsave, SaveFile.load, hread, hshort]

/-- A save file that is long enough is copied to the start of RAM, and that is reported. -/
theorem loadBattery_eq_of_read {data : Bytes} (hbacked : cartridge.header.type.isBatteryBacked)
    (hsave : cartridge.savePath = some save) (hread : disk.read save = .ok data)
    (hlen : cartridge.header.savedLength ≤ data.size) :
    cartridge.loadBattery disk = ⟨(.ok (),
      { cartridge with ram := cartridge.ram.overlay data cartridge.header.savedLength }),
      [.saveRead save]⟩ := by
  have hlong : ¬ data.size < cartridge.header.savedLength := Nat.not_lt.2 hlen
  apply Logged.ext
  · simp [loadBattery, battery_of_backed hbacked hsave, SaveFile.load, hread, hlong]
  · simp [loadBattery, battery_of_backed hbacked hsave, SaveFile.load, hread, hlong]

theorem loadBattery_of_read {data : Bytes} (hbacked : cartridge.header.type.isBatteryBacked)
    (hsave : cartridge.savePath = some save) (hread : disk.read save = .ok data)
    (hlen : cartridge.header.savedLength ≤ data.size) :
    (cartridge.loadBattery disk).value = (.ok (),
      { cartridge with ram := cartridge.ram.overlay data cartridge.header.savedLength }) := by
  rw [loadBattery_eq_of_read hbacked hsave hread hlen]

/-- **How a transfer into RAM goes.** It fails and changes nothing, or there is no battery and nothing to
do, or the start of RAM is the start of the save file. Only the last is reported. -/
theorem loadBattery_eq (disk : Disk) (cartridge : Cartridge) :
    (∃ cause, cartridge.loadBattery disk = pure (.error cause, cartridge)) ∨
      (cartridge.header.batteryLength = none ∧
        cartridge.loadBattery disk = pure (.ok (), cartridge)) ∨
      ∃ save data, cartridge.header.batteryLength = some cartridge.header.savedLength ∧
        cartridge.savePath = some save ∧ disk.read save = .ok data ∧
        cartridge.header.savedLength ≤ data.size ∧
        cartridge.loadBattery disk = ⟨(.ok (),
          { cartridge with ram := cartridge.ram.overlay data cartridge.header.savedLength }),
          [.saveRead save]⟩ := by
  by_cases hbacked : cartridge.header.type.isBatteryBacked
  · have hlength : cartridge.header.batteryLength = some cartridge.header.savedLength := by
      rw [Header.batteryLength_eq, if_pos hbacked]
    by_cases hnone : cartridge.savePath = none
    · exact Or.inl ⟨.noSavePath, by simp [loadBattery, battery, hlength, hnone]⟩
    obtain ⟨save, hsave⟩ := Option.ne_none_iff_exists'.1 hnone
    have hbattery := battery_of_backed hbacked hsave
    rcases SaveFile.load_cases disk save cartridge.header.savedLength with
      ⟨cause, hload⟩ | ⟨data, hread, hlen, -⟩
    · refine Or.inl ⟨cause, ?_⟩
      simp [loadBattery, hbattery, hload]
    · refine Or.inr (Or.inr ⟨save, data, hlength, hsave, hread, hlen, ?_⟩)
      exact loadBattery_eq_of_read hbacked hsave hread hlen
  · have hlength : cartridge.header.batteryLength = none := by
      rw [Header.batteryLength_eq, if_neg hbacked]
    exact Or.inr (Or.inl ⟨hlength, by simp [loadBattery, battery, hlength]⟩)

/-- The same for what becomes of the cartridge. -/
theorem loadBattery_outcome (disk : Disk) (cartridge : Cartridge) :
    (∃ cause, (cartridge.loadBattery disk).value = (.error cause, cartridge)) ∨
      (cartridge.header.batteryLength = none ∧
        (cartridge.loadBattery disk).value = (.ok (), cartridge)) ∨
      ∃ save data, cartridge.header.batteryLength = some cartridge.header.savedLength ∧
        cartridge.savePath = some save ∧ disk.read save = .ok data ∧
        cartridge.header.savedLength ≤ data.size ∧
        (cartridge.loadBattery disk).value = (.ok (),
          { cartridge with ram := cartridge.ram.overlay data cartridge.header.savedLength }) := by
  rcases loadBattery_eq disk cartridge with
    ⟨cause, hfailed⟩ | ⟨hlength, hnothing⟩ | ⟨save, data, hlength, hsave, hread, hlen, hloaded⟩
  · exact Or.inl ⟨cause, congrArg Logged.value hfailed⟩
  · exact Or.inr (Or.inl ⟨hlength, congrArg Logged.value hnothing⟩)
  · exact Or.inr (Or.inr ⟨save, data, hlength, hsave, hread, hlen, congrArg Logged.value hloaded⟩)

/-- **A transfer into RAM copies a whole save file or nothing.** -/
theorem loadBattery_cases (disk : Disk) (cartridge : Cartridge) :
    (cartridge.loadBattery disk).value.2 = cartridge ∨
      ∃ data : Bytes, cartridge.header.savedLength ≤ data.size ∧
        (cartridge.loadBattery disk).value.2 =
          { cartridge with ram := cartridge.ram.overlay data cartridge.header.savedLength } := by
  rcases loadBattery_outcome disk cartridge with
    ⟨cause, hfailed⟩ | ⟨-, hnothing⟩ | ⟨save, data, -, -, -, hlen, hloaded⟩
  · exact Or.inl (by rw [hfailed])
  · exact Or.inl (by rw [hnothing])
  · exact Or.inr ⟨data, hlen, by rw [hloaded]⟩

/-- **A transfer to disk replaces the save file or nothing**, and what it replaces it by is the start
of RAM. -/
theorem saveBattery_cases (disk : Disk) (cartridge : Cartridge) :
    (cartridge.saveBattery disk).value.2 = disk ∨
      ∃ save, cartridge.savePath = some save ∧
        disk.write save (cartridge.ram.extract 0 cartridge.header.savedLength) =
          .ok (cartridge.saveBattery disk).value.2 := by
  unfold saveBattery
  split
  · exact Or.inl rfl
  · exact Or.inl rfl
  · next save len hbattery =>
    obtain ⟨-, hsave, rfl⟩ := of_battery_eq_some hbattery
    cases hwrite : disk.write save (cartridge.ram.extract 0 cartridge.header.savedLength) with
    | error cause => exact Or.inl (by simp [SaveFile.store, hwrite])
    | ok after => exact Or.inr ⟨save, hsave, by simp [SaveFile.store, hwrite]⟩

/-- With a battery and a save path a transfer to disk is a store. -/
theorem saveBattery_of_backed (hbacked : cartridge.header.type.isBatteryBacked)
    (hsave : cartridge.savePath = some save) (disk : Disk) :
    cartridge.saveBattery disk =
      SaveFile.store disk save cartridge.ram cartridge.header.savedLength := by
  rw [saveBattery, battery_of_backed hbacked hsave]

/-- A transfer to disk that fails leaves the disk as it was. -/
theorem saveBattery_of_error {cause : PersistError} {after : Disk}
    (h : (cartridge.saveBattery disk).value = (.error cause, after)) : after = disk := by
  unfold saveBattery at h
  split at h
  · exact (Prod.mk.inj h).2.symm
  · exact (Prod.mk.inj h).2.symm
  next save len hbattery =>
    unfold SaveFile.store at h
    split at h
    · exact (Prod.mk.inj h).2.symm
    · -- a write that succeeds is no failure
      cases (Prod.mk.inj h).1

/-- Unloading changes the disk as a save does. -/
theorem value_detach (disk : Disk) (cartridge : Cartridge) :
    (cartridge.detach disk).value = (cartridge.saveBattery disk).value.2 := by
  cases hsave : cartridge.savePath with
  | none =>
      -- unloading does not try, and a save would not get to the disk
      rcases saveBattery_cases disk cartridge with hsame | ⟨save, hsome, -⟩
      · rw [hsame]
        simp [detach, hsave]
      · rw [hsave] at hsome
        cases hsome
  | some save =>
      simp only [detach, hsave, Option.isNone_some, Bool.false_eq_true, if_false, Logged.value_bind]
      split <;> rfl

/-- Unloading a battery-backed cartridge makes the start of RAM its save file, where that can be
written. -/
theorem detach_of_write {after : Disk} (hbacked : cartridge.header.type.isBatteryBacked)
    (hsave : cartridge.savePath = some save)
    (hwrite : disk.write save (cartridge.ram.extract 0 cartridge.header.savedLength) = .ok after) :
    (cartridge.detach disk).value = after := by
  rw [value_detach, saveBattery_of_backed hbacked hsave]
  simp [SaveFile.store, hwrite]

end Cartridge

end GamePak
