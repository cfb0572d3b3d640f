import GamePak.Proofs.Cartridge.Access
import GamePak.Session

/-!
# `Proofs.Session.Invariant` — what holds after every run

A run is any finite sequence of operations: writes and resets of the CPU, the debugger's operations and
transfers of battery RAM. The invariant of a cartridge goes through each of them, so it holds after all
of them, and with it the law of the bus.

## Contents
- `Session.wellFormed_step`, `Session.wellFormed_run`; `Session.identity_step`, `Session.identity_run`.
- `Session.Reachable`: the sessions that a load and a run lead to.
- `Session.bus_after_run`: sizes, offsets and reads after every run.
-/

namespace GamePak.Session

variable {session : Session}

/-! ## Steps -/

/-- Each operation keeps the invariant. -/
theorem wellFormed_step (session : Session) (operation : Operation)
    (h : session.cartridge.WellFormed) :
    (session.step operation).value.2.cartridge.WellFormed := by
  obtain ⟨disk, cartridge⟩ := session
  cases operation with
  | write address value => exact h.write address value
  | reset => exact h.reset
  | saveMapping => exact h.saveMapping
  | mapRom bank => exact h.mapRom bank
  | restoreMapping => exact h.restoreMapping
  | debugWrite address value => exact h.debugWrite address value
  | loadBattery => exact h.loadBattery disk
  | saveBattery => exact h

/-- Each operation keeps the header and the save path. -/
theorem identity_step (session : Session) (operation : Operation) :
    (session.step operation).value.2.cartridge.identity = session.cartridge.identity := by
  obtain ⟨disk, cartridge⟩ := session
  cases operation with
  | write address value => exact cartridge.identity_write address value
  | reset => exact cartridge.identity_reset
  | saveMapping => exact cartridge.identity_saveMapping
  | mapRom bank => exact cartridge.identity_mapRom bank
  | restoreMapping => exact cartridge.identity_restoreMapping
  | debugWrite address value => exact cartridge.identity_debugWrite address value
  | loadBattery => exact cartridge.identity_loadBattery disk
  | saveBattery => rfl

/-! ## Runs -/

theorem wellFormed_run (h : session.cartridge.WellFormed) (operations : List Operation) :
    (session.run operations).value.cartridge.WellFormed :=
  run_invariant (fun session => session.cartridge.WellFormed) wellFormed_step h operations

theorem identity_run (session : Session) (operations : List Operation) :
    (session.run operations).value.cartridge.identity = session.cartridge.identity :=
  run_invariant (fun later => later.cartridge.identity = session.cartridge.identity)
    (fun later operation h => (identity_step later operation).trans h) rfl operations

theorem header_run (session : Session) (operations : List Operation) :
    (session.run operations).value.cartridge.header = session.cartridge.header :=
  congrArg Prod.fst (identity_run session operations)

/-- A session that a load and a run of operations lead to. -/
def Reachable (session : Session) : Prop :=
  ∃ disk loaded operations, Cartridge.Loaded disk loaded ∧
    session = (Session.run ⟨disk, loaded⟩ operations).value

theorem Reachable.wellFormed (h : Reachable session) : session.cartridge.WellFormed := by
  obtain ⟨disk, loaded, operations, hloaded, rfl⟩ := h
  exact wellFormed_run hloaded.wellFormed operations

/-! ## The law of the bus -/

/-- **After every run the memories have the size they were loaded with, each offset is that of its bank,
and the RAM bank is one that the family has.** So whatever the CPU reads or writes and the debugger
patches is the byte that the address stands for, inside RAM where it is RAM, and a read shows the mapped
banks. -/
theorem bus_after_run {disk : Disk} {loaded : Cartridge} (h : Cartridge.Loaded disk loaded)
    (operations : List Operation) :
    let cartridge := (Session.run ⟨disk, loaded⟩ operations).value.cartridge
    cartridge.header = loaded.header ∧
    cartridge.rom.size = loaded.header.romBanks * 16384 ∧ cartridge.ram.size = 65536 ∧
    cartridge.banks.romStart = cartridge.banks.romBank * 16384 ∧
    cartridge.banks.ramStart = cartridge.banks.ramBank * 8192 ∧
    cartridge.banks.romBank < 65536 ∧
    (cartridge.banks.ramBank ≤
      match loaded.header.type with
      | .mbc1 _ _ => 3
      | .mbc5 _ _ _ => 7
      | _ => 0) ∧
    ∀ address : UInt16,
      (∀ cell, cartridge.banks.cell? address = some cell → cartridge.Backs address cell) ∧
      (∀ value, cartridge.controller.decode cartridge.banks address value = .store →
        ∃ offset, cartridge.banks.cell? address = some (.ram offset) ∧
          cartridge.Backs address (.ram offset)) ∧
      (∀ cell, cartridge.debugCell? address = some cell → cartridge.Backs address cell) ∧
      (address.toNat < 0x4000 →
        cartridge.rom[address.toNat]? = some (cartridge.read address)) ∧
      (0x4000 ≤ address.toNat → address.toNat < 0x8000 →
        cartridge.read address =
          cartridge.rom.getD (cartridge.banks.romBank * 16384 + (address.toNat - 0x4000)) 0xFF) ∧
      (0xA000 ≤ address.toNat → address.toNat < 0xC000 →
        cartridge.ram[cartridge.banks.ramBank * 8192 + (address.toNat - 0xA000)]? =
          some (cartridge.read address)) ∧
      (0x8000 ≤ address.toNat → ¬ (0xA000 ≤ address.toNat ∧ address.toNat < 0xC000) →
        cartridge.read address = 0xFF) := by
  intro cartridge
  have hheader : cartridge.header = loaded.header := header_run ⟨disk, loaded⟩ operations
  have hwf : cartridge.WellFormed := wellFormed_run h.wellFormed operations
  refine ⟨hheader, ?_, hwf.ram_size, hwf.romStart_eq, hwf.ramStart_eq, hwf.romBank_lt, ?_, ?_⟩
  · rw [← hheader]
    exact hwf.rom_size
  · have hbound := hwf.ramBank_le
    rw [← Controller.lastRamBank_unlatched, hwf.family, hheader] at hbound
    cases htype : loaded.header.type <;> rw [htype] at hbound <;> exact hbound
  · intro address
    exact ⟨fun _ => hwf.backs_cell?, fun _ => hwf.backs_of_store, fun _ => hwf.backs_debugCell?,
      hwf.read_bank0, hwf.read_switched, hwf.read_ram, cartridge.read_outside⟩

/-- The blank MBC1 cartridge on its last RAM bank, with a ROM bank forced that it does not have. -/
theorem bus_after_run_blank :
    ∃ loaded, Cartridge.Loaded (Disk.empty []) loaded ∧ loaded.header.type = .mbc1 true true ∧
      let cartridge := (Session.run ⟨Disk.empty [], loaded⟩ [.write 0x6000 1, .write 0x4000 3,
        .saveMapping, .mapRom 0xFFFF, .debugWrite 0xBFFF 7]).value.cartridge
      cartridge.rom.size = 32768 ∧ cartridge.ram.size = 65536 ∧
        cartridge.banks.romStart = cartridge.banks.romBank * 16384 ∧
        cartridge.banks.ramBank ≤ 3 := by
  obtain ⟨loaded, hload, htype, -, hbanks⟩ :=
    Cartridge.exists_load_blankImage (Disk.empty []) 0x03 0x03 none
  have hloaded : Cartridge.Loaded (Disk.empty []) loaded := .ofImage _ {} hload
  obtain ⟨-, hrom, hram, hstart, -, -, hle, -⟩ := bus_after_run hloaded [.write 0x6000 1,
    .write 0x4000 3, .saveMapping, .mapRom 0xFFFF, .debugWrite 0xBFFF 7]
  rw [hbanks] at hrom
  rw [htype] at hle
  exact ⟨loaded, hloaded, htype, hrom, hram, hstart, hle⟩

end GamePak.Session
