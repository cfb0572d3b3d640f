import GamePak.Proofs.Session.Memory

/-!
# `Proofs.Session.ExternalRam` — eight banks of RAM

External RAM is eight banks of 8 KiB, and a byte of it is told by its bank and its offset in the bank. The
CPU and the debugger see one bank at a time, so what they store goes to the mapped bank. A byte keeps its
value while other banks are mapped, whatever is stored there at the same addresses.

## Contents
- `Cartridge.acceptsWrites`: whether a cartridge of its type takes a write of the CPU into RAM.
- `Session.ramHit?`: what an operation puts into the byte at an offset of a bank.
- `Session.stored?_ram`: no operation reaches a byte of RAM in any other way.
- `Session.external_ram_after_run`.
-/

namespace GamePak

open History

/-- Whether RAM takes a write of the CPU, by the type of the cartridge: an MBC5 has no latch in the way,
MBC1 and MBC2 take writes while RAM is enabled, and the other types never do. -/
def Cartridge.acceptsWrites (cartridge : Cartridge) : Bool :=
  match cartridge.header.type with
  | .mbc5 _ _ _ => true
  | .mbc1 _ _ => cartridge.banks.ramEnabled
  | .mbc2 _ => cartridge.banks.ramEnabled
  | .romOnly => false
  | .romRam _ => false
  | .unsupported _ => false

/-- The controller that a type names lets writes through as the type says. -/
theorem Cartridge.WellFormed.letsThrough_eq {cartridge : Cartridge} (h : cartridge.WellFormed) :
    cartridge.controller.letsThrough cartridge.banks = cartridge.acceptsWrites := by
  rw [← Controller.letsThrough_unlatched, h.family]
  unfold Cartridge.acceptsWrites
  cases cartridge.header.type <;> rfl

/-- Without a controller that this library knows, a write of the CPU does nothing at all. -/
theorem Cartridge.WellFormed.write_ignored {cartridge : Cartridge} (h : cartridge.WellFormed)
    (htype : cartridge.header.type = .romOnly ∨ (∃ battery, cartridge.header.type = .romRam battery) ∨
      ∃ code, cartridge.header.type = .unsupported code) (address : UInt16) (value : UInt8) :
    cartridge.write address value = pure cartridge := by
  have hfamily := h.family
  have hnothing : cartridge.controller.decode cartridge.banks address value = .nothing := by
    -- of the five families the type leaves the two that know no registers
    rcases htype with htype | ⟨battery, htype⟩ | ⟨code, htype⟩
    all_goals
      rw [htype] at hfamily
      cases hc : cartridge.controller with
      | absent => rfl
      | unsupported => rfl
      | mbc1 _ => rw [hc] at hfamily; cases hfamily
      | mbc2 => rw [hc] at hfamily; cases hfamily
      | mbc5 _ => rw [hc] at hfamily; cases hfamily
  exact Cartridge.write_of_nothing hnothing

namespace Session

/-- What an operation puts into the byte at `offset` of RAM bank `bank`, if it hits it. The CPU hits it at
its address while the bank is mapped and RAM accepts writes; a patch does so on every type; and reading
the save file does where the battery keeps the byte. -/
def ramHit? (session : Session) (bank offset : Nat) : Operation → Option UInt8
  | .write address value =>
    if address.toNat = 0xA000 + offset ∧ session.cartridge.banks.ramBank = bank ∧
        session.cartridge.acceptsWrites = true then some value
    else none
  | .debugWrite address value =>
    if address.toNat = 0xA000 + offset ∧ session.cartridge.banks.ramBank = bank then some value
    else none
  | .loadBattery => session.restored? (bank * 0x2000 + offset)
  | .reset | .saveMapping | .mapRom _ | .restoreMapping | .saveBattery => none

/-- **No aliasing.** An operation reaches a byte of RAM if and only if it hits its bank and offset. -/
theorem stored?_ram {session : Session} (h : session.cartridge.WellFormed) (bank : Nat) {offset : Nat}
    (hoffset : offset < 0x2000) (operation : Operation) :
    session.stored? (.ram (bank * 0x2000 + offset)) operation =
      session.ramHit? bank offset operation := by
  cases operation with
  | write address value =>
      simp only [stored?, ramHit?, h.letsThrough_eq, Cartridge.physical?_eq_ram_iff hoffset]
      congr 1
      apply propext
      constructor
      · rintro ⟨⟨-, haccepts⟩, haddress, hmapped⟩
        exact ⟨haddress, hmapped, haccepts⟩
      · rintro ⟨haddress, hmapped, haccepts⟩
        exact ⟨⟨⟨by omega, by omega⟩, haccepts⟩, haddress, hmapped⟩
  | debugWrite address value =>
      simp only [stored?, ramHit?, Cartridge.physical?_eq_ram_iff hoffset]
  | loadBattery => rfl
  | reset => rfl
  | saveMapping => rfl
  | mapRom _ => rfl
  | restoreMapping => rfl
  | saveBattery => rfl

/-- **External RAM is an array of banks.** After any run each byte of each of the eight banks holds what
the last operation that hit it put there, or what it held right after loading. On a cartridge without a
controller that this library knows, the CPU never hits anything. -/
theorem external_ram_after_run {disk : Disk} {loaded : Cartridge} (h : Cartridge.Loaded disk loaded)
    (operations : List Operation) {bank offset : Nat} (hbank : bank < 8) (hoffset : offset < 0x2000) :
    let start : Session := ⟨disk, loaded⟩
    let cartridge := (start.run operations).value.cartridge
    (∃ first, loaded.ram[bank * 0x2000 + offset]? = some first ∧
      cartridge.ram[bank * 0x2000 + offset]? =
        some (latest (fun past operation => (start.after past).ramHit? bank offset operation) first
          operations.reverse)) ∧
    ((loaded.header.type = .romOnly ∨ (∃ battery, loaded.header.type = .romRam battery) ∨
        ∃ code, loaded.header.type = .unsupported code) →
      ∀ address value, cartridge.write address value = pure cartridge) := by
  intro start cartridge
  have hstart : start.cartridge.WellFormed := h.wellFormed
  have hwf : cartridge.WellFormed := wellFormed_run hstart operations
  have hin : bank * 0x2000 + offset < ramCapacity := by
    unfold ramCapacity
    omega
  refine ⟨⟨_, Cartridge.getElem?_ram (hstart.has_ram hin), ?_⟩, ?_⟩
  · rw [Cartridge.getElem?_ram (hwf.has_ram hin)]
    exact congrArg some (byteAt_run hstart (.ram (bank * 0x2000 + offset))
      (fun _ operation hsession => stored?_ram hsession bank hoffset operation) operations)
  · intro htype
    have hheader : cartridge.header = loaded.header := header_run start operations
    rw [← hheader] at htype
    exact hwf.write_ignored htype

/-- The blank MBC5 cartridge: bank 3 keeps its byte over a reset, and while bank 0 is patched at the same
address. -/
theorem external_ram_after_run_blank :
    ∃ loaded, Cartridge.Loaded (Disk.empty []) loaded ∧ loaded.header.type = .mbc5 true true false ∧
      (Session.run ⟨Disk.empty [], loaded⟩ [.write 0x4000 3, .write 0xA005 9, .reset,
        .write 0x4000 8, .debugWrite 0xA005 1]).value.cartridge.ram[3 * 0x2000 + 5]? = some 9 := by
  obtain ⟨loaded, hload, htype, -, -⟩ :=
    Cartridge.exists_load_blankImage (Disk.empty []) 0x1B 0x03 none
  have hloaded : Cartridge.Loaded (Disk.empty []) loaded := .ofImage _ {} hload
  have hmbc5 : loaded.header.type = .mbc5 true true false := htype
  obtain ⟨hcontroller, hbanks, -⟩ := hloaded.registers
  rw [hmbc5] at hcontroller
  obtain ⟨⟨first, -, hram⟩, -⟩ := external_ram_after_run hloaded [.write 0x4000 3, .write 0xA005 9,
    .reset, .write 0x4000 8, .debugWrite 0xA005 1] (by decide : 3 < 8) (by decide : 5 < 0x2000)
  refine ⟨loaded, hloaded, hmbc5, hram.trans (congrArg some ?_)⟩
  simp [latest, ramHit?, after_cons, step, Cartridge.acceptsWrites, Cartridge.write, Cartridge.apply,
    Cartridge.reset, Controller.decode, Controller.decodeMbc5, Controller.ofType, Banks.mapRom,
    Banks.mapRam, Banks.powerOn, Banks.cell?, hcontroller, hbanks, hmbc5]

end Session

end GamePak
