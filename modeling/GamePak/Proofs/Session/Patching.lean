import GamePak.Proofs.Session.Memory

/-!
# `Proofs.Session.Patching` — the debugger patches what the program reads

A patch changes the byte behind an address and nothing else of the cartridge, and every address that the
byte stands behind shows it. With bank 0 in the switched window these are two addresses, so the effect of
a patch is not told by its address. The ROM is never changed in any other way.

## Contents
- `Session.romHit?`: what an operation puts into a byte of the ROM; `Session.stored?_rom`.
- `WellFormed.cell?_flat`: the two ROM windows of a cartridge without a controller.
- `WellFormed.read_debugWrite_alias`: the two ROM windows with bank 0 in both.
- `LoadedFrom.getElem?_image`: the ROM before any patch.
- `Session.patches_after_run`.
-/

namespace GamePak

open History

/-- Without a controller the switched window is where the flat ROM goes on, for a read and for a patch. -/
theorem Cartridge.WellFormed.cell?_flat {cartridge : Cartridge} (h : cartridge.WellFormed)
    (hflat : cartridge.header.type.hasController = false) {address : UInt16}
    (hrom : address.toNat < 0x8000) :
    cartridge.debugCell? address = some (.rom address.toNat) ∧
      cartridge.banks.cell? address = some (.rom address.toNat) := by
  have habsent : cartridge.controller = .absent := h.absent_iff.2 hflat
  have hpatched : cartridge.debugCell? address = some (.rom address.toNat) := by
    unfold Cartridge.debugCell?
    rw [if_pos ⟨habsent, hrom⟩]
  refine ⟨hpatched, ?_⟩
  rw [← h.debugCell?_eq]
  exact hpatched

/-- With bank 0 mapped each of its bytes is patched and read at two addresses. -/
theorem Cartridge.WellFormed.read_debugWrite_alias {cartridge : Cartridge} (h : cartridge.WellFormed)
    (hbank : cartridge.banks.romBank = 0) {low high : UInt16} (hlow : low.toNat < 0x4000)
    (hhigh : high.toNat = low.toNat + 0x4000) (value : UInt8) :
    (cartridge.debugWrite low value).read high = value ∧
      (cartridge.debugWrite high value).read low = value := by
  have hbanks := h.two_le_romBanks
  have hsize : 0x4000 ≤ cartridge.rom.size := by
    rw [h.rom_size]
    unfold Header.romSize romBankSize
    omega
  have hsame := Cartridge.physical?_alias hbank hsize hlow hhigh
  have hthere : cartridge.physical? low ≠ none := by
    simp only [Cartridge.physical?, if_pos hlow]
    exact Option.some_ne_none _
  constructor
  · rw [h.read_debugWrite, if_pos ⟨hsame, hthere⟩]
  · rw [h.read_debugWrite, if_pos ⟨hsame.symm, hsame ▸ hthere⟩]

/-- The ROM is a leading part of the image that was loaded. -/
theorem Cartridge.LoadedFrom.getElem?_image {disk : Disk} {image : Bytes} {loaded : Cartridge}
    (h : Cartridge.LoadedFrom disk image loaded) {offset : Nat}
    (hoffset : offset < loaded.header.romSize) :
    image[offset]? = some (loaded.byteAt (.rom offset)) := by
  obtain ⟨hrom, hsize⟩ := h.rom_eq
  rw [← Cartridge.getElem?_rom (h.loaded.wellFormed.has_rom hoffset), hrom, Array.getElem?_extract,
    if_pos (by omega), Nat.zero_add]

namespace Session

/-- What an operation puts into the ROM byte at `offset`: the value of a patch to an address that the byte
stands behind. -/
def romHit? (session : Session) (offset : Nat) : Operation → Option UInt8
  | .debugWrite address value =>
    if session.cartridge.physical? address = some (.rom offset) then some value else none
  | _ => none

/-- Nothing but a patch reaches the ROM. -/
theorem stored?_rom (session : Session) (offset : Nat) (operation : Operation) :
    session.stored? (.rom offset) operation = session.romHit? offset operation := by
  cases operation with
  | write address value =>
      show (if _ then some value else none) = none
      rw [if_neg]
      rintro ⟨⟨haddress, -⟩, hcell⟩
      exact Cartridge.physical?_ne_rom haddress.1 offset hcell
  | debugWrite address value => rfl
  | loadBattery => rfl
  | reset => rfl
  | saveMapping => rfl
  | mapRom _ => rfl
  | restoreMapping => rfl
  | saveBattery => rfl

/-- **Patches and reads mean the same bytes.** After any run a patch shows at exactly the addresses that the
patched byte stands behind, and leaves everything else alone; without a controller the flat ROM and the
banked one are the same. And each byte of the ROM is the one of the image, or what the last patch that
reached it made of it. -/
theorem patches_after_run {disk : Disk} {image : Bytes} {loaded : Cartridge}
    (h : Cartridge.LoadedFrom disk image loaded) (operations : List Operation) :
    let start : Session := ⟨disk, loaded⟩
    let cartridge := (start.run operations).value.cartridge
    (∀ (address seen : UInt16) (value : UInt8),
      let patched := cartridge.debugWrite address value
      (∀ cell, cartridge.physical? address = some cell → cartridge.physical? seen = some cell →
        patched.read seen = value) ∧
      (cartridge.physical? seen ≠ cartridge.physical? address →
        patched.read seen = cartridge.read seen) ∧
      (cartridge.physical? address = none → patched = cartridge) ∧
      (patched.controller = cartridge.controller ∧ patched.banks = cartridge.banks ∧
        patched.override = cartridge.override) ∧
      (cartridge.banks.romBank = 0 → address.toNat < 0x4000 → seen.toNat = address.toNat + 0x4000 →
        patched.read seen = value ∧ (cartridge.debugWrite seen value).read address = value)) ∧
    (loaded.header.type.hasController = false →
      ∀ address : UInt16, 0x4000 ≤ address.toNat → address.toNat < 0x8000 →
        cartridge.debugCell? address = some (.rom address.toNat) ∧
          cartridge.banks.cell? address = some (.rom address.toNat)) ∧
    ∀ offset, offset < loaded.header.romSize →
      ∃ original, image[offset]? = some original ∧
        cartridge.rom[offset]? =
          some (latest (fun past operation => (start.after past).romHit? offset operation) original
            operations.reverse) := by
  intro start cartridge
  have hstart : start.cartridge.WellFormed := h.loaded.wellFormed
  have hwf : cartridge.WellFormed := wellFormed_run hstart operations
  have hheader : cartridge.header = loaded.header := header_run start operations
  refine ⟨?_, ?_, ?_⟩
  · intro address seen value patched
    have hread : patched.read seen = _ := hwf.read_debugWrite address value seen
    have hregisters := cartridge.registers_debugWrite address value
    simp only [Cartridge.registers, Prod.mk.injEq] at hregisters
    refine ⟨?_, ?_, ?_, hregisters, ?_⟩
    · intro cell haddress hseen
      rw [hread, if_pos ⟨hseen.trans haddress.symm, haddress ▸ Option.some_ne_none cell⟩]
    · intro hother
      rw [hread, if_neg (fun hboth => hother hboth.1)]
    · intro hnone
      show cartridge.debugWrite address value = cartridge
      rw [hwf.debugWrite_eq, hnone]
    · intro hbank hlow hhigh
      exact hwf.read_debugWrite_alias hbank hlow hhigh value
  · intro hflat address _ hhigh
    rw [← hheader] at hflat
    exact hwf.cell?_flat hflat hhigh
  · intro offset hoffset
    have hthere : cartridge.has (.rom offset) = true := by
      apply hwf.has_rom
      rw [hheader]
      exact hoffset
    refine ⟨loaded.byteAt (.rom offset), h.getElem?_image hoffset, ?_⟩
    rw [Cartridge.getElem?_rom hthere]
    exact congrArg some (byteAt_run hstart (.rom offset)
      (fun session operation _ => stored?_rom session offset operation) operations)

/-- The blank MBC5 cartridge, patched in bank 0 before that is mapped to both windows: the ROM keeps the
patch, and the next one in the lower window shows in the upper one. -/
theorem patches_after_run_blank :
    ∃ loaded, Cartridge.LoadedFrom (Disk.empty []) (Cartridge.blankImage 0x1B 0x03) loaded ∧
      let cartridge := (Session.run ⟨Disk.empty [], loaded⟩ [.debugWrite 0x0150 7,
        .write 0x2000 0, .write 0x0150 9]).value.cartridge
      cartridge.rom[0x0150]? = some 7 ∧ (cartridge.debugWrite 0x0151 8).read 0x4151 = 8 := by
  obtain ⟨loaded, hload, htype, -, hbanks⟩ :=
    Cartridge.exists_load_blankImage (Disk.empty []) 0x1B 0x03 none
  have hloaded : Cartridge.LoadedFrom (Disk.empty []) (Cartridge.blankImage 0x1B 0x03) loaded :=
    .ofImage {} hload
  have hmbc5 : loaded.header.type = .mbc5 true true false := htype
  obtain ⟨hcontroller, hpowerOn, -⟩ := hloaded.loaded.registers
  rw [hmbc5] at hcontroller
  obtain ⟨hpatch, -, hrom⟩ := patches_after_run hloaded [.debugWrite 0x0150 7, .write 0x2000 0,
    .write 0x0150 9]
  obtain ⟨original, -, hbyte⟩ := hrom 0x0150 (by rw [Header.romSize, hbanks]; decide)
  refine ⟨loaded, hloaded, hbyte.trans (congrArg some ?_), ?_⟩
  · simp [latest, romHit?, Cartridge.physical?]
  · have hzero : (Session.run ⟨Disk.empty [], loaded⟩ [.debugWrite 0x0150 7, .write 0x2000 0,
        .write 0x0150 9]).value.cartridge.banks.romBank = 0 := by
      simp [run_cons, step, Cartridge.write, Cartridge.apply, Cartridge.debugWrite,
        Cartridge.debugCell?, Cartridge.setByte, Controller.decode, Controller.decodeMbc5,
        Controller.ofType, Banks.mapRom, Banks.powerOn, Banks.cell?, hcontroller, hpowerOn]
    exact ((hpatch 0x0151 0x4151 8).2.2.2.2 hzero (by decide) (by decide)).1

end Session

end GamePak
