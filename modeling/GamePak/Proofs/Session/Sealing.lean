import GamePak.Proofs.Cartridge.Physical
import GamePak.Proofs.Cartridge.Decision
import GamePak.Proofs.Session.Invariant

/-!
# `Proofs.Session.Sealing` — a checksum that was right tells of every patch

The checksum adds bytes, and one byte by itself cannot change a sum by a multiple of 65536. So an image whose
checksum is right is sealed: no byte of it can be replaced unseen, not even one of the checksum's own. A patch
of the debugger replaces one byte at most, and the byte that was read before takes it back.

## Contents
- `Cartridge.setByte_byteAt`, `Cartridge.setByte_setByte`: the byte that was there.
- `WellFormed.debugWrite_undo`: the old byte at the same address takes a patch back.
- `WellFormed.rom_debugWrite`: a patch that changes the ROM changes one byte of it.
- `Session.sealed_image_tells_patches`.
-/

namespace GamePak

namespace Cartridge

variable {cartridge : Cartridge} {cell : Cell} {address : UInt16} {value : UInt8}

/-! ## The byte that was there -/

/-- Storing the byte that a cell holds changes nothing. -/
theorem setByte_byteAt (h : cartridge.has cell = true) :
    cartridge.setByte (cartridge.byteAt cell) cell = cartridge := by
  cases cell with
  | rom offset =>
      have hin : offset < cartridge.rom.size := of_decide_eq_true h
      simp [setByte, byteAt, Array.setIfInBounds, Array.getD, hin]
  | ram offset =>
      have hin : offset < cartridge.ram.size := of_decide_eq_true h
      simp [setByte, byteAt, Array.setIfInBounds, Array.getD, hin]

/-- Of two bytes stored in a cell the second stays. -/
theorem setByte_setByte (cartridge : Cartridge) (first second : UInt8) (cell : Cell) :
    (cartridge.setByte first cell).setByte second cell = cartridge.setByte second cell := by
  cases cell <;> simp only [setByte, Array.setIfInBounds_setIfInBounds]

namespace WellFormed

/-- **A patch is taken back** by the byte that was read before it. -/
theorem debugWrite_undo (h : cartridge.WellFormed) (address : UInt16) (value : UInt8) :
    (cartridge.debugWrite address value).debugWrite address (cartridge.read address) = cartridge := by
  rw [(h.debugWrite address value).debugWrite_eq, physical?_debugWrite, h.read_eq, h.debugWrite_eq]
  cases hcell : cartridge.physical? address with
  | none => rfl
  | some cell =>
      show (cartridge.setByte value cell).setByte (cartridge.byteAt cell) cell = cartridge
      rw [setByte_setByte, setByte_byteAt (h.has_of_physical? hcell)]

/-- A patch that changes the ROM stores another byte in one place of it. -/
theorem rom_debugWrite (h : cartridge.WellFormed)
    (hchanged : (cartridge.debugWrite address value).rom ≠ cartridge.rom) :
    ∃ offset, offset < cartridge.rom.size ∧ cartridge.rom[offset]? ≠ some value ∧
      (cartridge.debugWrite address value).rom = cartridge.rom.setIfInBounds offset value := by
  rw [h.debugWrite_eq] at hchanged ⊢
  cases hcell : cartridge.physical? address with
  | none =>
      rw [hcell] at hchanged
      exact absurd rfl hchanged
  | some cell =>
      rw [hcell] at hchanged
      have hhas := h.has_of_physical? hcell
      cases cell with
      | ram offset => exact absurd rfl hchanged
      | rom offset =>
          refine ⟨offset, of_decide_eq_true hhas, ?_, rfl⟩
          intro hsame
          obtain rfl : cartridge.byteAt (.rom offset) = value :=
            Option.some.inj ((getElem?_rom hhas).symm.trans hsame)
          exact hchanged (congrArg Cartridge.rom (setByte_byteAt hhas))

end WellFormed

/-- A blank image is zero but for its type and its RAM size code. -/
theorem getD_blankImage {typeCode ramSizeCode : UInt8} {offset : Nat} (hin : offset < 0x8000)
    (htype : offset ≠ typeOffset) (hcode : offset ≠ ramSizeOffset) (blank : UInt8) :
    (blankImage typeCode ramSizeCode).getD offset blank = 0 := by
  rw [blankImage, Bytes.getD_set_of_ne hcode, Bytes.getD_set_of_ne htype,
    Array.getD_eq_getD_getElem?, Array.getElem?_replicate, if_pos hin, Option.getD_some]

end Cartridge

namespace Session

/-- **A right checksum seals an image.** The sum is the same whatever the checksum field holds, so storing it
there makes the checksum right. After that no byte can be replaced by another one and the checksum stay right,
the two of the field included. The same holds of a cartridge after any run: a patch that changes the ROM makes
a right checksum wrong, and the byte that was read there before makes it right again. An image that ends before
the field has no checksum, and none is right. -/
theorem sealed_image_tells_patches :
    (∀ image : Bytes, 0x150 ≤ image.size →
      let sum := (Checksum.compute image).toNat
      Checksum.verify (image.patch 0x14E [UInt8.ofNat (sum / 256), UInt8.ofNat (sum % 256)]) = true ∧
      ∀ high low, Checksum.compute (image.patch 0x14E [high, low]) = Checksum.compute image) ∧
    (∀ image : Bytes, Checksum.verify image = true → ∀ (offset : Nat) (value : UInt8),
      offset < image.size → image[offset]? ≠ some value →
        Checksum.verify (image.setIfInBounds offset value) = false) ∧
    (∀ image : Bytes, image.size < 0x150 → Checksum.verify image = false) ∧
    ∀ session, Reachable session → session.cartridge.verifyChecksum = true →
      ∀ (address : UInt16) (value : UInt8),
        let before := session.cartridge
        let patched := before.debugWrite address value
        patched.rom ≠ before.rom → patched.verifyChecksum = false ∧
          (patched.debugWrite address (before.read address)).verifyChecksum = true := by
  refine ⟨?_, ?_, fun _ hshort => Checksum.verify_of_short hshort, ?_⟩
  · intro image hfield sum
    exact ⟨Checksum.verify_stamp hfield, Checksum.compute_patch hfield⟩
  · intro image hright offset value hin hother
    exact Checksum.verify_set_of_ne hright hin hother
  · intro session hreachable hright address value before patched hchanged
    have hwf := hreachable.wellFormed
    obtain ⟨offset, hin, hne, hrom⟩ := hwf.rom_debugWrite hchanged
    constructor
    · show Checksum.verify patched.rom = false
      rw [hrom]
      exact Checksum.verify_set_of_ne hright hin hne
    · rw [hwf.debugWrite_undo]
      exact hright

/-- The blank MBC1 image, sealed and loaded: a patch in bank 1 breaks the seal and is taken back. -/
theorem sealed_image_tells_patches_blank :
    let image := Checksum.stamp (Cartridge.blankImage 0x03 0x02)
    ∃ loaded, Cartridge.Loaded (Disk.empty []) loaded ∧ loaded.rom = image ∧
      loaded.verifyChecksum = true ∧ loaded.read 0x4000 = 0 ∧
      (loaded.debugWrite 0x4000 7).verifyChecksum = false ∧
      ((loaded.debugWrite 0x4000 7).debugWrite 0x4000 0).verifyChecksum = true := by
  intro image
  have hblank : (Cartridge.blankImage 0x03 0x02).size = 0x8000 := Cartridge.size_blankImage 3 2
  have hsize : image.size = 0x8000 := (Checksum.size_stamp _).trans hblank
  have hcode : image.getD romSizeOffset 0 = 0 := by
    rw [Checksum.getD_stamp_of_ne (by decide) (by decide)]
    exact Cartridge.getD_blankImage (by decide) (by decide) (by decide) 0
  have hbanks : romBanks? (image.getD romSizeOffset 0) = some 2 := by
    rw [hcode]
    decide
  have hbank : romBankSize ≤ image.size := by
    rw [hsize]
    decide
  obtain ⟨header, hparse, htwo, -, -⟩ := Header.exists_parse hbank hbanks
  have hdeclared : header.romSize = image.size := by
    rw [Header.romSize, htwo, hsize]
    rfl
  obtain ⟨loaded, hload⟩ : ∃ loaded,
      (Cartridge.ofImage (Disk.empty []) image {}).value = .ok loaded :=
    ⟨_, Cartridge.value_load_lenient rfl hparse hdeclared.le (Disk.empty []) none⟩
  have hloaded : Cartridge.LoadedFrom (Disk.empty []) image loaded := .ofImage {} hload
  have hwf := hloaded.loaded.wellFormed
  obtain ⟨-, hpowerOn, -⟩ := hloaded.loaded.registers
  have hheader : loaded.header = header :=
    Except.ok.inj ((Cartridge.parse_of_load hload).1.symm.trans hparse)
  have hrom : loaded.rom = image := by
    rw [hloaded.rom_eq.1, hheader, hdeclared, Array.extract_size]
  obtain ⟨hseal, -, -, hpatch⟩ := sealed_image_tells_patches
  have hright : loaded.verifyChecksum = true := by
    show Checksum.verify loaded.rom = true
    rw [hrom]
    exact (hseal (Cartridge.blankImage 0x03 0x02) (by rw [hblank]; decide)).1
  have hcell : loaded.physical? 0x4000 = some (.rom 0x4000) := by
    simp [Cartridge.physical?, hpowerOn, Banks.powerOn, Banks.mapRom, hrom, hsize]
  have hbyte : loaded.byteAt (.rom 0x4000) = 0 := by
    rw [Cartridge.byteAt, hrom, Checksum.getD_stamp_of_ne (by decide) (by decide)]
    exact Cartridge.getD_blankImage (by decide) (by decide) (by decide) _
  have hzero : loaded.read 0x4000 = 0 := by
    rw [hwf.read_eq, hcell]
    exact hbyte
  have hchanged : (loaded.debugWrite 0x4000 7).rom ≠ loaded.rom := by
    intro hsame
    have hseven := hwf.byteAt_debugWrite 0x4000 7 (.rom 0x4000)
    rw [if_pos hcell, Cartridge.byteAt, hsame] at hseven
    exact absurd (hseven.symm.trans hbyte) (by decide)
  have hreachable : Reachable ⟨Disk.empty [], loaded⟩ :=
    ⟨Disk.empty [], loaded, [], hloaded.loaded, rfl⟩
  obtain ⟨hbroken, htaken⟩ := hpatch _ hreachable hright 0x4000 7 hchanged
  simp only [hzero] at htaken
  exact ⟨loaded, hloaded.loaded, hrom, hright, hzero, hbroken, htaken⟩

end Session

end GamePak
