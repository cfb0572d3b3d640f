import GamePak.Proofs.Session.Cpu
import GamePak.Proofs.Session.Invariant

/-!
# `Proofs.Session.Debugging` — a program does not notice the debugger

A debugger breaks in on a running program, notes the program's bank, remaps the window and patches bytes
as it likes, and puts the bank back. Two runs are compared: one with such sessions anywhere in it, and
the same one without them. They end in the same registers, and if nothing was patched in the same
cartridge, with the same bytes read on the way.

## Contents
- `DebugAction`, `Turn`: what a run with debugger sessions consists of.
- `Cartridge.debug`, `Cartridge.play`: one session, and a run with the bytes that the CPU reads.
- `Cartridge.Overridden`: the invariant inside a session; `Cartridge.registers_debug`.
- `Cartridge.registers_operate_congr`: a program's operations do not depend on memory.
- `Cartridge.registers_play`, `Cartridge.play_of_quiet`: the two runs.
- `Session.debugging_is_transparent`.
-/

namespace GamePak

/-! ## Runs with debugger sessions -/

/-- What a debugger does between noting the program's bank and putting it back. -/
inductive DebugAction where
  | saveMapping
  | mapRom (bank : UInt16)
  | debugWrite (address : UInt16) (value : UInt8)
  | read (address : UInt16)
  | mapInfo
deriving DecidableEq, Repr

/-- What happens next in a run: the CPU reads, or does something, or a debugger session takes place. -/
inductive Turn where
  | read (address : UInt16)
  | operate (operation : CpuOperation)
  | debug (actions : List DebugAction)
deriving DecidableEq, Repr

/-- Whether the turn is the program's own. -/
def Turn.isProgram : Turn → Bool
  | .debug _ => false
  | _ => true

/-- Whether the turn leaves memory to the program: no patch in it. -/
def Turn.IsQuiet : Turn → Prop
  | .debug actions => ∀ address value, DebugAction.debugWrite address value ∉ actions
  | _ => True

namespace Cartridge

/-- The cartridge after an action of the debugger. To look at a byte or at the mapping changes
nothing. -/
def act (cartridge : Cartridge) : DebugAction → Cartridge
  | .saveMapping => cartridge.saveMapping
  | .mapRom bank => cartridge.mapRom bank
  | .debugWrite address value => cartridge.debugWrite address value
  | .read _ => cartridge
  | .mapInfo => cartridge

/-- The cartridge after a debugger session. -/
def debug (cartridge : Cartridge) (actions : List DebugAction) : Cartridge :=
  (actions.foldl act cartridge.saveMapping).restoreMapping.value

/-- The cartridge after turns in order, and the bytes that the CPU read on the way. -/
def play (cartridge : Cartridge) : List Turn → Cartridge × List UInt8
  | [] => (cartridge, [])
  | .read address :: rest =>
    let last := cartridge.play rest
    (last.1, cartridge.read address :: last.2)
  | .operate operation :: rest => (cartridge.operate operation).play rest
  | .debug actions :: rest => (cartridge.debug actions).play rest

/-! ## Inside a session -/

/-- The cartridge is in a debugger session that broke in on `program`: the note holds the program's bank,
and with that bank mapped the windows are the program's. Without a controller nothing is noted and
nothing is remapped. -/
def Overridden (program cartridge : Cartridge) : Prop :=
  cartridge.controller = program.controller ∧
    if program.controller = .absent then
      cartridge.banks = program.banks ∧ cartridge.override = .idle
    else
      cartridge.override = .pending program.banks.romBank ∧
        cartridge.banks.mapRom program.banks.romBank = program.banks

variable {program cartridge other : Cartridge}

/-- Where the offset is that of the bank, mapping the mapped bank changes nothing. -/
theorem WellFormed.mapRom_romBank (h : program.WellFormed) :
    program.banks.mapRom program.banks.romBank = program.banks := by
  unfold Banks.mapRom
  rw [← h.romStart_eq]

theorem overridden_saveMapping (h : program.WellFormed) (hidle : program.override = .idle) :
    Overridden program program.saveMapping := by
  unfold saveMapping Overridden
  split
  · next hc =>
    rw [if_pos hc]
    exact ⟨rfl, rfl, hidle⟩
  · next hpending _ =>
    rw [hidle] at hpending
    cases hpending
  · next hpresent =>
    rw [if_neg hpresent]
    exact ⟨rfl, rfl, h.mapRom_romBank⟩

/-- No action of the debugger ends the session or changes what it will put back. -/
theorem Overridden.act (h : Overridden program cartridge) (action : DebugAction) :
    Overridden program (cartridge.act action) := by
  obtain ⟨hc, hslot⟩ := h
  cases action with
  | read _ => exact ⟨hc, hslot⟩
  | mapInfo => exact ⟨hc, hslot⟩
  | debugWrite address value =>
      have hsame := cartridge.registers_debugWrite address value
      simp only [registers, Prod.mk.injEq] at hsame
      obtain ⟨hc', hbanks, hoverride⟩ := hsame
      show Overridden program (cartridge.debugWrite address value)
      unfold Overridden
      rw [hc', hbanks, hoverride]
      exact ⟨hc, hslot⟩
  | saveMapping =>
      -- the first note stands, so a second one is not taken
      have hsame : cartridge.saveMapping = cartridge := by
        unfold saveMapping
        split
        · rfl
        · rfl
        · next hidle hpresent =>
          rw [if_neg (by rw [← hc]; exact hpresent)] at hslot
          rw [hslot.1] at hidle
          cases hidle
      show Overridden program cartridge.saveMapping
      rw [hsame]
      exact ⟨hc, hslot⟩
  | mapRom bank =>
      show Overridden program (cartridge.mapRom bank)
      unfold Cartridge.mapRom
      split
      · exact ⟨hc, hslot⟩
      · next hpresent =>
        have hprogram : program.controller ≠ .absent := by
          rw [← hc]
          exact hpresent
        unfold Overridden
        rw [if_neg hprogram] at hslot ⊢
        exact ⟨hc, hslot.1, hslot.2⟩

/-- The end of a session gives the program its registers back. -/
theorem Overridden.restoreMapping (h : Overridden program cartridge)
    (hidle : program.override = .idle) :
    cartridge.restoreMapping.value.registers = program.registers := by
  obtain ⟨hc, hslot⟩ := h
  unfold Cartridge.restoreMapping registers
  by_cases habsent : program.controller = .absent
  · rw [if_pos habsent] at hslot
    rw [hslot.2]
    show (cartridge.controller, cartridge.banks, cartridge.override) = _
    rw [hc, hslot.1, hslot.2, hidle]
  · rw [if_neg habsent] at hslot
    rw [hslot.1]
    show (cartridge.controller, cartridge.banks.mapRom program.banks.romBank, Override.idle) = _
    rw [hc, hslot.2, hidle]

/-- **A debugger session leaves the registers as it found them**, whatever was done in it. -/
theorem registers_debug (h : program.WellFormed) (hidle : program.override = .idle)
    (actions : List DebugAction) : (program.debug actions).registers = program.registers :=
  (List.foldlRecOn actions act (overridden_saveMapping h hidle)
    (fun _ hsession action _ => hsession.act action)).restoreMapping hidle

theorem WellFormed.act (h : cartridge.WellFormed) (action : DebugAction) :
    (cartridge.act action).WellFormed := by
  cases action with
  | saveMapping => exact h.saveMapping
  | mapRom bank => exact h.mapRom bank
  | debugWrite address value => exact h.debugWrite address value
  | read _ => exact h
  | mapInfo => exact h

theorem WellFormed.debug (h : cartridge.WellFormed) (actions : List DebugAction) :
    (cartridge.debug actions).WellFormed :=
  (List.foldlRecOn actions Cartridge.act h.saveMapping
    (fun _ hsession action _ => hsession.act action)).restoreMapping

theorem identity_act (cartridge : Cartridge) (action : DebugAction) :
    (cartridge.act action).identity = cartridge.identity := by
  cases action with
  | saveMapping => exact cartridge.identity_saveMapping
  | mapRom bank => exact cartridge.identity_mapRom bank
  | debugWrite address value => exact cartridge.identity_debugWrite address value
  | read _ => rfl
  | mapInfo => rfl

theorem memory_act (cartridge : Cartridge) {action : DebugAction}
    (hquiet : ∀ address value, DebugAction.debugWrite address value ≠ action) :
    (cartridge.act action).memory = cartridge.memory := by
  cases action with
  | saveMapping => exact cartridge.memory_saveMapping
  | mapRom bank => exact cartridge.memory_mapRom bank
  | debugWrite address value => exact absurd rfl (hquiet address value)
  | read _ => rfl
  | mapInfo => rfl

/-- **A session in which nothing was patched leaves no trace at all.** -/
theorem debug_of_quiet (h : program.WellFormed) (hidle : program.override = .idle)
    {actions : List DebugAction} (hquiet : (Turn.debug actions).IsQuiet) :
    program.debug actions = program := by
  have hmemory : (actions.foldl Cartridge.act program.saveMapping).memory = program.memory :=
    List.foldlRecOn (motive := fun later => later.memory = program.memory) actions Cartridge.act
      program.memory_saveMapping fun later hlater action hmem => by
        rw [later.memory_act fun address value heq => hquiet address value (heq ▸ hmem)]
        exact hlater
  have hidentity : (actions.foldl Cartridge.act program.saveMapping).identity = program.identity :=
    List.foldlRecOn (motive := fun later => later.identity = program.identity) actions Cartridge.act
      program.identity_saveMapping fun later hlater action _ => (later.identity_act action).trans hlater
  refine eq_of_parts (registers_debug h hidle actions) ?_ ?_
  · exact (memory_restoreMapping _).trans hmemory
  · exact (identity_restoreMapping _).trans hidentity

/-! ## Two runs -/

/-- What the program does to the registers depends on the registers alone. -/
theorem registers_operate_congr (h : cartridge.registers = other.registers)
    (operation : CpuOperation) :
    (cartridge.operate operation).registers = (other.operate operation).registers := by
  simp only [registers, Prod.mk.injEq] at h
  obtain ⟨hc, hbanks, hoverride⟩ := h
  cases operation with
  | reset =>
      show (cartridge.controller, cartridge.banks.mapRom 1, cartridge.override) = _
      rw [hc, hbanks, hoverride]
      rfl
  | write address value =>
      show (cartridge.apply address value _).registers = (other.apply address value _).registers
      rw [hc, hbanks]
      unfold registers
      rw [override_apply, override_apply, hoverride]
      cases other.controller.decode other.banks address value with
      | store =>
          rw [banks_apply_store, banks_apply_store, controller_apply_store, controller_apply_store,
            hc, hbanks]
      | nothing => simp only [apply, hc, hbanks]
      | enableRam _ => simp only [apply, hc, hbanks]
      | mapRom _ => simp only [apply, hc, hbanks]
      | mapRam _ => simp only [apply, hc, hbanks]
      | setLargeRam _ => simp only [apply, hbanks]

theorem WellFormed.operate (h : cartridge.WellFormed) (operation : CpuOperation) :
    (cartridge.operate operation).WellFormed := by
  cases operation with
  | write address value => exact h.write address value
  | reset => exact h.reset

/-- The program never touches the debugger's note. -/
theorem override_operate (cartridge : Cartridge) (operation : CpuOperation) :
    (cartridge.operate operation).override = cartridge.override := by
  cases operation with
  | write address value => exact override_apply _ _ _ _
  | reset => rfl

/-- **The two runs go through the same registers**, from registers that are the same. -/
theorem registers_play (turns : List Turn) {debugged plain : Cartridge}
    (hdebugged : debugged.WellFormed) (hidle : debugged.override = .idle)
    (hsame : debugged.registers = plain.registers) :
    (debugged.play turns).1.registers = (plain.play (turns.filter Turn.isProgram)).1.registers ∧
      (debugged.play turns).1.override = .idle := by
  -- the two cartridges may differ in memory, so only their registers are carried along
  induction turns generalizing debugged plain with
  | nil => exact ⟨hsame, hidle⟩
  | cons turn rest ih =>
      cases turn with
      | read address => exact ih hdebugged hidle hsame
      | operate operation =>
          exact ih (hdebugged.operate operation)
            ((debugged.override_operate operation).trans hidle)
            (registers_operate_congr hsame operation)
      | debug actions =>
          have hregisters := registers_debug hdebugged hidle actions
          have hidle' : (debugged.debug actions).override = .idle :=
            (congrArg (fun registers => registers.2.2) hregisters).trans hidle
          exact ih (hdebugged.debug actions) hidle' (hregisters.trans hsame)

/-- Where nothing is patched the two runs are the same run. -/
theorem play_of_quiet (turns : List Turn) (h : cartridge.WellFormed)
    (hidle : cartridge.override = .idle) (hquiet : ∀ turn ∈ turns, turn.IsQuiet) :
    cartridge.play turns = cartridge.play (turns.filter Turn.isProgram) := by
  induction turns generalizing cartridge with
  | nil => rfl
  | cons turn rest ih =>
      have hrest : ∀ turn ∈ rest, turn.IsQuiet :=
        fun turn hmem => hquiet turn (List.mem_cons_of_mem _ hmem)
      cases turn with
      | read address =>
          show ((cartridge.play rest).1, cartridge.read address :: (cartridge.play rest).2) = _
          rw [ih h hidle hrest]
          rfl
      | operate operation =>
          exact ih (h.operate operation) ((cartridge.override_operate operation).trans hidle) hrest
      | debug actions =>
          show (cartridge.debug actions).play rest = _
          rw [debug_of_quiet h hidle (hquiet _ List.mem_cons_self)]
          exact ih h hidle hrest

end Cartridge

/-- **Debugger sessions are transparent.** From any reachable cartridge that no debugger holds, a run
with sessions anywhere in it ends with the banks, offsets, latches and note of the run without them; and
if no session patched anything, with the same ROM and RAM, the CPU having read the same bytes. -/
theorem Session.debugging_is_transparent {session : Session} (h : session.Reachable)
    (hidle : session.cartridge.override = .idle) (turns : List Turn) :
    let debugged := session.cartridge.play turns
    let plain := session.cartridge.play (turns.filter Turn.isProgram)
    (debugged.1.banks = plain.1.banks ∧ debugged.1.controller = plain.1.controller ∧
      debugged.1.override = .idle ∧ plain.1.override = .idle) ∧
    ((∀ turn ∈ turns, turn.IsQuiet) →
      debugged.1.rom = plain.1.rom ∧ debugged.1.ram = plain.1.ram ∧ debugged.2 = plain.2) := by
  intro debugged plain
  obtain ⟨hregisters, hidle'⟩ := Cartridge.registers_play turns h.wellFormed hidle rfl
  have hparts : debugged.1.registers = plain.1.registers := hregisters
  simp only [Cartridge.registers, Prod.mk.injEq] at hparts
  obtain ⟨hcontroller, hbanks, hoverride⟩ := hparts
  refine ⟨⟨hbanks, hcontroller, hidle', hoverride.symm.trans hidle'⟩, ?_⟩
  intro hquiet
  have hsame : debugged = plain := Cartridge.play_of_quiet turns h.wellFormed hidle hquiet
  rw [hsame]
  exact ⟨rfl, rfl, rfl⟩

/-- The blank MBC1 cartridge, with a session that looks at three banks in the middle of a program. -/
theorem Session.debugging_is_transparent_blank :
    ∃ loaded, Cartridge.Loaded (Disk.empty []) loaded ∧ loaded.override = .idle ∧
      let turns : List Turn := [.operate (.write 0x2000 5), .read 0x4000,
        .debug [.mapRom 0xFFFF, .read 0x4000, .saveMapping, .mapRom 0, .mapInfo, .mapRom 2],
        .operate (.write 0x4000 1), .read 0x7FFF, .operate .reset]
      let debugged := loaded.play turns
      let plain := loaded.play (turns.filter Turn.isProgram)
      debugged.1.banks = plain.1.banks ∧ debugged.1.override = .idle ∧ debugged.2 = plain.2 := by
  obtain ⟨loaded, hload, -⟩ :=
    Cartridge.exists_load_blankImage (Disk.empty []) 0x03 0x03 none
  have hloaded : Cartridge.Loaded (Disk.empty []) loaded := .ofImage _ {} hload
  have hidle := hloaded.registers.2.2
  have hreachable : Session.Reachable ⟨Disk.empty [], loaded⟩ := ⟨_, loaded, [], hloaded, rfl⟩
  have hrun := Session.debugging_is_transparent hreachable hidle
    [.operate (.write 0x2000 5), .read 0x4000,
      .debug [.mapRom 0xFFFF, .read 0x4000, .saveMapping, .mapRom 0, .mapInfo, .mapRom 2],
      .operate (.write 0x4000 1), .read 0x7FFF, .operate .reset]
  have hquiet := hrun.2 (by simp [Turn.IsQuiet])
  exact ⟨loaded, hloaded, hidle, hrun.1.1, hrun.1.2.2.1, hquiet.2.2⟩

end GamePak
