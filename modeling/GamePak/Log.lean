import GamePak.CartridgeType
import GamePak.Error

/-!
# `GamePak.Log` — what is reported while working

Loading, saving and bank switching report events. An event is data; its level and wording are
functions of it. Work that reports is a value together with its events in order.

## Contents
- `Level`, `Event` with `Event.level` and `Event.text`.
- `Logged`: a value and the events on the way to it, with its monad laws as `simp` lemmas.
-/

namespace GamePak

/-- How serious an event is. -/
inductive Level where
  | debug
  | info
  | warning
  | error
deriving DecidableEq, Repr

/-- Something worth reporting. -/
inductive Event where
  | loadingRom (rom : Path)
  | trailingBytes (extra banks : Nat)
  | badChecksum (stored computed : UInt16)
  | romLoaded (banks : Nat) (type : CartridgeType)
  | typeUnsupported (code : UInt8)
  | saveRead (save : Path)
  | saveNotRead (cause : PersistError)
  | saveWritten (save : Path)
  | saveNotWritten (cause : PersistError)
  | ramBankSelected (bank : Nat)
  | mappingForced (bank : Nat)
  | mappingRestored (bank : Nat)
deriving DecidableEq, Repr

namespace Event

/-- The level of an event. -/
def level : Event → Level
  | .loadingRom _ => .info
  | .trailingBytes _ _ => .warning
  | .badChecksum _ _ => .warning
  | .romLoaded _ _ => .info
  | .typeUnsupported _ => .warning
  | .saveRead _ => .info
  | .saveNotRead _ => .warning
  | .saveWritten _ => .info
  | .saveNotWritten _ => .error
  | .ramBankSelected _ => .debug
  | .mappingForced _ => .info
  | .mappingRestored _ => .info

/-- The wording of an event. -/
def text : Event → String
  | .loadingRom rom => s!"Loading ROM '{rom}'"
  | .trailingBytes extra banks =>
    s!"ROM image has {extra} trailing bytes beyond the {banks} declared banks; ignoring them"
  | .badChecksum stored computed =>
    s!"This cartridge has an invalid checksum (stored ${hex 4 stored.toNat}, " ++
      s!"computed ${hex 4 computed.toNat}). It may not execute correctly."
  | .romLoaded banks type => s!"Loaded ROM: {banks} banks, {banks * 16}Kb. Type: {type.name}"
  | .typeUnsupported code =>
    s!"Cartridge type ${hex 2 code.toNat} is not supported; bank switching disabled"
  | .saveRead save => s!"Read SRAM from '{save}'"
  | .saveNotRead cause => s!"Error loading battery RAM: {cause}"
  | .saveWritten save => s!"Written SRAM to '{save}'"
  | .saveNotWritten cause => s!"Error saving battery RAM: {cause}"
  | .ramBankSelected bank => s!"MBC1: RAM bank {bank} selected"
  | .mappingForced bank => s!"Mapping ROM bank {hex 2 bank} to 4000 - 7FFF"
  | .mappingRestored bank => s!"ROM mapping restored to bank {hex 2 bank}"

end Event

/-! ## Work that reports -/

/-- A value and what was reported on the way to it. -/
@[ext] structure Logged (α : Type) where
  value : α
  events : List Event
deriving DecidableEq, Repr

namespace Logged

instance : Monad Logged where
  pure a := ⟨a, []⟩
  bind x f :=
    let y := f x.value
    ⟨y.value, x.events ++ y.events⟩

/-- Reports one event. -/
def report (event : Event) : Logged Unit := ⟨(), [event]⟩

variable {α β : Type}

@[simp] theorem value_pure (a : α) : (pure a : Logged α).value = a := rfl

@[simp] theorem events_pure (a : α) : (pure a : Logged α).events = [] := rfl

@[simp] theorem value_bind (x : Logged α) (f : α → Logged β) :
    (x >>= f).value = (f x.value).value := rfl

@[simp] theorem events_bind (x : Logged α) (f : α → Logged β) :
    (x >>= f).events = x.events ++ (f x.value).events := rfl

@[simp] theorem value_map (g : α → β) (x : Logged α) : (g <$> x).value = g x.value := rfl

@[simp] theorem events_map (g : α → β) (x : Logged α) : (g <$> x).events = x.events :=
  List.append_nil x.events

/-- Reports come in the order of the work, however the work is grouped. -/
instance : LawfulMonad Logged :=
  LawfulMonad.mk' Logged
    (fun x => Logged.ext rfl (List.append_nil x.events))
    (fun _ _ => rfl)
    (fun x f g => Logged.ext rfl (List.append_assoc x.events _ _))

@[simp] theorem value_report (event : Event) : (report event).value = () := rfl

@[simp] theorem events_report (event : Event) : (report event).events = [event] := rfl

end Logged

end GamePak
