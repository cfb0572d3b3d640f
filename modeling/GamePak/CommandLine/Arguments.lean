import GamePak.CommandLine.Command
import GamePak.CommandLine.Item
import GamePak.CommandLine.Usage

/-!
# `GamePak.CommandLine.Arguments` — from arguments to a command

The first argument names the command; the rest are its values and options, in any order of the two.
A value is looked at when the next argument has been taken, so that an argument which cannot be
there at all is reported before a value that cannot be read. A request for help comes after it.

## Contents
- `Form`: the parameters read so far.
- `Reading`: a form, the value still to be looked at and the values still to come.
- `Reading.take`, `Reading.takeAll`: the arguments of a command.
- `CommandName`, and `Command.parse`: a whole command line.
-/

namespace GamePak

/-! ## Parameters -/

/-- The parameters read so far. -/
structure Form where
  rom : Option Path := none
  address : Option UInt16 := none
  bank : Option UInt16 := none
  length : Option UInt16 := none
deriving DecidableEq, Repr

namespace Form

/-- Whether a parameter has been read. -/
def has (form : Form) : Parameter → Bool
  | .rom => form.rom.isSome
  | .address => form.address.isSome
  | .bank => form.bank.isSome
  | .length => form.length.isSome

/-- The form with one more parameter, read from its text. -/
def fill (form : Form) (parameter : Parameter) (text : List Char) : Except UsageError Form :=
  let refuse := Except.mapError (UsageError.invalidValue parameter text)
  if form.has parameter then .error .repeatedOption
  else
    match parameter with
    | .rom => if text = [] then .error .emptyPath else .ok { form with rom := some ⟨text⟩ }
    | .address => do
      let word ← refuse (Value.readHexWord text)
      .ok { form with address := some word }
    | .bank => do
      let word ← refuse (Value.readHexWord text)
      .ok { form with bank := some word }
    | .length => do
      let word ← refuse (Value.readLength text)
      .ok { form with length := some word }

end Form

/-! ## Command names -/

/-- The commands by name. -/
inductive CommandName where
  | info
  | verify
  | peek
  | sram
deriving DecidableEq, Repr

namespace CommandName

/-- The command that a word names. -/
def ofWord : List Char → Option CommandName
  | ['i', 'n', 'f', 'o'] => some .info
  | ['v', 'e', 'r', 'i', 'f', 'y'] => some .verify
  | ['p', 'e', 'e', 'k'] => some .peek
  | ['s', 'r', 'a', 'm'] => some .sram
  | _ => none

/-- The values that a command takes without an option, in order. All are required. -/
def positionals : CommandName → List Parameter
  | .peek => [.rom, .address]
  | _ => [.rom]

/-- The parameter that an option of a command is for. -/
def optionNamed : CommandName → List Char → Option Parameter
  | .peek, ['b', 'a', 'n', 'k'] => some .bank
  | .peek, ['l', 'e', 'n'] => some .length
  | _, _ => none

end CommandName

/-- The word that asks for help. -/
def helpWord : List Char := ['h', 'e', 'l', 'p']

/-- The word that asks for the version. -/
def versionWord : List Char := ['v', 'e', 'r', 's', 'i', 'o', 'n']

/-! ## The arguments of a command -/

/-- A parameter whose text has not been looked at, or has not even come yet. -/
structure Pending where
  parameter : Parameter
  text : Option (List Char)
deriving DecidableEq, Repr

/-- How far the arguments of a command have been read. -/
structure Reading where
  command : CommandName
  form : Form
  pending : Option Pending
  positionals : List Parameter
deriving DecidableEq, Repr

namespace Reading

/-- Nothing read yet. -/
def start (command : CommandName) : Reading :=
  ⟨command, {}, none, command.positionals⟩

/-- Looks at the pending value. -/
def resolve (reading : Reading) : Except UsageError Reading :=
  match reading.pending with
  | none => .ok reading
  | some ⟨_, none⟩ => .error .missingValue
  | some ⟨parameter, some text⟩ => do
    let form ← reading.form.fill parameter text
    .ok { reading with form := form, pending := none }

/-- Takes a value that belongs to no option. -/
def takePositional (reading : Reading) (text : List Char) : Except UsageError Reading :=
  match reading.positionals with
  | [] => .error .unknownArgument
  | parameter :: rest => do
    let reading ← reading.resolve
    .ok { reading with pending := some ⟨parameter, some text⟩, positionals := rest }

/-- Takes an option by name. A value after an equals sign is looked at at once. -/
def takeOption (reading : Reading) (name : List Char) (value : Option (List Char)) :
    Except UsageError Reading :=
  match reading.command.optionNamed name, value with
  | some parameter, none => do
    let reading ← reading.resolve
    .ok { reading with pending := some ⟨parameter, none⟩ }
  | some parameter, some text => do
    let reading ← reading.resolve
    let form ← reading.form.fill parameter text
    .ok { reading with form := form }
  | none, none =>
    if name = helpWord then do
      let _ ← reading.resolve
      .error .helpRequested
    else .error .unknownArgument
  | none, some _ => .error (if name = helpWord then .unexpectedValue else .unknownArgument)

/-- Takes option letters: `h` asks for help, and there is no other. -/
def takeLetters (reading : Reading) (letters : List Char) : Except UsageError Reading :=
  if letters.head? = some 'h' then do
    let _ ← reading.resolve
    .error .helpRequested
  else .error .unknownArgument

/-- Takes a value: that of the option before it, or one of the command's own. -/
def takeValue (reading : Reading) (text : List Char) : Except UsageError Reading :=
  match reading.pending with
  | some ⟨parameter, none⟩ => .ok { reading with pending := some ⟨parameter, some text⟩ }
  | _ => reading.takePositional text

/-- Takes the arguments of a command in order. -/
def takeAll (reading : Reading) : List (List Char) → Except UsageError Reading
  | [] => reading.resolve
  | text :: rest =>
    match Item.ofText text with
    | .terminator => do
      let reading ← rest.foldlM takePositional reading
      reading.resolve
    | .option name value => do (← reading.takeOption name value).takeAll rest
    | .letters letters => do (← reading.takeLetters letters).takeAll rest
    | .value text => do (← reading.takeValue text).takeAll rest

/-- The command, when all arguments have been taken. -/
def finish (reading : Reading) : Except UsageError Command :=
  match reading.command, reading.form.rom, reading.form.address with
  | .info, some rom, _ => .ok (.info rom)
  | .verify, some rom, _ => .ok (.verify rom)
  | .sram, some rom, _ => .ok (.sram rom)
  | .peek, some rom, some address =>
    .ok (.peek rom address reading.form.bank (reading.form.length.getD Command.defaultLength))
  | _, _, _ => .error .missingArgument

end Reading

/-! ## The whole command line -/

namespace Command

/-- What is said to a request for help about the given words: it knows every command, and commands
have no words of their own. -/
def helpAbout : List (List Char) → UsageError
  | [] => .helpRequested
  | [word] =>
    if (CommandName.ofWord word).isSome ∨ word = helpWord then .helpRequested else .unknownCommand
  | _ => .unknownCommand

/-- What is said to a word that comes where a command should, after the options were ended. -/
def afterTerminator : List (List Char) → UsageError
  | [] => .noCommand
  | word :: _ =>
    if (CommandName.ofWord word).isSome ∨ word = helpWord then .unknownArgument else .unknownCommand

/-- What is said to an argument that names no command. -/
def insteadOfCommand : Item → UsageError
  | .option name value =>
    if name = helpWord ∨ name = versionWord then
      if value.isSome then .unexpectedValue
      else if name = helpWord then .helpRequested
      else .versionRequested
    else .unknownArgument
  | .letters ('h' :: _) => .helpRequested
  | .letters ('V' :: _) => .versionRequested
  | .letters _ => .unknownArgument
  | _ => .unknownCommand

/-- The command that the arguments ask for. -/
def parse : List (List Char) → Except UsageError Command
  | [] => .error .noCommand
  | word :: rest =>
    match CommandName.ofWord word with
    | some name => do ((← (Reading.start name).takeAll rest)).finish
    | none =>
      if word = helpWord then .error (helpAbout rest)
      else
        match Item.ofText word with
        | .terminator => .error (afterTerminator rest)
        | item => .error (insteadOfCommand item)

end Command

end GamePak
