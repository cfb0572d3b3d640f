import GamePak.CommandLine.Value
import GamePak.Text.Terminal

/-!
# `GamePak.CommandLine.Usage` — arguments that make no command

## Contents
- `Parameter`: what a value on the command line is for, with its label.
- `UsageError`: why the arguments make no command, or that only help is asked for.
- `programName`, `usageLine`: what a request for the version or for help is told.
- `UsageError.styledMessage`, `UsageError.message`: its wording, with styles and without.
-/

namespace GamePak

/-- What a value on the command line is for. -/
inductive Parameter where
  | rom
  | address
  | bank
  | length
deriving DecidableEq, Repr

/-- How a parameter is shown in messages. -/
def Parameter.label : Parameter → String
  | .rom => "<ROM>"
  | .address => "<ADDR>"
  | .bank => "--bank <BANK>"
  | .length => "--len <LEN>"

/-- Why the arguments make no command. -/
inductive UsageError where
  | helpRequested
  | versionRequested
  /-- No command is given. -/
  | noCommand
  | unknownCommand
  /-- An option that the command does not have, or a value too many. -/
  | unknownArgument
  | missingArgument
  /-- An option that is given twice. -/
  | repeatedOption
  /-- An option without its value. -/
  | missingValue
  /-- A value for an option that takes none. -/
  | unexpectedValue
  | emptyPath
  | invalidValue (parameter : Parameter) (text : List Char) (fault : ValueFault)
deriving DecidableEq, Repr

/-- The name that the program gives itself. -/
def programName : String := "gamepak"

/-- How the program is called. -/
def usageLine : String :=
  s!"usage: {programName} info|verify|peek|sram ROM [ADDR] [--bank BANK] [--len LEN]"

/-- What is said of the arguments, with the refused text and the parameter in styles of their
own. -/
def UsageError.complaint : UsageError → List Char
  | .helpRequested => "help is requested".toList
  | .versionRequested => "the version is requested".toList
  | .noCommand => "a command is required: info, verify, peek or sram".toList
  | .unknownCommand => "unrecognized command".toList
  | .unknownArgument => "unexpected argument".toList
  | .missingArgument => "a required argument is missing".toList
  | .repeatedOption => "an option cannot be used twice".toList
  | .missingValue => "an option needs a value".toList
  | .unexpectedValue => "this option takes no value".toList
  | .emptyPath => "a ROM path cannot be empty".toList
  | .invalidValue parameter text fault =>
    "invalid value '".toList ++ Terminal.styled Terminal.doubtful text ++ "' for '".toList ++
      Terminal.styled Terminal.bold parameter.label.toList ++ "': ".toList ++ fault.message.toList

/-- What follows every complaint. -/
def helpHint : List Char :=
  "\n\nFor more information, try '".toList ++ Terminal.styled Terminal.bold "--help".toList ++
    "'.\n".toList

/-- A usage error as a terminal is sent it. -/
def UsageError.styledMessage (error : UsageError) : List Char :=
  Terminal.styled Terminal.alarming "error:".toList ++ " ".toList ++ error.complaint ++ helpHint

/-- A usage error in plain text. A control sequence in a refused text is not seen, and neither is
what it takes in of the message after it. -/
def UsageError.message (error : UsageError) : String :=
  String.ofList (Terminal.plain error.styledMessage)

end GamePak
