/-!
# `GamePak.Text.Terminal` — text with control sequences

A terminal takes some of the characters sent to it as orders: an escape character and what follows
it up to the end of the sequence, and the other control characters. A message that is put together
from styled parts holds such sequences, and a text quoted in it may hold more. What a reader without
a terminal is to see are the other characters.

## Contents
- `Terminal.State`, `Terminal.follow`: how far into a sequence a text is, after one more character.
- `Terminal.shows`: whether a character is seen.
- `Terminal.plain`: the characters of a text that are seen (`Terminal.plain_eq_self`).
- `Terminal.styled`: a text between the sequences that turn a style on and off.
-/

namespace GamePak.Terminal

/-- How far into a control sequence a text is. -/
inductive State where
  /-- In no sequence. -/
  | ground
  /-- After an escape character. -/
  | escape
  /-- After an escape character and intermediate characters. -/
  | escapeIntermediate
  /-- In a control sequence, which `[` begins. -/
  | control
  /-- At the start of a device control string, which `P` begins. -/
  | deviceEntry
  /-- In the parameters of a device control string. -/
  | deviceParameters
  /-- In the intermediate characters of a device control string. -/
  | deviceIntermediate
  /-- In an operating system command, which `]` begins. -/
  | command
  /-- In the body of any other string. -/
  | string
deriving DecidableEq, Repr

/-! ## Characters by their part in a sequence -/

/-- The control characters that move the cursor on: they are white space. -/
def isBlank (c : Char) : Bool :=
  c == '\t' || c == '\n' || c == '\x0c' || c == '\r'

/-- Whether a character is in the range from `first` to `last`. -/
def within (first last : Char) (c : Char) : Bool :=
  first ≤ c && c ≤ last

/-- Intermediate characters stand between an introduction and the end of a sequence. -/
def isIntermediate : Char → Bool :=
  within ' ' '/'

/-- Digits, colon and semicolon make up parameters. -/
def isParameter : Char → Bool :=
  within '0' ';'

/-- The signs that mark a private parameter. -/
def isPrivate : Char → Bool :=
  within '<' '?'

/-- A control sequence ends with one of these. -/
def isFinal : Char → Bool :=
  within '@' '~'

/-- The byte that ends a string, among those of a character's encoding. -/
def holdsTerminator (c : Char) : Bool :=
  (String.utf8EncodeChar c).contains 0x9C

/-! ## Following a sequence -/

/-- The state after an escape character and `c`. -/
def afterEscape (c : Char) : State :=
  if isIntermediate c then .escapeIntermediate
  else if c == '[' then .control
  else if c == ']' then .command
  else if c == 'P' then .deviceEntry
  else if c == 'X' || c == '^' || c == '_' then .string
  else if within '0' '~' c then .ground
  else .escape

/-- The state after the head of a device control string and `c`: `parameters` is the state while
parameters come, and `isMore` tells which characters belong to them. -/
def afterDevice (state : State) (isMore : Char → Bool) (parameters : State) (c : Char) : State :=
  if isIntermediate c then .deviceIntermediate
  else if isMore c then parameters
  else if within '0' '~' c then .string
  else state

/-- Whether a character is seen. In a sequence only white space is; in a string nothing is. -/
def shows (state : State) (c : Char) : Bool :=
  match state with
  | .ground => isBlank c || (' ' ≤ c && c != '\x7f')
  | .escape | .escapeIntermediate | .control => isBlank c
  | _ => false

/-- The state after one more character. A character that is seen ends the sequence that it breaks
into, two control characters cancel any sequence, and an escape character begins another. -/
def follow (state : State) (c : Char) : State :=
  if c == '\x18' || c == '\x1a' then .ground
  else if c == '\x1b' then .escape
  else if shows state c then .ground
  else
    match state with
    | .ground => .ground
    | .escape => afterEscape c
    | .escapeIntermediate => if within '0' '~' c then .ground else .escapeIntermediate
    | .control => if isFinal c then .ground else .control
    | .deviceEntry =>
      afterDevice .deviceEntry (fun c => isParameter c || isPrivate c) .deviceParameters c
    | .deviceParameters => afterDevice .deviceParameters isParameter .deviceParameters c
    | .deviceIntermediate =>
      afterDevice .deviceIntermediate (fun _ => false) .deviceIntermediate c
    | .command => if c == '\x07' then .ground else .command
    | .string => if holdsTerminator c then .ground else .string

/-- The characters of a text that are seen, from a state on. -/
def plainFrom (state : State) : List Char → List Char
  | [] => []
  | c :: rest =>
    if shows state c then c :: plainFrom (follow state c) rest else plainFrom (follow state c) rest

/-- The characters of a text that are seen. -/
def plain (text : List Char) : List Char :=
  plainFrom .ground text

/-- A character that is seen leads back to the ground state. -/
theorem follow_of_shows {state : State} {c : Char} (h : shows state c = true) :
    follow state c = .ground := by
  have hne : c ≠ '\x1b' := by
    rintro rfl
    cases state <;> simp [shows, isBlank] at h
  simp [follow, h, hne]

/-- A text of characters that are all seen is its own plain text. -/
theorem plain_eq_self {text : List Char} (h : ∀ c ∈ text, shows .ground c = true) :
    plain text = text := by
  induction text with
  | nil => rfl
  | cons c rest ih =>
    have hc := h c (List.mem_cons_self)
    have hr := ih fun d hd => h d (List.mem_cons_of_mem c hd)
    simp only [plain, plainFrom, hc, if_true, follow_of_shows hc]
    exact congrArg (c :: ·) hr

/-! ## Styles -/

/-- The beginning of a control sequence. -/
def introducer : List Char := ['\x1b', '[']

/-- The sequence that turns styles off. It also ends whatever sequence the text before it is in. -/
def reset : List Char := introducer ++ ['0', 'm']

/-- A text in the style that the parameters name. -/
def styled (parameters : List Char) (text : List Char) : List Char :=
  introducer ++ parameters ++ ['m'] ++ text ++ reset

/-- The parameters of bold text. -/
def bold : List Char := ['1']

/-- The parameters of bright red, bold text. -/
def alarming : List Char := ['1', ';', '9', '1']

/-- The parameters of yellow text. -/
def doubtful : List Char := ['3', '3']

end GamePak.Terminal
