import GamePak.CommandLine.Arguments
import GamePak.Proofs.CommandLine.Value

/-!
# `Proofs.CommandLine.Arguments` — one dump, written in many ways

The parameters of a dump can be written in many orders, and its options in two spellings. A value is looked at
only when the next argument has been taken, so the form lags behind what has been written; the invariant
`Reading.Awaits` therefore speaks of the form that is there once the pending value has been looked at. Taking
one group of arguments moves the invariant on by one group, whatever kind of group it is, and from that the
order and the spellings drop out.

## Contents
- `ArgumentGroup`, `PeekLine`: what is written; `ArgumentGroup.Gives`, `PeekLine.Writes`: what it stands for.
- `Form.without`, `Form.fill_without`: a form that lacks what is still to come.
- `Reading.Awaits`; `Reading.takeAll_group` for one group; `Reading.takeAll_groups` and `Reading.foldlM_groups`
  for a run of them.
- `peek_however_written`.
-/

namespace GamePak

/-! ## What is written -/

/-- The option that gives a parameter. The other parameters are known by their place. -/
def Parameter.option? : Parameter → Option (List Char)
  | .bank => some ['b', 'a', 'n', 'k']
  | .length => some ['l', 'e', 'n']
  | _ => none

/-- A parameter as it is written. -/
structure ArgumentGroup where
  parameter : Parameter
  text : List Char
  /-- Whether an option has its value after an equals sign. -/
  attached : Bool
deriving DecidableEq, Repr

namespace ArgumentGroup

/-- The arguments of a group. -/
def words (group : ArgumentGroup) : List (List Char) :=
  match group.parameter.option? with
  | none => [group.text]
  | some name =>
    if group.attached then ['-' :: '-' :: (name ++ '=' :: group.text)]
    else ['-' :: '-' :: name, group.text]

/-- What a group stands for is in the form: a text that is no empty path, a word in hexadecimal, or a length in
decimal. -/
def Gives (group : ArgumentGroup) (form : Form) : Prop :=
  match group.parameter with
  | .rom => group.text ≠ [] ∧ form.rom = some ⟨group.text⟩
  | .address => ∃ word, Value.readHexWord group.text = .ok word ∧ form.address = some word
  | .bank => ∃ word, Value.readHexWord group.text = .ok word ∧ form.bank = some word
  | .length =>
    group.text ≠ [] ∧ (∀ c ∈ group.text, c.isDigit = true) ∧
      Nat.ofDigitChars 10 group.text 0 ≤ 65535 ∧
      form.length = some (UInt16.ofNat (Nat.ofDigitChars 10 group.text 0))

end ArgumentGroup

/-- The parameters of a list of groups, in order. -/
def ArgumentGroup.parameters (groups : List ArgumentGroup) : List Parameter :=
  groups.map (·.parameter)

/-- A command line for a dump: groups, and more of them after two hyphens if these are there. -/
structure PeekLine where
  front : List ArgumentGroup
  back : Option (List ArgumentGroup)

namespace PeekLine

def groups (line : PeekLine) : List ArgumentGroup :=
  line.front ++ line.back.getD []

/-- The arguments of a command line. -/
def arguments (line : PeekLine) : List (List Char) :=
  ['p', 'e', 'e', 'k'] :: (line.front.flatMap ArgumentGroup.words ++
    match line.back with
    | none => []
    | some back => ['-', '-'] :: back.flatMap ArgumentGroup.words)

/-- A command line that writes every parameter of a form once, the ROM file before the address and the options
anywhere. -/
structure Writes (line : PeekLine) (form : Form) : Prop where
  gives : ∀ group ∈ line.groups, group.Gives form
  nodup : (ArgumentGroup.parameters line.groups).Nodup
  complete : ∀ parameter, form.has parameter = true → parameter ∈ ArgumentGroup.parameters line.groups
  ordered : (ArgumentGroup.parameters line.groups).filter (·.option?.isNone) = [.rom, .address]
  /-- Two hyphens end the options. -/
  ended : ∀ back, line.back = some back → ∀ group ∈ back, group.parameter.option? = none
  /-- Before them a hyphen would make an option of the ROM file. -/
  unhyphened : ∀ group ∈ line.front, group.parameter = .rom → group.text.head? ≠ some '-'

end PeekLine

/-! ## Forms with parameters to come -/

namespace Form

variable {form : Form}

/-- The form without some of its parameters. -/
def without (form : Form) (parameters : List Parameter) : Form where
  rom := if .rom ∈ parameters then none else form.rom
  address := if .address ∈ parameters then none else form.address
  bank := if .bank ∈ parameters then none else form.bank
  length := if .length ∈ parameters then none else form.length

@[simp] theorem without_nil (form : Form) : form.without [] = form := by
  simp [without]

/-- Where every parameter that the form has is still to come, nothing is there yet. -/
theorem without_of_complete {parameters : List Parameter}
    (h : ∀ parameter, form.has parameter = true → parameter ∈ parameters) :
    form.without parameters = {} := by
  have hcleared : ∀ {α : Type} {parameter : Parameter} {value : Option α},
      (value.isSome = true → parameter ∈ parameters) →
      (if parameter ∈ parameters then none else value) = none := by
    intro α parameter value hvalue
    by_cases hmem : parameter ∈ parameters
    · rw [if_pos hmem]
    · rw [if_neg hmem]
      exact Option.not_isSome_iff_eq_none.1 (mt hvalue hmem)
  unfold without
  rw [hcleared (h .rom), hcleared (h .address), hcleared (h .bank), hcleared (h .length)]

theorem not_has_without_cons (form : Form) (parameter : Parameter) (rest : List Parameter) :
    ¬ (form.without (parameter :: rest)).has parameter := by
  cases parameter <;> simp [without, has]

/-- A parameter that comes fills the one place that was kept for it. -/
theorem fill_without {group : ArgumentGroup} {rest : List Parameter} (h : group.Gives form)
    (hnew : group.parameter ∉ rest) :
    (form.without (group.parameter :: rest)).fill group.parameter group.text = .ok (form.without rest) := by
  obtain ⟨parameter, text, attached⟩ := group
  have hfree := form.not_has_without_cons parameter rest
  cases parameter with
  | rom =>
      obtain ⟨hne, hrom⟩ := h
      have hne : text ≠ [] := hne
      simp only at hnew hrom ⊢
      rw [fill, if_neg hfree]
      simp only [if_neg hne]
      simp [without, hnew, hrom]
  | address =>
      obtain ⟨word, hread, haddress⟩ := h
      simp only at hnew hread ⊢
      rw [fill, if_neg hfree]
      simp only [hread]
      show Except.ok ({ form.without (.address :: rest) with address := some _ } : Form) =
        .ok (form.without rest)
      simp [without, hnew, haddress]
  | bank =>
      obtain ⟨word, hread, hbank⟩ := h
      simp only at hnew hread ⊢
      rw [fill, if_neg hfree]
      simp only [hread]
      show Except.ok ({ form.without (.bank :: rest) with bank := some _ } : Form) =
        .ok (form.without rest)
      simp [without, hnew, hbank]
  | length =>
      obtain ⟨hne, hdigits, hle, hlength⟩ := h
      have hread := Value.readLength_decimal hne hdigits hle
      simp only at hnew hread ⊢
      rw [fill, if_neg hfree]
      simp only [hread]
      show Except.ok ({ form.without (.length :: rest) with length := some _ } : Form) =
        .ok (form.without rest)
      simp [without, hnew, hlength]

end Form

/-! ## Arguments by their form -/

namespace Item

theorem ofText_of_head? {text : List Char} (h : text.head? ≠ some '-') : ofText text = .value text := by
  unfold ofText
  split
  · exact absurd rfl h
  · exact absurd rfl h
  · exact absurd rfl h
  · rfl

/-- The text of an option ends at its first equals sign, and all after that is the value. -/
theorem cutAtEquals_append {name : List Char} (h : '=' ∉ name) (text : List Char) :
    cutAtEquals (name ++ '=' :: text) = (name, some text) := by
  have hpass : ∀ c ∈ name, (c != '=') = true := by
    intro c hc
    exact bne_iff_ne.2 fun he => h (he ▸ hc)
  have hdrop : (name ++ '=' :: text).dropWhile (· != '=') = '=' :: text := by
    rw [List.dropWhile_append_of_pos hpass, List.dropWhile_cons_of_neg (by decide)]
  have htake : (name ++ '=' :: text).takeWhile (· != '=') = name := by
    rw [List.takeWhile_append_of_pos hpass, List.takeWhile_cons_of_neg (by decide), List.append_nil]
  rw [cutAtEquals, hdrop]
  simp only [htake]

theorem ofText_option {parameter : Parameter} {name : List Char} (h : parameter.option? = some name) :
    ofText ('-' :: '-' :: name) = .option name none := by
  cases parameter <;> cases h <;> rfl

theorem ofText_option_attached {parameter : Parameter} {name : List Char}
    (h : parameter.option? = some name) (text : List Char) :
    ofText ('-' :: '-' :: (name ++ '=' :: text)) = .option name (some text) := by
  have hname : '=' ∉ name := by
    cases parameter <;> cases h <;> decide
  have hcut := cutAtEquals_append hname text
  -- two hyphens alone would be no option, but an equals sign follows
  cases hrest : name ++ '=' :: text with
  | nil => exact absurd hrest (by simp)
  | cons c rest =>
      rw [hrest] at hcut
      rw [ofText, hcut]
      nofun

end Item

/-- No value that is given is taken for an option, but for that of the ROM file. -/
theorem ArgumentGroup.Gives.head?_ne_hyphen {group : ArgumentGroup} {form : Form} (h : group.Gives form)
    (hrom : group.parameter = .rom → group.text.head? ≠ some '-') : group.text.head? ≠ some '-' := by
  obtain ⟨parameter, text, attached⟩ := group
  cases parameter with
  | rom => exact hrom rfl
  | address =>
      obtain ⟨word, hread, -⟩ := h
      exact Value.head?_ne_hyphen_of_readHexWord hread
  | bank =>
      obtain ⟨word, hread, -⟩ := h
      exact Value.head?_ne_hyphen_of_readHexWord hread
  | length =>
      obtain ⟨-, hdigits, -, -⟩ := h
      exact Value.head?_ne_hyphen_of_decimal hdigits

/-! ## One group after another -/

theorem CommandName.optionNamed_of_option? {parameter : Parameter} {name : List Char}
    (h : parameter.option? = some name) : CommandName.peek.optionNamed name = some parameter := by
  cases parameter <;> cases h <;> rfl

namespace Reading

variable {reading : Reading} {form : Form} {group : ArgumentGroup} {rest : List ArgumentGroup}

/-- The values that the command has still to take without an option. -/
def positionalsOf (groups : List ArgumentGroup) : List Parameter :=
  (ArgumentGroup.parameters groups).filter (·.option?.isNone)

/-- All has been looked at that has come before the groups in `rest`. -/
def clear (form : Form) (rest : List ArgumentGroup) : Reading :=
  ⟨.peek, form.without (ArgumentGroup.parameters rest), none, positionalsOf rest⟩

/-- Looking at the value of a group adds what it stands for. -/
theorem fill_clear (hgives : group.Gives form) (hnew : group.parameter ∉ ArgumentGroup.parameters rest) :
    (clear form (group :: rest)).form.fill group.parameter group.text = .ok (clear form rest).form :=
  Form.fill_without hgives hnew

/-- The value of a group has been taken and will be looked at before `rest`. -/
def holding (form : Form) (group : ArgumentGroup) (rest : List ArgumentGroup) : Reading :=
  { clear form (group :: rest) with
    pending := some ⟨group.parameter, some group.text⟩, positionals := positionalsOf rest }

/-- The groups in `rest` are still to come: once the pending value has been looked at, the form has all its
parameters but theirs. -/
structure Awaits (reading : Reading) (form : Form) (rest : List ArgumentGroup) : Prop where
  command : reading.command = .peek
  positionals : reading.positionals = positionalsOf rest
  resolves : reading.resolve = .ok (clear form rest)

theorem awaits_clear (form : Form) (rest : List ArgumentGroup) : Awaits (clear form rest) form rest :=
  ⟨rfl, rfl, rfl⟩

theorem awaits_holding (hgives : group.Gives form) (hnew : group.parameter ∉ ArgumentGroup.parameters rest) :
    Awaits (holding form group rest) form rest := by
  refine ⟨rfl, rfl, ?_⟩
  have hfill := fill_clear hgives hnew
  show (do
    let filled ← (clear form (group :: rest)).form.fill group.parameter group.text
    Except.ok ({ clear form rest with form := filled } : Reading)) = .ok (clear form rest)
  rw [hfill]
  rfl

theorem positionalsOf_cons (h : group.parameter.option? = none) (rest : List ArgumentGroup) :
    positionalsOf (group :: rest) = group.parameter :: positionalsOf rest :=
  List.filter_cons_of_pos (by rw [h]; rfl)

theorem positionalsOf_cons_of_option {name : List Char} (h : group.parameter.option? = some name)
    (rest : List ArgumentGroup) : positionalsOf (group :: rest) = positionalsOf rest :=
  List.filter_cons_of_neg (by rw [h]; nofun)

namespace Awaits

/-- No option waits for its value between two groups, so a value is one of the command's own. -/
theorem takeValue (h : Awaits reading form rest) (text : List Char) :
    reading.takeValue text = reading.takePositional text := by
  unfold Reading.takeValue
  split
  · next parameter hpending =>
    have hresolves := h.resolves
    rw [Reading.resolve, hpending] at hresolves
    cases hresolves
  · rfl

theorem takePositional (h : Awaits reading form (group :: rest))
    (hpositional : group.parameter.option? = none) :
    reading.takePositional group.text = .ok (holding form group rest) := by
  rw [Reading.takePositional, h.positionals, positionalsOf_cons hpositional]
  simp only [h.resolves]
  rfl

theorem optionNamed (h : Awaits reading form (group :: rest)) {name : List Char}
    (hoption : group.parameter.option? = some name) :
    reading.command.optionNamed name = some group.parameter := by
  rw [h.command]
  exact CommandName.optionNamed_of_option? hoption

/-- A value after an equals sign is looked at at once. -/
theorem takeOption_attached (h : Awaits reading form (group :: rest)) {name : List Char}
    (hoption : group.parameter.option? = some name) (hgives : group.Gives form)
    (hnew : group.parameter ∉ ArgumentGroup.parameters rest) :
    reading.takeOption name (some group.text) = .ok (clear form rest) := by
  have hfill := fill_clear hgives hnew
  unfold Reading.takeOption
  simp only [h.optionNamed hoption, h.resolves]
  show (do
    let filled ← (clear form (group :: rest)).form.fill group.parameter group.text
    Except.ok ({ clear form (group :: rest) with form := filled } : Reading)) = .ok (clear form rest)
  rw [hfill, clear, clear, positionalsOf_cons_of_option hoption]
  rfl

/-- One that comes as the next argument waits to be looked at. -/
theorem takeOption (h : Awaits reading form (group :: rest)) {name : List Char}
    (hoption : group.parameter.option? = some name) :
    ∃ waiting, reading.takeOption name none = .ok waiting ∧
      waiting.takeValue group.text = .ok (holding form group rest) := by
  refine ⟨{ clear form (group :: rest) with pending := some ⟨group.parameter, none⟩ }, ?_, ?_⟩
  · unfold Reading.takeOption
    simp only [h.optionNamed hoption, h.resolves]
    rfl
  · rw [holding, ← positionalsOf_cons_of_option hoption]
    rfl

end Awaits

/-- **One group of arguments**, of whatever kind and spelling, moves the reading on by itself. -/
theorem takeAll_group (h : Awaits reading form (group :: rest)) (hgives : group.Gives form)
    (hnew : group.parameter ∉ ArgumentGroup.parameters rest)
    (hrom : group.parameter = .rom → group.text.head? ≠ some '-') :
    ∃ after, Awaits after form rest ∧
      ∀ more, reading.takeAll (group.words ++ more) = after.takeAll more := by
  have hitem := Item.ofText_of_head? (hgives.head?_ne_hyphen hrom)
  have hheld := awaits_holding hgives hnew
  unfold ArgumentGroup.words
  cases hoption : group.parameter.option? with
  | none =>
      refine ⟨_, hheld, fun more => ?_⟩
      show reading.takeAll (group.text :: more) = _
      rw [takeAll, hitem]
      simp only [h.takeValue, h.takePositional hoption]
      rfl
  | some name =>
      cases hattached : group.attached with
      | true =>
          -- the value is looked at with its option, so nothing is pending afterwards
          refine ⟨_, awaits_clear form rest, fun more => ?_⟩
          show reading.takeAll (('-' :: '-' :: (name ++ '=' :: group.text)) :: more) = _
          rw [takeAll, Item.ofText_option_attached hoption]
          simp only [h.takeOption_attached hoption hgives hnew]
          rfl
      | false =>
          obtain ⟨waiting, htaken, hvalue⟩ := h.takeOption hoption
          refine ⟨_, hheld, fun more => ?_⟩
          show reading.takeAll (('-' :: '-' :: name) :: group.text :: more) = _
          rw [takeAll, Item.ofText_option hoption]
          simp only [htaken]
          show waiting.takeAll (group.text :: more) = _
          rw [takeAll, hitem]
          simp only [hvalue]
          rfl

/-- **A run of groups**, in any order. -/
theorem takeAll_groups {groups : List ArgumentGroup} (h : Awaits reading form (groups ++ rest))
    (hgives : ∀ group ∈ groups, group.Gives form)
    (hnodup : (ArgumentGroup.parameters (groups ++ rest)).Nodup)
    (hrom : ∀ group ∈ groups, group.parameter = .rom → group.text.head? ≠ some '-') :
    ∃ after, Awaits after form rest ∧
      ∀ more, reading.takeAll (groups.flatMap ArgumentGroup.words ++ more) = after.takeAll more := by
  induction groups generalizing reading with
  | nil => exact ⟨reading, h, fun _ => rfl⟩
  | cons group groups ih =>
      obtain ⟨hnew, hlater⟩ := List.nodup_cons.1 hnodup
      obtain ⟨between, hbetween, htaken⟩ := takeAll_group h (hgives group List.mem_cons_self) hnew
        (hrom group List.mem_cons_self)
      obtain ⟨after, hafter, hrest⟩ := ih hbetween
        (fun later hmem => hgives later (List.mem_cons_of_mem group hmem)) hlater
        (fun later hmem => hrom later (List.mem_cons_of_mem group hmem))
      refine ⟨after, hafter, fun more => ?_⟩
      rw [List.flatMap_cons, List.append_assoc, htaken, hrest]

/-- After two hyphens every argument is taken as a value, whatever it begins with. -/
theorem foldlM_groups {groups : List ArgumentGroup} (h : Awaits reading form groups)
    (hgives : ∀ group ∈ groups, group.Gives form) (hnodup : (ArgumentGroup.parameters groups).Nodup)
    (hpositional : ∀ group ∈ groups, group.parameter.option? = none) :
    ∃ after, Awaits after form [] ∧
      (groups.flatMap ArgumentGroup.words).foldlM takePositional reading = .ok after := by
  induction groups generalizing reading with
  | nil => exact ⟨reading, h, rfl⟩
  | cons group groups ih =>
      obtain ⟨hnew, hlater⟩ := List.nodup_cons.1 hnodup
      have hown := hpositional group List.mem_cons_self
      obtain ⟨after, hafter, hrest⟩ := ih (awaits_holding (hgives group List.mem_cons_self) hnew)
        (fun later hmem => hgives later (List.mem_cons_of_mem group hmem)) hlater
        (fun later hmem => hpositional later (List.mem_cons_of_mem group hmem))
      have hwords : group.words = [group.text] := by
        unfold ArgumentGroup.words
        rw [hown]
      refine ⟨after, hafter, ?_⟩
      rw [List.flatMap_cons, hwords, List.singleton_append, List.foldlM_cons, h.takePositional hown]
      exact hrest

end Reading

/-! ## Whole command lines -/

namespace PeekLine.Writes

variable {line : PeekLine} {form : Form}

/-- Nothing has been read where every group is still to come. -/
theorem start_eq (h : line.Writes form) : Reading.start .peek = Reading.clear form line.groups := by
  rw [Reading.clear, Form.without_of_complete h.complete, Reading.positionalsOf, h.ordered]
  rfl

/-- All of the arguments together give the form, with two hyphens among them or without. -/
theorem takeAll_arguments (h : line.Writes form) :
    (Reading.start .peek).takeAll line.arguments.tail = .ok (Reading.clear form []) := by
  have hstart : Reading.Awaits (Reading.start .peek) form line.groups := by
    rw [h.start_eq]
    exact Reading.awaits_clear form line.groups
  have hfront : ∀ group ∈ line.front, group.Gives form := fun group hmem =>
    h.gives group (List.mem_append_left _ hmem)
  obtain ⟨between, hbetween, htaken⟩ := Reading.takeAll_groups hstart hfront h.nodup h.unhyphened
  show (Reading.start .peek).takeAll (line.front.flatMap ArgumentGroup.words ++ _) = _
  rw [htaken]
  cases hback : line.back with
  | none =>
      rw [hback] at hbetween
      exact hbetween.resolves
  | some back =>
      rw [hback, Option.getD_some] at hbetween
      have hgroups : line.groups = line.front ++ back := by rw [groups, hback, Option.getD_some]
      have hgives : ∀ group ∈ back, group.Gives form := fun group hmem =>
        h.gives group (hgroups ▸ List.mem_append_right _ hmem)
      have hnodup : (ArgumentGroup.parameters back).Nodup := by
        have hall := h.nodup
        rw [hgroups, ArgumentGroup.parameters, List.map_append] at hall
        exact (List.nodup_append.1 hall).2.1
      obtain ⟨after, hafter, hfold⟩ := Reading.foldlM_groups hbetween hgives hnodup (h.ended back hback)
      show between.takeAll (['-', '-'] :: back.flatMap ArgumentGroup.words) = _
      rw [Reading.takeAll]
      show (back.flatMap ArgumentGroup.words).foldlM Reading.takePositional between >>= Reading.resolve = _
      rw [hfold]
      exact hafter.resolves

end PeekLine.Writes

/-- **A dump is asked for in whatever way one likes.** Take any path that is not empty, any address and, if they
are wanted, a bank and a length, each in any text that is read as it. Written in any order with the ROM file
before the address, every option as one argument or as two, and with two hyphens after the last option or
without, they ask for the dump with just these parameters, of 64 bytes if no length is given. After the two
hyphens the path may begin with a hyphen too. -/
theorem peek_however_written (rom : Path) (address : UInt16) (bank length : Option UInt16) {line : PeekLine}
    (h : line.Writes ⟨some rom, some address, bank, length⟩) :
    Command.parse line.arguments = .ok (.peek rom address bank (length.getD 64)) := by
  have htaken := h.takeAll_arguments
  show (do ((← (Reading.start .peek).takeAll line.arguments.tail)).finish) = _
  rw [htaken]
  show (Reading.clear ⟨some rom, some address, bank, length⟩ []).finish = _
  rw [Reading.clear, ArgumentGroup.parameters, List.map_nil, Form.without_nil]
  rfl

/-- Both options first, one in each spelling, then two hyphens and a path that begins with a hyphen. -/
theorem peek_however_written_hyphens :
    let line : PeekLine := ⟨[⟨.length, ['1', '6'], true⟩, ⟨.bank, ['0', 'x', '1', 'F'], false⟩],
      some [⟨.rom, ['-', 'g', 'b'], false⟩, ⟨.address, ['$', '4', '0', '0', '0'], false⟩]⟩
    line.Writes ⟨some ⟨['-', 'g', 'b']⟩, some 0x4000, some 0x1F, some 16⟩ ∧
      line.arguments =
        ["peek", "--len=16", "--bank", "0x1F", "--", "-gb", "$4000"].map String.toList ∧
      Command.parse line.arguments = .ok (.peek ⟨['-', 'g', 'b']⟩ 0x4000 (some 0x1F) 16) := by
  intro line
  have hbank : Value.readHexWord ['0', 'x', '1', 'F'] = .ok 0x1F := rfl
  have haddress : Value.readHexWord ['$', '4', '0', '0', '0'] = .ok 0x4000 := rfl
  have hdigits : ∀ c ∈ ['1', '6'], c.isDigit = true := List.all_eq_true.1 rfl
  have hgives : ∀ group ∈ line.groups,
      group.Gives ⟨some ⟨['-', 'g', 'b']⟩, some 0x4000, some 0x1F, some 16⟩ := by
    show ∀ group ∈ [_, _, _, _], _
    simp only [List.forall_mem_cons, List.not_mem_nil, false_implies, implies_true, and_true]
    exact ⟨⟨by decide, hdigits, by decide, rfl⟩, ⟨_, hbank, rfl⟩, ⟨by decide, rfl⟩,
      ⟨_, haddress, rfl⟩⟩
  have hcomplete : ∀ parameter, parameter ∈ ArgumentGroup.parameters line.groups := by
    intro parameter
    cases parameter <;> decide
  have hwrites : line.Writes ⟨some ⟨['-', 'g', 'b']⟩, some 0x4000, some 0x1F, some 16⟩ := by
    refine ⟨hgives, by decide, fun parameter _ => hcomplete parameter, by decide, ?_, by decide⟩
    rintro back ⟨⟩
    decide
  exact ⟨hwrites, rfl, peek_however_written _ 0x4000 (some 0x1F) (some 16) hwrites⟩

end GamePak
