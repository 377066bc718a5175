import AsmNotebook.Proofs.Prompt.Numerals
import AsmNotebook.Proofs.Text.LetterCase

namespace AsmNotebook

/-!
# The grammar of commands

A line is read as a command by trimming it, looking for a colon, cutting what
follows at the first white space, trimming again, and looking a name up in a
table with an argument that may or may not matter.  The grammar has no such
steps.  It says what a body splits into, which names there are, and for each
of them which arguments it takes.

A body need not begin with its name: white space behind the colon makes the
name empty, and no command has the empty name.  The test of the prompt for
commands looks at the start of the line only, and it lets through exactly the
lines in which a colon is found.
-/

open Text (InAnyCase)

/-- The kind that a word calls. -/
inductive CellKind.Called (word : String) : CellKind → Prop
  | code (letters : InAnyCase word.toList "code".toList) : Called word .code
  | markdown (letters : InAnyCase word.toList "markdown".toList) : Called word .markdown
  | md (letters : InAnyCase word.toList "md".toList) : Called word .markdown

theorem CellKind.parse_eq_ok_iff {word : String} {kind : CellKind} :
    CellKind.parse word = .ok kind ↔ CellKind.Called word kind := by
  have code : Text.lower word = "code" ↔ InAnyCase word.toList "code".toList :=
    Text.lower_eq_iff (Text.small_of_all rfl)
  have markdown : Text.lower word = "markdown" ↔ InAnyCase word.toList "markdown".toList :=
    Text.lower_eq_iff (Text.small_of_all rfl)
  have md : Text.lower word = "md" ↔ InAnyCase word.toList "md".toList :=
    Text.lower_eq_iff (Text.small_of_all rfl)
  constructor
  · intro parsed
    unfold parse at parsed
    dsimp only at parsed
    split at parsed
    · next called =>
      cases parsed
      exact .code (code.1 called)
    · split at parsed
      · next called =>
        cases parsed
        exact called.elim (fun called => .markdown (markdown.1 called))
          fun called => .md (md.1 called)
      · cases parsed
  · intro called
    unfold parse
    cases called with
    | code letters => rw [code.2 letters]; rfl
    | markdown letters => rw [markdown.2 letters]; rfl
    | md letters => rw [md.2 letters]; rfl

theorem CellKind.parse_eq_error {word message : String}
    (refused : CellKind.parse word = .error message) :
    message = "Unknown cell type: " ++ Text.lower word := by
  unfold parse at refused
  dsimp only at refused
  split_ifs at refused
  exact (Except.error.inj refused).symm

namespace Prompt

open AsmNotebook.Command (Splits)

/-- Decimal digits, at least one, and their number. -/
structure Digits (digits : List Char) (n : Nat) : Prop where
  filled : digits ≠ []
  decimal : ∀ d ∈ digits, d.isDigit = true
  value : Nat.ofDigitChars 10 digits 0 = n

/-- A number in decimal digits, with a plus sign or without a sign. -/
inductive Numeral : List Char → Nat → Prop
  | plain {digits : List Char} {n : Nat} (written : Digits digits n) : Numeral digits n
  | signed {digits : List Char} {n : Nat} (written : Digits digits n) : Numeral ('+' :: digits) n

/-- Letters behind a plus sign, if there is one. -/
def unsigned : List Char → List Char
  | '+' :: rest => rest
  | letters => letters

variable {letters : List Char} {text name : String} {n index : Nat} {argument : Option String}

theorem numeral_iff : Numeral letters n ↔ Digits (unsigned letters) n := by
  constructor
  · rintro (written | written)
    · unfold unsigned
      split
      · next rest => exact absurd (written.decimal '+' List.mem_cons_self) (by decide)
      · exact written
    · exact written
  · intro written
    unfold unsigned at written
    split at written
    · exact .signed written
    · exact .plain written

/-- Numerals are read, if their number fits 64 bits. -/
theorem numeral?_eq_some_iff :
    numeral? text = some n ↔ Numeral text.toList n ∧ n < UInt64.size := by
  have opened : numeral? text =
      let digits := unsigned text.toList
      if digits.isEmpty || !digits.all Char.isDigit then none
      else
        let value := digits.foldl (fun n d => n * 10 + (d.toNat - 48)) 0
        if value < UInt64.size then some value else none := rfl
  rw [opened, numeral_iff]
  generalize unsigned text.toList = digits
  dsimp only
  rw [foldl_digits]
  by_cases decimal : digits.isEmpty = false ∧ digits.all Char.isDigit = true
  · rw [decimal.1, decimal.2, Bool.not_true, Bool.or_self, if_neg Bool.false_ne_true,
      Option.ite_none_right_eq_some, Option.some.injEq]
    constructor
    · rintro ⟨fits, rfl⟩
      exact ⟨⟨List.isEmpty_eq_false_iff.1 decimal.1, List.all_eq_true.1 decimal.2, rfl⟩, fits⟩
    · rintro ⟨written, fits⟩
      exact ⟨written.value ▸ fits, written.value⟩
  · have other : (digits.isEmpty || !digits.all Char.isDigit) = true := by
      cases empty : digits.isEmpty <;> simp_all
    rw [if_pos other]
    refine iff_of_false nofun fun right => decimal ?_
    exact ⟨List.isEmpty_eq_false_iff.2 right.1.filled, List.all_eq_true.2 right.1.decimal⟩

/-- A number names the cell before it in the order from zero on. -/
theorem cellIndex_eq_ok_iff :
    cellIndex argument = .ok index ↔
      ∃ text, argument = some text ∧ Numeral text.toList (index + 1) ∧
        index + 1 < UInt64.size := by
  cases argument with
  | none => exact iff_of_false nofun nofun
  | some text =>
    have read : numeral? text = some (index + 1) ↔
        Numeral text.toList (index + 1) ∧ index + 1 < UInt64.size := numeral?_eq_some_iff
    constructor
    · intro found
      refine ⟨text, rfl, read.1 ?_⟩
      unfold cellIndex at found
      dsimp only at found
      split at found
      · next n numeral =>
        cases found
        exact numeral
      · cases found
    · rintro ⟨text, ⟨⟩, right⟩
      unfold cellIndex
      dsimp only
      rw [read.2 right]

theorem cellIndex_eq_error {message : String} (refused : cellIndex (some text) = .error message) :
    message = "invalid cell number: " ++ text := by
  unfold cellIndex at refused
  dsimp only at refused
  split at refused
  · cases refused
  · exact (Except.error.inj refused).symm

namespace Command

/-- Commands for the cell with a number. -/
inductive Numbered : String → (Nat → Command) → Prop
  | edit : Numbered "edit" .edit
  | run : Numbered "run" .run
  | delete : Numbered "delete" .delete
  | rm : Numbered "rm" .delete
  | explain : Numbered "explain" .explain

/-- Commands that do without an argument and ignore one. -/
inductive Bare : String → Command → Prop
  | list : Bare "list" .list
  | ls : Bare "ls" .list
  | runAll : Bare "runall" .runAll
  | clearOutputs : Bare "clear-outputs" .clearOutputs
  | clear : Bare "clear" .clear
  | state : Bare "state" .state
  | help : Bare "help" .help
  | h : Bare "h" .help
  | quit : Bare "quit" .quit
  | q : Bare "q" .quit
  | exit : Bare "exit" .quit

/-- The command that a name and an argument mean. -/
inductive Means : String → Option String → Command → Prop
  | bare {name : String} {command : Command} (named : Bare name command)
      (argument : Option String) : Means name argument command
  | numbered {name : String} {command : Nat → Command} (named : Numbered name command)
      {text : String} {index : Nat} (numeral : Numeral text.toList (index + 1))
      (fits : index + 1 < UInt64.size) : Means name (some text) (command index)
  | addCode : Means "add" none (.add .code)
  | add {word : String} {kind : CellKind} (called : CellKind.Called word kind) :
      Means "add" (some word) (.add kind)
  | exportTo (path : Option String) : Means "export" path (.exportTo path)
  | importFrom (path : String) : Means "import" (some path) (.importFrom path)

/-- The names of all commands. -/
def names : List String :=
  ["list", "ls", "add", "edit", "run", "runall", "delete", "rm", "clear-outputs", "clear", "state",
    "explain", "export", "import", "help", "h", "quit", "q", "exit"]

/-- Why a name and an argument mean no command. -/
inductive Refused : String → Option String → String → Prop
  | unknown {name : String} (unlisted : name ∉ names) (argument : Option String) :
      Refused name argument ("unknown command :" ++ name ++ " (try :help)")
  | missing {name : String} {command : Nat → Command} (named : Numbered name command) :
      Refused name none "missing cell number"
  | invalid {name : String} {command : Nat → Command} (named : Numbered name command)
      {text : String} (other : ∀ index, index + 1 < UInt64.size → ¬ Numeral text.toList (index + 1)) :
      Refused name (some text) ("invalid cell number: " ++ text)
  | uncalled {word : String} (other : ∀ kind, ¬ CellKind.Called word kind) :
      Refused "add" (some word) ("Unknown cell type: " ++ Text.lower word)
  | pathless : Refused "import" none "usage: :import PATH"

/-- What a name and an argument are read as. -/
inductive Read (name : String) (argument : Option String) : Except String Command → Prop
  | means {command : Command} (means : Means name argument command) : Read name argument (.ok command)
  | refused {message : String} (refused : Refused name argument message) :
      Read name argument (.error message)

theorem read_numbered {command : Nat → Command} (named : Numbered name command)
    (argument : Option String) : Read name argument ((cellIndex argument).map command) := by
  cases argument with
  | none => exact .refused (.missing named)
  | some text =>
    cases found : cellIndex (some text) with
    | ok index =>
      rcases cellIndex_eq_ok_iff.1 found with ⟨_, ⟨⟩, numeral, fits⟩
      exact .means (.numbered named numeral fits)
    | error message =>
      cases cellIndex_eq_error found
      refine .refused (.invalid named fun index fits numeral => ?_)
      have read : cellIndex (some text) = .ok index :=
        cellIndex_eq_ok_iff.2 ⟨text, rfl, numeral, fits⟩
      rw [read] at found
      cases found

theorem read_add (argument : Option String) :
    Read "add" argument
      (match argument with
        | none => .ok (.add .code)
        | some word => (CellKind.parse word).map .add) := by
  cases argument with
  | none => exact .means .addCode
  | some word =>
    dsimp only
    cases parsed : CellKind.parse word with
    | ok kind => exact .means (.add (CellKind.parse_eq_ok_iff.1 parsed))
    | error message =>
      cases CellKind.parse_eq_error parsed
      refine .refused (.uncalled fun kind called => ?_)
      rw [CellKind.parse_eq_ok_iff.2 called] at parsed
      cases parsed

theorem read_ite {p : Prop} [Decidable p] {here there : Except String Command}
    (listed : p → Read name argument here) (others : ¬ p → Read name argument there) :
    Read name argument (if p then here else there) := by
  split
  · exact listed ‹p›
  · exact others ‹¬ p›

/-- Every name is read with every argument, one case for each entry of the table. -/
theorem read_ofParts (name : String) (argument : Option String) :
    Read name argument (ofParts name argument) := by
  unfold ofParts
  refine read_ite ?list fun notList => read_ite ?add fun notAdd => read_ite ?edit fun notEdit =>
    read_ite ?run fun notRun => read_ite ?runAll fun notRunAll => read_ite ?delete fun notDelete =>
    read_ite ?clearOutputs fun notClearOutputs => read_ite ?clear fun notClear =>
    read_ite ?state fun notState => read_ite ?explain fun notExplain =>
    read_ite ?exportTo fun notExport => read_ite ?importFrom fun notImport =>
    read_ite ?help fun notHelp => read_ite ?quit fun notQuit => ?unknown
  case list =>
    rintro (rfl | rfl)
    · exact .means (.bare .list argument)
    · exact .means (.bare .ls argument)
  case add =>
    rintro rfl
    exact read_add argument
  case edit =>
    rintro rfl
    exact read_numbered .edit argument
  case run =>
    rintro rfl
    exact read_numbered .run argument
  case runAll =>
    rintro rfl
    exact .means (.bare .runAll argument)
  case delete =>
    rintro (rfl | rfl)
    · exact read_numbered .delete argument
    · exact read_numbered .rm argument
  case clearOutputs =>
    rintro rfl
    exact .means (.bare .clearOutputs argument)
  case clear =>
    rintro rfl
    exact .means (.bare .clear argument)
  case state =>
    rintro rfl
    exact .means (.bare .state argument)
  case explain =>
    rintro rfl
    exact read_numbered .explain argument
  case exportTo =>
    rintro rfl
    exact .means (.exportTo argument)
  case importFrom =>
    rintro rfl
    cases argument with
    | none => exact .refused .pathless
    | some path => exact .means (.importFrom path)
  case help =>
    rintro (rfl | rfl)
    · exact .means (.bare .help argument)
    · exact .means (.bare .h argument)
  case quit =>
    rintro (rfl | rfl | rfl)
    · exact .means (.bare .quit argument)
    · exact .means (.bare .q argument)
    · exact .means (.bare .exit argument)
  case unknown =>
    refine .refused (.unknown (fun listed => ?_) argument)
    simp only [names, List.mem_cons, List.not_mem_nil, or_false] at listed
    tauto

/-- The grammar says one thing of each name and argument. -/
theorem Means.ofParts {command : Command} (means : Means name argument command) :
    ofParts name argument = .ok command := by
  cases means with
  | bare named => cases named <;> simp [Command.ofParts]
  | @numbered _ _ named text index numeral fits =>
    have found : cellIndex (some text) = .ok index :=
      cellIndex_eq_ok_iff.2 ⟨text, rfl, numeral, fits⟩
    cases named <;> simp [Command.ofParts, found, Except.map]
  | addCode => simp [Command.ofParts]
  | add called =>
    have parsed := CellKind.parse_eq_ok_iff.2 called
    simp [Command.ofParts, parsed, Except.map]
  | exportTo | importFrom => simp [Command.ofParts]

theorem Refused.ofParts {message : String} (refused : Refused name argument message) :
    ofParts name argument = .error message := by
  cases refused with
  | unknown unlisted =>
    simp only [names, List.mem_cons, List.not_mem_nil, or_false, not_or] at unlisted
    simp [Command.ofParts, unlisted]
  | missing named => cases named <;> simp [Command.ofParts, cellIndex, Except.map]
  | @invalid _ _ named text other =>
    cases found : cellIndex (some text) with
    | ok index =>
      rcases cellIndex_eq_ok_iff.1 found with ⟨_, ⟨⟩, numeral, fits⟩
      exact absurd numeral (other index fits)
    | error message =>
      cases cellIndex_eq_error found
      cases named <;> simp [Command.ofParts, found, Except.map]
  | @uncalled word other =>
    cases parsed : CellKind.parse word with
    | ok kind => exact absurd (CellKind.parse_eq_ok_iff.1 parsed) (other kind)
    | error message =>
      cases CellKind.parse_eq_error parsed
      simp [Command.ofParts, parsed, Except.map]
  | pathless => simp [Command.ofParts]

theorem ofParts_eq_ok_iff {command : Command} :
    ofParts name argument = .ok command ↔ Means name argument command := by
  constructor
  · intro parsed
    have read := read_ofParts name argument
    rw [parsed] at read
    cases read with
    | means means => exact means
  · exact Means.ofParts

theorem ofParts_eq_error_iff {message : String} :
    ofParts name argument = .error message ↔ Refused name argument message := by
  constructor
  · intro parsed
    have read := read_ofParts name argument
    rw [parsed] at read
    cases read with
    | refused refused => exact refused
  · exact Refused.ofParts

/-- No refusal of a name or an argument says that there is no command. -/
theorem Refused.ne_append {message : String} (refused : Refused name argument message)
    (rest : String) : message ≠ "not a command: " ++ rest := by
  intro same
  have first := congrArg (fun text => text.toList.head?) same
  cases refused <;> simp at first

end Command

/-! ## Lines -/

/-- A line consists of a colon, a name and an argument, with white space around them. -/
inductive Cut (line : String) : String → Option String → Prop
  | mk {body name gap argument : List Char} (marked : Text.trimChars line.toList = ':' :: body)
      (splits : Splits body name gap argument) :
      Cut line (String.ofList name) (argument? argument)

variable {line : String}

theorem Cut.parse_eq (cut : Cut line name argument) :
    Command.parse line = Command.ofParts name argument := by
  cases cut with
  | mk marked splits =>
    rw [Command.parse, marked]
    change Command.ofParts (Command.parts _).1 (Command.parts _).2 = _
    rw [parts_of_splits splits]

/-- The prompt and the grammar look for the colon in different ways, and both find it or neither. -/
theorem exists_cut_of_isCommandLine (command : isCommandLine line = true) :
    ∃ name argument, Cut line name argument := by
  have first : (Text.trimChars line.toList).head? = some ':' := by
    rw [Text.head?_trimChars]
    exact beq_iff_eq.1 command
  cases marked : Text.trimChars line.toList with
  | nil =>
    rw [marked] at first
    cases first
  | cons c body =>
    rw [marked] at first
    cases first
    have trimmed := (Text.trimmed_trimChars line.toList).end
    rw [marked] at trimmed
    have last := Text.trimEndChars_of_suffix trimmed (List.suffix_cons ':' body)
    exact ⟨_, _, .mk marked (AsmNotebook.Command.splits_of_trimmed last)⟩

theorem parse_of_not_isCommandLine (prose : isCommandLine line = false) :
    Command.parse line = .error ("not a command: " ++ Text.trim line) := by
  have first : (Text.trimChars line.toList).head? ≠ some ':' := by
    rw [Text.head?_trimChars]
    exact beq_eq_false_iff_ne.1 prose
  unfold Command.parse
  split
  · next body marked =>
    rw [marked] at first
    exact absurd rfl first
  · rfl

/-- A line is cut in one way only. -/
theorem Cut.unique {name' : String} {argument' : Option String} (cut : Cut line name argument)
    (cut' : Cut line name' argument') : name = name' ∧ argument = argument' := by
  cases cut with
  | mk marked splits =>
    cases cut' with
    | mk marked' splits' =>
      rw [marked] at marked'
      cases marked'
      rcases splits.unique splits' with ⟨rfl, -, rfl⟩
      exact ⟨rfl, rfl⟩

theorem Cut.isCommandLine (cut : Cut line name argument) : isCommandLine line = true := by
  cases cut with
  | mk marked splits =>
    apply beq_iff_eq.2
    rw [← Text.head?_trimChars, marked]
    rfl

/-- Commands are what the grammar says, everything else is refused for the reason that it says, and
a line that the prompt takes for a command is one that begins with a colon. -/
theorem commands_follow_grammar (line : String) :
    (∀ command, Command.parse line = .ok command ↔
      ∃ name argument, Cut line name argument ∧ Command.Means name argument command) ∧
    (∀ message, Command.parse line = .error message ↔
      isCommandLine line = false ∧ message = "not a command: " ++ Text.trim line ∨
        ∃ name argument, Cut line name argument ∧ Command.Refused name argument message) ∧
    ((∃ rest, Command.parse line = .error ("not a command: " ++ rest)) ↔
      isCommandLine line = false) := by
  cases command : isCommandLine line with
  | false =>
    have parsed := parse_of_not_isCommandLine command
    have uncut {name : String} {argument : Option String} : ¬ Cut line name argument := by
      intro cut
      rw [cut.isCommandLine] at command
      cases command
    refine ⟨fun _ => ?_, fun message => ?_, iff_of_true ⟨_, parsed⟩ rfl⟩
    · rw [parsed]
      refine iff_of_false nofun ?_
      rintro ⟨name, argument, cut, _⟩
      exact uncut cut
    · rw [parsed, Except.error.injEq]
      constructor
      · exact fun same => Or.inl ⟨rfl, same.symm⟩
      · rintro (⟨_, same⟩ | ⟨name, argument, cut, _⟩)
        · exact same.symm
        · exact absurd cut uncut
  | true =>
    rcases exists_cut_of_isCommandLine command with ⟨name, argument, cut⟩
    have same {name' : String} {argument' : Option String} (cut' : Cut line name' argument') :
        name' = name ∧ argument' = argument := cut'.unique cut
    rw [cut.parse_eq]
    refine ⟨fun command => ?_, fun message => ?_, iff_of_false ?_ nofun⟩
    · rw [Command.ofParts_eq_ok_iff]
      constructor
      · exact fun means => ⟨name, argument, cut, means⟩
      · rintro ⟨name', argument', cut', means⟩
        rcases same cut' with ⟨rfl, rfl⟩
        exact means
    · rw [Command.ofParts_eq_error_iff]
      constructor
      · exact fun refused => Or.inr ⟨name, argument, cut, refused⟩
      · rintro (⟨⟨⟩, _⟩ | ⟨name', argument', cut', refused⟩)
        rcases same cut' with ⟨rfl, rfl⟩
        exact refused
    · rintro ⟨rest, refused⟩
      exact (Command.ofParts_eq_error_iff.1 refused).ne_append rest rfl

example : Command.parse "\u3000:rm\u2003+007 " = .ok (.delete 6) := by decide

end Prompt
end AsmNotebook
