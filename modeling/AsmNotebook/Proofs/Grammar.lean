import AsmNotebook.Proofs.Dispatch
import AsmNotebook.Proofs.Text.Trim

namespace AsmNotebook

/-!
# The grammar of cells

Where the text of a cell goes is computed by trimming, cutting and looking up
names, and some texts are trimmed three times on the way.  The grammar says it
without an order of steps.  A text is code, or it splits into a name, a gap of
white space and an argument, and name and argument alone decide the rest.

A text that is trimmed splits in exactly one way, so the grammar is a
function, and it is the one that is computed.  Gaps and surrounding white
space do not occur in what it says, so they can be exchanged.
-/

open Text (AllBlank Trimmed)

namespace Command

/-- A text consists of a name, white space behind it, and an argument. -/
structure Splits (text name gap argument : List Char) : Prop where
  whole : name ++ gap ++ argument = text
  word : ∀ c ∈ name, Text.isBlank c = false
  blank : AllBlank gap
  /-- White space stands before every argument. -/
  apart : argument ≠ [] → gap ≠ []
  trimmed : Trimmed argument
  /-- There is no argument exactly if the text is a single word. -/
  bare : argument = [] ↔ ∀ c ∈ text, Text.isBlank c = false

variable {text name gap argument name' gap' argument' : List Char}

namespace Splits

/-- A name ends where the white space begins. -/
theorem boundary (splits : Splits text name gap argument) :
    ∀ c ∈ (gap ++ argument).head?, Text.isBlank c = true := by
  intro c first
  cases gap with
  | nil =>
    have none : argument = [] := by
      by_contra given
      exact splits.apart given rfl
    rw [none] at first
    cases first
  | cons c' gap =>
    cases first
    exact splits.blank c List.mem_cons_self

theorem takeWhile_eq (splits : Splits text name gap argument) :
    (text.takeWhile fun c => !Text.isBlank c) = name := by
  have word : ∀ c ∈ name, (!Text.isBlank c) = true := by simpa using splits.word
  have boundary := splits.boundary
  rw [← splits.whole, List.append_assoc, List.takeWhile_append_of_pos word]
  cases behind : gap ++ argument with
  | nil => simp
  | cons c rest =>
    rw [behind] at boundary
    simp [boundary c rfl]

theorem dropWhile_eq (splits : Splits text name gap argument) :
    (text.dropWhile fun c => !Text.isBlank c) = gap ++ argument := by
  have whole := List.takeWhile_append_dropWhile (p := fun c => !Text.isBlank c) (l := text)
  rw [splits.takeWhile_eq, ← splits.whole, List.append_assoc] at whole
  rw [← splits.whole, List.append_assoc]
  exact List.append_cancel_left whole

/-- The argument is what is left without the gap. -/
theorem trimChars_eq (splits : Splits text name gap argument) :
    Text.trimChars (gap ++ argument) = argument := by
  have none : AllBlank [] := by simp [AllBlank]
  have trimmed := Text.trimChars_append splits.blank none argument
  rw [List.append_nil] at trimmed
  exact trimmed.trans splits.trimmed

/-- A text splits in at most one way. -/
theorem unique (splits : Splits text name gap argument)
    (splits' : Splits text name' gap' argument') :
    name = name' ∧ gap = gap' ∧ argument = argument' := by
  have names : name = name' := splits.takeWhile_eq.symm.trans splits'.takeWhile_eq
  have rests : gap ++ argument = gap' ++ argument' :=
    splits.dropWhile_eq.symm.trans splits'.dropWhile_eq
  have arguments : argument = argument' := by
    rw [← splits.trimChars_eq, rests, splits'.trimChars_eq]
  rw [arguments] at rests
  exact ⟨names, List.append_cancel_right rests, arguments⟩

/-- A text that begins with something else than white space begins with its name. -/
theorem head?_name (splits : Splits text name gap argument) {c : Char} (first : text.head? = some c)
    (sharp : Text.isBlank c = false) : name.head? = some c := by
  have boundary := splits.boundary
  rw [← splits.whole, List.append_assoc] at first
  cases name with
  | nil =>
    rw [boundary c first] at sharp
    cases sharp
  | cons c' rest => exact first

/-- Another gap splits another text. -/
theorem withGap (splits : Splits text name gap argument) (given : argument ≠ [])
    (blank : AllBlank gap') (some_blank : gap' ≠ []) :
    Splits (name ++ gap' ++ argument) name gap' argument where
  whole := rfl
  word := splits.word
  blank := blank
  apart := fun _ => some_blank
  trimmed := splits.trimmed
  bare := by
    refine iff_of_false given fun word => ?_
    rcases List.exists_cons_of_ne_nil some_blank with ⟨c, rest, rfl⟩
    have isBlank := blank c List.mem_cons_self
    rw [word c (by simp)] at isBlank
    cases isBlank

end Splits

/-- A text that is trimmed at its end splits behind its first word, which may have no letters. -/
theorem splits_of_trimmed (trimmed : Text.trimEndChars text = text) :
    Splits text (text.takeWhile fun c => !Text.isBlank c)
      ((text.dropWhile fun c => !Text.isBlank c).takeWhile Text.isBlank)
      (Text.trimStartChars (text.dropWhile fun c => !Text.isBlank c)) := by
  have whole := List.takeWhile_append_dropWhile (p := fun c => !Text.isBlank c) (l := text)
  have suffix : (text.dropWhile fun c => !Text.isBlank c) <:+ text := List.dropWhile_suffix _
  have word : ∀ c ∈ text.takeWhile fun c => !Text.isBlank c, Text.isBlank c = false := by
    intro c member
    simpa using List.mem_takeWhile_imp member
  have boundary : ∀ c ∈ (text.dropWhile fun c => !Text.isBlank c).head?,
      Text.isBlank c = true := by
    intro c first
    have stopped := List.head?_dropWhile_not (fun c => !Text.isBlank c) text
    rw [Option.mem_def.1 first] at stopped
    simpa using stopped
  generalize (text.takeWhile fun c => !Text.isBlank c) = name at whole word ⊢
  generalize (text.dropWhile fun c => !Text.isBlank c) = rest at whole suffix boundary ⊢
  have parts : rest.takeWhile Text.isBlank ++ Text.trimStartChars rest = rest :=
    List.takeWhile_append_dropWhile
  have blank : AllBlank (rest.takeWhile Text.isBlank) := fun c member => List.mem_takeWhile_imp member
  have suffix' : Text.trimStartChars rest <:+ text := (List.dropWhile_suffix _).trans suffix
  have apart : rest.takeWhile Text.isBlank = [] → Text.trimStartChars rest = [] := by
    intro none
    cases rest with
    | nil => rfl
    | cons c rest =>
      rw [List.takeWhile_cons_of_pos (boundary c rfl)] at none
      cases none
  refine { whole := ?_, word := word, blank := blank, apart := mt apart, trimmed := ?_, bare := ?_ }
  · rw [List.append_assoc, parts, whole]
  · exact Text.trimmed_of_ends (Text.trimStartChars_trimStartChars rest)
      (Text.trimEndChars_of_suffix trimmed suffix')
  · constructor
    · intro none
      -- White space at the end of a trimmed text would have been trimmed.
      have all : AllBlank rest := List.dropWhile_eq_nil_iff.1 none
      have last := Text.trimEndChars_of_suffix trimmed suffix
      have gone : Text.trimEndChars rest = [] := Text.trimEndChars_append all []
      rw [← whole, ← last, gone, List.append_nil]
      exact word
    · intro word
      apply apart
      apply List.eq_nil_iff_forall_not_mem.2
      intro c member
      have isBlank := blank c member
      have member' : c ∈ text := suffix.subset ((List.takeWhile_prefix _).subset member)
      rw [word c member'] at isBlank
      cases isBlank

/-- Where a name and an argument lead. -/
inductive Leads (name argument : String) : Route → Prop
  | unknown (other : ∀ command ∈ all, command.name ≠ name) :
      Leads name argument (.done (unknownFailure name))
  | lacking (command : Command) (takes : command ∈ [docs, timing, assemble, ask])
      (named : command.name = name) (none : argument = "") :
      Leads name argument (.done command.usageFailure)
  | help (named : help.name = name) :
      Leads name argument (.done .help)
  | docs (named : docs.name = name) (given : argument ≠ "") :
      Leads name argument (.call (.docs (Text.upper argument)))
  | timing (named : timing.name = name) (given : argument ≠ "") :
      Leads name argument (.call (.timing (Text.upper argument)))
  | assemble (named : assemble.name = name) (given : argument ≠ "") :
      Leads name argument (.call (.assemble argument))
  | ask (named : ask.name = name) (given : argument ≠ "") :
      Leads name argument (.call (.ask argument))
  | reset (named : reset.name = name) :
      Leads name argument (.call .reset)

theorem ofName?_eq_none_iff {name : String} :
    ofName? name = none ↔ ∀ command ∈ all, command.name ≠ name := by
  simp [ofName?]

/-- Commands that take an argument are refused without one. -/
theorem route_of_lacking {command : Command} (takes : command ∈ [docs, timing, assemble, ask]) :
    command.route "" = .done command.usageFailure := by
  have taken : command.usage?.isSome = true := by
    cases command with
    | docs | timing | assemble | ask => rfl
    | help | reset => simp at takes
  unfold route
  rw [taken]
  rfl

/-- Every name leads somewhere with every argument. -/
theorem leads_lookup (name argument : String) :
    Leads name argument
      (match ofName? name with
        | none => .done (unknownFailure name)
        | some command => command.route argument) := by
  cases found : ofName? name with
  | none => exact .unknown (ofName?_eq_none_iff.1 found)
  | some command =>
    have named := ofName?_eq_some_iff.1 found
    by_cases given : argument = ""
    · subst given
      cases command with
      | help => exact .help named
      | reset => exact .reset named
      | docs | timing | assemble | ask =>
        simp only
        rw [route_of_lacking (by decide)]
        exact .lacking _ (by decide) named rfl
    · have filled : argument.isEmpty = false := by simpa using given
      simp only
      unfold route
      rw [filled, Bool.and_false, if_neg Bool.false_ne_true]
      cases command with
      | help => exact .help named
      | docs => exact .docs named given
      | timing => exact .timing named given
      | assemble => exact .assemble named given
      | ask => exact .ask named given
      | reset => exact .reset named

/-- It leads nowhere else. -/
theorem Leads.lookup_eq {name argument : String} {route : Route}
    (leads : Leads name argument route) :
    (match ofName? name with
      | none => .done (unknownFailure name)
      | some command => command.route argument) = route := by
  cases leads with
  | unknown other => rw [ofName?_eq_none_iff.2 other]
  | lacking command takes named none =>
    rw [ofName?_eq_some_iff.2 named, none]
    exact route_of_lacking takes
  | help named | reset named =>
    rw [ofName?_eq_some_iff.2 named]
    rfl
  | docs named given | timing named given | assemble named given | ask named given =>
    have filled : argument.isEmpty = false := by simpa using given
    rw [ofName?_eq_some_iff.2 named]
    unfold Command.route
    simp only
    rw [filled]
    rfl

end Command

/-- Where a text without surrounding white space leads. -/
inductive Leads (text : List Char) : Route → Prop
  | code (plain : text.head? ≠ some '@') : Leads text (.call (.execute (String.ofList text)))
  | command {name gap argument : List Char} {route : Route} (marked : text.head? = some '@')
      (splits : Command.Splits text name gap argument)
      (leads : Command.Leads (String.ofList name) (String.ofList argument) route) :
      Leads text route

section Content

variable {content : String} {name gap argument gap' : List Char}

theorem toList_trim (content : String) :
    (Text.trim content).toList = Text.trimChars content.toList :=
  String.toList_ofList

theorem isCode_eq_false_iff :
    isCode content = false ↔ (Text.trimChars content.toList).head? = some '@' := by
  have start := (Text.trimmed_trimChars content.toList).start
  unfold isCode Command.isCommand
  rw [toList_trim, start]
  simp

/-- A command is cut where its trimmed text splits. -/
theorem split_trim (splits : Command.Splits (Text.trimChars content.toList) name gap argument) :
    Command.split (Text.trim content) = (String.ofList name, String.ofList argument) := by
  have trimmed : Text.trimChars (Text.trimChars content.toList) = Text.trimChars content.toList :=
    Text.trimmed_trimChars _
  unfold Command.split
  simp only
  rw [toList_trim, trimmed, splits.takeWhile_eq, splits.dropWhile_eq, splits.trimChars_eq]

/-- Every content leads where the grammar says. -/
theorem leads_route (content : String) :
    Leads (Text.trimChars content.toList) (route content) := by
  cases plain : isCode content with
  | true =>
    rw [route_of_code plain]
    apply Leads.code
    intro marked
    rw [isCode_eq_false_iff.2 marked] at plain
    cases plain
  | false =>
    have splits := Command.splits_of_trimmed (Text.trimmed_trimChars content.toList).end
    rw [route_of_command plain, split_trim splits]
    exact .command (isCode_eq_false_iff.1 plain) splits (Command.leads_lookup _ _)

/-- The grammar says one thing of each content. -/
theorem Leads.route_eq {route' : Route} (leads : Leads (Text.trimChars content.toList) route') :
    route content = route' := by
  cases leads with
  | code plain =>
    have isCode : isCode content = true := by
      rw [← Bool.not_eq_false]
      exact mt isCode_eq_false_iff.1 plain
    exact route_of_code isCode
  | command marked splits leads =>
    rw [route_of_command (isCode_eq_false_iff.2 marked), split_trim splits]
    exact leads.lookup_eq

theorem leads_iff {route' : Route} :
    Leads (Text.trimChars content.toList) route' ↔ route content = route' := by
  constructor
  · exact Leads.route_eq
  · rintro rfl
    exact leads_route content

/-- Nothing but the trimmed text decides. -/
theorem route_congr {content' : String}
    (same : Text.trimChars content.toList = Text.trimChars content'.toList) :
    route content = route content' := by
  have leads := leads_route content'
  rw [← same] at leads
  exact leads.route_eq

/-- White space around a content does not matter. -/
theorem route_append {front back : List Char} (blank : AllBlank front) (blank' : AllBlank back)
    (core : List Char) :
    route (String.ofList (front ++ core ++ back)) = route (String.ofList core) := by
  apply route_congr
  rw [String.toList_ofList, String.toList_ofList]
  exact Text.trimChars_append blank blank' core

/-- Any white space may stand between a command and its argument. -/
theorem route_of_gap (marked : (Text.trimChars content.toList).head? = some '@')
    (splits : Command.Splits (Text.trimChars content.toList) name gap argument)
    (blank : AllBlank gap') (filled : gap' ≠ []) :
    route (String.ofList (name ++ gap' ++ argument)) = route content := by
  have first := splits.head?_name marked (by decide)
  by_cases given : argument = []
  · -- Without an argument the new gap ends the text, and is trimmed.
    have whole : name = Text.trimChars content.toList := by
      have bare := splits.takeWhile_eq
      rwa [List.takeWhile_eq_self_iff.2 (by simpa using splits.bare.1 given), eq_comm] at bare
    have none : AllBlank [] := by simp [AllBlank]
    apply route_congr
    rw [String.toList_ofList, given, List.append_nil]
    calc
      Text.trimChars (name ++ gap') = Text.trimChars name := Text.trimChars_append none blank name
      _ = Text.trimChars content.toList := by
        rw [whole]
        exact Text.trimmed_trimChars _
  · have trimmed : Trimmed (name ++ gap' ++ argument) := by
      apply Text.trimmed_of_ends
      · apply Text.trimStartChars_eq_self_iff.2
        intro c member
        rw [List.append_assoc, List.head?_append, first] at member
        cases member
        decide
      · apply Text.trimEndChars_eq_self_iff.2
        intro _
        rw [List.getLast_append_of_ne_nil _ given]
        exact Text.trimEndChars_eq_self_iff.1 splits.trimmed.end given
    have marked' : (name ++ gap' ++ argument).head? = some '@' := by
      rw [List.append_assoc, List.head?_append, first]
      rfl
    apply Leads.route_eq
    rw [String.toList_ofList, trimmed]
    have leads := leads_route content
    generalize route content = route' at leads ⊢
    cases leads with
    | code plain => exact absurd marked plain
    | command _ splits' leads =>
      rcases splits.unique splits' with ⟨rfl, -, rfl⟩
      exact .command marked' (splits.withGap given blank filled) leads

example : route "\u3000@timing\u2003mov\n" = .call (.timing "MOV") := by decide

end Content

/-- What an answer does to the processor.  Plain code applies the report that came with its answer,
if that has a section, and a reset that succeeds resets. -/
inductive Effective : (call : ServiceCall) → call.Answer → ProcessorEffect → Prop
  | applied {code : String} {execution : Simulator.Execution} {update : ProcessorUpdate}
      (reported : execution.update = some update) (present : update.isEmpty = false) :
      Effective (.execute code) execution (.apply update)
  | reset {execution : Simulator.Execution} (succeeded : execution.output.isFailure = false) :
      Effective .reset execution .reset

/-- No other answer has an effect. -/
theorem conclude_effect_iff {call : ServiceCall} {answer : call.Answer} {effect : ProcessorEffect} :
    (conclude call answer).effect = some effect ↔ Effective call answer effect := by
  constructor
  · intro effected
    cases call with
    | execute code =>
      rcases Option.map_eq_some_iff.1 effected with ⟨update, reported, rfl⟩
      rcases Option.filter_eq_some_iff.1 reported with ⟨reported, present⟩
      exact .applied reported (by simpa using present)
    | reset =>
      cases failed : answer.output.isFailure with
      | true => simp [conclude, failed] at effected
      | false =>
        have same : effect = .reset := by simpa [conclude, failed] using effected.symm
        subst same
        exact .reset failed
    | assemble | docs | timing | ask => cases effected
  · intro effective
    cases effective with
    | applied reported present => simp [conclude, reported, present]
    | reset succeeded => simp [conclude, succeeded]

end AsmNotebook
