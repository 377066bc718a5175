import AsmNotebook.Proofs.Alongside
import AsmNotebook.Proofs.Prompt.Reading

namespace AsmNotebook
namespace Supplies

/-!
# Prompts side by side

Two prompts over applications side by side read the same lines.  Each line
leaves them side by side, so they stay so to the end of the input.  What they
show may differ, as it may tell of the processor, and what they export goes to
files that may differ too.  A line that imports is the only one that takes
something from a file, and it is left out.
-/

open Prompt

variable {supplies : Supplies} {earlier : List ServiceCall} {id id' : String}

/-- Where the next block goes on both sides. -/
inductive TwinTargets (supplies : Supplies) : Target → Target → Prop
  | newCell : TwinTargets supplies .newCell .newCell
  | replace {id id' : String} (twins : supplies.Twin id id') :
      TwinTargets supplies (.replace id) (.replace id')

/-- Two prompts over applications that are side by side. -/
structure Prompts (supplies : Supplies) (earlier : List ServiceCall) (left right : State) :
    Prop where
  apps : supplies.Beside earlier left.app right.app
  targets : supplies.TwinTargets left.target right.target
  blocks : left.block = right.block

/-- What a line leads to on both sides, given whether a block is open after it.  Both prompts end, or
none does. -/
structure Responses (supplies : Supplies) (earlier : List ServiceCall) (opened? : Option Bool)
    (left right : Response) : Prop where
  prompts : supplies.Prompts earlier left.state right.state
  ended : left.ended = right.ended
  quits : opened? = none → left.ended = true
  block : ∀ isOpen, opened? = some isOpen → left.state.block.isEmpty = !isOpen

variable {left right : State}

/-- Both prompts go on with the same block. -/
theorem Prompts.more {isOpen : Bool} (prompts : supplies.Prompts earlier left right)
    (block : left.block.isEmpty = !isOpen) (shown shown' : String) :
    supplies.Responses earlier (some isOpen) (more left shown) (more right shown') where
  prompts := prompts
  ended := rfl
  quits := nofun
  block := by
    rintro _ ⟨⟩
    exact block

/-- Both prompts die. -/
theorem Prompts.dead {isOpen : Bool} (prompts : supplies.Prompts earlier left right)
    (block : left.block.isEmpty = !isOpen) :
    supplies.Responses earlier (some isOpen) (dead left) (dead right) where
  prompts := prompts
  ended := rfl
  quits := nofun
  block := by
    rintro _ ⟨⟩
    exact block

theorem Prompts.start {app app' : App} (apps : supplies.Beside earlier app app') :
    supplies.Prompts earlier (Prompt.start app) (Prompt.start app') where
  apps := apps
  targets := .newCell
  blocks := rfl

/-- The prompts over the applications that a command leads to. -/
theorem Prompts.over {app app' : App} (prompts : supplies.Prompts earlier left right)
    (apps : supplies.Beside earlier app app') :
    supplies.Prompts earlier { left with app := app } { right with app := app' } where
  apps := apps
  targets := prompts.targets
  blocks := prompts.blocks

theorem Beside.cellAt? {app app' : App} (apps : supplies.Beside earlier app app') (index : Nat) :
    Option.Rel supplies.Twin (Prompt.cellAt? index app) (Prompt.cellAt? index app') := by
  have there := getElem?_twins apps.notebooks.cells index
  unfold Prompt.cellAt?
  generalize app.notebook.cells[index]? = cell, app'.notebook.cells[index]? = cell' at there ⊢
  cases there with
  | none => exact .none
  | some same => exact .some same.id

section Place

variable {notebook notebook' : Notebook}

/-- What is said of a notebook with a cell that is new or reused. -/
structure Placed (supplies : Supplies) (one other : Notebook × String) : Prop where
  notebooks : supplies.Alike one.1 other.1
  sound : one.1.Sound
  cells : supplies.Twin one.2 other.2

theorem Alike.placed (alike : supplies.Alike notebook notebook') (sound : notebook.Sound)
    (twins : supplies.Twin id id') (content : String) :
    supplies.Placed ((notebook.setContent id content).1, id)
      ((notebook'.setContent id' content).1, id') where
  notebooks := alike.edit (.setContent twins content)
  sound := sound.edit (.setContent id content)
  cells := twins

/-- A block becomes a cell at the same place on both sides. -/
theorem Alike.place (alike : supplies.Alike notebook notebook') (sound : notebook.Sound)
    (content : String) : supplies.Placed (place content notebook) (place content notebook') := by
  have added : supplies.Alike (notebook.add .code none).1 (notebook'.add .code none).1 :=
    alike.edit (.add .code none)
  have appended := added.placed (sound.edit (.add .code none)) alike.fresh content
  have last := getElem?_twins alike.cells (notebook.cells.length - 1)
  unfold Prompt.place
  rw [List.getLast?_eq_getElem?, List.getLast?_eq_getElem?, ← alike.cells.length_eq]
  generalize notebook.cells[notebook.cells.length - 1]? = cell,
    notebook'.cells[notebook.cells.length - 1]? = cell' at last ⊢
  cases last with
  | none => exact appended
  | @some cell cell' same =>
    dsimp only
    rw [Option.filter_some, Option.filter_some, same.kind, same.isBlank]
    by_cases reused : (cell'.kind == .code && cell'.isBlank) = true
    · rw [if_pos reused, if_pos reused]
      exact alike.placed sound same.id content
    · rw [if_neg reused, if_neg reused]
      exact appended

end Place

/-- What a command does to the cell at a position, it does on both sides. -/
theorem Prompts.withCell {isOpen : Bool} (prompts : supplies.Prompts earlier left right)
    (block : left.block.isEmpty = !isOpen) (index : Nat) {act act' : String → Work Response}
    (acts : ∀ id id', supplies.Twin id id' →
      Work.InStep (supplies.Responses earlier (some isOpen)) (act id) (act' id')) :
    Work.InStep (supplies.Responses earlier (some isOpen)) (withCell left index act)
      (withCell right index act') := by
  have there := prompts.apps.cellAt? index
  unfold Prompt.withCell
  generalize Prompt.cellAt? index left.app = cell, Prompt.cellAt? index right.app = cell'
    at there ⊢
  cases there with
  | none => exact .done (prompts.more block _ _)
  | some twins => exact acts _ _ twins

theorem Prompts.submit (prompts : supplies.Prompts earlier left right) :
    Work.InStep (supplies.Responses earlier (some false)) (submit left) (submit right) := by
  have again {app app' : App} (apps : supplies.Beside earlier app app') (shown shown' : String) :
      supplies.Responses earlier (some false) (Prompt.more (Prompt.start app) shown)
        (Prompt.more (Prompt.start app') shown') := (Prompts.start apps).more rfl shown shown'
  have targets := prompts.targets
  unfold Prompt.submit
  rw [prompts.blocks]
  generalize left.target = target, right.target = target' at targets ⊢
  cases targets with
  | replace twins => exact .done (again (prompts.apps.edit (.setContent twins _)) _ _)
  | newCell =>
    have placed := prompts.apps.notebooks.place prompts.apps.sound ("\n".intercalate right.block)
    have apps := prompts.apps.change placed.notebooks placed.sound
    refine (apps.run placed.cells).bind fun ended ended' ran => ?_
    exact .done (again ran _ _)

/-- An export is written on both sides. -/
theorem Prompts.exportTo {isOpen : Bool} (prompts : supplies.Prompts earlier left right)
    (block : left.block.isEmpty = !isOpen) (path path' : String) :
    Work.InStep (supplies.Responses earlier (some isOpen)) (exportTo left path)
      (exportTo right path') := by
  refine .errand fun time time' => .errand fun written written' => ?_
  rcases written with _ | _ <;> rcases written' with _ | _ <;>
    exact .done (prompts.more block _ _)

/-- A command other than an import is carried out in step. -/
theorem Prompts.execute (prompts : supplies.Prompts earlier left right)
    (closed : left.block.isEmpty = !false) {command : Prompt.Command}
    (harmless : command.isImport = false) :
    Work.InStep (supplies.Responses earlier command.opened?) (execute left command)
      (execute right command) := by
  have more {app app' : App} (apps : supplies.Beside earlier app app') (shown shown' : String) :=
    (prompts.over apps).more closed shown shown'
  cases command with
  | importFrom => cases harmless
  | quit =>
    refine .done ⟨prompts, rfl, fun _ => rfl, ?_⟩
    exact nofun
  | list | state | help => exact .done (prompts.more closed _ _)
  | add kind =>
    have added : supplies.Prompts earlier
        { left with
          app := (left.app.edit (.add kind none)).1
          target := .replace (left.app.edit (.add kind none)).2 }
        { right with
          app := (right.app.edit (.add kind none)).1
          target := .replace (right.app.edit (.add kind none)).2 } :=
      ⟨prompts.apps.edit (.add kind none), .replace prompts.apps.notebooks.fresh, prompts.blocks⟩
    exact .done (added.more closed _ _)
  | edit index =>
    refine prompts.withCell closed index fun id id' twins => ?_
    have aimed : supplies.Prompts earlier { left with target := .replace id }
        { right with target := .replace id' } := ⟨prompts.apps, .replace twins, prompts.blocks⟩
    exact .done (aimed.more closed _ _)
  | run index =>
    refine prompts.withCell closed index fun id id' twins => ?_
    exact (prompts.apps.run twins).bind fun _ _ ran => .done (more ran _ _)
  | runAll => exact prompts.apps.runAll.bind fun _ _ ran => .done (more ran _ _)
  | delete index =>
    refine prompts.withCell closed index fun id id' twins => ?_
    exact .done (more (prompts.apps.edit (.delete twins)) _ _)
  | clearOutputs => exact .done (more (prompts.apps.edit .clearOutputs) _ _)
  | clear => exact .done (more (prompts.apps.edit .clear) _ _)
  | explain index =>
    refine prompts.withCell closed index fun id id' twins => ?_
    refine (prompts.apps.explain twins).bind ?_
    rintro ⟨app, said⟩ ⟨app', said'⟩ ⟨explained, same⟩
    cases same
    cases said with
    | ok text => exact .done (more explained _ _)
    | error fault =>
      cases fault with
      | noFailure | assistant => exact .done (more explained _ _)
      | died => exact .done ((prompts.over explained).dead closed)
  | exportTo path =>
    cases path with
    | some path => exact prompts.exportTo closed path path
    | none => exact .errand fun _ _ => prompts.exportTo closed _ _

/-- A line of a block, or one that closes the block, is taken in step. -/
theorem Prompts.takeText {isOpen : Bool} (prompts : supplies.Prompts earlier left right)
    (block : left.block.isEmpty = !isOpen) {line : String}
    (text : (!isOpen && isCommandLine line) = false) :
    Work.InStep (supplies.Responses earlier (some !(Text.trim line).isEmpty)) (take left line)
      (take right line) := by
  have block' : right.block.isEmpty = !isOpen := prompts.blocks ▸ block
  unfold Prompt.take
  rw [block, block', text]
  cases blank : (Text.trim line).isEmpty with
  | true =>
    cases isOpen with
    | true => exact prompts.submit
    | false => exact .done (prompts.more block _ _)
  | false =>
    have longer : supplies.Prompts earlier { left with block := left.block ++ [line] }
        { right with block := right.block ++ [line] } :=
      ⟨prompts.apps, prompts.targets, congrArg (· ++ [line]) prompts.blocks⟩
    have opened : (left.block ++ [line]).isEmpty = !true := by simp
    exact .done (longer.more opened _ _)

/-- A line that does not import is taken in step. -/
theorem Prompts.take {isOpen : Bool} (prompts : supplies.Prompts earlier left right)
    (block : left.block.isEmpty = !isOpen) {line : String}
    (harmless : (command? isOpen line).any Prompt.Command.isImport = false) :
    Work.InStep (supplies.Responses earlier (opened? isOpen line)) (take left line)
      (take right line) := by
  unfold opened?
  cases text : !isOpen && isCommandLine line with
  | false =>
    have outside : (isOpen || !isCommandLine line) = true := by
      cases isOpen <;> simp_all
    simp only [command?, text, outside, Bool.false_eq_true, if_false, Bool.true_and]
    exact prompts.takeText block text
  | true =>
    rcases Bool.and_eq_true_iff.1 text with ⟨closed, commands⟩
    cases isOpen with
    | true => cases closed
    | false =>
      have empty : left.block.isEmpty = true := block
      have empty' : right.block.isEmpty = true := prompts.blocks ▸ block
      unfold Prompt.take
      simp only [command?, text, if_true] at harmless ⊢
      simp only [empty, empty', commands, Bool.and_self, if_true]
      cases parsed : Prompt.Command.parse line with
      | ok command =>
        rw [parsed] at harmless
        exact prompts.execute block harmless
      | error message => exact .done (prompts.more block _ _)

/-- The end of the input, in step. -/
theorem Prompts.finish (prompts : supplies.Prompts earlier left right) :
    Work.InStep (fun one other => supplies.Beside earlier one.state.app other.state.app)
      (finish left) (finish right) := by
  unfold Prompt.finish
  rw [prompts.blocks]
  split
  · exact .done prompts.apps
  · exact prompts.submit.mono fun _ _ responses => responses.prompts.apps

/-- Two prompts read the same lines in step. -/
theorem Prompts.run {isOpen : Bool} (prompts : supplies.Prompts earlier left right)
    (block : left.block.isEmpty = !isOpen) {lines : List (Except Text.InvalidBytes String)}
    (harmless : usesImport isOpen lines = false) (shown shown' : String) :
    Work.InStep
      (fun one other => supplies.Beside earlier one.app other.app ∧ one.failed = other.failed)
      (run shown left lines) (run shown' right lines) := by
  induction lines generalizing isOpen left right shown shown' with
  | nil => exact prompts.finish.bind fun _ _ apps => .done ⟨apps, rfl⟩
  | cons line rest inductionHypothesis =>
    cases line with
    | error => exact .done ⟨prompts.apps, rfl⟩
    | ok line =>
      rcases Bool.or_eq_false_iff.1 harmless with ⟨here, later⟩
      refine (prompts.take block here).bind fun one other responses => ?_
      rw [← responses.ended]
      cases ended : one.ended with
      | true => exact .done ⟨responses.prompts.apps, rfl⟩
      | false =>
        cases opened : opened? isOpen line with
        | none => cases ended.symm.trans (responses.quits opened)
        | some isOpen' =>
          rw [opened] at later
          exact inductionHypothesis responses.prompts (responses.block _ opened) later _ _

/-- Two prompts read on in step. -/
theorem Prompts.readOn {isOpen : Bool} (prompts : supplies.Prompts earlier left right)
    (block : left.block.isEmpty = !isOpen) {lines : List (Except Text.InvalidBytes String)}
    (harmless : usesImport isOpen lines = false) :
    Work.InStep (Option.Rel (supplies.Prompts earlier)) (readOn left lines)
      (readOn right lines) := by
  induction lines generalizing isOpen left right with
  | nil => exact .done (.some prompts)
  | cons line rest inductionHypothesis =>
    cases line with
    | error => exact .done .none
    | ok line =>
      rcases Bool.or_eq_false_iff.1 harmless with ⟨here, later⟩
      refine (prompts.take block here).bind fun one other responses => ?_
      rw [← responses.ended]
      cases ended : one.ended with
      | true => exact .done .none
      | false =>
        cases opened : opened? isOpen line with
        | none => cases ended.symm.trans (responses.quits opened)
        | some isOpen' =>
          rw [opened] at later
          exact inductionHypothesis responses.prompts (responses.block _ opened) later

end Supplies
end AsmNotebook
