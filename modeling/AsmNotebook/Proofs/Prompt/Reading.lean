import AsmNotebook.Proofs.Lockstep
import AsmNotebook.Prompt.Loop

namespace AsmNotebook

/-!
# What the prompt makes of its input

Whether a line is a command depends on whether a block is open, and that is
decided by the lines before it alone.  So the commands in an input can be
listed without following the prompt.  What the prompt does is another matter:
it depends on the answers to its calls, and it is followed in a world.

An input that ends with a line feed can be cut there.  The lines of both parts
together are the lines of the whole, and a prompt that reads on after the first
part does what it does for the whole.
-/

namespace Text

theorem cutFrom_append {before : List UInt8} (ends : before.getLast? = some 10)
    (carried after : List UInt8) :
    cutFrom carried (before ++ after) = cutFrom carried before ++ cutFrom [] after := by
  induction before generalizing carried with
  | nil => cases ends
  | cons byte rest inductionHypothesis =>
    cases rest with
    | nil =>
      cases ends
      rfl
    | cons next rest =>
      rw [List.getLast?_cons_cons] at ends
      rw [List.cons_append, cutFrom, cutFrom]
      split
      · exact congrArg _ (inductionHypothesis ends [])
      · exact inductionHypothesis ends (byte :: carried)

/-- The lines of an input that is cut behind a line feed. -/
theorem byteLines_append {before : List UInt8} (ends : before.getLast? = some 10)
    (after : List UInt8) : byteLines (before ++ after) = byteLines before ++ byteLines after := by
  rw [byteLines, cutFrom_append ends, List.map_append]
  rfl

end Text

namespace Prompt

/-- The command that a line gives, where a block is open or not. -/
def command? (isOpen : Bool) (line : String) : Option Command :=
  if !isOpen && isCommandLine line then (Command.parse line).toOption else none

/-- Whether a block is open after a command.  The command may also end the prompt. -/
def Command.opened? : Command → Option Bool
  | quit => none
  | _ => some false

/-- Whether a block is open after a line.  The line may also end the prompt. -/
def opened? (isOpen : Bool) (line : String) : Option Bool :=
  match command? isOpen line with
  | some command => command.opened?
  | none => some ((isOpen || !isCommandLine line) && !(Text.trim line).isEmpty)

/-- Whether a command replaces the cells by those of a file. -/
def Command.isImport : Command → Bool
  | importFrom _ => true
  | _ => false

/-- Whether one of the lines that are read gives a command to import. -/
def usesImport : Bool → List (Except Text.InvalidBytes String) → Bool
  | _, [] => false
  | _, .error _ :: _ => false
  | isOpen, .ok line :: rest =>
    (command? isOpen line).any Command.isImport ||
      (opened? isOpen line).any fun isOpen => usesImport isOpen rest

/-- The prompt after some lines, if it reads on. -/
def readOn (state : State) : List (Except Text.InvalidBytes String) → Work (Option State)
  | [] => .done (some state)
  | .error _ :: _ => .done none
  | .ok line :: rest =>
    (take state line).bind fun response =>
      if response.ended then .done none else readOn response.state rest

open Work (follow follow_bind Service Runner)

variable {σ φ : Type} {serve : Service σ} {errands : Runner φ}

/-- A prompt that reads on after some lines goes on with the next ones. -/
theorem follow_run_append {services : σ} {files : φ} {state cut : State}
    {before : List (Except Text.InvalidBytes String)}
    (reads : (follow serve errands services files (readOn state before)).2 = some cut)
    (after : List (Except Text.InvalidBytes String)) (shown : String) :
    let world := (follow serve errands services files (readOn state before)).1
    ∃ shown', follow serve errands services files (run shown state (before ++ after)) =
      follow serve errands world.1 world.2 (run shown' cut after) := by
  induction before generalizing services files state shown with
  | nil =>
    cases reads
    exact ⟨shown, rfl⟩
  | cons line rest inductionHypothesis =>
    cases line with
    | error => cases reads
    | ok line =>
      rw [readOn, follow_bind] at reads
      rw [readOn, follow_bind]
      rw [List.cons_append, run, follow_bind]
      dsimp only at reads ⊢
      generalize follow serve errands services files (take state line) = taken at reads ⊢
      cases ended : taken.2.ended with
      | true =>
        rw [ended] at reads
        cases reads
      | false =>
        rw [ended] at reads
        exact inductionHypothesis reads _

end Prompt
end AsmNotebook
