import AsmNotebook.World

namespace AsmNotebook
namespace Work

/-!
# Work in step

Two pieces of work are in step if they make the same calls in the same order
and end alike, provided that nothing else happens while a call waits.  They
may run errands at the same points only, but these errands may differ and so
may their replies.  Hence services that treat equal calls equally cannot tell
such work apart, wherever files and clocks stand.
-/

variable {σ φ α β γ δ : Type}

/-- Two pieces of work make the same calls and end with related values.  A call is answered alike on
both sides, or dies on both. -/
inductive InStep (related : α → β → Prop) : Work α → Work β → Prop
  | done {value : α} {value' : β} (ends : related value value') :
      InStep related (.done value) (.done value')
  | attend {app app' : App} {number number' : Nat} {call : ServiceCall}
      {next : App.Attendance call → Work α} {next' : App.Attendance call → Work β}
      (rest : ∀ answer, InStep related (next (.undisturbed answer)) (next' (.undisturbed answer))) :
      InStep related (.ask (.attend ⟨app, number, call⟩) next)
        (.ask (.attend ⟨app', number', call⟩) next')
  | errand {errand errand' : Errand} {next : errand.Reply → Work α} {next' : errand'.Reply → Work β}
      (rest : ∀ reply reply', InStep related (next reply) (next' reply')) :
      InStep related (.ask (.errand errand) next) (.ask (.errand errand') next')

namespace InStep

variable {related : α → β → Prop} {related' : γ → δ → Prop} {work : Work α} {work' : Work β}

theorem bind (inStep : InStep related work work') {f : α → Work γ} {g : β → Work δ}
    (rest : ∀ value value', related value value' → InStep related' (f value) (g value')) :
    InStep related' (Dialogue.bind work f) (Dialogue.bind work' g) := by
  induction inStep with
  | done ends => exact rest _ _ ends
  | attend _ inductionHypothesis => exact .attend inductionHypothesis
  | errand _ inductionHypothesis => exact .errand inductionHypothesis

theorem mono {weaker : α → β → Prop} (inStep : InStep related work work')
    (implies : ∀ value value', related value value' → weaker value value') :
    InStep weaker work work' := by
  induction inStep with
  | done ends => exact .done (implies _ _ ends)
  | attend _ inductionHypothesis => exact .attend inductionHypothesis
  | errand _ inductionHypothesis => exact .errand inductionHypothesis

end InStep

/-- How services treat a call, from what they remember: they answer it, or die. -/
abbrev Service (σ : Type) : Type :=
  σ → (call : ServiceCall) → σ × Option call.Answer

/-- How errands are done, from the state of the files and the clock. -/
abbrev Runner (φ : Type) : Type :=
  φ → (errand : Errand) → φ × errand.Reply

/-- A world in which nothing else happens while a call waits. -/
def world (serve : Service σ) (errands : Runner φ) : σ × φ → (query : Query) →
    (σ × φ) × query.Reply
  | (services, files), .attend waiting =>
    let served := serve services waiting.call
    ((served.1, files), .undisturbed served.2)
  | (services, files), .errand errand =>
    let replied := errands files errand
    ((services, replied.1), replied.2)

/-- Follow work in such a world. -/
def follow (serve : Service σ) (errands : Runner φ) (services : σ) (files : φ) (work : Work α) :
    (σ × φ) × α :=
  Dialogue.run (world serve errands) (services, files) work

variable {serve : Service σ} {errands : Runner φ}

theorem follow_bind (services : σ) (files : φ) (work : Work α) (f : α → Work β) :
    follow serve errands services files (Dialogue.bind work f) =
      let first := follow serve errands services files work
      follow serve errands first.1.1 first.1.2 (f first.2) :=
  Dialogue.run_bind ..

/-- Work in step leaves the services in the same state. -/
theorem InStep.follow {related : α → β → Prop} {work : Work α} {work' : Work β}
    (inStep : InStep related work work') (serve : Service σ) (errands : Runner φ) (services : σ)
    (files files' : φ) :
    let one := follow serve errands services files work
    let other := follow serve errands services files' work'
    one.1.1 = other.1.1 ∧ related one.2 other.2 := by
  induction inStep generalizing services files files' with
  | done ends => exact ⟨rfl, ends⟩
  | attend _ inductionHypothesis => exact inductionHypothesis _ _ files files'
  | errand _ inductionHypothesis => exact inductionHypothesis _ _ services _ _

end Work
end AsmNotebook
