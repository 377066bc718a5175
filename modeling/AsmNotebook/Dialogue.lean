namespace AsmNotebook

/-!
Dialogues: work that asks the world outside and goes on with its answers.  A
dialogue says nothing about where the answers come from, so the same work can
be done with real services or followed on paper.

Main statements: dialogues in a row are a lawful monad, and `run_bind`, to
follow two dialogues in a row is to follow one and then the other.
-/

/-- Work that ends with a value, or asks a question and goes on. -/
inductive Dialogue (Question : Type) (Reply : Question → Type) (α : Type)
  | done (value : α)
  | ask (question : Question) (next : Reply question → Dialogue Question Reply α)

namespace Dialogue

variable {Question : Type} {Reply : Question → Type} {α β σ : Type}

def bind : Dialogue Question Reply α → (α → Dialogue Question Reply β) → Dialogue Question Reply β
  | done value, f => f value
  | ask question next, f => ask question fun reply => (next reply).bind f

theorem bind_done (work : Dialogue Question Reply α) : work.bind done = work := by
  induction work with
  | done value => rfl
  | ask question next ih => simp only [bind, ih]

theorem bind_assoc {γ : Type} (work : Dialogue Question Reply α)
    (f : α → Dialogue Question Reply β) (g : β → Dialogue Question Reply γ) :
    (work.bind f).bind g = work.bind fun value => (f value).bind g := by
  induction work with
  | done value => rfl
  | ask question next ih => simp only [bind, ih]

instance : Monad (Dialogue Question Reply) where
  pure := done
  bind := bind

instance : LawfulMonad (Dialogue Question Reply) :=
  .mk' (Dialogue Question Reply)
    (fun work => bind_done work)
    (fun _ _ => rfl)
    (fun work f g => bind_assoc work f g)

/-- Ask one question. -/
def query (question : Question) : Dialogue Question Reply (Reply question) :=
  ask question done

/-- Follow a dialogue in a world that answers from its state. -/
def run (world : σ → (question : Question) → σ × Reply question) :
    σ → Dialogue Question Reply α → σ × α
  | state, done value => (state, value)
  | state, ask question next =>
    let (state, reply) := world state question
    run world state (next reply)

theorem run_bind (world : σ → (question : Question) → σ × Reply question) (state : σ)
    (work : Dialogue Question Reply α) (f : α → Dialogue Question Reply β) :
    run world state (work.bind f) =
      run world (run world state work).1 (f (run world state work).2) := by
  induction work generalizing state with
  | done value => rfl
  | ask question next ih => simp only [bind, run, ih]

/-- Follow a dialogue with work that asks other questions to answer each of its own, from a state. -/
def relay {Other : Type} {OtherReply : Other → Type}
    (answer : σ → (question : Question) → Dialogue Other OtherReply (σ × Reply question)) :
    σ → Dialogue Question Reply α → Dialogue Other OtherReply (σ × α)
  | state, done value => done (state, value)
  | state, ask question next =>
    (answer state question).bind fun (state, reply) => relay answer state (next reply)

end Dialogue

end AsmNotebook
