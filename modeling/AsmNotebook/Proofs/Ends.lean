import AsmNotebook.Dialogue

namespace AsmNotebook
namespace Dialogue

/-!
# What holds at every end of a dialogue

A dialogue asks a finite number of questions along every branch, so it always
comes to an end.  `Ends` says of all its ends at once, over all replies that
the world can give, what one would say of the value of a function.
-/

variable {Question : Type} {Reply : Question → Type} {α β σ : Type}

/-- Whatever a dialogue is answered, something holds of the value that it ends with. -/
def Ends (holds : α → Prop) : Dialogue Question Reply α → Prop
  | done value => holds value
  | ask _ next => ∀ reply, (next reply).Ends holds

theorem Ends.mono {holds weaker : α → Prop} {work : Dialogue Question Reply α}
    (ends : work.Ends holds) (implies : ∀ value, holds value → weaker value) :
    work.Ends weaker := by
  induction work with
  | done value => exact implies value ends
  | ask question next inductionHypothesis =>
    exact fun reply => inductionHypothesis reply (ends reply)

theorem ends_bind {holds : β → Prop} {work : Dialogue Question Reply α}
    {f : α → Dialogue Question Reply β} :
    (work.bind f).Ends holds ↔ work.Ends fun value => (f value).Ends holds := by
  induction work with
  | done value => exact Iff.rfl
  | ask question next inductionHypothesis =>
    exact forall_congr' inductionHypothesis

/-- To follow a dialogue in a world leads to one of its ends. -/
theorem Ends.run {holds : α → Prop} {work : Dialogue Question Reply α} (ends : work.Ends holds)
    (world : σ → (question : Question) → σ × Reply question) (state : σ) :
    holds (run world state work).2 := by
  induction work generalizing state with
  | done value => exact ends
  | ask question next inductionHypothesis => exact inductionHypothesis _ (ends _) _

end Dialogue
end AsmNotebook
