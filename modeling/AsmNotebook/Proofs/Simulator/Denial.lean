import AsmNotebook.App.Loop
import AsmNotebook.Proofs.Simulator.Execution

namespace AsmNotebook
namespace Simulator

/-!
# Answers that deny success

An answer may say outright that there was no success.  With an error in it, it
becomes a failure and the processor stays as it is.  Without one it is treated
like an answer that leaves success open: a report that comes with it is
forwarded.  So a denial protects the processor exactly where there is an error,
or nothing to forward.
-/

variable {document : Json} {code : String}

theorem not_truthyAt_of_deniesSuccess (denied : deniesSuccess document = true) :
    truthyAt "success" document = false := by
  unfold deniesSuccess at denied
  unfold truthyAt
  cases found : document.get? "success" with
  | none => rfl
  | some value =>
    rw [found] at denied
    cases value with
    | bool value =>
      cases value with
      | false => rfl
      | true => cases denied
    | null | number | text | array | object => cases denied

theorem members?_of_deniesSuccess (denied : deniesSuccess document = true) :
    ∃ members, document.members? = some members := by
  cases document with
  | object members => exact ⟨members, rfl⟩
  | null | bool | number | text | array => cases denied

/-- What is forwarded of an answer that denies success. -/
theorem update_of_deniesSuccess (denied : deniesSuccess document = true) :
    (ofExecute document code).update =
      if truthyAt "error" document then none else reported? document := by
  rcases members?_of_deniesSuccess denied with ⟨members, object⟩
  have unsuccessful := not_truthyAt_of_deniesSuccess denied
  cases harmed : truthyAt "error" document with
  | false =>
    rw [ofExecute_of_unharmed object (Or.inr harmed), (succeeded_eq document).1]
    rfl
  | true =>
    rcases ofExecute_cases document code with success | none
    · have fails : FailsAs .domain (ofExecute document code).output :=
        failsAs_iff.2 (Or.inr ⟨rfl, by simp [object], unsuccessful, harmed⟩)
      rw [success] at fails
      exact absurd (succeeds_succeeded document) fails.not_succeeds
    · exact none

/-- No map is the only one. -/
theorem exists_ne_map {α : Type} [Inhabited α] (map : SortedMap α) :
    ∃ other : SortedMap α, other ≠ map := by
  cases entries : map.entries with
  | nil =>
    refine ⟨.ofList [("", default)], fun same => ?_⟩
    rw [← same] at entries
    cases entries
  | cons entry rest =>
    refine ⟨.empty, fun same => ?_⟩
    rw [← same] at entries
    cases entries

/-- A report with a section changes some processor. -/
theorem exists_processor_moved {update : ProcessorUpdate} (nonempty : update.isEmpty = false) :
    ∃ processor : Processor, processor.act (.apply update) ≠ processor := by
  rcases update with ⟨registers, flags, memory⟩
  cases registers with
  | some registers =>
    rcases exists_ne_map registers with ⟨other, different⟩
    refine ⟨{ Processor.powerOn with registers := other }, fun same => different ?_⟩
    exact (congrArg Processor.registers same).symm
  | none =>
    cases flags with
    | some flags =>
      rcases exists_ne_map flags with ⟨other, different⟩
      refine ⟨{ Processor.powerOn with flags := other }, fun same => different ?_⟩
      exact (congrArg Processor.flags same).symm
    | none =>
      cases memory with
      | some memory =>
        rcases exists_ne_map memory with ⟨other, different⟩
        refine ⟨{ Processor.powerOn with memory := other }, fun same => different ?_⟩
        exact (congrArg Processor.memory same).symm
      | none => cases nonempty

/-- A run of code changes the processor by the report of its answer, if that has a section. -/
theorem processor_store_execute (execution : Execution) (cellId code : String) (app : App) :
    (app.store cellId (conclude (.execute code) execution)).1.processor =
      match execution.update.filter fun update => !update.isEmpty with
      | some update => app.processor.act (.apply update)
      | none => app.processor := by
  rw [App.store_processor]
  simp only [conclude]
  cases execution.update.filter fun update => !update.isEmpty with
  | none => rfl
  | some update => rfl

/-- A run of code leaves every processor alone exactly if there is no section to apply. -/
theorem processor_kept_iff (execution : Execution) (code : String) :
    (∀ (app : App) (cellId : String),
        (app.store cellId (conclude (.execute code) execution)).1.processor = app.processor) ↔
      ∀ update, execution.update = some update → update.isEmpty = true := by
  constructor
  · intro kept update reported
    cases empty : update.isEmpty with
    | true => rfl
    | false =>
      rcases exists_processor_moved empty with ⟨processor, moved⟩
      have same := kept { App.new (.blank 0) with processor := processor } ""
      have applied : (execution.update.filter fun update => !update.isEmpty) = some update := by
        simp [reported, empty]
      rw [processor_store_execute, applied] at same
      exact absurd same moved
  · intro empty app cellId
    have nothing : (execution.update.filter fun update => !update.isEmpty) = none := by
      rw [Option.filter_eq_none_iff]
      intro update reported
      simp [empty update reported]
    rw [processor_store_execute, nothing]

/-- When an answer that denies success has no report to forward, and when a run of plain code that it
answers leaves the processor as it is. -/
theorem denial_respected_iff (denied : deniesSuccess document = true) {source : String}
    (plain : isCode source = true) :
    route source = .call (.execute (Text.trim source)) ∧
      ((ofExecute document (Text.trim source)).update = none ↔
        truthyAt "error" document = true ∨ reported? document = none) ∧
      ((∀ (app : App) (cellId : String),
          (app.store cellId (conclude (.execute (Text.trim source))
            (ofExecute document (Text.trim source)))).1.processor = app.processor) ↔
        truthyAt "error" document = true ∨
          ∀ update, reported? document = some update → update.isEmpty = true) := by
  refine ⟨route_of_code plain, ?_, ?_⟩
  · rw [update_of_deniesSuccess denied]
    cases truthyAt "error" document with
    | true => simp
    | false => simp
  · rw [processor_kept_iff, update_of_deniesSuccess denied]
    cases truthyAt "error" document with
    | true => simp
    | false => simp

/-- A denial with an error and a report: nothing is forwarded. -/
theorem denial_respected_with_error :
    deniesSuccess (.object [("error", .text "bad"), ("registers", .object [("A", .text "05")]),
        ("success", .bool false)]) = true ∧ isCode "NOP" = true ∧
      ∀ (app : App) (cellId : String),
        (app.store cellId (conclude (.execute "NOP")
          (ofExecute (.object [("error", .text "bad"),
            ("registers", .object [("A", .text "05")]), ("success", .bool false)])
            "NOP"))).1.processor = app.processor := by
  have plain : isCode "NOP" = true := rfl
  exact ⟨rfl, plain, (denial_respected_iff rfl plain).2.2.2 (Or.inl rfl)⟩

/-- A denial without an error moves the processor all the same. -/
theorem denial_overlooked :
    deniesSuccess (.object [("newState", .object [("registers", .object [("A", .text "05")])]),
        ("success", .bool false)]) = true ∧
      (ofExecute (.object [("newState", .object [("registers", .object [("A", .text "05")])]),
        ("success", .bool false)]) "NOP").update =
          some ⟨some (.ofList [("A", "05")]), none, none⟩ ∧
      ((App.new (.blank 0)).store "x" (conclude (.execute "NOP")
        (ofExecute (.object [("newState", .object [("registers", .object [("A", .text "05")])]),
          ("success", .bool false)]) "NOP"))).1.processor.register? "A" = some "05" ∧
      (App.new (.blank 0)).processor.register? "A" = some "00" :=
  ⟨rfl, rfl, rfl, rfl⟩

end Simulator
end AsmNotebook
