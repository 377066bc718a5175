import AsmNotebook.Proofs.Dispatch

namespace AsmNotebook

/-- The members of an object that have one of some names. -/
def Json.restrict (names : List String) : Json → Json
  | .object members => .object (members.filter fun m => names.contains m.1)
  | other => other

theorem Json.get?_restrict {names : List String} {name : String} (kept : name ∈ names)
    (document : Json) : (document.restrict names).get? name = document.get? name := by
  cases document with
  | object members =>
    have same : (fun m : String × Json => decide (names.contains m.1 = true ∧ (m.1 == name) = true)) =
        fun m => m.1 == name := by
      funext m
      by_cases here : m.1 = name
      · simp [here, kept]
      · simp [here]
    simp only [restrict, get?, member?, List.find?_filter, same]
  | null | bool | number | text | array => rfl

namespace Simulator

/-!
# What the answer to code is made of

An answer to code is a document of any shape.  Two of its members decide what
it becomes: `success`, and behind it `error`.  Three lemmas, one for each
outcome, say what comes of a document, and everything else about the outcomes
is read off them.

A success carries the report on the processor, which is looked for in three
places in turn.  `consulted` lists the members that a document is asked for on
the way to its answer.  Two objects that agree on these members get the same
answer, whatever else they hold.  So a place behind the one that holds the
report has no say, and neither has a member that the service may add.
-/

/-- The output is a failure of a kind. -/
def FailsAs (kind : FailureKind) (output : Output) : Prop :=
  ∃ failure, output = .failure failure ∧ failure.kind = kind

/-- The output is a success. -/
def Succeeds (output : Output) : Prop :=
  ∃ message, output = .success message

/-- Whether a document says in so many words that there was no success. -/
def deniesSuccess (document : Json) : Bool :=
  match document.get? "success" with
  | some (.bool false) => true
  | _ => false

/-- The failure that a document reports: under `error` where success is denied, and beside it where
the document leaves success open. -/
def reportedFault (document error : Json) : Output :=
  if deniesSuccess document then
    executionFailure ((error.textAt? "message").or error.text?) (some error)
  else
    executionFailure (document.textAt? "message") (document.get? "details")

variable {document other : Json} {members : List (String × Json)} {code : String}

/-! ## The three outcomes -/

theorem ofExecute_of_shapeless (shapeless : document.members? = none) :
    ofExecute document code = .plain (serverFailure code) := by
  unfold ofExecute
  rw [shapeless]

theorem ofExecute_of_unharmed (object : document.members? = some members)
    (unharmed : truthyAt "success" document = true ∨ truthyAt "error" document = false) :
    ofExecute document code = succeeded document := by
  unfold ofExecute
  rw [object]
  rcases unharmed with success | harmless
  · simp only [success, if_true]
  · unfold truthyAt at harmless
    cases found : document.get? "error" with
    | none => simp
    | some error =>
      rw [found] at harmless
      simp [harmless]

theorem ofExecute_of_harmed {error : Json} (object : document.members? = some members)
    (unsuccessful : truthyAt "success" document = false)
    (found : document.get? "error" = some error) (harmed : truthy error = true) :
    ofExecute document code = .plain (reportedFault document error) := by
  unfold ofExecute reportedFault deniesSuccess
  rw [object, found]
  simp only [unsuccessful, harmed, Bool.not_true, Bool.false_eq_true, if_false]
  cases document.get? "success" with
  | none => rfl
  | some success =>
    cases success with
    | bool value => cases value <;> rfl
    | null | number | text | array | object => rfl

/-- A document is no object, or reports a fault without a success, or counts as a success. -/
theorem outcomes (document : Json) :
    document.members? = none ∨
      ∃ members, document.members? = some members ∧
        ((truthyAt "success" document = true ∨ truthyAt "error" document = false) ∨
          truthyAt "success" document = false ∧
            ∃ error, document.get? "error" = some error ∧ truthy error = true) := by
  cases object : document.members? with
  | none => exact Or.inl rfl
  | some members =>
    refine Or.inr ⟨members, rfl, ?_⟩
    cases success : truthyAt "success" document with
    | true => exact Or.inl (Or.inl rfl)
    | false =>
      unfold truthyAt
      cases found : document.get? "error" with
      | none => exact Or.inl (Or.inr rfl)
      | some error =>
        cases harmed : truthy error with
        | true => exact Or.inr ⟨rfl, error, rfl, harmed⟩
        | false => exact Or.inl (Or.inr harmed)

theorem truthyAt_of_get? {name : String} {value : Json} (found : document.get? name = some value) :
    truthyAt name document = truthy value := by
  unfold truthyAt
  rw [found]

/-! ## Failures and successes -/

theorem failsAs_fail {kind kind' : FailureKind} {title : Option String} {message : String}
    {detail : Option FailureDetail} :
    FailsAs kind (.fail kind' title message detail) ↔ kind = kind' := by
  constructor
  · rintro ⟨failure, same, rfl⟩
    cases same
    rfl
  · rintro rfl
    exact ⟨_, rfl, rfl⟩

theorem failsAs_serverFailure {kind : FailureKind} :
    FailsAs kind (serverFailure code) ↔ kind = .server :=
  failsAs_fail

theorem failsAs_reportedFault {kind : FailureKind} {error : Json} :
    FailsAs kind (reportedFault document error) ↔ kind = .domain := by
  unfold reportedFault
  split
  · exact failsAs_fail
  · exact failsAs_fail

theorem FailsAs.not_succeeds {kind : FailureKind} {output : Output}
    (fails : FailsAs kind output) : ¬ Succeeds output := by
  rintro ⟨message, success⟩
  rcases fails with ⟨failure, same, _⟩
  cases same.symm.trans success

/-- A success has the report of its document, and its text says whether there is one. -/
theorem succeeded_eq (document : Json) :
    (succeeded document).update = reported? document ∧
      (succeeded document).output =
        .success (if (reported? document).isSome then executedWithState else executed) := by
  unfold succeeded
  cases reported? document with
  | none => exact ⟨rfl, rfl⟩
  | some update => exact ⟨rfl, rfl⟩

theorem executedWithState_ne_executed : executedWithState ≠ executed := by
  decide

/-- The text of a success speaks of the state of the processor if there is a report, -/
theorem succeeded_withState_iff :
    (succeeded document).output = .success executedWithState ↔ (succeeded document).update ≠ none := by
  rw [(succeeded_eq document).1, (succeeded_eq document).2]
  cases reported? document with
  | none => simp [executedWithState_ne_executed.symm]
  | some update => simp

/-- and does not otherwise. -/
theorem succeeded_executed_iff :
    (succeeded document).output = .success executed ↔ (succeeded document).update = none := by
  rw [(succeeded_eq document).1, (succeeded_eq document).2]
  cases reported? document with
  | none => simp
  | some update => simp [executedWithState_ne_executed]

theorem succeeds_succeeded (document : Json) : Succeeds (succeeded document).output :=
  ⟨_, (succeeded_eq document).2⟩

/-- Which failure the answer is, if it is one. -/
theorem failsAs_iff {kind : FailureKind} :
    FailsAs kind (ofExecute document code).output ↔
      kind = .server ∧ document.members? = none ∨
        kind = .domain ∧ document.members? ≠ none ∧ truthyAt "success" document = false ∧
          truthyAt "error" document = true := by
  rcases outcomes document with shapeless | ⟨members, object, unharmed | harmed⟩
  · rw [ofExecute_of_shapeless shapeless]
    simp [Execution.plain, failsAs_serverFailure, shapeless]
  · have not_fails : ¬ FailsAs kind (succeeded document).output := fun fails =>
      fails.not_succeeds (succeeds_succeeded document)
    rw [ofExecute_of_unharmed object unharmed]
    rcases unharmed with succeeds | harmless
    · simp [not_fails, object, succeeds]
    · simp [not_fails, object, harmless]
  · rcases harmed with ⟨unsuccessful, error, found, harmed⟩
    rw [ofExecute_of_harmed object unsuccessful found harmed]
    simp [Execution.plain, failsAs_reportedFault, object, unsuccessful, truthyAt_of_get? found,
      harmed]

/-- An answer that is a success is the one that the document counts as. -/
theorem succeeds_iff :
    Succeeds (ofExecute document code).output ↔
      document.members? ≠ none ∧
        (truthyAt "success" document = true ∨ truthyAt "error" document = false) := by
  rcases outcomes document with shapeless | ⟨members, object, unharmed | harmed⟩
  · have fails : FailsAs .server (ofExecute document code).output :=
      failsAs_iff.2 (Or.inl ⟨rfl, shapeless⟩)
    simp [fails.not_succeeds, shapeless]
  · rw [ofExecute_of_unharmed object unharmed]
    simp [succeeds_succeeded, object, unharmed]
  · rcases harmed with ⟨unsuccessful, error, found, harmed⟩
    rw [ofExecute_of_harmed object unsuccessful found harmed]
    have fails : FailsAs .domain (reportedFault document error) := failsAs_reportedFault.2 rfl
    simp [Execution.plain, fails.not_succeeds, unsuccessful, truthyAt_of_get? found, harmed]

theorem eq_succeeded_of_succeeds (success : Succeeds (ofExecute document code).output) :
    ofExecute document code = succeeded document := by
  rcases succeeds_iff.1 success with ⟨object, unharmed⟩
  rcases Option.ne_none_iff_exists'.1 object with ⟨members, object⟩
  exact ofExecute_of_unharmed object unharmed

/-- An answer with a report is a success. -/
theorem succeeds_of_update (attached : (ofExecute document code).update ≠ none) :
    Succeeds (ofExecute document code).output := by
  rcases ofExecute_cases document code with success | none
  · rw [success]
    exact succeeds_succeeded document
  · exact absurd none attached

/-! ## The place of the report -/

/-- Where a report on the processor is: under a name, or flat among the other members. -/
inductive Place
  | newState (value : Json)
  | state (value : Json)
  | flat

namespace Place

/-- The members of a report. -/
def sections : List String :=
  ["registers", "flags", "memory"]

/-- Where the report of a document is. -/
def ofDocument (document : Json) : Place :=
  match objectAt? "newState" document with
  | some value => .newState value
  | none =>
    match objectAt? "state" document with
    | some value => .state value
    | none => .flat

/-- The report that a place holds.  An object that is there for the report is one, even if it has no
section. -/
def report (document : Json) : Place → Option ProcessorUpdate
  | newState value => some ((processorUpdate? value).getD .empty)
  | state value => some ((processorUpdate? value).getD .empty)
  | flat => processorUpdate? (document.restrict sections)

/-- The members that are asked for until the report is found. -/
def names : Place → List String
  | newState _ => ["newState"]
  | state _ => ["newState", "state"]
  | flat => "newState" :: "state" :: sections

end Place

theorem section?_congr {name : String} (same : document.get? name = other.get? name) :
    (section? name document) = section? name other := by
  unfold section?
  rw [same]

theorem processorUpdate?_congr
    (same : ∀ name ∈ Place.sections, document.get? name = other.get? name) :
    processorUpdate? document = processorUpdate? other := by
  unfold processorUpdate?
  have registers := section?_congr (same "registers" (by simp [Place.sections]))
  have flags := section?_congr (same "flags" (by simp [Place.sections]))
  have memory := section?_congr (same "memory" (by simp [Place.sections]))
  rw [registers, flags, memory]

theorem reported?_eq (document : Json) :
    reported? document = (Place.ofDocument document).report document := by
  unfold reported? Place.ofDocument
  cases objectAt? "newState" document with
  | some state => rfl
  | none =>
    cases objectAt? "state" document with
    | some state => rfl
    | none =>
      apply processorUpdate?_congr
      intro name kept
      exact (Json.get?_restrict kept document).symm

theorem objectAt?_congr {name : String} (same : document.get? name = other.get? name) :
    objectAt? name document = objectAt? name other := by
  unfold objectAt?
  rw [same]

/-- Documents that agree on the members asked for have the same report. -/
theorem reported?_congr
    (same : ∀ name ∈ (Place.ofDocument document).names, document.get? name = other.get? name) :
    reported? document = reported? other := by
  unfold reported?
  unfold Place.ofDocument at same
  cases here : objectAt? "newState" document with
  | some state =>
    rw [here] at same
    rw [← objectAt?_congr (same "newState" (by simp [Place.names])), here]
  | none =>
    rw [here] at same
    dsimp only at same
    cases there : objectAt? "state" document with
    | some state =>
      rw [there] at same
      rw [← objectAt?_congr (same "newState" (by simp [Place.names])), here,
        ← objectAt?_congr (same "state" (by simp [Place.names])), there]
    | none =>
      rw [there] at same
      rw [← objectAt?_congr (same "newState" (by simp [Place.names])), here,
        ← objectAt?_congr (same "state" (by simp [Place.names])), there]
      apply processorUpdate?_congr
      intro name kept
      apply same
      simp [Place.names, kept]

/-! ## The members that have a say -/

/-- The members that a document is asked for on the way to its answer. -/
def consulted (document : Json) : List String :=
  if truthyAt "success" document then
    "success" :: (Place.ofDocument document).names
  else if truthyAt "error" document then
    if deniesSuccess document then ["success", "error"]
    else ["success", "error", "message", "details"]
  else
    "success" :: "error" :: (Place.ofDocument document).names

theorem truthyAt_congr {name : String} (same : document.get? name = other.get? name) :
    truthyAt name document = truthyAt name other := by
  unfold truthyAt
  rw [same]

theorem success_mem_consulted (document : Json) : "success" ∈ consulted document := by
  unfold consulted
  split
  · exact List.mem_cons_self
  · split
    · split <;> exact List.mem_cons_self
    · exact List.mem_cons_self

theorem reportedFault_congr {error : Json}
    (success : document.get? "success" = other.get? "success")
    (beside : deniesSuccess document = false →
      document.get? "message" = other.get? "message" ∧
        document.get? "details" = other.get? "details") :
    reportedFault document error = reportedFault other error := by
  have denied : deniesSuccess document = deniesSuccess other := by
    unfold deniesSuccess
    rw [success]
  unfold reportedFault
  rw [← denied]
  cases open' : deniesSuccess document with
  | true => rfl
  | false =>
    rcases beside open' with ⟨message, details⟩
    simp only [Json.textAt?, message, details]

/-- Objects that agree on the members asked for get the same answer. -/
theorem ofExecute_congr {members' : List (String × Json)}
    (object : document.members? = some members) (object' : other.members? = some members')
    (same : ∀ name ∈ consulted document, document.get? name = other.get? name) :
    ofExecute document code = ofExecute other code := by
  have success := same "success" (success_mem_consulted document)
  rcases outcomes document with shapeless | ⟨_, _, unharmed | ⟨unsuccessful, error, found, harmed⟩⟩
  · cases object.symm.trans shapeless
  · -- The report decides, and `error` is asked for only without a success.
    have reports : reported? document = reported? other := by
      apply reported?_congr
      intro name asked
      apply same
      unfold consulted
      cases unharmed with
      | inl succeeds => simp [succeeds, asked]
      | inr harmless => cases truthyAt "success" document <;> simp [harmless, asked]
    have unharmed' : truthyAt "success" other = true ∨ truthyAt "error" other = false := by
      cases succeeds : truthyAt "success" document with
      | true => exact Or.inl ((truthyAt_congr success).symm.trans succeeds)
      | false =>
        have harmless := unharmed.resolve_left (by simp [succeeds])
        have asked : "error" ∈ consulted document := by
          unfold consulted
          simp [succeeds, harmless]
        exact Or.inr ((truthyAt_congr (same "error" asked)).symm.trans harmless)
    rw [ofExecute_of_unharmed object unharmed, ofExecute_of_unharmed object' unharmed']
    unfold succeeded
    rw [reports]
  · have error_same : document.get? "error" = other.get? "error" := by
      apply same
      unfold consulted
      rw [unsuccessful, truthyAt_of_get? found, harmed]
      cases deniesSuccess document <;> simp
    rw [ofExecute_of_harmed object unsuccessful found harmed,
      ofExecute_of_harmed object' ((truthyAt_congr success).symm.trans unsuccessful)
        (error_same.symm.trans found) harmed]
    refine congrArg Execution.plain (reportedFault_congr success fun open' => ?_)
    have asked : consulted document = ["success", "error", "message", "details"] := by
      unfold consulted
      rw [unsuccessful, truthyAt_of_get? found, harmed, open']
      rfl
    exact ⟨same "message" (by simp [asked]), same "details" (by simp [asked])⟩

/-- What the answer to code is, and what it is made of. -/
structure Classified (document : Json) (code : String) : Prop where
  /-- It is a failure of the server exactly for a document that is no object. -/
  server : FailsAs .server (ofExecute document code).output ↔ document.members? = none
  /-- It is a failure of the program exactly for an object with an error and without a success. -/
  domain : FailsAs .domain (ofExecute document code).output ↔
    document.members? ≠ none ∧ truthyAt "success" document = false ∧
      truthyAt "error" document = true
  /-- It is a success otherwise. -/
  success : Succeeds (ofExecute document code).output ↔
    document.members? ≠ none ∧
      (truthyAt "success" document = true ∨ truthyAt "error" document = false)
  /-- Only a success comes with a report on the processor. -/
  attached : (ofExecute document code).update ≠ none → Succeeds (ofExecute document code).output
  /-- The text speaks of the state of the processor exactly if there is a report. -/
  message : (ofExecute document code).output = .success executedWithState ↔
    (ofExecute document code).update ≠ none
  /-- A success without a report has the other text. -/
  message_without : (ofExecute document code).output = .success executed ↔
    Succeeds (ofExecute document code).output ∧ (ofExecute document code).update = none
  /-- The report of a success comes from the first of the three places that holds one, alone. -/
  report : Succeeds (ofExecute document code).output →
    (ofExecute document code).update = (Place.ofDocument document).report document
  /-- Another object that agrees on the members asked for gets the same answer. -/
  independent : document.members? ≠ none → ∀ other : Json, other.members? ≠ none →
    (∀ name ∈ consulted document, document.get? name = other.get? name) →
      ofExecute document code = ofExecute other code

/-- Every document is classified, and the members that have no say have none. -/
theorem executions_classified (document : Json) (code : String) : Classified document code where
  server := by simp [failsAs_iff]
  domain := by simp [failsAs_iff]
  success := succeeds_iff
  attached := succeeds_of_update
  message := by
    constructor
    · intro withState
      have same := eq_succeeded_of_succeeds ⟨_, withState⟩
      rw [same] at withState ⊢
      exact succeeded_withState_iff.1 withState
    · intro attached
      have same := eq_succeeded_of_succeeds (succeeds_of_update attached)
      rw [same] at attached ⊢
      exact succeeded_withState_iff.2 attached
  message_without := by
    constructor
    · intro without
      refine ⟨⟨_, without⟩, ?_⟩
      have same := eq_succeeded_of_succeeds ⟨_, without⟩
      rw [same] at without ⊢
      exact succeeded_executed_iff.1 without
    · rintro ⟨success, none⟩
      have same := eq_succeeded_of_succeeds success
      rw [same] at none ⊢
      exact succeeded_executed_iff.2 none
  report := by
    intro success
    rw [eq_succeeded_of_succeeds success, (succeeded_eq document).1, reported?_eq]
  independent := by
    intro object other object' same
    rcases Option.ne_none_iff_exists'.1 object with ⟨members, object⟩
    rcases Option.ne_none_iff_exists'.1 object' with ⟨members', object'⟩
    exact ofExecute_congr object object' same

end Simulator
end AsmNotebook
