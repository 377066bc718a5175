import AsmNotebook.Services

namespace AsmNotebook

/-!
# What a dispatch does to the processor

Two kinds of texts can change what is known of the processor: plain code, by
the report that comes with its answer, and the command that resets it.  Both
are recognized by their text, and `route` sends nothing else to the same
calls.  The client of the simulator forms every answer to code in one of
three ways, and none of them pairs a failure with a report.
-/

/-- Whether the text of a cell is code and not a command. -/
def isCode (source : String) : Bool :=
  !Command.isCommand (Text.trim source)

/-- Whether the text of a cell is the command that resets the processor. -/
def isReset (source : String) : Bool :=
  Command.isCommand (Text.trim source) &&
    (Command.split (Text.trim source)).1 == Command.reset.name

theorem Command.ofName?_eq_some_iff {name : String} {command : Command} :
    ofName? name = some command ↔ command.name = name := by
  constructor
  · intro found
    have same := List.find?_some found
    exact beq_iff_eq.1 same
  · rintro rfl
    cases command <;> rfl

/-- A command never leads to a run of code. -/
theorem Command.route_ne_execute (command : Command) (argument code : String) :
    command.route argument ≠ .call (.execute code) := by
  unfold Command.route
  split
  · exact nofun
  · cases command <;> exact nofun

theorem Command.route_eq_reset_iff {command : Command} {argument : String} :
    command.route argument = .call .reset ↔ command = .reset := by
  cases command with
  | reset => exact ⟨fun _ => rfl, fun _ => rfl⟩
  | help | docs | timing | assemble | ask =>
    refine ⟨fun routed => ?_, nofun⟩
    unfold Command.route at routed
    split at routed <;> cases routed

theorem route_of_code {source : String} (code : isCode source = true) :
    route source = .call (.execute (Text.trim source)) :=
  if_pos code

theorem route_of_command {source : String} (command : isCode source = false) :
    route source =
      match Command.ofName? (Command.split (Text.trim source)).1 with
      | none => .done (Command.unknownFailure (Command.split (Text.trim source)).1)
      | some command => command.route (Command.split (Text.trim source)).2 := by
  have named : Command.isCommand (Text.trim source) = true := by simpa [isCode] using command
  cases found : Command.ofName? (Command.split (Text.trim source)).1 with
  | none => simp only [route, named, found, Bool.not_true, Bool.false_eq_true, if_false]
  | some command => simp only [route, named, found, Bool.not_true, Bool.false_eq_true, if_false]

theorem isReset_of_code {source : String} (code : isCode source = true) :
    isReset source = false := by
  rw [isCode, Bool.not_eq_true'] at code
  rw [isReset, code, Bool.false_and]

/-- Exactly plain code is run, without the white space around it. -/
theorem route_eq_execute_iff {source code : String} :
    route source = .call (.execute code) ↔ isCode source = true ∧ code = Text.trim source := by
  cases plain : isCode source with
  | true =>
    rw [route_of_code plain, Route.call.injEq, ServiceCall.execute.injEq]
    exact ⟨fun same => ⟨rfl, same.symm⟩, fun same => same.2.symm⟩
  | false =>
    rw [route_of_command plain]
    refine ⟨fun routed => ?_, nofun⟩
    split at routed
    · cases routed
    · next command _ => exact absurd routed (command.route_ne_execute _ code)

/-- Exactly the command that resets the processor leads to a reset. -/
theorem route_eq_reset_iff {source : String} :
    route source = .call .reset ↔ isReset source = true := by
  cases plain : isCode source with
  | true =>
    rw [route_of_code plain, isReset_of_code plain]
    exact ⟨nofun, nofun⟩
  | false =>
    have command : Command.isCommand (Text.trim source) = true := by simpa [isCode] using plain
    rw [route_of_command plain, isReset, command, Bool.true_and, beq_iff_eq]
    cases named : Command.ofName? (Command.split (Text.trim source)).1 with
    | none =>
      refine ⟨nofun, fun same => ?_⟩
      rw [same] at named
      cases named
    | some command =>
      rw [← Command.ofName?_eq_some_iff.1 named]
      refine Command.route_eq_reset_iff.trans ⟨congrArg Command.name, fun same => ?_⟩
      have found := Command.ofName?_eq_some_iff.2 same
      exact Option.some.inj (found.symm.trans (Command.ofName?_eq_some_iff.2 rfl))

namespace Simulator

/-- An answer to code as the client of the simulator forms it. -/
inductive Normalized (code : String) : Execution → Prop
  | answered (document : Json) : Normalized code (ofExecute document code)
  | garbled : Normalized code (.plain (serverFailure code))
  | unreachable (message : String) :
      Normalized code (.plain (networkFailure connectionTitle message (some code)))

/-- The client forms all its answers so, whatever comes of the request. -/
theorem Client.execution_normalized (client : Client) (code : String)
    (outcome : Except Web.TransportFault Web.Response) :
    Normalized code (client.execution code outcome) := by
  unfold Client.execution
  split
  · exact .unreachable _
  · split
    · split
      · exact .answered _
      · exact .garbled
    · exact .garbled

/-- A success is no failure. -/
theorem succeeded_isFailure (document : Json) : (succeeded document).output.isFailure = false := by
  unfold succeeded
  split <;> rfl

theorem ofExecute_cases (document : Json) (code : String) :
    ofExecute document code = succeeded document ∨ (ofExecute document code).update = none := by
  unfold ofExecute
  split
  · exact Or.inr rfl
  · split
    · exact Or.inl rfl
    · split
      · exact Or.inl rfl
      · split
        · exact Or.inl rfl
        · split <;> exact Or.inr rfl

/-- A failure comes without a report on the processor. -/
theorem Normalized.update_of_isFailure {code : String} {execution : Execution}
    (normalized : Normalized code execution) (failed : execution.output.isFailure = true) :
    execution.update = none := by
  cases normalized with
  | answered document =>
    rcases ofExecute_cases document code with success | none
    · rw [success, succeeded_isFailure] at failed
      cases failed
    · exact none
  | garbled | unreachable => rfl

end Simulator
end AsmNotebook
