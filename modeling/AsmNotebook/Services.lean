import AsmNotebook.Assistant.Chat
import AsmNotebook.Router
import AsmNotebook.Simulator.Client

namespace AsmNotebook

/-!
The simulator and the assistant behind the calls of a notebook.  Every call is
answered at once or by one exchange, and only the conversation remembers it.
-/

structure Services where
  simulator : Simulator.Client
  chat : Chat
deriving DecidableEq, Repr

namespace Services

/-- How a call is answered. -/
inductive Plan (call : ServiceCall)
  | answered (answer : call.Answer)
  | exchange (request : Web.Request)

/-- How a call is answered. -/
def plan (services : Services) : (call : ServiceCall) → Plan call
  | .execute code => .exchange (services.simulator.executeRequest code)
  | .assemble source => .exchange (services.simulator.assembleRequest source)
  | .reset => .exchange services.simulator.resetRequest
  | .docs instruction => .exchange (services.simulator.docsRequest instruction)
  | .timing instruction => .exchange (services.simulator.timingRequest instruction)
  | .ask question =>
    match services.chat.request question with
    | .ok request => .exchange request
    | .error fault => .answered (.error fault : Except AssistantFault String)

/-- The answer that the outcome of an exchange stands for, with what is remembered of it. -/
def receive (services : Services) (outcome : Except Web.TransportFault Web.Response) :
    (call : ServiceCall) → Services × call.Answer
  | .execute code => (services, services.simulator.execution code outcome)
  | .assemble _ =>
    (services,
      services.simulator.answer Simulator.assemblyTitle id Simulator.ofAssemble outcome)
  | .reset =>
    (services,
      services.simulator.answer Simulator.resetTitle Simulator.Execution.plain Simulator.ofReset
        outcome)
  | .docs instruction =>
    (services,
      services.simulator.answer Simulator.documentationTitle id
        (fun document => Simulator.ofDocumentation document instruction) outcome)
  | .timing instruction =>
    (services,
      services.simulator.answer Simulator.timingTitle id
        (fun document => Simulator.ofTiming document instruction) outcome)
  | .ask question =>
    let (chat, answer) := services.chat.receive question outcome
    ({ services with chat := chat }, answer)

end Services

end AsmNotebook
