import AsmNotebook.Json.Basic
import AsmNotebook.Output
import AsmNotebook.Text.Blank

namespace AsmNotebook

/-!
The assistant that answers questions: who provides it, what can go wrong with a
question, and the prompt that asks for an explanation of a failure.
-/

/-- Providers of the assistant. -/
inductive Provider
  | gemini
  | groq
deriving DecidableEq, Repr

namespace Provider

/-- The name in messages. -/
def display : Provider → String
  | gemini => "Gemini"
  | groq => "Groq"

/-- The name in documents. -/
def name : Provider → String
  | gemini => "gemini"
  | groq => "groq"

def names : List (String × Provider) :=
  [("gemini", gemini), ("groq", groq)]

/-- Whether a key has the form of this provider's keys; its length is counted in bytes. -/
def acceptsKey (provider : Provider) (key : String) : Bool :=
  let key := Text.trim key
  match provider with
  | gemini => Text.opensWith "AIza" key && 35 ≤ key.utf8ByteSize
  | groq => Text.opensWith "gsk_" key && 20 ≤ key.utf8ByteSize

def defaultModel : Provider → String
  | gemini => "gemini-2.5-pro"
  | groq => "llama-3.1-8b-instant"

def defaultBaseUrl : Provider → String
  | gemini => "https://generativelanguage.googleapis.com"
  | groq => "https://api.groq.com"

end Provider

/-- Why a question has no answer. -/
inductive AssistantFault
  | notConfigured (provider : Provider)
  | invalidKey (provider : Provider)
  | rateLimited
  | modelUnavailable
  | network (reason : String)
  /-- The provider refused the question or its answer cannot be used. -/
  | refused (reason : String)
deriving DecidableEq, Repr

namespace AssistantFault

def message : AssistantFault → String
  | notConfigured provider =>
    "API key not configured. Please set your " ++ provider.display ++ " API key."
  | invalidKey provider =>
    "Invalid API key. Please check your " ++ provider.display ++ " API key."
  | rateLimited => "Rate limit exceeded. Please try again in a moment."
  | modelUnavailable => "AI model not available. The API version may have changed."
  | network reason => "Unable to reach the AI provider: " ++ reason
  | refused reason => "AI provider error: " ++ reason

/-- The fault that a provider's answer with a status of failure stands for. -/
def ofStatus (provider : Provider) (status : Nat) (body : String) : AssistantFault :=
  if status = 401 ∨ status = 403 then invalidKey provider
  else if status = 429 then rateLimited
  else if status = 404 then modelUnavailable
  else if status = 400 ∧ (Text.holds "API_KEY_INVALID" body ∨ Text.holds "API key not valid" body) then
    invalidKey provider
  else
    refused ("HTTP " ++ toString status ++ ": " ++ String.ofList (body.toList.take 200))

end AssistantFault

/-- The prompt that asks why code failed. -/
def explanationPrompt (code : String) (failure : Failure) : String :=
  let kind := ((failure.detail.bind FailureDetail.kind).or failure.title).getD "Error"
  let line :=
    (failure.detail.bind fun detail => detail.line.or detail.position).getD "unknown"
  "You are an expert in 8085 microprocessor assembly programming.\n" ++
    "A student has encountered an error in their code. " ++
    "Please explain what went wrong and how to fix it.\n\n" ++
    "Code:\n```assembly\n" ++ code ++ "\n```\n\n" ++
    "Error: " ++ kind ++ " on line " ++ line ++ "\n" ++
    "Message: " ++ failure.message ++ "\n\n" ++
    "Please provide:\n" ++
    "1. A clear explanation of what caused the error\n" ++
    "2. How to fix it\n" ++
    "3. A corrected version of the code if applicable\n\n" ++
    "Keep your response concise and educational."

end AsmNotebook
