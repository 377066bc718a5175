import AsmNotebook.Json.Reader
import AsmNotebook.Settings
import AsmNotebook.Web.Exchange

namespace AsmNotebook

/-!
A conversation with the assistant.  Every question is sent with the questions
and answers before it; a question that is not answered leaves no trace.
-/

inductive Speaker
  | user
  | model
deriving DecidableEq, Repr

structure Message where
  speaker : Speaker
  text : String
deriving DecidableEq, Repr

structure Chat where
  settings : AssistantSettings
  history : List Message
deriving DecidableEq, Repr

namespace Chat

def new (settings : AssistantSettings) : Chat where
  settings := settings
  history := []

def clear (chat : Chat) : Chat :=
  { chat with history := [] }

/-- Whether there is a key of the right form. -/
def isConfigured (chat : Chat) : Bool :=
  match chat.settings.apiKey with
  | some key => chat.settings.provider.acceptsKey key
  | none => false

def model (chat : Chat) : String :=
  (chat.settings.model.filter fun model => !model.isEmpty).getD chat.settings.provider.defaultModel

/-- Where the provider is, without slashes at the end. -/
def baseUrl (chat : Chat) : String :=
  let base := chat.settings.baseUrl.getD chat.settings.provider.defaultBaseUrl
  String.ofList ((base.toList.reverse.dropWhile (· == '/')).reverse)

def systemPrompt : String :=
  "You are an expert in 8085 microprocessor assembly programming. " ++
    "Provide clear, concise answers with code examples when appropriate."

/-- How long an exchange may take. -/
def timeoutMs : Nat := 60000

/-- Most tokens of an answer. -/
def maxTokens : Json :=
  .number (.integer 4096)

/-- The temperature, seven tenths to 24 binary digits. -/
def temperature : Json :=
  .number (.real ⟨false, ⟨11744051 * Nat.pow 2 29, -53⟩⟩)

/-- A text as the parts of a message. -/
def parts (text : String) : Json :=
  .array [.object [("text", .text text)]]

/-- The body of a question to one provider. -/
def geminiBody (history : List Message) (question : String) : Json :=
  let content (message : Message) : Json :=
    let role := match message.speaker with
      | .user => "user"
      | .model => "model"
    .object [("parts", parts message.text), ("role", .text role)]
  let asked : Message := ⟨.user, question⟩
  .object
    [("contents", .array ((history ++ [asked]).map content)),
      ("generationConfig",
        .object [("maxOutputTokens", maxTokens), ("temperature", temperature)]),
      ("systemInstruction", .object [("parts", parts systemPrompt)])]

/-- The body of a question to the other provider. -/
def groqBody (model : String) (history : List Message) (question : String) : Json :=
  let entry (role text : String) : Json :=
    .object [("content", .text text), ("role", .text role)]
  let content (message : Message) : Json :=
    match message.speaker with
    | .user => entry "user" message.text
    | .model => entry "assistant" message.text
  let asked : Message := ⟨.user, question⟩
  .object
    [("max_tokens", maxTokens),
      ("messages",
        .array (entry "system" systemPrompt :: (history ++ [asked]).map content)),
      ("model", .text model), ("temperature", temperature)]

/-- The key to send, if it has the right form. -/
def key (chat : Chat) : Except AssistantFault String :=
  let provider := chat.settings.provider
  match (chat.settings.apiKey.map Text.trim).filter fun key => !key.isEmpty with
  | none => .error (.notConfigured provider)
  | some key => if provider.acceptsKey key then .ok key else .error (.invalidKey provider)

def address (chat : Chat) : String :=
  match chat.settings.provider with
  | .gemini => chat.baseUrl ++ "/v1beta/models/" ++ chat.model ++ ":generateContent"
  | .groq => chat.baseUrl ++ "/openai/v1/chat/completions"

/-- The header that carries the key. -/
def keyHeader (chat : Chat) (key : String) : String × String :=
  match chat.settings.provider with
  | .gemini => ("x-goog-api-key", key)
  | .groq => ("authorization", "Bearer " ++ key)

def body (chat : Chat) (question : String) : Json :=
  match chat.settings.provider with
  | .gemini => geminiBody chat.history question
  | .groq => groqBody chat.model chat.history question

/-- The request that asks a question. -/
def request (chat : Chat) (question : String) : Except AssistantFault Web.Request := do
  let key ← chat.key
  match Web.Url.parse chat.address with
  | .error _ => .error (.network (Web.TransportFault.unsendable none).message)
  | .ok url =>
    let request := Web.Request.post url (some (chat.body question)) timeoutMs
    .ok { request with headers := chat.keyHeader key :: request.headers }

/-- The first item of a member: of a list, or under the name `0`. -/
def firstAt? (name : String) (document : Json) : Option Json :=
  (document.get? name).bind fun items => (items.item? 0).or (items.get? "0")

/-- The text of an answer, unless it is empty. -/
def replyText? (provider : Provider) (document : Json) : Option String :=
  let text? :=
    match provider with
    | .gemini => do
      let first ← firstAt? "candidates" document
      let content ← first.get? "content"
      let parts ← (content.get? "parts").bind Json.items?
      pure (String.join (parts.filterMap (Json.textAt? "text")))
    | .groq => do
      let first ← firstAt? "choices" document
      let message ← first.get? "message"
      message.textAt? "content"
  text?.filter fun text => !text.isEmpty

/-- The answer that the outcome of a request stands for. -/
def answer (provider : Provider) (outcome : Except Web.TransportFault Web.Response) :
    Except AssistantFault String :=
  match outcome with
  | .error fault => .error (.network fault.message)
  | .ok response =>
    match response.text with
    | .error fault => .error (.network fault.message)
    | .ok text =>
      if response.isSuccess then
        match Json.parse text with
        | .error error => .error (.refused error.message)
        | .ok document =>
          match replyText? provider document with
          | some text => .ok text
          | none => .error (.refused "Empty response from model")
      else
        .error (.ofStatus provider response.status text)

/-- The conversation after a question, with its answer. -/
def receive (chat : Chat) (question : String) (outcome : Except Web.TransportFault Web.Response) :
    Chat × Except AssistantFault String :=
  match answer chat.settings.provider outcome with
  | .ok text =>
    ({ chat with history := chat.history ++ [⟨.user, question⟩, ⟨.model, text⟩] }, .ok text)
  | .error fault => (chat, .error fault)

end Chat

end AsmNotebook
