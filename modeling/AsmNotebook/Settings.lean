import AsmNotebook.Assistant.Basic
import AsmNotebook.Json.Format
import AsmNotebook.Json.Printer

namespace AsmNotebook

/-!
Settings, kept in a document of their own.  Every setting has a default; keys
are read without surrounding white space, and a blank key is no key.
-/

structure Settings where
  /-- Where the simulator is. -/
  backendUrl : String
  /-- How long a call may take. -/
  timeoutMs : UInt64
  aiProvider : Provider
  geminiApiKey : Option String
  groqApiKey : Option String
  /-- Models; the empty text stands for the provider's default. -/
  geminiModel : String
  groqModel : String
  /-- How long the notebook must be quiet before it is saved. -/
  autosaveDelayMs : UInt64
deriving DecidableEq

/-- Settings of the assistant for its provider. -/
structure AssistantSettings where
  provider : Provider
  apiKey : Option String
  model : Option String
  baseUrl : Option String
deriving DecidableEq, Repr

namespace Settings

def initial : Settings where
  backendUrl := "http://127.0.0.1:8085"
  timeoutMs := 30000
  aiProvider := .gemini
  geminiApiKey := none
  groqApiKey := none
  geminiModel := ""
  groqModel := ""
  autosaveDelayMs := 1000

/-- A key without surrounding white space, unless it is blank. -/
def normalKey (key : Option String) : Option String :=
  (key.map Text.trim).filter fun key => !key.isEmpty

def keyFormat : Json.Format (Option String) :=
  Json.Format.map normalKey (.nullable .text)

def format : Json.Format Settings :=
  Json.Format.map
    (fun (backendUrl, timeoutMs, aiProvider, geminiApiKey, groqApiKey, geminiModel, groqModel,
        autosaveDelayMs, ()) =>
      { backendUrl := backendUrl, timeoutMs := timeoutMs, aiProvider := aiProvider,
        geminiApiKey := geminiApiKey, groqApiKey := groqApiKey, geminiModel := geminiModel,
        groqModel := groqModel, autosaveDelayMs := autosaveDelayMs })
    (.record "AppSettings"
      (.cons "backend_url" .text (some initial.backendUrl)
        (.cons "timeout_ms" .word64 (some initial.timeoutMs)
          (.cons "ai_provider" (.choice Provider.names) (some initial.aiProvider)
            (.cons "gemini_api_key" keyFormat (some initial.geminiApiKey)
              (.cons "groq_api_key" keyFormat (some initial.groqApiKey)
                (.cons "gemini_model" .text (some initial.geminiModel)
                  (.cons "groq_model" .text (some initial.groqModel)
                    (.cons "autosave_delay_ms" .word64 (some initial.autosaveDelayMs) .nil)))))))))

/-- A key or null. -/
def keyJson (key : Option String) : Json :=
  match key with
  | some key => .text key
  | none => .null

def toJson (settings : Settings) : Json :=
  .object
    [("backend_url", .text settings.backendUrl),
      ("timeout_ms", .number (.integer settings.timeoutMs.toNat)),
      ("ai_provider", .text settings.aiProvider.name),
      ("gemini_api_key", keyJson settings.geminiApiKey),
      ("groq_api_key", keyJson settings.groqApiKey),
      ("gemini_model", .text settings.geminiModel),
      ("groq_model", .text settings.groqModel),
      ("autosave_delay_ms", .number (.integer settings.autosaveDelayMs.toNat))]

/-- The text that keeps the settings. -/
def save (settings : Settings) : String :=
  settings.toJson.indented

/-- The settings that a text keeps, or the defaults if there is no text or none that can be read. -/
def load (text : Option String) : Settings :=
  match text with
  | none => initial
  | some text =>
    match format.parse text with
    | .ok settings => settings
    | .error _ => initial

/-- The settings of the assistant. -/
def assistant (settings : Settings) : AssistantSettings :=
  let (apiKey, model) :=
    match settings.aiProvider with
    | .gemini => (settings.geminiApiKey, settings.geminiModel)
    | .groq => (settings.groqApiKey, settings.groqModel)
  { provider := settings.aiProvider
    apiKey := apiKey
    model := if model.isEmpty then none else some model
    baseUrl := none }

end Settings

/-- What the command line sets in place of the settings. -/
structure LaunchOptions where
  backendUrl : Option String
  timeoutMs : Option UInt64
  sessionPath : Option String
deriving DecidableEq, Repr

namespace LaunchOptions

/-- The settings with the given options in place. -/
def apply (options : LaunchOptions) (settings : Settings) : Settings :=
  { settings with
    backendUrl := options.backendUrl.getD settings.backendUrl
    timeoutMs := options.timeoutMs.getD settings.timeoutMs }

end LaunchOptions

end AsmNotebook
