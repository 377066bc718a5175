import AsmNotebook.Launch
import AsmNotebook.Proofs.Ends
import AsmNotebook.Proofs.Json.Finds
import AsmNotebook.Proofs.Json.Gives
import AsmNotebook.Proofs.Text.Encoding
import AsmNotebook.Proofs.Text.Trim

namespace AsmNotebook

/-!
# Settings are read back

Settings are written as they are, but their keys are trimmed when they are
read, and a blank key is dropped.  So what is read back is a projection of what
was written.  It is the identity on settings whose keys are trimmed already.

All settings that come from a file are of this kind, whatever is in the file:
the defaults have no keys, and a key that is read has been trimmed.  The options
of a launch set neither key.  So the settings that a launch uses are not changed
by keeping them.
-/

open Json.Format (Finds Gives gives_any)
open Json.Fields (Holds)

variable {depth : Nat}

namespace Settings

/-! ## Keys -/

/-- The key that is read where another one was written. -/
inductive KeyOf : Option String → Option String → Prop
  | absent : KeyOf none none
  | blank {written : String} (blank : Text.AllBlank written.toList) : KeyOf (some written) none
  | trimmed {written : String} {core : List Char} (filled : core ≠ [])
      (trims : Text.TrimsTo written.toList core) : KeyOf (some written) (some (String.ofList core))

theorem normalKey_some (written : String) :
    normalKey (some written) =
      if (Text.trim written).isEmpty then none else some (Text.trim written) := by
  cases empty : (Text.trim written).isEmpty <;> simp [normalKey, Option.filter, empty]

/-- There is one such key. -/
theorem KeyOf.normalKey_eq {written key : Option String} (keyOf : KeyOf written key) :
    normalKey written = key := by
  cases keyOf with
  | absent => rfl
  | blank blank => rw [normalKey_some, if_pos (Text.isEmpty_trim_iff.2 blank)]
  | @trimmed written core filled trims =>
    have trimmed : Text.trim written = String.ofList core := by
      rw [Text.trim, Text.trimsTo_iff.1 trims]
    have present : ¬ (String.ofList core).isEmpty = true := by
      rwa [String.isEmpty_iff, String.ofList_eq_empty_iff]
    rw [normalKey_some, trimmed, if_neg present]

theorem keyOf_normalKey (written : Option String) : KeyOf written (normalKey written) := by
  cases written with
  | none => exact .absent
  | some written =>
    rw [normalKey_some]
    split
    · next empty => exact .blank (Text.isEmpty_trim_iff.1 empty)
    · next present =>
      rw [String.isEmpty_iff, Text.trim, String.ofList_eq_empty_iff] at present
      exact .trimmed present (Text.trimsTo_iff.2 rfl)

/-- A key that was read is read as it is. -/
theorem KeyOf.again {written key : Option String} (keyOf : KeyOf written key) : KeyOf key key := by
  cases keyOf with
  | absent | blank => exact .absent
  | trimmed filled trims =>
    apply KeyOf.trimmed filled
    rw [String.toList_ofList]
    exact trims.self

theorem normalKey_normalKey (written : Option String) :
    normalKey (normalKey written) = normalKey written :=
  (keyOf_normalKey written).again.normalKey_eq

example : normalKey (some "\u3000a key\n") = some "a key" := by decide

/-! ## What is written -/

/-- The settings with their keys as they are read. -/
def normal (settings : Settings) : Settings :=
  { settings with
    geminiApiKey := normalKey settings.geminiApiKey
    groqApiKey := normalKey settings.groqApiKey }

theorem finds_provider (provider : Provider) :
    Finds (.choice Provider.names) depth (.text provider.name) provider := by
  cases provider <;> exact .choice rfl

theorem finds_key (key : Option String) : Finds keyFormat depth (keyJson key) (normalKey key) := by
  cases key with
  | none => exact Finds.map .nullable_none rfl
  | some key => exact Finds.map (.nullable_some (.text key) nofun) rfl

theorem finds (settings : Settings) :
    Finds Settings.format (depth + 1) settings.toJson settings.normal := by
  apply Finds.recordOf "AppSettings"
  case distinct => decide
  case holds =>
    apply Holds.present (.text settings.backendUrl)
    apply Holds.present (.word64 settings.timeoutMs)
    apply Holds.present (finds_provider settings.aiProvider)
    apply Holds.present (finds_key settings.geminiApiKey)
    apply Holds.present (finds_key settings.groqApiKey)
    apply Holds.present (.text settings.geminiModel)
    apply Holds.present (.text settings.groqModel)
    exact .present (.word64 settings.autosaveDelayMs) .nil
  case same => rfl

theorem load_save (settings : Settings) : load (some settings.save) = settings.normal := by
  have finds : Finds Settings.format (126 + 1) settings.toJson settings.normal := settings.finds
  have parsed : Settings.format.parse (settings.save ++ "") = .ok settings.normal :=
    Json.readWhole_indented_append finds.plain finds.read rfl rfl
  rw [String.append_empty] at parsed
  rw [load, parsed]

/-! ## What is read -/

theorem gives_key : keyFormat.Gives fun key => normalKey key = key :=
  (gives_any _).map fun written _ => normalKey_normalKey written

theorem initial_normal : initial.normal = initial := rfl

/-- All settings that are read have keys that were read. -/
theorem gives_normal : Settings.format.Gives fun settings => settings.normal = settings := by
  apply Gives.map
  case gives =>
    apply Gives.record
    iterate 3 apply Json.Fields.Gives.other
    apply Json.Fields.Gives.cons gives_key (by rintro _ ⟨⟩; rfl)
    apply Json.Fields.Gives.cons gives_key (by rintro _ ⟨⟩; rfl)
    iterate 3 apply Json.Fields.Gives.other
    exact .nil
  case carries =>
    rintro ⟨backendUrl, timeoutMs, aiProvider, geminiApiKey, groqApiKey, others⟩
      ⟨-, -, -, gemini, groq, -⟩
    simp only [normal, mk.injEq, true_and, and_true]
    exact ⟨gemini, groq⟩

/-- The settings that are loaded from the bytes of a file, or without a file. -/
def ofFile (contents : Option (List UInt8)) : Settings :=
  load (contents.bind fun bytes => (Text.decode bytes).toOption)

theorem load_normal (text : Option String) : (load text).normal = load text := by
  cases text with
  | none => exact initial_normal
  | some text =>
    rw [load]
    split
    · next settings parsed => exact gives_normal.parse parsed
    · exact initial_normal

/-- Settings that are kept in a file are loaded with the keys that are read of them. -/
theorem ofFile_save (settings : Settings) :
    ofFile (some settings.save.toUTF8.toList) = settings.normal := by
  rw [ofFile, Option.bind_some, Text.decode_toUTF8]
  exact load_save settings

/-- Options set no key. -/
theorem apply_normal (options : LaunchOptions) {settings : Settings}
    (normal : settings.normal = settings) :
    (options.apply settings).normal = options.apply settings :=
  congrArg options.apply normal

/-- Settings survive a file but for what is trimmed of their keys, and the settings of a launch
survive it as they are. -/
theorem settings_survive :
    (∀ settings : Settings, ∃ gemini groq,
      KeyOf settings.geminiApiKey gemini ∧ KeyOf settings.groqApiKey groq ∧
        ofFile (some settings.save.toUTF8.toList) =
          { settings with geminiApiKey := gemini, groqApiKey := groq }) ∧
    (∀ (contents : Option (List UInt8)) (options : LaunchOptions),
      let current := options.apply (ofFile contents)
      ofFile (some current.save.toUTF8.toList) = current) ∧
    ∀ (places : Launch.Places) (options : LaunchOptions),
      (Launch.settings places options).Ends fun current =>
        ofFile (some current.save.toUTF8.toList) = current := by
  have kept (options : LaunchOptions) (text : Option String) :
      ofFile (some (options.apply (load text)).save.toUTF8.toList) = options.apply (load text) := by
    rw [ofFile_save]
    exact apply_normal options (load_normal text)
  refine ⟨fun settings => ⟨_, _, keyOf_normalKey _, keyOf_normalKey _, ofFile_save settings⟩,
    fun contents options => kept options _, fun places options => ?_⟩
  -- Where there is no file, the defaults are written before the file is read.
  intro (there : Bool)
  cases there with
  | false => exact fun _ text => kept options text.toOption
  | true => exact fun text => kept options text.toOption

end Settings
end AsmNotebook
