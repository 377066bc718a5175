import AsmNotebook.Output
import AsmNotebook.Json.Format

namespace AsmNotebook

/-!
Outputs in documents.  The kind of an output stands in the member `type`;
optional members that are absent are not written.
-/

namespace FailureKind

/-- Names of the kinds. -/
def names : List (String × FailureKind) :=
  [("usage", .usage), ("unknown_command", .unknownCommand), ("network", .network),
    ("server", .server), ("domain", .domain), ("ai_provider", .aiProvider)]

def name : FailureKind → String
  | usage => "usage"
  | unknownCommand => "unknown_command"
  | network => "network"
  | server => "server"
  | domain => "domain"
  | aiProvider => "ai_provider"

def format : Json.Format FailureKind :=
  .choice names

end FailureKind

namespace Json

/-- A member that is written only when it has a value. -/
def optionalMember (name : String) (value : Option Json) : List (String × Json) :=
  match value with
  | some value => [(name, value)]
  | none => []

/-- A list of texts. -/
def texts (items : List String) : Json :=
  .array (items.map .text)

end Json

namespace FailureDetail

def optionalText : Json.Format (Option String) :=
  .nullable .text

def format : Json.Format FailureDetail :=
  Json.Format.map
    (fun (kind, instruction, tag, position, line, hint, ()) =>
      { kind := kind, instruction := instruction, tag := tag, position := position, line := line,
        hint := hint })
    (.record "ErrorDetail"
      (.cons "kind" optionalText (some none)
        (.cons "instruction" optionalText (some none)
          (.cons "tag" optionalText (some none)
            (.cons "position" optionalText (some none)
              (.cons "line" optionalText (some none)
                (.cons "hint" optionalText (some none) .nil)))))))

def toJson (detail : FailureDetail) : Json :=
  .object
    (Json.optionalMember "kind" (detail.kind.map .text) ++
      Json.optionalMember "instruction" (detail.instruction.map .text) ++
      Json.optionalMember "tag" (detail.tag.map .text) ++
      Json.optionalMember "position" (detail.position.map .text) ++
      Json.optionalMember "line" (detail.line.map .text) ++
      Json.optionalMember "hint" (detail.hint.map .text))

end FailureDetail

namespace Failure

def format : Json.Format Failure :=
  Json.Format.map
    (fun (kind, title, message, detail, explanation, ()) =>
      { kind := kind, title := title, message := message, detail := detail,
        explanation := explanation })
    (.record "ErrorOutput"
      (.cons "kind" FailureKind.format none
        (.cons "title" (.nullable .text) (some none)
          (.cons "message" .text none
            (.cons "detail" (.nullable FailureDetail.format) (some none)
              (.cons "explanation" (.nullable .text) (some none) .nil))))))

/-- Members of a failure, in their order. -/
def members (failure : Failure) : List (String × Json) :=
  ("kind", .text failure.kind.name) ::
    Json.optionalMember "title" (failure.title.map .text) ++
    ("message", .text failure.message) ::
    Json.optionalMember "detail" (failure.detail.map FailureDetail.toJson) ++
    Json.optionalMember "explanation" (failure.explanation.map .text)

end Failure

namespace Documentation

def format : Json.Format Documentation :=
  Json.Format.map
    (fun (description, args, raises, notes, examples, ()) =>
      { description := description, args := args, raises := raises, notes := notes,
        examples := examples })
    (.record "DocSections"
      (.cons "description" .text none
        (.cons "args" (.list .text) none
          (.cons "raises" (.list .text) none
            (.cons "notes" (.list .text) none
              (.cons "example" (.list .text) none .nil))))))

def toJson (sections : Documentation) : Json :=
  .object
    [("description", .text sections.description), ("args", Json.texts sections.args),
      ("raises", Json.texts sections.raises), ("notes", Json.texts sections.notes),
      ("example", Json.texts sections.examples)]

end Documentation

namespace Output

open Json.Format in
/-- The alternatives, in the order in which messages name them. -/
def variants : List (Json.Format.Variant Output) :=
  [fieldsVariant "ExecutionResult" "Success" "success"
      (.cons "message" .text none .nil) (fun (message, ()) => .success message),
    recordVariant "error" Failure.format .failure,
    fieldsVariant "ExecutionResult" "Warning" "warning"
      (.cons "message" .text none .nil) (fun (message, ()) => .warning message),
    fieldsVariant "ExecutionResult" "AiResponse" "ai-response"
      (.cons "text" .text none .nil) (fun (text, ()) => .answer text),
    fieldsVariant "ExecutionResult" "Docs" "docs"
      (.cons "instruction" .text none (.cons "sections" Documentation.format none .nil))
      (fun (instruction, sections, ()) => .documentation instruction sections),
    fieldsVariant "ExecutionResult" "TimingDiagram" "timing-diagram"
      (.cons "instruction" .text none (.cons "image" .text none .nil))
      (fun (instruction, image, ()) => .timing instruction image),
    fieldsVariant "ExecutionResult" "AssemblyTable" "assembly-table"
      (.cons "labels" (.list .text) none (.cons "rows" (.list (.list .text)) none .nil))
      (fun (labels, rows, ()) => .listing labels rows),
    emptyVariant "help" .help]

def format : Json.Format Output :=
  .tagged "ExecutionResult" "type" variants

def toJson : Output → Json
  | success message => .object [("type", .text "success"), ("message", .text message)]
  | failure f => .object (("type", .text "error") :: f.members)
  | warning message => .object [("type", .text "warning"), ("message", .text message)]
  | answer text => .object [("type", .text "ai-response"), ("text", .text text)]
  | documentation instruction sections =>
    .object [("type", .text "docs"), ("instruction", .text instruction), ("sections", sections.toJson)]
  | timing instruction image =>
    .object [("type", .text "timing-diagram"), ("instruction", .text instruction),
      ("image", .text image)]
  | listing labels rows =>
    .object [("type", .text "assembly-table"), ("labels", Json.texts labels),
      ("rows", .array (rows.map Json.texts))]
  | help => .object [("type", .text "help")]

end Output

end AsmNotebook
