import AsmNotebook.Json.Skip

namespace AsmNotebook
namespace Json

/-!
Formats: how values of a type are found in documents.  A format reads a value
straight from text, with the place of every fault, and decodes it from a tree.

Records are given by their fields.  Their members may come in any order, a
missing one may have a default, unknown ones are passed over, and an array
stands for the fields in their order.  A tagged choice keeps the name of the
alternative in one of the members.
-/

/-- Where a tree comes from: a document of its own, or the members set aside while the tag of a
choice was looked for. -/
inductive Origin
  | document
  | members
deriving DecidableEq, Repr

/-- How values of a type are found in documents. -/
structure Format (α : Type) where
  /-- Read from text, with arrays and objects nested at most so deep. -/
  read : Nat → Reader α
  /-- Decode a tree. -/
  decode : Origin → Json → Except Fault α

/-- Stop at a value of another kind than the expected one. -/
def readOther {α : Type} (expected : String) : Reader α := fun cs =>
  let other (found : Found) (rest : List Char) : Except Stop (α × List Char) :=
    halt (.invalidType found expected) rest
  match skipSpace cs with
  | [] => haltAhead .endOfValue []
  | c :: rest =>
    if c = '[' then other .array (c :: rest)
    else if c = '\x7b' then other .object (c :: rest)
    else
      match readValue 0 (c :: rest) with
      | .error stop => .error stop
      | .ok (value, after) => other (found value) after

namespace Format

/-- The same values in another guise. -/
def map {α β : Type} (f : α → β) (format : Format α) : Format β where
  read := fun depth cs => (format.read depth cs).map fun (value, rest) => (f value, rest)
  decode := fun origin document => (format.decode origin document).map f

/-- Any document, in canonical form. -/
def any : Format Json where
  read := fun depth cs => (readValue depth cs).map fun (value, rest) => (value.canonical, rest)
  decode := fun _ document => .ok document

def text : Format String where
  read := fun _ cs =>
    match skipSpace cs with
    | '"' :: rest => readText rest
    | other => readOther "a string" other
  decode := fun _ document =>
    match document with
    | .text value => .ok value
    | other => .error (.invalidType (found other) "a string")

def bool : Format Bool where
  read := fun _ cs =>
    match skipSpace cs with
    | 't' :: rest => (readWord ['r', 'u', 'e'] rest).map (true, ·)
    | 'f' :: rest => (readWord ['a', 'l', 's', 'e'] rest).map (false, ·)
    | other => readOther "a boolean" other
  decode := fun _ document =>
    match document with
    | .bool value => .ok value
    | other => .error (.invalidType (found other) "a boolean")

/-- Whether a number is one without sign below a bound; `name` is the kind asked for. -/
def unsignedOf (bound : Nat) (name : String) : Number → Except Fault Nat
  | .integer value =>
    if 0 ≤ value ∧ value.toNat < bound then .ok value.toNat
    else .error (.invalidValue (.number (.integer value)) name)
  | .real value => .error (.invalidType (.number (.real value)) name)

def unsigned (bound : Nat) (name : String) : Format Nat where
  read := fun _ cs =>
    let settled (result : Except Stop (Number × List Char)) : Except Stop (Nat × List Char) :=
      match result with
      | .error stop => .error stop
      | .ok (value, rest) =>
        match unsignedOf bound name value with
        | .ok n => .ok (n, rest)
        | .error fault => halt fault rest
    match skipSpace cs with
    | [] => haltAhead .endOfValue []
    | c :: rest =>
      if c = '-' then settled (readNumber true rest)
      else if c.isDigit then settled (readNumber false (c :: rest))
      else readOther name (c :: rest)
  decode := fun _ document =>
    match document with
    | .number value => unsignedOf bound name value
    | other => .error (.invalidType (found other) name)

def word32 : Format UInt32 :=
  (unsigned UInt32.size "u32").map UInt32.ofNat

def word64 : Format UInt64 :=
  (unsigned UInt64.size "u64").map UInt64.ofNat

/-- A value or null. -/
def nullable {α : Type} (format : Format α) : Format (Option α) where
  read := fun depth cs =>
    match skipSpace cs with
    | 'n' :: rest => (readWord ['u', 'l', 'l'] rest).map (none, ·)
    | other => (format.read depth other).map fun (value, rest) => (some value, rest)
  decode := fun origin document =>
    match document with
    | .null => .ok none
    | other => (format.decode origin other).map some

def list {α : Type} (format : Format α) : Format (List α) where
  read := fun depth cs =>
    match skipSpace cs with
    | '[' :: rest =>
      match depth with
      | 0 => haltAhead .tooDeep ('[' :: rest)
      | depth + 1 =>
        endArray ((foldItems (pushItem (format.read depth)) (rest.length + 1) true [] rest).map
          fun (items, rest) => (items.reverse, rest))
    | other => readOther "a sequence" other
  decode := fun origin document =>
    match document with
    | .array items => items.mapM (format.decode origin)
    | other => .error (.invalidType (found other) "a sequence")

/-- The alternative of a name. -/
def choose {α : Type} (names : List (String × α)) (name : String) : Except Fault α :=
  match names.find? (fun entry => entry.1 == name) with
  | some entry => .ok entry.2
  | none => .error (.unknownVariant name (names.map Prod.fst))

/-- Read the quoted name of an alternative. -/
def readName {α : Type} (names : List (String × α)) : Reader α := fun cs =>
  match skipSpace cs with
  | '"' :: rest =>
    match readText rest with
    | .error stop => .error stop
    | .ok (name, rest) =>
      match choose names name with
      | .ok value => .ok (value, rest)
      | .error fault => halt fault rest
  | other => readOther "variant identifier" other

/-- One of several names, alone or as the only member of an object with nothing in it. -/
def choice {α : Type} (names : List (String × α)) : Format α where
  read := fun depth cs =>
    match skipSpace cs with
    | [] => haltAhead .endOfValue []
    | c :: rest =>
      if c = '"' then readName names (c :: rest)
      else if c = '\x7b' then
        if depth = 0 then haltAhead .tooDeep (c :: rest)
        else do
          let (value, rest) ← readName names rest
          let rest ← readColon rest
          let rest ←
            match skipSpace rest with
            | 'n' :: rest => readWord ['u', 'l', 'l'] rest
            | other => (readOther "unit" other).map fun ((), rest) => rest
          match skipSpace rest with
          | [] => halt .endOfObject []
          | '\x7d' :: rest => .ok (value, rest)
          | other => halt .expectedValue other
      else haltAhead .expectedValue (c :: rest)
  decode := fun origin document =>
    match document with
    | .text name => choose names name
    | .object [(name, content)] => do
      let value ← choose names name
      match content with
      | .null => .ok value
      | .object [] =>
        if origin = .members then .ok value else .error (.invalidType .object "unit")
      | other => .error (.invalidType (found other) "unit")
    | .object _ => .error (.invalidValue .object "map with a single key")
    | other => .error (.invalidType (found other) "string or map")

end Format

/-- The fields of a record, with the value of each when it is absent, if it may be. -/
inductive Fields : Type → Type 1
  | nil : Fields Unit
  | cons {α β : Type} (name : String) (format : Format α) (absent : Option α)
      (rest : Fields β) : Fields (α × β)

namespace Fields

/-- Values of some of the fields. -/
def Slots : {α : Type} → Fields α → Type
  | _, .nil => Unit
  | _, .cons (α := a) _ _ _ rest => Option a × rest.Slots

/-- No values yet. -/
def empty : {α : Type} → (fields : Fields α) → fields.Slots
  | _, .nil => ()
  | _, .cons _ _ _ rest => (none, rest.empty)

def count : {α : Type} → Fields α → Nat
  | _, .nil => 0
  | _, .cons _ _ _ rest => rest.count + 1

/-- What a name means for a record whose slots are partly filled. -/
inductive Place (σ : Type)
  | unknown
  | taken
  | free (read : Nat → Reader σ) (decode : Origin → Json → Except Fault σ)

/-- The place of a named value. -/
def place : {α : Type} → (fields : Fields α) → fields.Slots → String → Place fields.Slots
  | _, .nil, _, _ => .unknown
  | _, .cons (α := a) name format _ rest, filled, wanted =>
    let filled : Option a × rest.Slots := filled
    let (slot, slots) := filled
    if wanted = name then
      match slot with
      | some _ => .taken
      | none =>
        .free
          (fun depth cs => (format.read depth cs).map fun (value, after) => ((some value, slots), after))
          (fun origin document => (format.decode origin document).map fun value => (some value, slots))
    else
      match rest.place slots wanted with
      | .unknown => .unknown
      | .taken => .taken
      | .free read decode =>
        .free
          (fun depth cs => (read depth cs).map fun (slots, after) => ((slot, slots), after))
          (fun origin document => (decode origin document).map fun slots => (slot, slots))

/-- The record of filled slots, with defaults for the others. -/
def complete : {α : Type} → (fields : Fields α) → fields.Slots → Except Fault α
  | _, .nil, _ => .ok ()
  | _, .cons (α := a) name _ absent rest, filled => do
    let filled : Option a × rest.Slots := filled
    let (slot, slots) := filled
    let value ←
      match slot, absent with
      | some value, _ => .ok value
      | none, some value => .ok value
      | none, none => .error (.missingField name)
    let values ← rest.complete slots
    .ok (value, values)

/-- A record of `total` elements, named for messages. -/
def described (label : String) (total : Nat) : String :=
  label ++ " with " ++ toString total ++ (if total = 1 then " element" else " elements")

/-- Read the fields from the items of an array, from the item at `index` on. -/
def readItems (depth : Nat) (expected : String) :
    {α : Type} → Fields α → Nat → Reader α
  | _, .nil, _, cs => .ok ((), cs)
  | _, .cons _ format absent rest, index, cs =>
    match nextItem (index = 0) cs with
    | .error stop => .error stop
    | .ok (none, after) =>
      match absent with
      | none => refuse (.invalidLength index expected) after
      | some value =>
        (readItems depth expected rest (index + 1) after).map fun (values, after) =>
          ((value, values), after)
    | .ok (some item, _) =>
      match format.read depth item with
      | .error stop => .error stop
      | .ok (value, after) =>
        (readItems depth expected rest (index + 1) after).map fun (values, after) =>
          ((value, values), after)

/-- Decode the fields from the items of an array, from the item at `index` on, with the items left
over. -/
def decodeItems (origin : Origin) (expected : String) :
    {α : Type} → Fields α → Nat → List Json → Except Fault (α × List Json)
  | _, .nil, _, items => .ok ((), items)
  | _, .cons _ format absent rest, index, items =>
    match items with
    | [] =>
      match absent with
      | none => .error (.invalidLength index expected)
      | some value =>
        (decodeItems origin expected rest (index + 1) []).map fun (values, left) =>
          ((value, values), left)
    | item :: items => do
      let value ← format.decode origin item
      let (values, left) ← decodeItems origin expected rest (index + 1) items
      .ok ((value, values), left)

/-- Refuse items of an array that no field takes. -/
def checkLeft (origin : Origin) (total left : Nat) : Except Fault Unit :=
  if left = 0 then .ok ()
  else
    match origin with
    | .document => .error (.invalidLength total "fewer elements in array")
    | .members =>
      let taken := total - left
      .error (.invalidLength total
        (toString taken ++ (if taken = 1 then " element in sequence" else " elements in sequence")))

/-- Decode a member into its slot; members without one are passed over. -/
def decodeSlot {α : Type} (fields : Fields α) (origin : Origin) (slots : fields.Slots)
    (member : String × Json) : Except Fault fields.Slots :=
  match fields.place slots member.1 with
  | .unknown => .ok slots
  | .taken => .error (.duplicateField member.1)
  | .free _ decode => decode origin member.2

/-- Decode the fields from the members of an object. -/
def decodeMembers {α : Type} (fields : Fields α) (origin : Origin)
    (members : List (String × Json)) : Except Fault α := do
  let slots ← members.foldlM (fields.decodeSlot origin) fields.empty
  fields.complete slots

/-- Decode a record from an object or an array; `kind` names the record and `label` its elements. -/
def decode {α : Type} (fields : Fields α) (kind label : String) (origin : Origin)
    (document : Json) : Except Fault α :=
  match document with
  | .object members => fields.decodeMembers origin members
  | .array items => do
    let (values, left) ← decodeItems origin (described label fields.count) fields 0 items
    checkLeft origin items.length left.length
    .ok values
  | other => .error (.invalidType (found other) kind)

/-- Read a member behind its name into its slot; members without one are passed over. -/
def readSlot {α : Type} (fields : Fields α) (depth : Nat) (slots : fields.Slots) (name : String) :
    Reader fields.Slots := fun cs =>
  match fields.place slots name with
  | .taken => refuse (.duplicateField name) cs
  | .unknown => do
    let rest ← readColon cs
    let rest ← skipValue rest
    .ok (slots, rest)
  | .free read _ => do
    let rest ← readColon cs
    read depth rest

/-- Read the fields from the members of an object, after the opening brace. -/
def readMembers {α : Type} (fields : Fields α) (depth : Nat) : Reader α := fun cs =>
  match foldMembers (fields.readSlot depth) (cs.length + 1) true fields.empty cs with
  | .error stop => .error stop
  | .ok (slots, rest) =>
    match fields.complete slots with
    | .ok values => .ok (values, rest)
    | .error fault => refuse fault rest

end Fields

namespace Format

/-- A record. -/
def record {α : Type} (name : String) (fields : Fields α) : Format α where
  read := fun depth cs =>
    match skipSpace cs with
    | [] => haltAhead .endOfValue []
    | c :: rest =>
      if c = '[' ∨ c = '\x7b' then
        match depth with
        | 0 => haltAhead .tooDeep (c :: rest)
        | depth + 1 =>
          if c = '[' then
            endArray (fields.readItems depth (Fields.described ("struct " ++ name) fields.count) 0 rest)
          else
            endObject (fields.readMembers depth rest)
      else
        readOther ("struct " ++ name) (c :: rest)
  decode := fields.decode ("struct " ++ name) ("struct " ++ name)

/-- An alternative of a tagged choice: its name, and what the other members hold. -/
structure Variant (α : Type) where
  name : String
  decode : Json → Except Fault α

/-- An alternative with fields of its own. -/
def fieldsVariant {α β : Type} (owner label name : String) (fields : Fields α) (f : α → β) :
    Variant β where
  name := name
  decode := fun content =>
    let full := "struct variant " ++ owner ++ "::" ++ label
    (fields.decode full full .members content).map f

/-- An alternative that is a record of its own. -/
def recordVariant {α β : Type} (name : String) (format : Format α) (f : α → β) : Variant β where
  name := name
  decode := fun content => (format.decode .members content).map f

/-- An alternative without content. -/
def emptyVariant {α : Type} (name : String) (value : α) : Variant α where
  name := name
  decode := fun content =>
    match content with
    | .array items => (Fields.checkLeft .members items.length items.length).map fun _ => value
    | _ => .ok value

/-- Names of the alternatives. -/
def variantNames {α : Type} (variants : List (Variant α)) : List (String × Variant α) :=
  variants.map fun variant => (variant.name, variant)

/-- Take the tag out of the members of an object. -/
def splitTag {α : Type} (tag : String) (variants : List (Variant α)) :
    List (String × Json) → Option (Variant α) → List (String × Json) →
      Except Fault (Option (Variant α) × List (String × Json))
  | [], variant, others => .ok (variant, others.reverse)
  | (name, value) :: rest, variant, others =>
    if name = tag then
      match variant with
      | some _ => .error (.duplicateField tag)
      | none =>
        match value with
        | .text chosen =>
          match choose (variantNames variants) chosen with
          | .error fault => .error fault
          | .ok variant => splitTag tag variants rest (some variant) others
        | other => .error (.invalidType (found other) "variant identifier")
    else
      splitTag tag variants rest variant ((name, value) :: others)

/-- The alternative and the content of a tagged choice in a tree. -/
def tagged? {α : Type} (owner tag : String) (variants : List (Variant α)) (document : Json) :
    Except Fault (Variant α × Json) :=
  match document with
  | .object members => do
    let (variant, others) ← splitTag tag variants members none []
    match variant with
    | some variant => .ok (variant, .object others)
    | none => .error (.missingField tag)
  | .array items =>
    match items with
    | [] => .error (.missingField tag)
    | .text name :: items => do
      let variant ← choose (variantNames variants) name
      .ok (variant, .array items)
    | other :: _ => .error (.invalidType (found other) "variant identifier")
  | other => .error (.invalidType (found other) ("internally tagged enum " ++ owner))

/-- Read a member behind its name: the tag, or a member to set aside. -/
def readTagged {α : Type} (tag : String) (variants : List (Variant α)) (depth : Nat)
    (state : Option (Variant α) × List (String × Json)) (name : String) :
    Reader (Option (Variant α) × List (String × Json)) := fun cs =>
  if name = tag then
    match state.1 with
    | some _ => refuse (.duplicateField tag) cs
    | none => do
      let rest ← readColon cs
      let (variant, rest) ← readName (variantNames variants) rest
      .ok ((some variant, state.2), rest)
  else do
    let rest ← readColon cs
    let (value, rest) ← readValue depth rest
    .ok ((state.1, (name, value) :: state.2), rest)

/-- Read the tag and the other members of an object, after the opening brace. -/
def readTaggedMembers {α : Type} (tag : String) (variants : List (Variant α)) (depth : Nat) :
    Reader (Variant α × Json) := fun cs =>
  match foldMembers (readTagged tag variants depth) (cs.length + 1) true (none, []) cs with
  | .error stop => .error stop
  | .ok ((some variant, others), rest) => .ok ((variant, .object others.reverse), rest)
  | .ok ((none, _), rest) => refuse (.missingField tag) rest

/-- Read the tag and the other items of an array, after the opening bracket. -/
def readTaggedItems {α : Type} (tag : String) (variants : List (Variant α)) (depth : Nat) :
    Reader (Variant α × Json) := fun cs =>
  match nextItem true cs with
  | .error stop => .error stop
  | .ok (none, rest) => refuse (.missingField tag) rest
  | .ok (some item, _) =>
    match readName (variantNames variants) item with
    | .error stop => .error stop
    | .ok (variant, rest) =>
      (foldItems (pushItem (readValue depth)) (rest.length + 1) false [] rest).map
        fun (items, rest) => ((variant, .array items.reverse), rest)

/-- A choice whose alternative is named by one member.  The members are set aside until the name is
known, so a fault in them belongs to the whole value. -/
def tagged {α : Type} (owner tag : String) (variants : List (Variant α)) : Format α where
  read := fun depth cs =>
    let content : Except Stop ((Variant α × Json) × List Char) :=
      match skipSpace cs with
      | [] => haltAhead .endOfValue []
      | c :: rest =>
        if c = '[' ∨ c = '\x7b' then
          match depth with
          | 0 => haltAhead .tooDeep (c :: rest)
          | depth + 1 =>
            if c = '[' then endArray (readTaggedItems tag variants depth rest)
            else endObject (readTaggedMembers tag variants depth rest)
        else
          readOther ("internally tagged enum " ++ owner) (c :: rest)
    match content with
    | .error stop => .error stop
    | .ok ((variant, content), rest) =>
      match variant.decode content with
      | .ok value => .ok (value, rest)
      | .error fault => refuse fault rest
  decode := fun _ document => do
    let (variant, content) ← tagged? owner tag variants document
    variant.decode content

/-- The value of a whole text. -/
def parse {α : Type} (format : Format α) (text : String) : Except Error α :=
  readWhole (format.read maxDepth) text

/-- The value of a tree. -/
def ofJson {α : Type} (format : Format α) (document : Json) : Except Error α :=
  match format.decode .document document with
  | .ok value => .ok value
  | .error fault => .error { fault := fault, location := none }

end Format

end Json
end AsmNotebook
