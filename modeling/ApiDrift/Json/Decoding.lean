import ApiDrift.Json.Rejection

/-!
# Taking values out of trees

A record is written as an object, or as an array of its fields in order. In an object every field stands at most once and members that are no fields are passed over; in an array fields that have a default may be missing at the end. A record is taken field by field in the order of the text, into a draft that says which fields it has.
-/

namespace ApiDrift.Json

abbrev Decoder (α : Type) := Json → Except Rejection α

/-- A value stands in the text itself, or it was read earlier and held back until its type was known. -/
inductive Source
  | direct
  | held
  deriving DecidableEq

/-- Items beyond the last field of a record break the text; in a value held back they are one thing too many. -/
def Source.excess : Source → Rejection
  | direct => .malformed
  | held => .wrongType

def string : Decoder String
  | text value => .ok value
  | other => .error other.wrongType

def boolean : Decoder Bool
  | bool value => .ok value
  | other => .error other.wrongType

/-- A whole number below a bound, in bare digits. -/
def numberBelow (bound : Nat) : Decoder Nat
  | number numeral => do
    match (← ofNumeral numeral).natural? with
    | some value => if value < bound then .ok value else .error .wrongType
    | none => .error .wrongType
  | other => .error other.wrongType

def uint32 (json : Json) : Except Rejection UInt32 := (json.numberBelow UInt32.size).map UInt32.ofNat

def uint64 (json : Json) : Except Rejection UInt64 := (json.numberBelow UInt64.size).map UInt64.ofNat

/-- Nothing, or a text. -/
def string? : Decoder (Option String)
  | null => .ok none
  | other => other.string.map some

def Items.decode {α : Type} (item : Decoder α) : Items → Except Rejection (List α)
  | .done => .ok []
  | .cut fault => .error fault.rejection
  | .cons value rest => do
    let first ← item value
    return first :: (← rest.decode item)

def items {α : Type} (item : Decoder α) : Decoder (List α)
  | array values => values.decode item
  | other => .error other.wrongType

def strings : Decoder (List String) := items string

/-- Reads members under keys of any name. -/
def Members.decode {κ α : Type} (key : String → Except Rejection κ) (value : Decoder α) :
    Members → Except Rejection (List (κ × α))
  | .done => .ok []
  | .cut fault => .error fault.rejection
  | .comma fault => .error fault.rejection
  | .nameless _ _ => .error .malformed
  | .cons name found rest => do
    let first := (← key name, ← value found)
    return first :: (← rest.decode key value)

def members {κ α : Type} (key : String → Except Rejection κ) (value : Decoder α) :
    Decoder (List (κ × α))
  | object found => found.decode key value
  | other => .error other.wrongType

/-- A field of a record: whether a draft has it, and how it comes into the draft. -/
structure RecordField (δ : Type) where
  name : String
  isSet : δ → Bool
  take : δ → Decoder δ

/-- A field that a draft keeps as an option. -/
def RecordField.of {δ α : Type} (name : String) (get : δ → Option α) (put : δ → α → δ)
    (decode : Decoder α) : RecordField δ :=
  ⟨name, fun draft => (get draft).isSome, fun draft json => (decode json).map (put draft)⟩

/-- Takes the fields of a record out of the members of an object. -/
def Members.fields {δ : Type} (fields : List (RecordField δ)) (draft : δ) :
    Members → Except Rejection δ
  | .done => .ok draft
  | .cut fault => .error fault.rejection
  | .comma fault => .error fault.rejection
  | .nameless _ _ => .error .malformed
  | .cons key value rest =>
    match fields.find? (·.name = key) with
    | some field =>
      if field.isSet draft then .error (.duplicateField key)
      else do rest.fields fields (← field.take draft value)
    | none => do
      value.skip
      rest.fields fields draft

/-- Takes the fields of a record out of the items of an array. -/
def Items.fields {δ : Type} (source : Source) (fields : List (RecordField δ)) (draft : δ) :
    Items → Except Rejection δ
  | .done => .ok draft
  | .cut fault => .error fault.rejection
  | .cons value rest =>
    match fields with
    | [] => .error source.excess
    | field :: later => do rest.fields source later (← field.take draft value)

/-- Takes a record. The last step makes it of its draft; the rejection it is given is for a field that is missing without a default. -/
def fields {δ α : Type} (source : Source) (fields : List (RecordField δ)) (draft : δ)
    (make : (String → Rejection) → δ → Except Rejection α) : Decoder α
  | object members => do make .missingField (← members.fields fields draft)
  | array items => do make (fun _ => .wrongType) (← items.fields source fields draft)
  | other => .error other.wrongType

/-- A field without a default. -/
def required {α : Type} (missing : String → Rejection) (name : String) (found : Option α) :
    Except Rejection α :=
  match found with
  | some value => .ok value
  | none => .error (missing name)

/-- Looks a word up among the words of a type. -/
def ofWord {α : Type} (all : List α) (word : α → String) (found : String) : Except Rejection α :=
  match all.find? (word · = found) with
  | some value => .ok value
  | none => .error (.unknownWord found (all.map word))

/-- Takes one of several words: a text, or an object in which the word is the only key and stands before null. -/
def oneOf {α : Type} (all : List α) (word : α → String) : Decoder α
  | text found => ofWord all word found
  | object .done => .error .malformed
  | object (.cut fault) => .error fault.rejection
  | object (.cons key value rest) => do
    let found ← ofWord all word key
    match value with
    | null =>
      match rest with
      | .done => .ok found
      | .cut fault => .error fault.rejection
      | _ => .error .malformed
    | other => .error other.wrongType
  | cut fault => .error fault.rejectionAsWord
  | _ => .error .malformed

/-- A value that a document holds, with nothing behind it. -/
def Document.decode {α : Type} (document : Document) (value : Decoder α) : Except Rejection α := do
  let found ← value document.root
  if document.trailing then .error .malformed else .ok found

end ApiDrift.Json
