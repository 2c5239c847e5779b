import ApiDrift.Api.Entity
import ApiDrift.Json.Decoding
import ApiDrift.Report
import ApiDrift.Version

/-!
# Reading the data model from JSON

The fields of an entity depend on its kind, and the kind may stand behind them. So an entity is gone through twice: first for its name, when everything else is held back unread, and then for its kind and for the fields of that kind. Entities inside it were held back with it.
-/

namespace ApiDrift

open Json

namespace TypeRef

structure Draft where
  name : Option String := none
  dimension : Option UInt32 := none
  accepts : Option (List String) := none

def draftFields : List (RecordField Draft) :=
  [.of "name" Draft.name (fun draft name => { draft with name := some name }) string,
    .of "dimension" Draft.dimension (fun draft dimension => { draft with dimension := some dimension })
      uint32,
    .of "accepts" Draft.accepts (fun draft accepts => { draft with accepts := some accepts }) strings]

def ofDraft (missing : String → Rejection) (draft : Draft) : Except Rejection TypeRef := do
  return ⟨← required missing "name" draft.name, draft.dimension.getD 0, draft.accepts.getD []⟩

def decode (source : Source) : Decoder TypeRef := fields source draftFields {} ofDraft

end TypeRef

namespace Parameter

structure Draft where
  name : Option String := none
  type : Option TypeRef := none
  defaultValue : Option (Option String) := none

def draftFields (source : Source) : List (RecordField Draft) :=
  [.of "name" Draft.name (fun draft name => { draft with name := some name }) string,
    .of "type" Draft.type (fun draft type => { draft with type := some type }) (TypeRef.decode source),
    .of "default_value" Draft.defaultValue
      (fun draft value => { draft with defaultValue := some value }) string?]

def ofDraft (missing : String → Rejection) (draft : Draft) : Except Rejection Parameter := do
  return ⟨draft.name.getD "", ← required missing "type" draft.type, draft.defaultValue.getD none⟩

def decode (source : Source) : Decoder Parameter := fields source (draftFields source) {} ofDraft

end Parameter

namespace Signature

structure Draft where
  parameters : Option (List Parameter) := none

def draftFields (source : Source) : List (RecordField Draft) :=
  [.of "parameters" Draft.parameters (fun _ parameters => ⟨some parameters⟩)
      (items (Parameter.decode source))]

def ofDraft (_ : String → Rejection) (draft : Draft) : Except Rejection Signature :=
  .ok ⟨draft.parameters.getD []⟩

def decode (source : Source) : Decoder Signature := fields source (draftFields source) {} ofDraft

end Signature

def Bump.decode : Decoder Bump := oneOf Bump.all Bump.word

def Change.decode : Decoder Change := oneOf Change.all Change.word

namespace Version

structure Draft where
  major : Option UInt64 := none
  minor : Option UInt64 := none
  patch : Option UInt64 := none
  label : Option (Option String) := none

def draftFields : List (RecordField Draft) :=
  [.of "major" Draft.major (fun draft major => { draft with major := some major }) uint64,
    .of "minor" Draft.minor (fun draft minor => { draft with minor := some minor }) uint64,
    .of "patch" Draft.patch (fun draft patch => { draft with patch := some patch }) uint64,
    .of "label" Draft.label (fun draft label => { draft with label := some label }) string?]

def ofDraft (missing : String → Rejection) (draft : Draft) : Except Rejection Version := do
  return ⟨← required missing "major" draft.major, ← required missing "minor" draft.minor,
    ← required missing "patch" draft.patch, draft.label.getD none⟩

def decode : Decoder Version := fields .direct draftFields {} ofDraft

end Version

namespace ChangeRecord

structure Draft where
  path : Option String := none
  change : Option Change := none
  severity : Option Bump := none
  description : Option String := none

def draftFields : List (RecordField Draft) :=
  [.of "path" Draft.path (fun draft path => { draft with path := some path }) string,
    .of "kind" Draft.change (fun draft change => { draft with change := some change }) Change.decode,
    .of "severity" Draft.severity (fun draft severity => { draft with severity := some severity })
      Bump.decode,
    .of "description" Draft.description
      (fun draft description => { draft with description := some description }) string]

def ofDraft (missing : String → Rejection) (draft : Draft) : Except Rejection ChangeRecord := do
  return ⟨← required missing "path" draft.path, ← required missing "kind" draft.change,
    ← required missing "severity" draft.severity,
    ← required missing "description" draft.description⟩

def decode : Decoder ChangeRecord := fields .direct draftFields {} ofDraft

end ChangeRecord

namespace Summary

structure Draft where
  major : Option UInt32 := none
  minor : Option UInt32 := none
  patch : Option UInt32 := none
  byKind : Option (List (Change × UInt32)) := none

/-- Of several counts of one kind the last one stays. -/
def kindCounts : Decoder (List (Change × UInt32)) := members (ofWord Change.all Change.word) uint32

def draftFields : List (RecordField Draft) :=
  [.of "major" Draft.major (fun draft major => { draft with major := some major }) uint32,
    .of "minor" Draft.minor (fun draft minor => { draft with minor := some minor }) uint32,
    .of "patch" Draft.patch (fun draft patch => { draft with patch := some patch }) uint32,
    .of "by_kind" Draft.byKind (fun draft kinds => { draft with byKind := some kinds }) kindCounts]

def ofDraft (missing : String → Rejection) (draft : Draft) : Except Rejection Summary := do
  let counts : Summary :=
    { major := ← required missing "major" draft.major
      minor := ← required missing "minor" draft.minor
      patch := ← required missing "patch" draft.patch }
  let kinds ← required missing "by_kind" draft.byKind
  return kinds.foldl (fun summary kind => summary.setKind kind.1 kind.2) counts

def decode : Decoder Summary := fields .direct draftFields {} ofDraft

end Summary

namespace Kind

/-- A kind is named by its word or by its number. -/
def decode : Decoder Kind
  | .text found => ofWord Kind.all Kind.word found
  | .number numeral =>
    match numeral.natural? with
    | some 0 => .ok .field
    | some 1 => .ok .function
    | some 2 => .ok .unit
    | _ => .error .wrongType
  | other => .error other.wrongType

end Kind

namespace Entity

/-- Goes through the members of an entity for its name; `others` reads what is held back. -/
def nameAmong (others : Json → Except Rejection Unit) (name : Option String) :
    Members → Except Rejection (Option String)
  | .done => .ok name
  | .cut fault => .error fault.rejection
  | .comma fault => .error fault.rejection
  | .nameless _ _ => .error .malformed
  | .cons key value rest =>
    if key = "name" then
      if name.isSome then .error (.duplicateField "name")
      else do nameAmong others (some (← value.string)) rest
    else do
      others value
      nameAmong others name rest

def kindAmong (kind : Option Kind) : Members → Except Rejection (Option Kind)
  | .cons key value rest =>
    if key = "kind" then
      if kind.isSome then .error (.duplicateField "kind")
      else do kindAmong (some (← Kind.decode value)) rest
    else kindAmong kind rest
  | _ => .ok kind

/-- The fields of a field or a function. -/
structure Typed where
  type : Option TypeRef := none
  signatures : Option (List Signature) := none

def typeField : RecordField Typed :=
  .of "type" Typed.type (fun draft type => { draft with type := some type }) (TypeRef.decode .held)

def signaturesField : RecordField Typed :=
  .of "signatures" Typed.signatures (fun draft made => { draft with signatures := some made })
    (items (Signature.decode .held))

/-- The shelves of a unit. -/
structure Shelves where
  fields : Option Codebase := none
  functions : Option Codebase := none
  units : Option Codebase := none

namespace Shelves

def get (shelves : Shelves) : Shelf → Option Codebase
  | .fields => shelves.fields
  | .functions => shelves.functions
  | .units => shelves.units

def put (shelves : Shelves) (shelf : Shelf) (children : Codebase) : Shelves :=
  match shelf with
  | .fields => { shelves with fields := some children }
  | .functions => { shelves with functions := some children }
  | .units => { shelves with units := some children }

def toUnit (shelves : Shelves) (name : String) : Entity :=
  .unit name (shelves.fields.getD .nil) (shelves.functions.getD .nil) (shelves.units.getD .nil)

end Shelves

def shelfNamed? (key : String) : Option Shelf := Shelf.all.find? (·.word = key)

mutual

/-- Takes an entity; `others` reads what is held back while its name is looked for. -/
def decode (others : Json → Except Rejection Unit) : Json → Except Rejection Entity
  | .object members => do
    let name ← required .missingField "name" (← nameAmong others none members)
    match ← required .missingField "kind" (← kindAmong none members) with
    | .field =>
      let draft ← members.fields [typeField] {}
      return .field name (← required .missingField "type" draft.type)
    | .function =>
      let draft ← members.fields [typeField, signaturesField] {}
      return .function name (← required .missingField "type" draft.type) (draft.signatures.getD [])
    | .unit => return (← decodeShelves {} members).toUnit name
  | other => .error other.wrongType

/-- Takes the shelves of a unit. -/
def decodeShelves (shelves : Shelves) : Members → Except Rejection Shelves
  | .cons key value rest =>
    match shelfNamed? key with
    | some shelf =>
      if (shelves.get shelf).isSome then .error (.duplicateField key)
      else do
        let children ← decodeShelf value
        decodeShelves (shelves.put shelf children) rest
    | none => decodeShelves shelves rest
  | _ => .ok shelves

def decodeShelf : Json → Except Rejection Codebase
  | .object members => do return .ofList (← decodeEntries (fun _ => .ok ()) members)
  | other => .error other.wrongType

def decodeEntries (others : Json → Except Rejection Unit) :
    Members → Except Rejection (List (String × Entity))
  | .done => .ok []
  | .cut fault => .error fault.rejection
  | .comma fault => .error fault.rejection
  | .nameless _ _ => .error .malformed
  | .cons key value rest => do
    let entity ← decode others value
    return (key, entity) :: (← decodeEntries others rest)

end

end Entity

namespace Snapshot

/-- How many brackets may be open at once. -/
def nestingLimit : Nat := 127

/-- Takes an entity around which so many brackets are open. -/
def entity (outer : Nat) : Decoder Entity := Entity.decode (Json.hold (nestingLimit - 1 - outer))

def entities : Decoder (List Entity) := items (entity 1)

def codebase : Decoder Codebase
  | .object members => do
    return .ofList (← Entity.decodeEntries (Json.hold (nestingLimit - 2)) members)
  | other => .error other.wrongType

/-- Reads a snapshot. -/
def read (text : String) : Except Rejection Codebase := (Json.read text.toList).decode codebase

end Snapshot

end ApiDrift
