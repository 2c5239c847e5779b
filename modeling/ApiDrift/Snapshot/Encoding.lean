import ApiDrift.Api.Entity
import ApiDrift.Json.Writing
import ApiDrift.Report
import ApiDrift.Version

/-!
# Writing the data model as JSON

A record is an object with its fields in a fixed order. Accepted names, a default value and a label are left out when there are none. An entity writes its kind among its fields.
-/

namespace ApiDrift

open Json

def texts (items : List String) : Json := list (items.map .text)

/-- A member for a value that is there. -/
def optionalMember (name : String) (value : Option Json) : List (String × Json) :=
  (value.map fun json => (name, json)).toList

def TypeRef.encode (type : TypeRef) : Json :=
  record <|
    [("name", .text type.name), ("dimension", natural type.dimension.toNat)] ++
      if type.accepts.isEmpty then [] else [("accepts", texts type.accepts)]

def Parameter.encode (parameter : Parameter) : Json :=
  record <|
    [("name", .text parameter.name), ("type", parameter.type.encode)] ++
      optionalMember "default_value" (parameter.defaultValue.map .text)

def Signature.encode (signature : Signature) : Json :=
  record [("parameters", list (signature.parameters.map Parameter.encode))]

mutual

def Entity.encode : Entity → Json
  | .field name type =>
    record [("name", .text name), ("kind", .text Kind.field.word), ("type", type.encode)]
  | .function name type signatures =>
    record
      [("name", .text name), ("kind", .text Kind.function.word), ("type", type.encode),
        ("signatures", list (signatures.map Signature.encode))]
  | .unit name fields functions units =>
    record
      [("name", .text name), ("kind", .text Kind.unit.word),
        (Shelf.fields.word, object (Entity.encodeEntries fields)),
        (Shelf.functions.word, object (Entity.encodeEntries functions)),
        (Shelf.units.word, object (Entity.encodeEntries units))]

def Entity.encodeEntries {low : Option String} : Keyed Entity low → Json.Members
  | .nil => .done
  | .cons key _ entity rest => .cons key entity.encode (Entity.encodeEntries rest)

end

def Codebase.encode (codebase : Codebase) : Json := object (Entity.encodeEntries codebase)

def Bump.encode (bump : Bump) : Json := .text bump.word

def Change.encode (change : Change) : Json := .text change.word

def Version.encode (version : Version) : Json :=
  record <|
    [("major", natural version.major.toNat), ("minor", natural version.minor.toNat),
      ("patch", natural version.patch.toNat)] ++
      optionalMember "label" (version.label.map .text)

def ChangeRecord.encode (record : ChangeRecord) : Json :=
  Json.record
    [("path", .text record.path), ("kind", record.change.encode),
      ("severity", record.severity.encode), ("description", .text record.description)]

def Summary.encode (summary : Summary) : Json :=
  record
    [("major", natural summary.major.toNat), ("minor", natural summary.minor.toNat),
      ("patch", natural summary.patch.toNat),
      ("by_kind", record (summary.kinds.map fun kind => (kind.1.word, natural kind.2.toNat)))]

def changesMember (changes : List ChangeRecord) : String × Json :=
  ("changes", list (changes.map ChangeRecord.encode))

/-- A duration in milliseconds. -/
def durationMember (duration : Decimal.Numeral) : String × Json :=
  ("duration_ms", .number duration)

def Report.encode (report : Report) (duration : Decimal.Numeral) : Json :=
  record
    [("bump", report.bump.encode), changesMember report.changes,
      ("summary", report.summary.encode), ("summary_text", .text report.summaryText),
      durationMember duration]

end ApiDrift
