import ApiDrift.Decimal.Quick
import ApiDrift.Json.Reading

/-!
# Rejections

Why a tree was refused. A cut is refused for its fault. Which fault that is depends on how the place was read: a value that is taken is read to its end, a value that is passed over is only looked through, and where one of several words is wanted the first character already decides.
-/

namespace ApiDrift.Json

inductive Rejection
  | unfinished
  | malformed
  | wrongType
  | missingField (name : String)
  | duplicateField (name : String)
  | unknownWord (found : String) (expected : List String)
  deriving DecidableEq

namespace Rejection

def inBackquotes (text : String) : String := "\x60" ++ text ++ "\x60"

def message : Rejection → String
  | unfinished => "the text ends too early"
  | malformed => "the text is no JSON"
  | wrongType => "a value has the wrong type"
  | missingField name => "missing field " ++ inBackquotes name
  | duplicateField name => "duplicate field " ++ inBackquotes name
  | unknownWord found expected =>
    "unknown variant " ++ inBackquotes found ++ ", expected one of " ++
      String.intercalate ", " (expected.map inBackquotes)

end Rejection

namespace Fault

def rejection : Fault → Rejection
  | malformed => .malformed
  | unfinishedUnpaired => .malformed
  | _ => .unfinished

/-- A number that is only looked through has to be complete at once, and nobody pairs the surrogates of a text. -/
def rejectionSkipped : Fault → Rejection
  | unfinished => .unfinished
  | unfinishedWord => .unfinished
  | unfinishedUnpaired => .unfinished
  | _ => .malformed

/-- Where a word in quotes is wanted, any other beginning is refused. -/
def rejectionAsWord : Fault → Rejection
  | unfinished => .unfinished
  | _ => .malformed

end Fault

def isTooLarge (numeral : Decimal.Numeral) : Bool := numeral.quick?.isNone

/-- A number that is too large for a quick reading is no value. -/
def ofNumeral (numeral : Decimal.Numeral) : Except Rejection Decimal.Numeral :=
  if isTooLarge numeral then .error .malformed else .ok numeral

/-- Why a value is refused where one of another type is wanted. A scalar is read first. -/
def wrongType : Json → Rejection
  | cut fault => fault.rejection
  | unpaired => .malformed
  | number numeral => if isTooLarge numeral then .malformed else .wrongType
  | _ => .wrongType

mutual

/-- Looks through a value that nobody wants. -/
def skip : Json → Except Rejection Unit
  | array items => items.skip
  | object members => members.skip
  | cut fault => .error fault.rejectionSkipped
  | _ => .ok ()

def Items.skip : Items → Except Rejection Unit
  | .done => .ok ()
  | .cut fault => .error fault.rejectionSkipped
  | .cons item rest => do item.skip; rest.skip

def Members.skip : Members → Except Rejection Unit
  | .done => .ok ()
  | .cut fault => .error fault.rejectionSkipped
  | .comma fault => .error fault.rejectionSkipped
  | .nameless value rest => do value.skip; rest.skip
  | .cons _ value rest => do value.skip; rest.skip

end

mutual

/-- Reads a value that is wanted later. Only so many brackets may be open in it at once. -/
def hold (brackets : Nat) : Json → Except Rejection Unit
  | array items =>
    match brackets with
    | 0 => .error .malformed
    | inner + 1 => items.hold inner
  | object members =>
    match brackets with
    | 0 => .error .malformed
    | inner + 1 => members.hold inner
  | number numeral => if isTooLarge numeral then .error .malformed else .ok ()
  | unpaired => .error .malformed
  | cut fault => .error fault.rejection
  | _ => .ok ()

def Items.hold (brackets : Nat) : Items → Except Rejection Unit
  | .done => .ok ()
  | .cut fault => .error fault.rejection
  | .cons item rest => do item.hold brackets; rest.hold brackets

def Members.hold (brackets : Nat) : Members → Except Rejection Unit
  | .done => .ok ()
  | .cut fault => .error fault.rejection
  | .comma fault => .error fault.rejection
  | .nameless _ _ => .error .malformed
  | .cons _ value rest => do value.hold brackets; rest.hold brackets

end

end ApiDrift.Json
