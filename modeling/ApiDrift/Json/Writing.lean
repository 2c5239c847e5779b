import ApiDrift.Json.Text

/-!
# Writing JSON

A tree is written on one line without spaces, or with each item and member on a line of its own, two spaces further in than the brackets around it. An empty array or object is written the same in both ways. What a cut took away is not written, nor a member that has no name.
-/

namespace ApiDrift

mutual

def Json.compactChars : Json → List Char
  | .null => "null".toList
  | .bool value => (if value then "true" else "false").toList
  | .number numeral => numeral.text.toList
  | .text value => Json.quoted value
  | .unpaired => []
  | .array items => '[' :: (items.compactChars true ++ [']'])
  | .object members => '\x7b' :: (members.compactChars true ++ ['\x7d'])
  | .cut _ => []

def Json.Items.compactChars (first : Bool) : Json.Items → List Char
  | .done => []
  | .cut _ => []
  | .cons item rest =>
    (if first then [] else [',']) ++ item.compactChars ++ rest.compactChars false

def Json.Members.compactChars (first : Bool) : Json.Members → List Char
  | .done => []
  | .cut _ => []
  | .comma _ => []
  | .nameless _ rest => rest.compactChars first
  | .cons key value rest =>
    (if first then [] else [',']) ++ Json.quoted key ++ ':' :: value.compactChars ++
      rest.compactChars false

end

/-- A line break and the spaces in front of the next line. -/
def Json.newLine (depth : Nat) : List Char := '\n' :: List.replicate (2 * depth) ' '

mutual

def Json.prettyChars (depth : Nat) : Json → List Char
  | .array (.cons item rest) =>
    '[' :: (Json.newLine (depth + 1) ++ item.prettyChars (depth + 1) ++ rest.prettyChars depth)
  | .object (.cons key value rest) =>
    '\x7b' :: (Json.newLine (depth + 1) ++ Json.quoted key ++
      ':' :: ' ' :: value.prettyChars (depth + 1) ++ rest.prettyChars depth)
  | other => other.compactChars

/-- The items after the first one, and the closing bracket. -/
def Json.Items.prettyChars (depth : Nat) : Json.Items → List Char
  | .done => Json.newLine depth ++ [']']
  | .cut _ => Json.newLine depth ++ [']']
  | .cons item rest =>
    ',' :: (Json.newLine (depth + 1) ++ item.prettyChars (depth + 1) ++ rest.prettyChars depth)

/-- The members after the first one, and the closing brace. -/
def Json.Members.prettyChars (depth : Nat) : Json.Members → List Char
  | .done => Json.newLine depth ++ ['\x7d']
  | .cut _ => Json.newLine depth ++ ['\x7d']
  | .comma _ => Json.newLine depth ++ ['\x7d']
  | .nameless _ rest => rest.prettyChars depth
  | .cons key value rest =>
    ',' :: (Json.newLine (depth + 1) ++ Json.quoted key ++
      ':' :: ' ' :: value.prettyChars (depth + 1) ++ rest.prettyChars depth)

end

namespace Json

def compact (json : Json) : String := String.ofList json.compactChars

def pretty (json : Json) : String := String.ofList (json.prettyChars 0)

end Json

end ApiDrift
