import ApiDrift.Toml.Scalar

/-!
# Reading TOML documents

A document is a run of lines: headers, keys with values, comments and blank lines. A key belongs to the table whose header came last.
-/

namespace ApiDrift.Toml

/-- A dotted key has fewer names than this, and fewer brackets than this are open at once. -/
def depthLimit : Nat := 80

def key? (text : List Char) : Option (List String × List Char) := do
  let (path, rest) ← path? text
  if path.length < depthLimit then some (path, rest) else none

/-- Reads a key and its value. -/
def pair? (value : Reader Value) (text : List Char) :
    Option ((List String × Value) × List Char) := do
  let (path, rest) ← key? text
  match skipSpaces rest with
  | '=' :: rest =>
    let (value, rest) ← value (skipSpaces rest)
    some ((path, value), rest)
  | _ => none

/-- Adds a value under a key in a table that the key did not make. -/
def addPair? (entries : Entries) (path : List String) (value : Value) : Option Entries :=
  match path.reverse with
  | [] => none
  | [key] => entries.add? key value
  | key :: before => entries.addDotted? false before.reverse key value

/-- Reads the items of an array after its opening bracket. A comma may follow the last one. -/
def items? (value : Reader Value) (made : List Value) (text : List Char) :
    Option (Value × List Char) :=
  match skipLayout text with
  | ']' :: rest => some (.array made, rest)
  | start =>
    match value start with
    | none => none
    | some (item, later) =>
      match skipLayout later with
      | ']' :: rest => some (.array (made ++ [item]), rest)
      | ',' :: rest =>
        if rest.length < text.length then items? value (made ++ [item]) rest else none
      | _ => none
termination_by text.length

/-- Reads the entries between braces after the first brace. They stand on one line, and no comma follows the last one. -/
def pairs? (value : Reader Value) (entries : Entries) (text : List Char) :
    Option (Value × List Char) :=
  match pair? value text with
  | none => none
  | some ((path, item), later) =>
    match addPair? entries path item with
    | none => none
    | some entries =>
      match skipSpaces later with
      | '\x7d' :: rest => some (.table .braces entries, rest)
      | ',' :: rest => if rest.length < text.length then pairs? value entries rest else none
      | _ => none
termination_by text.length

/-- Reads a value in which so many brackets may be open at once. -/
def value? (brackets : Nat) (text : List Char) : Option (Value × List Char) :=
  match text, brackets with
  | '[' :: rest, inner + 1 => items? (value? inner) [] rest
  | '\x7b' :: rest, inner + 1 =>
    match skipSpaces rest with
    | '\x7d' :: rest => some (.table .braces [], rest)
    | _ => pairs? (value? inner) [] rest
  | '"' :: _, _ => (string? text).map fun read => (.text read.1, read.2)
  | '\'' :: _, _ => (string? text).map fun read => (.text read.1, read.2)
  | _, _ => scalar? text

/-- A document that is being read: its tables, and the path of the last header. -/
structure Draft where
  root : Entries := []
  current : List String := []

namespace Draft

/-- Opens the table of a header, or one more of the tables of a header in double brackets. -/
def open? (draft : Draft) (path : List String) (another : Bool) : Option Draft := do
  let key ← path.getLast?
  let root ←
    draft.root.changeAt? path.dropLast (if another then Entries.openNext? key else Entries.open? key)
  some ⟨root, path⟩

def add? (draft : Draft) (path : List String) (value : Value) : Option Draft := do
  let root ← draft.root.changeAt? draft.current fun entries => addPair? entries path value
  some { draft with root := root }

end Draft

/-- Reads what stands on a line, without its end. -/
def statement? (draft : Draft) (text : List Char) : Option (Draft × List Char) :=
  match skipSpaces text with
  | '[' :: '[' :: rest => do
    match ← key? rest with
    | (path, rest) =>
      match skipSpaces rest with
      | ']' :: ']' :: rest => some (← draft.open? path true, rest)
      | _ => none
  | '[' :: rest => do
    match ← key? rest with
    | (path, rest) =>
      match skipSpaces rest with
      | ']' :: rest => some (← draft.open? path false, rest)
      | _ => none
  | start => do
    let ((path, value), rest) ← pair? (value? (depthLimit - 1)) start
    some (← draft.add? path value, rest)

def lines? (draft : Draft) (text : List Char) : Option Entries :=
  match skipLayout text with
  | [] => some draft.root
  | start =>
    match statement? draft start with
    | none => none
    | some (draft, later) =>
      match endLine? later with
      | some rest => if rest.length < text.length then lines? draft rest else none
      | none => none
termination_by text.length

def withoutMark : List Char → List Char
  | '\ufeff' :: rest => rest
  | text => text

/-- Reads a document. -/
def read? (text : String) : Option Entries := lines? {} (withoutMark text.toList)

end ApiDrift.Toml
