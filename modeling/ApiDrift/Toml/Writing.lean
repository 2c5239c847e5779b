/-!
# Writing TOML strings

A string is written in the plainest of five ways that can hold it: between double quotes, between single quotes, as several lines between three double or three single quotes, and else with escapes. A tab is escaped between double quotes. A line break is put behind opening quotes if the string has line breaks of its own.
-/

namespace ApiDrift.Toml

/-- A control character for which a string needs an escape; tabs and line feeds do not need one. -/
def isControl (c : Char) : Bool := c != '\t' && c != '\n' && (c.toNat < 32 || c.toNat = 127)

/-- Whether more than so many of one character stand in a row; `run` counts those that stand before the text. -/
def hasRunAbove (limit : Nat) (c : Char) (run : Nat) : List Char → Bool
  | [] => false
  | d :: rest =>
    if d = c then run + 1 > limit || hasRunAbove limit c (run + 1) rest
    else hasRunAbove limit c 0 rest

/-- An escape for a character, if it has to be escaped whatever stands around it; a line feed is escaped on a single line only. -/
def escape (long : Bool) (c : Char) : Option (List Char) :=
  match c with
  | '\x08' => some ['\\', 'b']
  | '\t' => some ['\\', 't']
  | '\n' => if long then none else some ['\\', 'n']
  | '\x0c' => some ['\\', 'f']
  | '\r' => some ['\\', 'r']
  | '\\' => some ['\\', '\\']
  | c =>
    if c.toNat < 32 || c.toNat = 127 then
      some ['\\', 'u', '0', '0', Nat.digitChar (c.toNat / 16) |>.toUpper,
        Nat.digitChar (c.toNat % 16) |>.toUpper]
    else none

/-- The characters between double quotes. Of quotes in a row the first `quotes` need no escape. -/
def escaped (long : Bool) (quotes run : Nat) : List Char → List Char
  | [] => []
  | '"' :: rest =>
    if run < quotes then '"' :: escaped long quotes (run + 1) rest
    else '\\' :: '"' :: escaped long quotes 0 rest
  | c :: rest => (escape long c).getD [c] ++ escaped long quotes 0 rest

def quotedChars (text : List Char) : List Char :=
  let breaks := text.contains '\n'
  let controls := text.any isControl
  let opening := if breaks then ['\n'] else []
  if !controls && !text.contains '\\' && !text.contains '"' && !breaks then
    '"' :: (escaped false 0 0 text ++ ['"'])
  else if !controls && !text.contains '\'' && !breaks then '\'' :: (text ++ ['\''])
  else if !controls && !text.contains '\\' && !hasRunAbove 2 '"' 0 text then
    ['"', '"', '"'] ++ opening ++ escaped true 2 0 text ++ ['"', '"', '"']
  else if !controls && !hasRunAbove 2 '\'' 0 text then
    ['\'', '\'', '\''] ++ opening ++ text ++ ['\'', '\'', '\'']
  else if breaks then ['"', '"', '"', '\n'] ++ escaped true 2 0 text ++ ['"', '"', '"']
  else '"' :: (escaped false 0 0 text ++ ['"'])

def quoted (text : String) : String := String.ofList (quotedChars text.toList)

/-- Two items or more stand on a line each. -/
def listed (items : List String) : String :=
  match items with
  | [] => "[]"
  | [item] => "[" ++ quoted item ++ "]"
  | items => "[\n" ++ String.join (items.map fun item => "    " ++ quoted item ++ ",\n") ++ "]"

end ApiDrift.Toml
