import ApiDrift.Pattern.CharSet
import ApiDrift.Text.Property
import ApiDrift.Text.Script

/-!
# Classes with names

A class may be named after a property of characters, a general category or a script. In a name case, blanks, hyphens and underscores make no difference, and neither does a leading "is". A name may say what it is the name of: a category, or a script.
-/

namespace ApiDrift.Pattern.NamedClass

/-- Small letters without what makes no difference between them. -/
def bare (name : List Char) : List Char :=
  (name.filter fun c => c.toNat < 128 && c != ' ' && c != '_' && c != '-').map Char.toLower

/-- The form of a name in which the tables have it. One short name begins with "is" in its own right and is no class. -/
def plain (name : List Char) : String :=
  String.ofList <|
    match name with
    | a :: b :: rest =>
      if a.toLower == 'i' && b.toLower == 's' then
        if bare rest == ['c'] then bare name else bare rest
      else bare name
    | _ => bare name

def letters : List Text.Category :=
  [.uppercaseLetter, .lowercaseLetter, .titlecaseLetter, .modifierLetter, .otherLetter]

def marks : List Text.Category := [.nonspacingMark, .spacingMark, .enclosingMark]

def numbers : List Text.Category := [.decimalNumber, .letterNumber, .otherNumber]

def punctuation : List Text.Category :=
  [.connectorPunctuation, .dashPunctuation, .openPunctuation, .closePunctuation,
    .initialPunctuation, .finalPunctuation, .otherPunctuation]

def symbols : List Text.Category := [.mathSymbol, .currencySymbol, .modifierSymbol, .otherSymbol]

def separators : List Text.Category := [.spaceSeparator, .lineSeparator, .paragraphSeparator]

/-- The assigned categories that stand for nothing to be seen. -/
def invisible : List Text.Category := [.control, .format, .privateUse]

def categories? : String → Option (List Text.Category)
  | "l" | "letter" => some letters
  | "lc" | "casedletter" => some [.uppercaseLetter, .lowercaseLetter, .titlecaseLetter]
  | "lu" | "uppercaseletter" => some [.uppercaseLetter]
  | "ll" | "lowercaseletter" => some [.lowercaseLetter]
  | "lt" | "titlecaseletter" => some [.titlecaseLetter]
  | "lm" | "modifierletter" => some [.modifierLetter]
  | "lo" | "otherletter" => some [.otherLetter]
  | "m" | "mark" | "combiningmark" => some marks
  | "mn" | "nonspacingmark" => some [.nonspacingMark]
  | "mc" | "spacingmark" => some [.spacingMark]
  | "me" | "enclosingmark" => some [.enclosingMark]
  | "n" | "number" => some numbers
  | "nd" | "decimalnumber" | "digit" => some [.decimalNumber]
  | "nl" | "letternumber" => some [.letterNumber]
  | "no" | "othernumber" => some [.otherNumber]
  | "p" | "punctuation" | "punct" => some punctuation
  | "pc" | "connectorpunctuation" => some [.connectorPunctuation]
  | "pd" | "dashpunctuation" => some [.dashPunctuation]
  | "ps" | "openpunctuation" => some [.openPunctuation]
  | "pe" | "closepunctuation" => some [.closePunctuation]
  | "pi" | "initialpunctuation" => some [.initialPunctuation]
  | "pf" | "finalpunctuation" => some [.finalPunctuation]
  | "po" | "otherpunctuation" => some [.otherPunctuation]
  | "s" | "symbol" => some symbols
  | "sm" | "mathsymbol" => some [.mathSymbol]
  | "sc" | "currencysymbol" => some [.currencySymbol]
  | "sk" | "modifiersymbol" => some [.modifierSymbol]
  | "so" | "othersymbol" => some [.otherSymbol]
  | "z" | "separator" => some separators
  | "zs" | "spaceseparator" => some [.spaceSeparator]
  | "zl" | "lineseparator" => some [.lineSeparator]
  | "zp" | "paragraphseparator" => some [.paragraphSeparator]
  | "cc" | "control" | "cntrl" => some [.control]
  | "cf" | "format" => some [.format]
  | "co" | "privateuse" => some [.privateUse]
  | _ => none

def property? : String → Option Text.Property
  | "alphabetic" | "alpha" => some .alphabetic
  | "lowercase" | "lower" => some .lowercase
  | "uppercase" | "upper" => some .uppercase
  | "cased" => some .cased
  | "whitespace" | "wspace" | "space" => some .whiteSpace
  | "hexdigit" | "hex" => some .hexDigit
  | "asciihexdigit" | "ahex" => some .asciiHexDigit
  | "joincontrol" | "joinc" => some .joinControl
  | "dash" => some .dash
  | "ideographic" | "ideo" => some .ideographic
  | "emoji" => some .emoji
  | _ => none

def ofCategories (categories : List Text.Category) : CharSet :=
  .listed (categories.flatMap Text.Category.ranges)

/-- All characters that have been given a category. -/
def assigned : CharSet := ofCategories Text.Category.all

/-- The class of a category, where some names put several categories together. -/
def ofCategory? : String → Option CharSet
  | "any" => some .anything
  | "assigned" => some assigned
  | "ascii" => some (.range '\x00' '\x7f')
  | "cn" | "unassigned" => some (.complement assigned)
  | "c" | "other" => some (.union (.complement assigned) (ofCategories invisible))
  | name => (categories? name).map ofCategories

def ofScript? (name : String) : Option CharSet :=
  (Text.scripts.find? fun script => script.names.contains name).map fun script =>
    .listed script.ranges

def ofName? (name : String) : Option CharSet :=
  ((property? name).map fun property => CharSet.listed property.ranges)
    <|> ofCategory? name <|> ofScript? name

/-- A class by the name of a kind of names and a name of that kind. -/
def ofKind? (kind name : String) : Option CharSet :=
  match kind with
  | "generalcategory" | "gc" => ofCategory? name
  | "script" | "sc" => ofScript? name
  | _ => none

/-- The text before a mark and the text behind it. -/
def dividedAt? (mark : List Char) : List Char → Option (List Char × List Char)
  | [] => none
  | c :: rest =>
    if mark.isPrefixOf (c :: rest) then some ([], (c :: rest).drop mark.length)
    else (dividedAt? mark rest).map fun item => (c :: item.1, item.2)

/-- Reads what stands in braces: a name alone, or a kind and a name with a mark between them. The flag says that the class is everything else. -/
def read? (text : List Char) : Option (Bool × CharSet) :=
  match dividedAt? ['!', '='] text, dividedAt? [':'] text, dividedAt? ['='] text with
  | some (kind, name), _, _ => (ofKind? (plain kind) (plain name)).map fun set => (true, set)
  | none, some (kind, name), _ | none, none, some (kind, name) =>
    (ofKind? (plain kind) (plain name)).map fun set => (false, set)
  | none, none, none => (ofName? (plain text)).map fun set => (false, set)

end ApiDrift.Pattern.NamedClass
