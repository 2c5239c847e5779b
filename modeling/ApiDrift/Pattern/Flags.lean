import ApiDrift.Pattern.Expr

/-!
# Flags of a regular expression

Flags are set for the rest of the group in which they stand. They change which characters a place admits and where the anchors hold. Without the wide classes, a class that would admit characters beyond ASCII by exclusion is refused, and only the letters of ASCII have a case.
-/

namespace ApiDrift.Pattern

structure Flags where
  foldCase : Bool := false
  lines : Bool := false
  dotAll : Bool := false
  returns : Bool := false
  ascii : Bool := false
  spaced : Bool := false

namespace Flags

/-- Greed does not change whether there is a match. -/
def turn? (flags : Flags) (letter : Char) (on : Bool) : Option Flags :=
  match letter with
  | 'i' => some { flags with foldCase := on }
  | 'm' => some { flags with lines := on }
  | 's' => some { flags with dotAll := on }
  | 'R' => some { flags with returns := on }
  | 'u' => some { flags with ascii := !on }
  | 'x' => some { flags with spaced := on }
  | 'U' => some flags
  | _ => none

def folded (flags : Flags) (admitted : CharSet) : CharSet :=
  if !flags.foldCase then admitted
  else if flags.ascii then .foldAscii admitted
  else .foldCase admitted

/-- All other characters. -/
def excluded? (flags : Flags) (admitted : CharSet) : Option CharSet :=
  if flags.ascii then none else some (.complement admitted)

def digits (flags : Flags) : CharSet := if flags.ascii then .range '0' '9' else .digit

def words (flags : Flags) : CharSet :=
  if flags.ascii then .ofRanges [('0', '9'), ('A', 'Z'), ('_', '_'), ('a', 'z')] else .word

def blanks (flags : Flags) : CharSet :=
  if flags.ascii then .ofRanges [('\t', '\r'), (' ', ' ')] else .blank

/-- The classes that an escaped letter names; a capital names all other characters. -/
def letterClass? (flags : Flags) : Char → Option CharSet
  | 'd' => some flags.digits
  | 's' => some flags.blanks
  | 'w' => some flags.words
  | 'D' => flags.excluded? flags.digits
  | 'S' => flags.excluded? flags.blanks
  | 'W' => flags.excluded? flags.words
  | _ => none

def dot? (flags : Flags) : Option CharSet :=
  if flags.ascii then none
  else if flags.dotAll then some .anything
  else if flags.returns then some (.complement (.ofRanges [('\n', '\n'), ('\r', '\r')]))
  else some (.complement (.single '\n'))

def startAnchor (flags : Flags) : Anchor :=
  if flags.lines then .lineStart flags.returns else .textStart

def endAnchor (flags : Flags) : Anchor :=
  if flags.lines then .lineEnd flags.returns else .textEnd

/-- The classes with names between colons, which are about ASCII whatever the flags say. -/
def namedClass? : String → Option CharSet
  | "alnum" => some (.ofRanges [('0', '9'), ('A', 'Z'), ('a', 'z')])
  | "alpha" => some (.ofRanges [('A', 'Z'), ('a', 'z')])
  | "ascii" => some (.range '\x00' '\x7f')
  | "blank" => some (.ofRanges [('\t', '\t'), (' ', ' ')])
  | "cntrl" => some (.ofRanges [('\x00', '\x1f'), ('\x7f', '\x7f')])
  | "digit" => some (.range '0' '9')
  | "graph" => some (.range '!' '~')
  | "lower" => some (.range 'a' 'z')
  | "print" => some (.range ' ' '~')
  | "punct" => some (.ofRanges [('!', '/'), (':', '@'), ('[', '\x60'), ('\x7b', '~')])
  | "space" => some (.ofRanges [('\t', '\r'), (' ', ' ')])
  | "upper" => some (.range 'A' 'Z')
  | "word" => some (.ofRanges [('0', '9'), ('A', 'Z'), ('_', '_'), ('a', 'z')])
  | "xdigit" => some (.ofRanges [('0', '9'), ('A', 'F'), ('a', 'f')])
  | _ => none

/-- With free spacing, blanks and comments that run to the end of the line count for nothing. This reads up to `limit` characters of a kind from the front of a text and skips what counts for nothing around them. -/
def takeFrom (flags : Flags) (isKind : Char → Bool) : Nat → Bool → List Char → List Char × List Char
  | _, _, [] => ([], [])
  | limit, inComment, c :: rest =>
    if inComment then takeFrom flags isKind limit (c != '\n') rest
    else if flags.spaced && Text.isBlank c then takeFrom flags isKind limit false rest
    else if flags.spaced && c == '#' then takeFrom flags isKind limit true rest
    else if limit = 0 || !isKind c then ([], c :: rest)
    else
      let (taken, after) := takeFrom flags isKind (limit - 1) false rest
      (c :: taken, after)

def take (flags : Flags) (isKind : Char → Bool) (limit : Nat) (text : List Char) :
    List Char × List Char :=
  takeFrom flags isKind limit false text

def skip (flags : Flags) (text : List Char) : List Char := (flags.take (fun _ => false) 0 text).2

end Flags

end ApiDrift.Pattern
