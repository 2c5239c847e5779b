/-!
# Pages of styled text

A page is a run of pieces, each with a style. Without colours it reads as the texts of the pieces; with colours each styled piece stands between a sequence that turns its style on and one that turns all styles off.
-/

namespace ApiDrift

inductive Style
  | plain
  | bold
  | dimmed
  | green
  | yellow
  | cyan
  | boldRed
  | boldGreen
  | boldCyan
  deriving DecidableEq

structure Piece where
  text : String
  style : Style := .plain
  deriving DecidableEq

abbrev Page := List Piece

namespace Style

/-- The numbers that turn a style on. -/
def codes? : Style → Option String
  | plain => none
  | bold => some "1"
  | dimmed => some "2"
  | green => some "32"
  | yellow => some "33"
  | cyan => some "36"
  | boldRed => some "1;31"
  | boldGreen => some "1;32"
  | boldCyan => some "1;36"

def on (codes : String) : List Char := '\x1b' :: '[' :: codes.toList ++ ['m']

def off : List Char := on "0"

/-- Where a text turns all styles off by itself, its own style is turned on again. -/
def resume (opening : List Char) : List Char → List Char
  | '\x1b' :: '[' :: '0' :: 'm' :: rest => off ++ opening ++ resume opening rest
  | c :: rest => c :: resume opening rest
  | [] => []

end Style

namespace Piece

/-- The text of a piece with spaces after it up to a width. -/
def padded (text : String) (width : Nat) (style : Style) : Piece :=
  ⟨text ++ String.ofList (List.replicate (width - text.length) ' '), style⟩

def colored (piece : Piece) : List Char :=
  match piece.style.codes? with
  | none => piece.text.toList
  | some codes =>
    Style.on codes ++ Style.resume (Style.on codes) piece.text.toList ++ Style.off

end Piece

namespace Page

def plain (text : String) : Piece := ⟨text, .plain⟩

def newLine : Piece := plain "\n"

def space : Piece := plain " "

def text (page : Page) (colors : Bool) : String :=
  String.ofList (page.flatMap fun piece => if colors then piece.colored else piece.text.toList)

end Page

end ApiDrift
