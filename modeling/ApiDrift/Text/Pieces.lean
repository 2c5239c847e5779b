/-!
# Texts in pieces

A text is divided at one character. There is one piece more than there are places to divide at, and a piece may be empty.
-/

namespace ApiDrift.Text

/-- The pieces of a text between the places where a character stands. -/
def pieces (mark : Char) (text : List Char) : List (List Char) :=
  text.foldr
    (fun c pieces =>
      if c = mark then [] :: pieces
      else
        match pieces with
        | first :: rest => (c :: first) :: rest
        | [] => [[c]])
    [[]]

end ApiDrift.Text
