/-!
# Output formats

A result is shown as a table for people or as JSON for programs.
-/

namespace ApiDrift

inductive Format
  | table
  | json
  deriving DecidableEq

namespace Format

def all : List Format := [table, json]

def word : Format → String
  | table => "table"
  | json => "json"

/-- The word for a format in any mixture of capitals. Outside ASCII no letter has a small form among the letters of the two words. -/
def parse? (text : String) : Option Format := all.find? (·.word = text.map Char.toLower)

def unknownMessage (text : String) : String := "Unknown output format: '" ++ text ++ "'"

end Format

end ApiDrift
