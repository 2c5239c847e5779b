/-!
# Dotted paths

A path names an entity by the names on the way to it, joined by dots. An empty name adds no segment, so the root of a codebase leaves no mark in the paths below it.
-/

namespace ApiDrift.Path

def join (path name : String) : String :=
  if name.isEmpty then path else if path.isEmpty then name else path ++ "." ++ name

/-- A path lies within another when it equals it or goes on after it with a dot. -/
def within (root path : String) : Bool :=
  path == root || (root.toList ++ ['.']).isPrefixOf path.toList

end ApiDrift.Path
