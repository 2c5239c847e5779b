import ApiDrift.Comparison
import ApiDrift.Pattern.Glob
import ApiDrift.Pattern.Occurrence
import ApiDrift.Pattern.Reading

/-!
# Ignore rules

A rule leaves out the entities whose paths it matches. It is a glob over whole paths, or after a mark a regular expression that may match anywhere in a path.
-/

namespace ApiDrift

structure IgnoreRule where
  pattern : String
  expr : Pattern.Expr

namespace IgnoreRule

/-- The regular expression that a pattern gives after the mark, or that its glob is short for. -/
def source (pattern : String) : List Char :=
  match pattern.toList with
  | 'r' :: 'e' :: ':' :: source => source
  | glob => Pattern.Glob.source glob

def refused (pattern : String) : Failure :=
  .invalidPattern pattern "it gives no regular expression, or one that takes too much room"

/-- A pattern is a rule if its regular expression can be read. -/
def ofPattern (pattern : String) : Except Failure IgnoreRule :=
  match Pattern.Expr.read? (source pattern) with
  | some expr => .ok ⟨pattern, expr⟩
  | none => .error (refused pattern)

def ignores (rule : IgnoreRule) (path : String) : Bool := rule.expr.occursIn path.toList

end IgnoreRule

abbrev IgnoreRules := List IgnoreRule

namespace IgnoreRules

/-- The first pattern that is no rule is the one reported. -/
def ofPatterns (patterns : List String) : Except Failure IgnoreRules :=
  patterns.mapM IgnoreRule.ofPattern

def patterns (rules : IgnoreRules) : List String := rules.map IgnoreRule.pattern

def ignores (rules : IgnoreRules) (path : String) : Bool := rules.any (·.ignores path)

def policy (rules : IgnoreRules) : Policy := .ofBool rules.ignores

end IgnoreRules

end ApiDrift
