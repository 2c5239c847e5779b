import ApiDrift.Pattern.Expr

/-!
# Finding an expression in a text

All ways to match are followed at once. A set of positions is a list of marks, one for each position from the start of the text to its end; an expression takes the positions where it may start to those where it may end. The marks that a character set or an anchor admits are worked out once for each text.
-/

namespace ApiDrift.Pattern

abbrev Marks := List Bool

namespace Marks

/-- Adds the marks of the second list to the first. -/
def join : Marks → Marks → Marks
  | a :: rest, b :: others => (a || b) :: join rest others
  | marks, [] => marks
  | [], _ => []

def unmarked (marks : Marks) : Nat := marks.count false

theorem unmarked_join_le (marks others : Marks) : (join marks others).unmarked ≤ marks.unmarked := by
  induction marks generalizing others with
  | nil => cases others <;> exact Nat.le_refl _
  | cons a rest ih =>
    cases others with
    | nil => exact Nat.le_refl _
    | cons b others =>
      have := ih others
      simp only [join, unmarked, List.count_cons] at this ⊢
      cases a <;> cases b <;> simp <;> omega

theorem unmarked_join_lt {marks others : Marks} (grown : join marks others ≠ marks) :
    (join marks others).unmarked < marks.unmarked := by
  induction marks generalizing others with
  | nil => cases others <;> exact absurd rfl grown
  | cons a rest ih =>
    cases others with
    | nil => exact absurd rfl grown
    | cons b others =>
      have le := unmarked_join_le rest others
      by_cases same : join rest others = rest
      · simp only [join, unmarked, same, List.count_cons] at grown ⊢
        cases a <;> cases b <;> simp_all
      · have lt := ih same
        simp only [join, unmarked, List.count_cons] at le lt ⊢
        cases a <;> cases b <;> simp <;> omega

/-- Everything that can be reached in any number of steps. -/
def closure (step : Marks → Marks) (marks : Marks) : Marks :=
  if join marks (step marks) = marks then marks
  else closure step (join marks (step marks))
termination_by marks.unmarked
decreasing_by exact unmarked_join_lt (by assumption)

/-- A number of steps in a row; once a step changes nothing, none after it does. -/
def iterate (step : Marks → Marks) : Nat → Marks → Marks
  | 0, marks => marks
  | count + 1, marks => if step marks = marks then marks else iterate step count (step marks)

end Marks

/-- An expression with the marks it admits in one text: a move passes a character, a check stays. -/
inductive Plan
  | stay
  | move (admitted : List Bool)
  | check (admitted : List Bool)
  | seq (first second : Plan)
  | either (first second : Plan)
  | opt (plan : Plan)
  | many (plan : Plan)
  | times (plan : Plan) (count : Nat)
  | upTo (plan : Plan) (count : Nat)

namespace Plan

def run : Plan → Marks → Marks
  | stay, marks => marks
  | move admitted, marks => false :: List.zipWith (· && ·) marks admitted
  | check admitted, marks => List.zipWith (· && ·) marks admitted
  | seq first second, marks => second.run (first.run marks)
  | either first second, marks => (first.run marks).join (second.run marks)
  | opt plan, marks => marks.join (plan.run marks)
  | many plan, marks => Marks.closure plan.run (plan.run marks)
  | times plan count, marks => Marks.iterate plan.run count marks
  | upTo plan count, marks => Marks.iterate (fun now => now.join (plan.run now)) count marks

end Plan

/-- The gaps of a text that follows a given character, from the first to the one after the end. -/
def gapsAfter (before : Option Char) : List Char → List Gap
  | [] => [⟨before, none⟩]
  | c :: rest => ⟨before, some c⟩ :: gapsAfter (some c) rest

namespace Expr

def plan (text : List Char) : Expr → Plan
  | empty => .stay
  | one admitted => .move (text.map admitted.contains)
  | anchor condition => .check ((gapsAfter none text).map condition.holds)
  | seq first second => .seq (first.plan text) (second.plan text)
  | either first second => .either (first.plan text) (second.plan text)
  | opt expr => .opt (expr.plan text)
  | many expr => .many (expr.plan text)
  | times expr count => .times (expr.plan text) count
  | upTo expr count => .upTo (expr.plan text) count

/-- The expression spans some stretch of the text. -/
def occursIn (expr : Expr) (text : List Char) : Bool :=
  ((expr.plan text).run (List.replicate (text.length + 1) true)).any id

end Expr

end ApiDrift.Pattern
