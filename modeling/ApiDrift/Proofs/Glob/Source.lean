import ApiDrift.Ignore
import Mathlib.Data.List.Basic

/-!
# The regular expression of a glob

The regular expression that a glob is short for can be read, unless it takes too much room. Each piece of the glob is read as one part, and the parts stand in a row between the two ends of the text.
-/

namespace ApiDrift.Pattern

@[simp] theorem Flags.skip_plain (text : List Char) : Flags.skip {} text = text := by
  cases text <;> rfl

namespace Token

/-- One token is read, and then the others. -/
theorem all?_of_next? {scan next : Scan} {text rest : List Char} {token : Token}
    (hskip : scan.flags.skip text = text) (hnext : next? scan text = some (next, token, rest))
    (hshort : rest.length < text.length) :
    all? scan text = (all? next rest).map (token :: ·) := by
  rw [all?, hskip]
  cases text with
  | nil => cases hshort
  | cons c more => simp only [hnext, if_pos hshort]

end Token

namespace Glob

open Token

/-- All characters but the end of a line, as a dot stands for them. -/
def inLine : CharSet := .complement (.single '\n')

/-- All characters but a dot, as they are listed in brackets. -/
def inSegment : CharSet := .complement (.union .nothing (.single '.'))

def Piece.tokens : Piece → List Token
  | anyPath => [.atom (.ofSet inLine 0), .repetition 0 none]
  | anySegment => [.atom (.ofSet inSegment 1), .repetition 0 none]
  | anyOne => [.atom (.ofSet inSegment 1)]
  | exactly c => [.atom (.ofSet (.single c) 0)]

def Piece.part : Piece → Part
  | anyPath => (Part.ofSet inLine 0).repeated 0 none
  | anySegment => (Part.ofSet inSegment 1).repeated 0 none
  | anyOne => .ofSet inSegment 1
  | exactly c => .ofSet (.single c) 0

/-- A glob as a part of an expression. -/
def part (glob : List Char) : Part :=
  .inRow [some (.ofAnchor .textStart),
    some ((Part.inRow ((pieces glob).map fun piece => some piece.part)).group false),
    some (.ofAnchor .textEnd)]

/-- A glob is subject to the same limit as a regular expression. -/
def fits (glob : List Char) : Bool := (part glob).room.fits

/-! ### Tokens -/

/-- What follows an opening bracket, when it lists a dot and is turned round. -/
theorem read?_notDot (rest : List Char) :
    Bracket.read? {} ('^' :: '.' :: ']' :: rest) = some (⟨inSegment, 1⟩, rest) := by
  have hopen : Bracket.open? {} ('^' :: '.' :: ']' :: rest) =
      some ({ negated := true }, '.' :: ']' :: rest) := rfl
  have hdot : Bracket.step? {} { negated := true } [] ('.' :: ']' :: rest) =
      some (.inside
        { negated := true, members := .union .nothing (.single '.'), count := 1 } [] (']' :: rest)) :=
    rfl
  have hclose : Bracket.step? {}
      { negated := true, members := .union .nothing (.single '.'), count := 1 } [] (']' :: rest) =
      some (.closed ⟨inSegment, 1⟩ rest) := rfl
  simp only [Bracket.read?, hopen, Option.bind_eq_bind, Option.bind_some]
  rw [Bracket.finish?, hdot]
  simp only [List.length_cons, Nat.lt_succ_self, if_true]
  rw [Bracket.finish?, hclose]

theorem skipLazy_of_head?_ne {rest : List Char} (hrest : rest.head? ≠ some '?') :
    skipLazy rest = rest := by
  unfold skipLazy
  split
  · exact absurd rfl hrest
  · rfl

theorem next?_star (scan : Scan) {rest : List Char} (hrest : rest.head? ≠ some '?') :
    next? scan ('*' :: rest) = some (scan, .repetition 0 none, rest) := by
  rw [next?, skipLazy_of_head?_ne hrest]

section Plain

variable {scan : Scan} (hplain : scan.flags = {})

include hplain

theorem all?_step {text rest : List Char} {token : Token}
    (hnext : next? scan text = some (scan, token, rest)) (hshort : rest.length < text.length) :
    all? scan text = (all? scan rest).map (token :: ·) :=
  all?_of_next? (by rw [hplain, Flags.skip_plain]) hnext hshort

theorem next?_dot (rest : List Char) :
    next? scan ('.' :: rest) = some (scan, .atom (.ofSet inLine 0), rest) := by
  simp [next?, hplain, Flags.dot?, inLine]

theorem next?_notDot (rest : List Char) :
    next? scan ('[' :: '^' :: '.' :: ']' :: rest) =
      some (scan, .atom (.ofSet inSegment 1), rest) := by
  simp [next?, hplain, read?_notDot]

theorem next?_special {c : Char} (hc : c ∈ special) (rest : List Char) :
    next? scan ('\\' :: c :: rest) = some (scan, .atom (.ofSet (.single c) 0), rest) := by
  simp only [special, List.mem_cons, List.not_mem_nil, or_false] at hc
  simp only [next?, hplain]
  rcases hc with rfl | rfl | rfl | rfl | rfl | rfl | rfl | rfl | rfl | rfl | rfl | rfl | rfl | rfl |
    rfl | rfl | rfl | rfl <;> rfl

theorem next?_literal {c : Char} (hc : c ∉ special) (rest : List Char) :
    next? scan (c :: rest) = some (scan, .atom (.ofSet (.single c) 0), rest) := by
  have hother : ∀ other ∈ special, c ≠ other := fun other hmem heq => hc (heq ▸ hmem)
  unfold next?
  split
  case h_1 heq => cases heq
  case h_14 heq =>
    obtain ⟨rfl, rfl⟩ := List.cons.inj heq
    rw [hplain]
    rfl
  all_goals
    rename_i heq
    exact absurd (List.cons.inj heq).1 (hother _ (by decide))

theorem all?_escaped (c : Char) (rest : List Char) :
    all? scan (escaped c ++ rest) =
      (all? scan rest).map (.atom (.ofSet (.single c) 0) :: ·) := by
  unfold escaped
  split
  · next hc => exact all?_step hplain (next?_special hplain (by simpa using hc) rest) (by grind)
  · next hc => exact all?_step hplain (next?_literal hplain (by simpa using hc) rest) (by simp)

/-- The characters of a piece are read as its tokens, unless a question mark would make it lazy. -/
theorem all?_piece (piece : Piece) {rest : List Char} (hrest : rest.head? ≠ some '?') :
    all? scan (piece.source ++ rest) = (all? scan rest).map (piece.tokens ++ ·) := by
  have hstar : all? scan ('*' :: rest) = (all? scan rest).map (.repetition 0 none :: ·) :=
    all?_step hplain (next?_star scan hrest) (by simp)
  cases piece with
  | anyPath =>
    have hdot := all?_step hplain (next?_dot hplain ('*' :: rest)) (by simp)
    rw [hstar, Option.map_map] at hdot
    exact hdot
  | anySegment =>
    have hbrackets := all?_step hplain (next?_notDot hplain ('*' :: rest)) (by simp)
    rw [hstar, Option.map_map] at hbrackets
    exact hbrackets
  | anyOne => exact all?_step hplain (next?_notDot hplain rest) (by grind [Piece.source])
  | exactly c => exact all?_escaped hplain c rest

end Plain

/-- No piece begins like the mark that makes a repetition lazy. -/
theorem head?_sources (pieces : List Piece) (rest : List Char) :
    (pieces.flatMap Piece.source ++ ')' :: rest).head? ≠ some '?' := by
  cases pieces with
  | nil => simp
  | cons piece pieces =>
    rw [List.flatMap_cons]
    cases piece with
    | anyPath | anySegment | anyOne => simp [Piece.source]
    | exactly c =>
      rw [Piece.source, escaped]
      split
      · simp
      · next hc =>
        rintro ⟨⟩
        exact hc (by decide)

theorem all?_pieces {scan : Scan} (hplain : scan.flags = {}) (pieces : List Piece)
    (rest : List Char) :
    all? scan (pieces.flatMap Piece.source ++ ')' :: rest) =
      (all? scan (')' :: rest)).map (pieces.flatMap Piece.tokens ++ ·) := by
  induction pieces with
  | nil => simp
  | cons piece pieces ih =>
    rw [List.flatMap_cons, List.append_assoc, all?_piece hplain piece (head?_sources pieces rest),
      ih, Option.map_map]
    simp [Function.comp_def]

/-- The tokens of a glob: its pieces in a group between the two ends of the text. -/
theorem all?_source (glob : List Char) :
    all? {} (source glob) = some (.atom (.ofAnchor .textStart) :: .groupStart false ::
      ((pieces glob).flatMap Piece.tokens ++ [.groupEnd, .atom (.ofAnchor .textEnd)])) := by
  have hstart (rest : List Char) :
      all? {} ('^' :: rest) = (all? {} rest).map (.atom (.ofAnchor .textStart) :: ·) :=
    all?_step rfl rfl (by simp)
  have hopen (rest : List Char) :
      all? {} ('(' :: '?' :: ':' :: rest) =
        (all? { outer := [{}] } rest).map (.groupStart false :: ·) :=
    all?_of_next? rfl rfl (by grind)
  have hclose : all? { outer := [{}] } [')', '$'] = (all? {} ['$']).map (.groupEnd :: ·) :=
    all?_of_next? rfl rfl (by decide)
  have hstop : all? {} ['$'] = (all? {} []).map (.atom (.ofAnchor .textEnd) :: ·) :=
    all?_step rfl rfl (by decide)
  have hnil : all? {} [] = some [] := by rw [all?]; rfl
  rw [source, hstart, hopen, all?_pieces rfl, hclose, hstop, hnil]
  rfl

/-! ### Parts -/

theorem assemble?_pieces (group : Group) (outer : List Group) (pieces : List Piece)
    (rest : List Token) :
    assemble? group outer (pieces.flatMap Piece.tokens ++ rest) =
      assemble?
        { group with
          parts := (pieces.map fun piece => some piece.part).reverse ++ group.parts }
        outer rest := by
  induction pieces generalizing group with
  | nil => rfl
  | cons piece pieces ih =>
    have hpiece : assemble? group outer (piece.tokens ++ (pieces.flatMap Piece.tokens ++ rest)) =
        assemble? (group.push (some piece.part)) outer (pieces.flatMap Piece.tokens ++ rest) := by
      cases piece <;> rfl
    rw [List.flatMap_cons, List.append_assoc, hpiece, ih]
    simp [Group.push]

theorem assemble?_source (glob : List Char) :
    assemble? {} [] (.atom (.ofAnchor .textStart) :: .groupStart false ::
      ((pieces glob).flatMap Piece.tokens ++ [.groupEnd, .atom (.ofAnchor .textEnd)])) =
      some (part glob) := by
  simp only [assemble?, assemble?_pieces]
  simp [Group.push, Group.body, Group.branch, Part.oneOf, part]

/-! ### How deeply a glob nests -/

theorem deepest_le {parts : List Part} {bound : Nat}
    (hparts : ∀ part ∈ parts, part.depth ≤ bound) : Part.deepest parts ≤ bound := by
  have hfold (start : Nat) (hstart : start ≤ bound) :
      parts.foldl (fun most part => max most part.depth) start ≤ bound := by
    induction parts generalizing start with
    | nil => exact hstart
    | cons part parts ih =>
      obtain ⟨hpart, hparts⟩ := List.forall_mem_cons.mp hparts
      exact ih hparts _ (Nat.max_le.mpr ⟨hstart, hpart⟩)
  exact hfold 0 (Nat.zero_le _)

theorem depth_inRow_le {parts : List (Option Part)} {bound : Nat}
    (hparts : ∀ part, some part ∈ parts → part.depth ≤ bound) :
    (Part.inRow parts).depth ≤ bound + 1 := by
  unfold Part.inRow
  split
  · exact Nat.zero_le _
  · next part =>
    cases part with
    | none => exact Nat.zero_le _
    | some part => exact Nat.le_succ_of_le (hparts part List.mem_cons_self)
  · refine Nat.succ_le_succ (deepest_le fun part hpart => hparts part ?_)
    simpa using hpart

theorem Piece.depth_part_le (piece : Piece) : piece.part.depth ≤ 2 := by
  cases piece with
  | anyPath | anySegment | anyOne => decide
  | exactly c => exact Nat.zero_le 2

theorem depth_part_le (glob : List Char) : (part glob).depth ≤ Part.depthLimit := by
  have hpieces : (Part.inRow ((pieces glob).map fun piece => some piece.part)).depth ≤ 3 := by
    refine depth_inRow_le fun part hpart => ?_
    obtain ⟨piece, -, hpiece⟩ := List.mem_map.mp hpart
    exact Option.some.inj hpiece ▸ piece.depth_part_le
  have hpart : (part glob).depth ≤ 5 := by
    refine depth_inRow_le fun part hpart => ?_
    simp only [List.mem_cons, Option.some.injEq, List.not_mem_nil, or_false] at hpart
    rcases hpart with rfl | rfl | rfl
    · exact Nat.zero_le _
    · exact Nat.succ_le_succ hpieces
    · exact Nat.zero_le _
  exact Nat.le_trans hpart (by decide)

/-- The regular expression of a glob can be read, unless it takes too much room. -/
theorem read?_source (glob : List Char) :
    Expr.read? (source glob) = if fits glob then some (part glob).expr else none := by
  have hdepth : decide ((part glob).depth ≤ Part.depthLimit) = true :=
    decide_eq_true (depth_part_le glob)
  simp only [Expr.read?, all?_source, assemble?_source, Option.bind_eq_bind, Option.bind_some,
    hdepth, Bool.true_and, fits]
  rfl

end Glob

end ApiDrift.Pattern
