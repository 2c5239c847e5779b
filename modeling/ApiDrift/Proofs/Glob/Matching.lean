import ApiDrift.Proofs.Glob.Source
import ApiDrift.Proofs.Pattern.Language

/-!
# What globs match

A glob matches a path if the whole path can be divided along the glob: two stars take any characters on one line, a single star any characters but dots, a question mark one character but a dot, and every other character itself. The regular expression of a glob matches exactly these paths, and a list of globs ignores what one of them matches.
-/

namespace ApiDrift.Pattern.Glob

/-- The glob matches the whole of a text. Stars pair up from the left. -/
inductive Matches : List Char → List Char → Prop
  | nil : Matches [] []
  | twoStars {glob run text : List Char} (hrun : ∀ c ∈ run, c ≠ '\n') (hrest : Matches glob text) :
      Matches ('*' :: '*' :: glob) (run ++ text)
  | oneStar {glob run text : List Char} (halone : glob.head? ≠ some '*')
      (hrun : ∀ c ∈ run, c ≠ '.') (hrest : Matches glob text) : Matches ('*' :: glob) (run ++ text)
  | questionMark {glob text : List Char} {c : Char} (hc : c ≠ '.') (hrest : Matches glob text) :
      Matches ('?' :: glob) (c :: text)
  | itself {glob text : List Char} {c : Char} (hstar : c ≠ '*') (hmark : c ≠ '?')
      (hrest : Matches glob text) : Matches (c :: glob) (c :: text)

/-- The piece takes a part of a text. -/
def Piece.Takes : Piece → List Char → Prop
  | anyPath, run => ∀ c ∈ run, c ≠ '\n'
  | anySegment, run => ∀ c ∈ run, c ≠ '.'
  | anyOne, run => ∃ c, run = [c] ∧ c ≠ '.'
  | exactly c, run => run = [c]

/-- The pieces take a text one after another. -/
def TakeAll : List Piece → List Char → Prop
  | [], text => text = []
  | piece :: pieces, text => ∃ run rest, text = run ++ rest ∧ piece.Takes run ∧ TakeAll pieces rest

theorem pieces_oneStar {glob : List Char} (halone : glob.head? ≠ some '*') :
    pieces ('*' :: glob) = .anySegment :: pieces glob := by
  cases glob with
  | nil => rfl
  | cons c glob =>
    have hc : c ≠ '*' := fun heq => halone (congrArg some heq)
    rw [pieces]
    rintro rest ⟨⟩
    exact hc rfl

theorem pieces_itself {glob : List Char} {c : Char} (hstar : c ≠ '*') (hmark : c ≠ '?') :
    pieces (c :: glob) = .exactly c :: pieces glob := by
  rw [pieces]
  · exact fun _ heq _ => hstar heq
  · exact hstar
  · exact hmark

theorem takeAll_of_matches {glob text : List Char} (hmatches : Matches glob text) :
    TakeAll (pieces glob) text := by
  induction hmatches with
  | nil => rfl
  | twoStars hrun _ ih => exact ⟨_, _, rfl, hrun, ih⟩
  | oneStar halone hrun _ ih =>
    rw [pieces_oneStar halone]
    exact ⟨_, _, rfl, hrun, ih⟩
  | questionMark hc _ ih => exact ⟨[_], _, rfl, ⟨_, rfl, hc⟩, ih⟩
  | itself hstar hmark _ ih =>
    rw [pieces_itself hstar hmark]
    exact ⟨[_], _, rfl, rfl, ih⟩

theorem matches_of_takeAll {glob text : List Char} (htake : TakeAll (pieces glob) text) :
    Matches glob text := by
  induction glob using pieces.induct generalizing text with
  | case1 rest ih =>
    obtain ⟨run, rest, rfl, hrun, hrest⟩ := htake
    exact .twoStars hrun (ih hrest)
  | case2 rest hother ih =>
    have halone : rest.head? ≠ some '*' := by
      intro hhead
      obtain ⟨more, rfl⟩ := List.head?_eq_some_iff.mp hhead
      exact hother more rfl
    rw [pieces_oneStar halone] at htake
    obtain ⟨run, rest, rfl, hrun, hrest⟩ := htake
    exact .oneStar halone hrun (ih hrest)
  | case3 rest ih =>
    obtain ⟨_, rest, rfl, ⟨c, rfl, hc⟩, hrest⟩ := htake
    exact .questionMark hc (ih hrest)
  | case4 c rest _ hstar hmark ih =>
    rw [pieces_itself hstar hmark] at htake
    obtain ⟨_, rest, rfl, rfl, hrest⟩ := htake
    exact .itself hstar hmark (ih hrest)
  | case5 =>
    obtain rfl := htake
    exact .nil

/-! ### The language of a glob -/

theorem contains_inLine_iff {c : Char} : inLine.contains c = true ↔ c ≠ '\n' := by
  rw [inLine, CharSet.contains, Bool.not_eq_true', ← Bool.not_eq_true, CharSet.contains_single_iff]

theorem contains_inSegment_iff {c : Char} : inSegment.contains c = true ↔ c ≠ '.' := by
  rw [inSegment, CharSet.contains, Bool.not_eq_true', CharSet.contains, CharSet.contains,
    Bool.false_or, ← Bool.not_eq_true, CharSet.contains_single_iff]

theorem Piece.mem_language_iff (piece : Piece) {run : List Char} :
    run ∈ piece.part.expr.language ↔ piece.Takes run := by
  cases piece with
  | anyPath =>
    show run ∈ (Expr.star (.one inLine)).language ↔ _
    simp only [Expr.mem_language_star_one_iff, contains_inLine_iff, Takes]
  | anySegment =>
    show run ∈ (Expr.star (.one inSegment)).language ↔ _
    simp only [Expr.mem_language_star_one_iff, contains_inSegment_iff, Takes]
  | anyOne =>
    show (∃ c, run = [c] ∧ inSegment.contains c = true) ↔ _
    simp only [contains_inSegment_iff, Takes]
  | exactly c =>
    show (∃ other, run = [other] ∧ (CharSet.single c).contains other = true) ↔ _
    simp only [CharSet.contains_single_iff, exists_eq_right, Takes]

theorem mem_language_pieces_iff (pieces : List Piece) {text : List Char} :
    text ∈ (Expr.seqAll (pieces.map fun piece => piece.part.expr)).language ↔
      TakeAll pieces text := by
  induction pieces generalizing text with
  | nil => exact Language.mem_one text
  | cons piece pieces ih =>
    refine Language.mem_mul.trans ⟨?_, ?_⟩
    · rintro ⟨run, hrun, rest, hrest, rfl⟩
      exact ⟨run, rest, rfl, piece.mem_language_iff.mp hrun, ih.mp hrest⟩
    · rintro ⟨run, rest, rfl, htakes, hall⟩
      exact ⟨run, piece.mem_language_iff.mpr htakes, rest, ih.mpr hall, rfl⟩

theorem expr_inRow (first second : Part) (others : List Part) :
    (Part.inRow ((first :: second :: others).map some)).expr =
      .seqAll ((first :: second :: others).map Part.expr) := by
  simp [Part.inRow]

/-- A row of one part is that part, and an empty row spans nothing. -/
theorem language_inRow (parts : List Part) :
    (Part.inRow (parts.map some)).expr.language = (Expr.seqAll (parts.map Part.expr)).language := by
  match parts with
  | [] => rfl
  | [part] => exact (mul_one part.expr.language).symm
  | first :: second :: others => rw [expr_inRow]

theorem anchorFree_inRow {parts : List Part} (hfree : ∀ part ∈ parts, part.expr.AnchorFree) :
    (Part.inRow (parts.map some)).expr.AnchorFree := by
  match parts with
  | [] => trivial
  | [part] => exact hfree part List.mem_cons_self
  | first :: second :: others =>
    rw [expr_inRow]
    exact Expr.anchorFree_seqAll (List.forall_mem_map.mpr hfree)

/-- The expression of a glob occurs in the texts that its pieces take one after another. -/
theorem occursIn_part_iff {glob text : List Char} :
    (part glob).expr.occursIn text = true ↔ TakeAll (pieces glob) text := by
  have hparts : (pieces glob).map (fun piece => some piece.part) =
      ((pieces glob).map Piece.part).map some := by simp
  have hfree : (Expr.seqAll
      [(Part.inRow (((pieces glob).map Piece.part).map some)).expr]).AnchorFree :=
    ⟨anchorFree_inRow (List.forall_mem_map.mpr fun piece _ => by cases piece <;> trivial), trivial⟩
  show (Expr.whole [(Part.inRow ((pieces glob).map fun piece => some piece.part)).expr]).occursIn
    text = true ↔ _
  rw [hparts, Expr.occursIn_whole_iff text hfree, ← mem_language_pieces_iff]
  show text ∈ (Part.inRow (((pieces glob).map Piece.part).map some)).expr.language * 1 ↔ _
  rw [mul_one, language_inRow, List.map_map]
  rfl

end ApiDrift.Pattern.Glob
