import ApiDrift.Pattern.Occurrence
import Mathlib.Data.List.Basic
import Mathlib.Logic.Function.Iterate
import Mathlib.Logic.Relation

/-!
# What expressions span

An expression relates the position where a stretch of a text starts to the position where it ends. The search follows all ways at once; it takes a set of positions to those that the relation leads to, so it finds an expression exactly in the texts of which it spans a stretch.
-/

namespace ApiDrift.Pattern

/-- A number of steps of a relation. -/
def InSteps (step : Nat → Nat → Prop) : Nat → Nat → Nat → Prop
  | 0 => Eq
  | count + 1 => Relation.Comp step (InSteps step count)

/-- The characters on both sides of a position. -/
def gapAt (text : List Char) (position : Nat) : Gap :=
  ⟨if position = 0 then none else text[position - 1]?, text[position]?⟩

/-- The expression spans the stretch of a text from one position to another one. -/
def Expr.Spans (text : List Char) : Expr → Nat → Nat → Prop
  | empty => Eq
  | one admitted => fun start stop =>
    stop = start + 1 ∧ ∃ c, text[start]? = some c ∧ admitted.contains c = true
  | anchor condition => fun start stop =>
    stop = start ∧ condition.holds (gapAt text start) = true
  | seq first second => Relation.Comp (first.Spans text) (second.Spans text)
  | either first second => fun start stop =>
    first.Spans text start stop ∨ second.Spans text start stop
  | opt expr => Relation.ReflGen (expr.Spans text)
  | many expr => Relation.TransGen (expr.Spans text)
  | times expr count => InSteps (expr.Spans text) count
  | upTo expr count => fun start stop => ∃ n ≤ count, InSteps (expr.Spans text) n start stop

namespace Marks

def Marked (marks : Marks) (position : Nat) : Prop := marks[position]? = some true

/-- Of marks for a number of positions, the function makes marks for as many, at the positions that the relation leads to. -/
def Carries (size : Nat) (move : Marks → Marks) (leads : Nat → Nat → Prop) : Prop :=
  ∀ marks, marks.length = size → (move marks).length = size ∧
    ∀ stop, (move marks).Marked stop ↔ ∃ start, marks.Marked start ∧ leads start stop

variable {size : Nat} {move other : Marks → Marks} {leads others : Nat → Nat → Prop}

theorem length_join (marks more : Marks) : (join marks more).length = marks.length := by
  induction marks generalizing more with
  | nil => cases more <;> rfl
  | cons a rest ih =>
    cases more with
    | nil => rfl
    | cons b more => simp [join, ih]

theorem marked_join {marks more : Marks} (hlength : marks.length = more.length) (position : Nat) :
    (join marks more).Marked position ↔ marks.Marked position ∨ more.Marked position := by
  induction marks generalizing more position with
  | nil =>
    cases more with
    | nil => simp [join]
    | cons b more => cases hlength
  | cons a rest ih =>
    cases more with
    | nil => cases hlength
    | cons b more =>
      cases position with
      | zero => simp [join, Marked]
      | succ position => exact ih (Nat.succ.inj hlength) position

theorem carries_id : Carries size id Eq := fun marks hsize => ⟨hsize, fun stop => by simp⟩

theorem Carries.comp (hmove : Carries size move leads) (hother : Carries size other others) :
    Carries size (fun marks => other (move marks)) (Relation.Comp leads others) := by
  intro marks hsize
  obtain ⟨hmoved, hleads⟩ := hmove marks hsize
  obtain ⟨hlength, hothers⟩ := hother (move marks) hmoved
  refine ⟨hlength, fun stop => ?_⟩
  rw [hothers]
  simp only [hleads, Relation.Comp]
  exact ⟨fun ⟨middle, ⟨start, hstart, hfirst⟩, hsecond⟩ => ⟨start, hstart, middle, hfirst, hsecond⟩,
    fun ⟨start, hstart, middle, hfirst, hsecond⟩ => ⟨middle, ⟨start, hstart, hfirst⟩, hsecond⟩⟩

theorem Carries.join (hmove : Carries size move leads) (hother : Carries size other others) :
    Carries size (fun marks => (move marks).join (other marks))
      (fun start stop => leads start stop ∨ others start stop) := by
  intro marks hsize
  obtain ⟨hmoved, hleads⟩ := hmove marks hsize
  obtain ⟨hlength, hothers⟩ := hother marks hsize
  refine ⟨(length_join _ _).trans hmoved, fun stop => ?_⟩
  rw [marked_join (hmoved.trans hlength.symm), hleads, hothers, ← exists_or]
  simp only [and_or_left]

/-- Not to move is one way, to move is another one. -/
theorem Carries.optional (hmove : Carries size move leads) :
    Carries size (fun marks => marks.join (move marks)) (Relation.ReflGen leads) := by
  have hways : Relation.ReflGen leads = fun start stop => start = stop ∨ leads start stop := by
    funext start stop
    rw [Relation.reflGen_iff, eq_comm (a := stop)]
  rw [hways]
  exact carries_id.join hmove

/-- What is reached in any number of moves is reached from the start by some of them. -/
theorem Carries.closure (hmove : Carries size move leads) :
    Carries size (closure move) (Relation.ReflTransGen leads) := by
  intro marks hsize
  induction marks using closure.induct move with
  | case1 marks hclosed =>
    rw [Marks.closure, if_pos hclosed]
    refine ⟨hsize, fun stop => ⟨fun hstop => ⟨stop, hstop, .refl⟩, ?_⟩⟩
    rintro ⟨start, hstart, hpath⟩
    -- Nothing new is reached in one move, so nothing is in several.
    induction hpath with
    | refl => exact hstart
    | tail _ hlast ih =>
      rw [← hclosed, marked_join (hsize.trans (hmove marks hsize).1.symm)]
      exact .inr (((hmove marks hsize).2 _).mpr ⟨_, ih, hlast⟩)
  | case2 marks hgrown ih =>
    rw [Marks.closure, if_neg hgrown]
    obtain ⟨hlength, hreached⟩ := ih ((length_join _ _).trans hsize)
    refine ⟨hlength, fun stop => (hreached stop).trans ⟨?_, ?_⟩⟩
    · rintro ⟨start, hstart, hpath⟩
      obtain ⟨first, hfirst, hmoved⟩ := ((hmove.optional marks hsize).2 start).mp hstart
      exact ⟨first, hfirst, (Relation.reflGen_iff _ _ _ |>.mp hmoved).elim
        (fun heq => heq ▸ hpath) (fun hleads => .head hleads hpath)⟩
    · rintro ⟨start, hstart, hpath⟩
      exact ⟨start, ((hmove.optional marks hsize).2 start).mpr ⟨start, hstart, .refl⟩, hpath⟩

theorem iterate_eq (move : Marks → Marks) (count : Nat) (marks : Marks) :
    iterate move count marks = move^[count] marks := by
  induction count generalizing marks with
  | zero => rfl
  | succ count ih =>
    rw [iterate]
    split
    · next hsame => rw [Function.iterate_fixed hsame]
    · rw [ih, Function.iterate_succ_apply]

theorem Carries.iterate (hmove : Carries size move leads) (count : Nat) :
    Carries size (Marks.iterate move count) (InSteps leads count) := by
  have hiterate : Marks.iterate move count = move^[count] := funext (iterate_eq move count)
  rw [hiterate]
  clear hiterate
  induction count with
  | zero => exact carries_id
  | succ count ih => exact hmove.comp ih

theorem inSteps_optional_iff (leads : Nat → Nat → Prop) (count start stop : Nat) :
    InSteps (Relation.ReflGen leads) count start stop ↔
      ∃ n ≤ count, InSteps leads n start stop := by
  induction count generalizing start with
  | zero => simp [InSteps]
  | succ count ih =>
    simp only [InSteps, Relation.Comp, ih]
    constructor
    · rintro ⟨middle, hfirst, n, hn, hrest⟩
      rcases hfirst with _ | hleads
      · exact ⟨n, Nat.le_succ_of_le hn, hrest⟩
      · exact ⟨n + 1, Nat.succ_le_succ hn, middle, hleads, hrest⟩
    · rintro ⟨_ | n, hn, hsteps⟩
      · exact ⟨start, .refl, 0, Nat.zero_le _, hsteps⟩
      · obtain ⟨middle, hleads, hrest⟩ := hsteps
        exact ⟨middle, .single hleads, n, Nat.le_of_succ_le_succ hn, hrest⟩

theorem marked_zipWith_iff {marks admitted : Marks} {position : Nat} :
    Marked (List.zipWith (· && ·) marks admitted) position ↔
      marks.Marked position ∧ admitted.Marked position := by
  simp only [Marked, List.getElem?_zipWith]
  cases marks[position]? <;> cases admitted[position]? <;> simp

end Marks

theorem getElem?_gapsAfter (before : Option Char) (text : List Char) (position : Nat) :
    (gapsAfter before text)[position]? =
      if position ≤ text.length then
        some ⟨if position = 0 then before else text[position - 1]?, text[position]?⟩
      else none := by
  induction text generalizing before position with
  | nil => cases position <;> simp [gapsAfter]
  | cons c rest ih =>
    cases position with
    | zero => simp [gapsAfter]
    | succ position =>
      rw [gapsAfter, List.getElem?_cons_succ, ih]
      cases position <;> simp

theorem length_gapsAfter (before : Option Char) (text : List Char) :
    (gapsAfter before text).length = text.length + 1 := by
  induction text generalizing before with
  | nil => rfl
  | cons c rest ih => simp [gapsAfter, ih]

namespace Expr

open Marks

/-- The search for an expression moves from where it starts to where it stops. -/
theorem carries_run (text : List Char) (expr : Expr) :
    Carries (text.length + 1) (expr.plan text).run (expr.Spans text) := by
  induction expr with
  | empty => exact carries_id
  | one admitted =>
    intro marks hsize
    refine ⟨by simp [plan, Plan.run, hsize], fun stop => ?_⟩
    cases stop with
    | zero => simp [plan, Plan.run, Spans, Marked]
    | succ stop =>
      show Marked (List.zipWith (· && ·) marks (text.map admitted.contains)) stop ↔ _
      rw [marked_zipWith_iff]
      simp [Spans, Marked]
  | anchor condition =>
    intro marks hsize
    refine ⟨by simp [plan, Plan.run, hsize, length_gapsAfter], fun stop => ?_⟩
    show Marked (List.zipWith (· && ·) marks ((gapsAfter none text).map condition.holds)) stop ↔ _
    rw [marked_zipWith_iff]
    have hcheck : Marked ((gapsAfter none text).map condition.holds) stop ↔
        stop ≤ text.length ∧ condition.holds (gapAt text stop) = true := by
      rw [Marked, List.getElem?_map, getElem?_gapsAfter]
      split
      · next hle => simp [hle, gapAt]
      · next hlt => simp [hlt]
    rw [hcheck]
    constructor
    · rintro ⟨hmarked, -, hholds⟩
      exact ⟨stop, hmarked, rfl, hholds⟩
    · rintro ⟨_, hmarked, rfl, hholds⟩
      have hlt := (List.getElem?_eq_some_iff.mp hmarked).1
      exact ⟨hmarked, by omega, hholds⟩
  | seq first second ihFirst ihSecond => exact ihFirst.comp ihSecond
  | either first second ihFirst ihSecond => exact ihFirst.join ihSecond
  | opt expr ih => exact ih.optional
  | many expr ih =>
    have hmany : (many expr).Spans text = Relation.Comp (expr.Spans text)
        (Relation.ReflTransGen (expr.Spans text)) := by
      funext start stop
      exact propext Relation.TransGen.head'_iff
    rw [hmany]
    exact ih.comp ih.closure
  | times expr count ih => exact ih.iterate count
  | upTo expr count ih =>
    have hupTo : (upTo expr count).Spans text =
        InSteps (Relation.ReflGen (expr.Spans text)) count := by
      funext start stop
      exact propext (inSteps_optional_iff _ _ _ _).symm
    rw [hupTo]
    exact ih.optional.iterate count

/-- An expression occurs exactly in the texts of which it spans a stretch. -/
theorem occursIn_iff {expr : Expr} {text : List Char} :
    expr.occursIn text = true ↔ ∃ start ≤ text.length, ∃ stop, expr.Spans text start stop := by
  obtain ⟨-, hmarked⟩ := expr.carries_run text (List.replicate (text.length + 1) true)
    List.length_replicate
  have hany (marks : Marks) : marks.any id = true ↔ ∃ stop, marks.Marked stop := by
    simp [Marked, List.mem_iff_getElem?]
  have hall (start : Nat) :
      Marked (List.replicate (text.length + 1) true) start ↔ start ≤ text.length := by
    rw [Marked, List.getElem?_replicate, ← Nat.lt_succ_iff]
    split <;> simp_all
  rw [occursIn, hany]
  simp only [hmarked, hall]
  exact exists_comm.trans (by simp only [exists_and_left])

end Expr

end ApiDrift.Pattern
