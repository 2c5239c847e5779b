import ApiDrift.Proofs.Pattern.Meaning
import Mathlib.Computability.Language

/-!
# Languages of expressions

What an expression without anchors spans depends only on the characters that it spans, and not on where they stand. So it has a language. It occurs in a text if some stretch of the text is in the language; between the two ends of a text it occurs only if the whole text is.
-/

namespace ApiDrift.Pattern

open scoped Computability

/-! ### Stretches of a text -/

/-- The characters of the text from one position to another one. -/
def Reads (text : List Char) (start : Nat) (run : List Char) (stop : Nat) : Prop :=
  run <+: text.drop start ∧ stop = start + run.length

/-- The stretch of a text is in the language. -/
def Within (text : List Char) (language : Language Char) (start stop : Nat) : Prop :=
  ∃ run ∈ language, Reads text start run stop

section Stretches

variable {text run rest : List Char} {start stop : Nat} {language other : Language Char}

theorem reads_nil_iff : Reads text start [] stop ↔ start = stop := by
  simp [Reads, eq_comm]

theorem reads_single_iff {c : Char} :
    Reads text start [c] stop ↔ stop = start + 1 ∧ text[start]? = some c := by
  rw [Reads, and_comm, ← List.head?_drop]
  cases text.drop start <;> simp [eq_comm]

theorem reads_append_iff : Reads text start (run ++ rest) stop ↔
    ∃ middle, Reads text start run middle ∧ Reads text middle rest stop := by
  have hprefix : (run ++ rest) <+: text.drop start ↔
      run <+: text.drop start ∧ rest <+: text.drop (start + run.length) := by
    rw [← List.drop_drop]
    constructor
    · rintro ⟨after, hafter⟩
      rw [← hafter, List.append_assoc, List.drop_left]
      exact ⟨List.prefix_append _ _, List.prefix_append _ _⟩
    · rintro ⟨⟨after, hafter⟩, hrest⟩
      rw [← hafter, List.drop_left] at hrest
      rw [← hafter]
      exact (List.prefix_append_right_inj run).mpr hrest
  simp only [Reads, hprefix, List.length_append]
  constructor
  · rintro ⟨⟨hrun, hrest⟩, rfl⟩
    exact ⟨_, ⟨hrun, rfl⟩, hrest, (Nat.add_assoc _ _ _).symm⟩
  · rintro ⟨_, ⟨hrun, rfl⟩, hrest, rfl⟩
    exact ⟨⟨hrun, hrest⟩, Nat.add_assoc _ _ _⟩

/-- What is read from the start of a text to its end is the whole text. -/
theorem reads_all_iff : (∃ stop, Reads text 0 run stop ∧ text[stop]? = none) ↔ run = text := by
  constructor
  · rintro ⟨_, ⟨hrun, rfl⟩, hend⟩
    rw [List.getElem?_eq_none_iff, Nat.zero_add] at hend
    exact hrun.eq_of_length_le hend
  · rintro rfl
    exact ⟨_, ⟨List.prefix_rfl, rfl⟩, by simp⟩

/-- What is read somewhere in a text stands between two other stretches of it. -/
theorem exists_reads_iff :
    (∃ start ≤ text.length, ∃ stop, Reads text start run stop) ↔ run <:+: text := by
  constructor
  · rintro ⟨start, -, _, hrun, rfl⟩
    exact hrun.isInfix.trans (List.drop_suffix start text).isInfix
  · rintro ⟨before, after, rfl⟩
    refine ⟨before.length, by simp, _, ?_, rfl⟩
    rw [List.append_assoc, List.drop_left]
    exact List.prefix_append _ _

theorem within_one_iff : Within text 1 start stop ↔ start = stop := by
  simp [Within, reads_nil_iff]

theorem within_add_iff :
    Within text (language + other) start stop ↔
      Within text language start stop ∨ Within text other start stop := by
  simp only [Within, Language.mem_add, or_and_right, exists_or]

theorem within_one_add :
    Within text (1 + language) = Relation.ReflGen (Within text language) := by
  funext start stop
  rw [eq_iff_iff, within_add_iff, within_one_iff, Relation.reflGen_iff, eq_comm (a := stop)]

theorem within_mul : Within text (language * other) =
    Relation.Comp (Within text language) (Within text other) := by
  funext start stop
  refine propext ⟨?_, ?_⟩
  · rintro ⟨_, hmem, hreads⟩
    obtain ⟨run, hrun, rest, hrest, rfl⟩ := Language.mem_mul.mp hmem
    obtain ⟨middle, hfirst, hsecond⟩ := reads_append_iff.mp hreads
    exact ⟨middle, ⟨run, hrun, hfirst⟩, rest, hrest, hsecond⟩
  · rintro ⟨middle, ⟨run, hrun, hfirst⟩, rest, hrest, hsecond⟩
    exact ⟨run ++ rest, Language.append_mem_mul hrun hrest,
      reads_append_iff.mpr ⟨middle, hfirst, hsecond⟩⟩

theorem within_pow (count : Nat) :
    Within text (language ^ count) = InSteps (Within text language) count := by
  induction count with
  | zero =>
    funext start stop
    exact propext (pow_zero language ▸ within_one_iff)
  | succ count ih => rw [pow_succ', within_mul, ih, InSteps]

theorem within_kstar :
    Within text language∗ = Relation.ReflTransGen (Within text language) := by
  funext start stop
  refine propext ⟨?_, fun hpath => ?_⟩
  · rintro ⟨_, hmem, hreads⟩
    obtain ⟨runs, rfl, hruns⟩ := Language.mem_kstar.mp hmem
    clear hmem
    induction runs generalizing start with
    | nil => exact reads_nil_iff.mp hreads ▸ .refl
    | cons run runs ih =>
      obtain ⟨hrun, hruns⟩ := List.forall_mem_cons.mp hruns
      obtain ⟨middle, hfirst, hothers⟩ := reads_append_iff.mp hreads
      exact .head ⟨run, hrun, hfirst⟩ (ih middle hruns hothers)
  · induction hpath using Relation.ReflTransGen.head_induction_on with
    | refl => exact ⟨[], Language.nil_mem_kstar _, reads_nil_iff.mpr rfl⟩
    | @head first middle hfirst _ ih =>
      have hboth : Relation.Comp (Within text language) (Within text language∗) first stop :=
        ⟨middle, hfirst, ih⟩
      rw [← within_mul] at hboth
      rw [← Language.one_add_self_mul_kstar_eq_kstar]
      exact within_add_iff.mpr (.inr hboth)

end Stretches

namespace Expr

/-- The expression looks only at what it spans. -/
def AnchorFree : Expr → Prop
  | empty | one _ => True
  | anchor _ => False
  | seq first second | either first second => first.AnchorFree ∧ second.AnchorFree
  | opt expr | many expr | times expr _ | upTo expr _ => expr.AnchorFree

/-- What an expression spans wherever it stands; anchors are taken to hold. -/
def language : Expr → Language Char
  | empty | anchor _ => 1
  | one admitted => {run | ∃ c, run = [c] ∧ admitted.contains c = true}
  | seq first second => first.language * second.language
  | either first second => first.language + second.language
  | opt expr => 1 + expr.language
  | many expr => expr.language * expr.language∗
  | times expr count => expr.language ^ count
  | upTo expr count => (1 + expr.language) ^ count

variable {expr : Expr} {text : List Char}

theorem anchorFree_seqAll {exprs : List Expr} (hfree : ∀ expr ∈ exprs, expr.AnchorFree) :
    (seqAll exprs).AnchorFree := by
  induction exprs with
  | nil => trivial
  | cons expr exprs ih =>
    obtain ⟨hfirst, hothers⟩ := List.forall_mem_cons.mp hfree
    exact ⟨hfirst, ih hothers⟩

/-- Without anchors, an expression spans what is in its language. -/
theorem spans_eq_within (hfree : expr.AnchorFree) :
    expr.Spans text = Within text expr.language := by
  induction expr with
  | empty =>
    funext start stop
    exact propext within_one_iff.symm
  | one admitted =>
    funext start stop
    refine propext ⟨?_, ?_⟩
    · rintro ⟨rfl, c, hc, hadmitted⟩
      exact ⟨[c], ⟨c, rfl, hadmitted⟩, reads_single_iff.mpr ⟨rfl, hc⟩⟩
    · rintro ⟨_, ⟨c, rfl, hadmitted⟩, hreads⟩
      obtain ⟨hstop, hc⟩ := reads_single_iff.mp hreads
      exact ⟨hstop, c, hc, hadmitted⟩
  | anchor condition => exact hfree.elim
  | seq first second ihFirst ihSecond =>
    rw [Spans, ihFirst hfree.1, ihSecond hfree.2, language, within_mul]
  | either first second ihFirst ihSecond =>
    funext start stop
    rw [Spans, ihFirst hfree.1, ihSecond hfree.2, language, eq_iff_iff, within_add_iff]
  | opt expr ih => rw [Spans, ih hfree, language, within_one_add]
  | many expr ih =>
    rw [Spans, ih hfree, language, within_mul, within_kstar]
    funext start stop
    exact propext Relation.TransGen.head'_iff
  | times expr count ih => rw [Spans, ih hfree, language, within_pow]
  | upTo expr count ih =>
    rw [Spans, ih hfree, language, within_pow, within_one_add]
    funext start stop
    exact propext (Marks.inSteps_optional_iff _ _ _ _).symm

/-- An expression without anchors occurs where some stretch is in its language. -/
theorem occursIn_iff_infix (hfree : expr.AnchorFree) :
    expr.occursIn text = true ↔ ∃ run ∈ expr.language, run <:+: text := by
  simp only [occursIn_iff, spans_eq_within hfree, ← exists_reads_iff]
  constructor
  · rintro ⟨start, hle, stop, run, hrun, hreads⟩
    exact ⟨run, hrun, start, hle, stop, hreads⟩
  · rintro ⟨run, hrun, start, hle, stop, hreads⟩
    exact ⟨start, hle, stop, run, hrun, hreads⟩

theorem spans_seqAll_append (exprs others : List Expr) :
    (seqAll (exprs ++ others)).Spans text =
      Relation.Comp ((seqAll exprs).Spans text) ((seqAll others).Spans text) := by
  induction exprs with
  | nil => exact Relation.eq_comp.symm
  | cons expr exprs ih =>
    show Relation.Comp (expr.Spans text) ((seqAll (exprs ++ others)).Spans text) = _
    rw [ih, ← Relation.comp_assoc]
    rfl

/-- Expressions in a row between the two ends of the text. -/
def whole (exprs : List Expr) : Expr := seqAll (anchor .textStart :: (exprs ++ [anchor .textEnd]))

/-- The two ends hold only where the text begins and where it ends. -/
theorem occursIn_whole_iff {exprs : List Expr} (text : List Char)
    (hfree : (seqAll exprs).AnchorFree) :
    (whole exprs).occursIn text = true ↔ text ∈ (seqAll exprs).language := by
  have hspans (start stop : Nat) : (whole exprs).Spans text start stop ↔
      (gapAt text start).before.isNone = true ∧ (gapAt text stop).after.isNone = true ∧
        Within text (seqAll exprs).language start stop := by
    have hrow : (whole exprs).Spans text = Relation.Comp ((anchor .textStart).Spans text)
        (Relation.Comp ((seqAll exprs).Spans text) ((seqAll [anchor .textEnd]).Spans text)) := by
      rw [← spans_seqAll_append]
      rfl
    rw [hrow, ← spans_eq_within hfree]
    constructor
    · rintro ⟨_, ⟨rfl, hstart⟩, _, hspans, _, ⟨rfl, hend⟩, rfl⟩
      exact ⟨hstart, hend, hspans⟩
    · rintro ⟨hstart, hend, hspans⟩
      exact ⟨_, ⟨rfl, hstart⟩, _, hspans, _, ⟨rfl, hend⟩, rfl⟩
  simp only [occursIn_iff, hspans]
  constructor
  · rintro ⟨start, hle, stop, hstart, hend, run, hrun, hreads⟩
    have hzero : start = 0 := by
      by_contra hne
      rw [gapAt, if_neg hne, Option.isNone_iff_eq_none, List.getElem?_eq_none_iff] at hstart
      omega
    subst hzero
    obtain rfl := reads_all_iff.mp ⟨stop, hreads, Option.isNone_iff_eq_none.mp hend⟩
    exact hrun
  · intro hmem
    obtain ⟨stop, hreads, hend⟩ := reads_all_iff.mpr rfl
    exact ⟨0, Nat.zero_le _, stop, rfl, Option.isNone_iff_eq_none.mpr hend, text, hmem, hreads⟩

end Expr

/-! ### Runs of characters -/

theorem CharSet.contains_single_iff {c other : Char} :
    (single c).contains other = true ↔ other = c := by
  simp only [single, contains, Bool.and_eq_true, decide_eq_true_eq]
  constructor
  · rintro ⟨hle, hge⟩
    exact Char.le_antisymm hge hle
  · rintro rfl
    exact ⟨Char.le_refl _, Char.le_refl _⟩

namespace Expr

/-- The characters of a set, in any number. -/
theorem mem_kstar_one_iff {admitted : CharSet} {run : List Char} :
    run ∈ (one admitted).language∗ ↔ ∀ c ∈ run, admitted.contains c = true := by
  rw [Language.mem_kstar]
  constructor
  · rintro ⟨runs, rfl, hruns⟩ c hc
    obtain ⟨run, hmem, hrun⟩ := List.mem_flatten.mp hc
    obtain ⟨other, rfl, hadmitted⟩ := hruns run hmem
    exact List.mem_singleton.mp hrun ▸ hadmitted
  · intro hrun
    refine ⟨run.map fun c => [c], (List.flatMap_singleton' run).symm, fun single hsingle => ?_⟩
    obtain ⟨c, hc, rfl⟩ := List.mem_map.mp hsingle
    exact ⟨c, rfl, hrun c hc⟩

theorem mem_language_star_one_iff {admitted : CharSet} {run : List Char} :
    run ∈ (star (one admitted)).language ↔ ∀ c ∈ run, admitted.contains c = true := by
  have hstar : (star (one admitted)).language = (one admitted).language∗ :=
    Language.one_add_self_mul_kstar_eq_kstar _
  rw [hstar, mem_kstar_one_iff]

/-- The characters of a set, and at least one. -/
theorem mem_language_many_one_iff {admitted : CharSet} {run : List Char} :
    run ∈ (many (one admitted)).language ↔ run ≠ [] ∧ ∀ c ∈ run, admitted.contains c = true := by
  show run ∈ (one admitted).language * (one admitted).language∗ ↔ _
  rw [Language.mem_mul]
  simp only [mem_kstar_one_iff]
  constructor
  · rintro ⟨_, ⟨c, rfl, hc⟩, rest, hrest, rfl⟩
    exact ⟨List.cons_ne_nil _ _, List.forall_mem_cons.mpr ⟨hc, hrest⟩⟩
  · rintro ⟨hne, hrun⟩
    obtain ⟨c, rest, rfl⟩ := List.exists_cons_of_ne_nil hne
    obtain ⟨hc, hrest⟩ := List.forall_mem_cons.mp hrun
    exact ⟨[c], ⟨c, rfl, hc⟩, rest, hrest, rfl⟩

end Expr

end ApiDrift.Pattern
