import ApiDrift.Proofs.Overloads.Unmatched
import Mathlib.Data.List.Induction

/-!
# Reconciling by trial

Overloads can be reconciled by trying them in turn. The signatures missing on each side are collected once; then each missing old one is tried with each missing new one. A pair with no more than a patch between them is marked on both sides, and if there is a patch to tell it is noted down. Marks are never taken back, and one overload may be marked many times. What is unmarked in the end is reported.

After any number of trials a mark stands exactly where one of the pairs tried so far evolves, and the notes are those of the pairs that do. So trying all pairs comes to the same as asking of each overload whether it has a partner.
-/

namespace ApiDrift.Overloads

/-! ### Collecting -/

/-- Walks along one side and takes what has no equal on the other, unless an equal was taken before. -/
def collect (other seen : List Signature) : List Signature → List Signature
  | [] => []
  | signature :: rest =>
    if !other.contains signature && !seen.contains signature then
      signature :: collect other (signature :: seen) rest
    else collect other seen rest

theorem collect_eq (other seen side : List Signature) :
    collect other seen side =
      (side.filter fun signature =>
        !other.contains signature && !seen.contains signature).eraseDups := by
  induction side generalizing seen with
  | nil => rfl
  | cons signature rest ih =>
    rw [collect, List.filter_cons]
    split
    case isFalse => exact ih seen
    case isTrue =>
      -- What was just taken is not taken again, be it as seen or as a duplicate.
      rw [List.eraseDups_cons, ih, List.filter_filter]
      refine congrArg (fun rest => signature :: List.eraseDups rest) ?_
      refine List.filter_congr fun other' _ => ?_
      rw [List.contains_cons, Bool.not_or, Bool.and_left_comm]

theorem collect_eq_missingFrom (side other : List Signature) :
    collect other [] side = missingFrom side other := by
  rw [collect_eq, missingFrom]
  simp only [List.contains_nil, Bool.not_false, Bool.and_true]

/-! ### Trials -/

/-- A missing overload of either side, each with its number. -/
abbrev Trial := (Signature × Nat) × (Signature × Nat)

namespace Trial

/-- The first signature of the pair evolves into the second. -/
def evolves (trial : Trial) : Bool := trial.1.1.evolvesInto trial.2.1

/-- What there is to note of a pair that evolves. -/
def note? (trial : Trial) : Option Reconciliation :=
  if trial.evolves && !(trial.1.1.changes trial.2.1).isEmpty then
    some ⟨trial.1.2, trial.2.2, trial.1.1.changes trial.2.1⟩
  else none

/-- All pairs, in the order in which they are tried. -/
def all (removed added : List Signature) : List Trial :=
  removed.zipIdx.flatMap fun old => added.zipIdx.map (Prod.mk old)

theorem mem_all_iff {removed added : List Signature} {trial : Trial} :
    trial ∈ all removed added ↔
      removed[trial.1.2]? = some trial.1.1 ∧ added[trial.2.2]? = some trial.2.1 := by
  obtain ⟨old, new⟩ := trial
  simp only [all, List.mem_flatMap, List.mem_map, Prod.mk.injEq, exists_eq_right_right,
    List.mem_zipIdx_iff_getElem?]

theorem reconciliations_eq_filterMap (removed added : List Signature) :
    reconciliations removed added = (all removed added).filterMap note? := by
  rw [all, List.filterMap_flatMap, reconciliations]
  refine List.flatMap_congr fun old _ => ?_
  rw [List.filterMap_map]
  rfl

end Trial

/-- A mark for each missing overload, and what was noted so far. -/
structure Marks where
  removed : List Bool
  added : List Bool
  noted : List Reconciliation

namespace Marks

/-- Before the first trial nothing is marked. -/
def blank (removed added : List Signature) : Marks :=
  ⟨List.replicate removed.length false, List.replicate added.length false, []⟩

def attempt (marks : Marks) (old new : Signature × Nat) : Marks :=
  let trial := old.1.changes new.1
  if trial.all fun change => change.severity ≤ .patch then
    { removed := marks.removed.set old.2 true
      added := marks.added.set new.2 true
      noted := if trial.isEmpty then marks.noted else marks.noted ++ [⟨old.2, new.2, trial⟩] }
  else marks

/-- Tries every missing old overload with every missing new one. -/
def attemptAll (removed added : List Signature) : Marks :=
  removed.zipIdx.foldl (fun marks old => added.zipIdx.foldl (·.attempt old ·) marks)
    (blank removed added)

/-- Where the marks are, and what is noted, once some pairs were tried. -/
structure After (removed added : List Signature) (tried : List Trial) (marks : Marks) : Prop where
  removed : ∀ index, marks.removed[index]? =
    removed[index]?.map fun _ => tried.any fun trial => trial.1.2 == index && trial.evolves
  added : ∀ index, marks.added[index]? =
    added[index]?.map fun _ => tried.any fun trial => trial.2.2 == index && trial.evolves
  noted : marks.noted = tried.filterMap Trial.note?

variable {removed added : List Signature} {tried : List Trial} {marks : Marks}

theorem after_blank (removed added : List Signature) :
    (blank removed added).After removed added [] := by
  have hblank : ∀ (signatures : List Signature) (index : Nat),
      (List.replicate signatures.length false)[index]? = signatures[index]?.map fun _ => false := by
    intro signatures index
    rw [← List.map_const', List.getElem?_map]
  exact ⟨hblank removed, hblank added, rfl⟩

/-- A mark set at one place is a mark there, and the others stay as they were. -/
theorem getElem?_set_mark {flags : List Bool} {signatures : List Signature} {marked : Nat → Bool}
    (hflags : ∀ index, flags[index]? = signatures[index]?.map fun _ => marked index)
    (place index : Nat) :
    (flags.set place true)[index]? =
      signatures[index]?.map fun _ => marked index || place == index := by
  rw [List.getElem?_set']
  split
  case isTrue heq =>
    rw [hflags, beq_iff_eq.mpr heq, Option.map_eq_map, Option.map_map]
    simp only [Bool.or_true]
    rfl
  case isFalse hne => rw [hflags, beq_eq_false_iff_ne.mpr hne, Bool.or_false]

/-- One more trial is accounted for. -/
theorem After.attempt (hafter : marks.After removed added tried) (trial : Trial) :
    (marks.attempt trial.1 trial.2).After removed added (tried ++ [trial]) := by
  rw [Marks.attempt]
  split
  case isTrue hevolves =>
    have htrial : trial.evolves = true := hevolves
    refine ⟨fun index => ?_, fun index => ?_, ?_⟩
    · rw [getElem?_set_mark hafter.removed]
      simp only [List.any_append, List.any_cons, List.any_nil, htrial, Bool.and_true, Bool.or_false]
    · rw [getElem?_set_mark hafter.added]
      simp only [List.any_append, List.any_cons, List.any_nil, htrial, Bool.and_true, Bool.or_false]
    · rw [hafter.noted, List.filterMap_append, List.filterMap_cons, Trial.note?, htrial]
      cases hempty : (trial.1.1.changes trial.2.1).isEmpty with
      | true => exact (List.append_nil _).symm
      | false => rfl
  case isFalse hevolves =>
    have htrial : trial.evolves = false := Bool.eq_false_iff.mpr hevolves
    refine ⟨fun index => ?_, fun index => ?_, ?_⟩
    · rw [hafter.removed]
      simp only [List.any_append, List.any_cons, List.any_nil, htrial, Bool.and_false, Bool.or_false]
    · rw [hafter.added]
      simp only [List.any_append, List.any_cons, List.any_nil, htrial, Bool.and_false, Bool.or_false]
    · rw [hafter.noted, List.filterMap_append, List.filterMap_cons, Trial.note?, htrial]
      exact (List.append_nil _).symm

theorem after_foldl (removed added : List Signature) (trials : List Trial) :
    (trials.foldl (fun marks trial => marks.attempt trial.1 trial.2)
      (blank removed added)).After removed added trials := by
  induction trials using List.reverseRecOn with
  | nil => exact after_blank removed added
  | append_singleton tried trial ih =>
    rw [List.foldl_append]
    exact ih.attempt trial

theorem after_attemptAll (removed added : List Signature) :
    (attemptAll removed added).After removed added (Trial.all removed added) := by
  have hnested : attemptAll removed added = (Trial.all removed added).foldl
      (fun marks trial => marks.attempt trial.1 trial.2) (blank removed added) := by
    rw [Trial.all, List.foldl_flatMap]
    simp only [List.foldl_map]
    rfl
  rw [hnested]
  exact after_foldl removed added _

/-- In the end an old overload is marked if it evolves into one of the new. -/
theorem removed_attemptAll (removed added : List Signature) :
    (attemptAll removed added).removed = removed.map fun old => added.any old.evolvesInto := by
  refine List.ext_getElem? fun index => ?_
  rw [(after_attemptAll removed added).removed, List.getElem?_map]
  refine Option.map_congr fun old hold => ?_
  rw [Bool.eq_iff_iff, List.any_eq_true, List.any_eq_true]
  constructor
  · rintro ⟨⟨⟨first, place⟩, second, number⟩, hmem, htrial⟩
    obtain ⟨hfirst, hsecond⟩ := Trial.mem_all_iff.mp hmem
    obtain ⟨hplace, hevolves⟩ := Bool.and_eq_true_iff.mp htrial
    obtain rfl := beq_iff_eq.mp hplace
    obtain rfl := Option.some.inj (hold.symm.trans hfirst)
    exact ⟨second, List.mem_of_getElem? hsecond, hevolves⟩
  · rintro ⟨new, hnew, hevolves⟩
    obtain ⟨number, hnumber⟩ := List.mem_iff_getElem?.mp hnew
    exact ⟨((old, index), (new, number)), Trial.mem_all_iff.mpr ⟨hold, hnumber⟩,
      Bool.and_eq_true_iff.mpr ⟨beq_self_eq_true index, hevolves⟩⟩

/-- In the end a new overload is marked if one of the old evolves into it. -/
theorem added_attemptAll (removed added : List Signature) :
    (attemptAll removed added).added = added.map fun new => removed.any (·.evolvesInto new) := by
  refine List.ext_getElem? fun index => ?_
  rw [(after_attemptAll removed added).added, List.getElem?_map]
  refine Option.map_congr fun new hnew => ?_
  rw [Bool.eq_iff_iff, List.any_eq_true, List.any_eq_true]
  constructor
  · rintro ⟨⟨⟨first, number⟩, second, place⟩, hmem, htrial⟩
    obtain ⟨hfirst, hsecond⟩ := Trial.mem_all_iff.mp hmem
    obtain ⟨hplace, hevolves⟩ := Bool.and_eq_true_iff.mp htrial
    obtain rfl := beq_iff_eq.mp hplace
    obtain rfl := Option.some.inj (hnew.symm.trans hsecond)
    exact ⟨first, List.mem_of_getElem? hfirst, hevolves⟩
  · rintro ⟨old, hold, hevolves⟩
    obtain ⟨number, hnumber⟩ := List.mem_iff_getElem?.mp hold
    exact ⟨((old, number), (new, index)), Trial.mem_all_iff.mpr ⟨hnumber, hnew⟩,
      Bool.and_eq_true_iff.mpr ⟨beq_self_eq_true index, hevolves⟩⟩

theorem noted_attemptAll (removed added : List Signature) :
    (attemptAll removed added).noted = reconciliations removed added :=
  (after_attemptAll removed added).noted.trans
    (Trial.reconciliations_eq_filterMap removed added).symm

/-- What is unmarked, the new overloads first. -/
def unmarked (marks : Marks) : List Change :=
  (marks.added.filter (!·)).map (fun _ => .functionWasOverloaded) ++
    (marks.removed.filter (!·)).map (fun _ => .overloadedFunctionRemoved)

theorem unmarked_attemptAll (removed added : List Signature) :
    (attemptAll removed added).unmarked = unreconciled removed added := by
  rw [unmarked, added_attemptAll, removed_attemptAll, List.filter_map, List.filter_map,
    List.map_map, List.map_map]
  rfl

end Marks

/-- Compares overloads by trial. -/
def diffByTrial (old new : List Signature) : Diff :=
  match old, new with
  | [single], [other] => ⟨[], single.changes other⟩
  | _, _ =>
    let marks := Marks.attemptAll (collect new [] old) (collect old [] new)
    ⟨marks.noted, (countChange? old new).toList ++ marks.unmarked⟩

theorem diffByTrial_eq (old new : List Signature) : diffByTrial old new = diff old new := by
  unfold diffByTrial
  split
  case h_1 => rfl
  case h_2 hnot =>
    have hsingles : ¬ (old.length = 1 ∧ new.length = 1) := by
      rintro ⟨hold, hnew⟩
      obtain ⟨single, hsingle⟩ := List.length_eq_one_iff.mp hold
      obtain ⟨other, hother⟩ := List.length_eq_one_iff.mp hnew
      exact hnot single other hsingle hother
    rw [diff_of_not_singles hsingles, collect_eq_missingFrom, collect_eq_missingFrom]
    exact congrArg₂ Diff.mk (Marks.noted_attemptAll _ _)
      (congrArg _ (Marks.unmarked_attemptAll _ _))

/-- Trying every missing old overload with every missing new one gives the differences that were defined, and they are these: the difference in number once, then each new overload that is missing on the old side and into which nothing missing evolved, then each old one that is missing on the new side and evolved into nothing. -/
theorem told_by_trial :
    (∀ old new, diffByTrial old new = diff old new) ∧
    ∀ old new : List Signature, ¬ (old.length = 1 ∧ new.length = 1) →
      ∃ gained lost, Selection new (Gained old new) gained ∧
        Selection old (Lost old new) lost ∧
        (diff old new).changes =
          (if old.length < new.length then [.functionWasOverloaded]
            else if new.length < old.length then [.overloadedFunctionRemoved]
            else []) ++
          (List.replicate gained.length .functionWasOverloaded ++
            List.replicate lost.length .overloadedFunctionRemoved) :=
  ⟨diffByTrial_eq, fun _ _ hsingles => exists_changes_eq hsingles⟩

/-- An overload is declared twice on either side. An old one evolves, another is lost, and two are gained beside the difference in number. -/
theorem told_by_trial_declared_twice :
    ∃ old new : List Signature, ¬ (old.length = 1 ∧ new.length = 1) ∧
      (diff old new).changes = [.functionWasOverloaded, .functionWasOverloaded,
        .functionWasOverloaded, .overloadedFunctionRemoved] ∧
      ∃ gained lost, Selection new (Gained old new) gained ∧
        Selection old (Lost old new) lost ∧
        (diff old new).changes =
          (if old.length < new.length then [.functionWasOverloaded]
            else if new.length < old.length then [.overloadedFunctionRemoved]
            else []) ++
          (List.replicate gained.length .functionWasOverloaded ++
            List.replicate lost.length .overloadedFunctionRemoved) :=
  ⟨[⟨[⟨"x", ⟨"int", 0, []⟩, none⟩]⟩, ⟨[⟨"y", ⟨"int", 0, []⟩, none⟩]⟩,
      ⟨[⟨"x", ⟨"text", 0, []⟩, none⟩]⟩],
    [⟨[⟨"x", ⟨"long", 0, ["int"]⟩, none⟩]⟩, ⟨[⟨"x", ⟨"bool", 0, []⟩, none⟩]⟩, ⟨[]⟩,
      ⟨[⟨"y", ⟨"bool", 0, ["text"]⟩, none⟩]⟩],
    by decide, by decide, told_by_trial.2 _ _ (by decide)⟩

end ApiDrift.Overloads
