import ApiDrift.Proofs.Comparison.Severity
import ApiDrift.Proofs.Keyed.Merge

/-!
# Comparing parts of a collection

Entities that stand next to each other are compared independently. So a collection may be split along its keys, in whatever way they lie between each other, and its parts may be compared one by one: all is well with the whole exactly if it is with both parts, and then the records of the parts, put together as their keys are, are the records of the whole.
-/

namespace ApiDrift

/-! ### Interleaved lists -/

/-- The third list is made of the first two, each in its own order. -/
inductive Interleaved {α : Type} : List α → List α → List α → Prop
  | nil : Interleaved [] [] []
  | left {first second whole : List α} (a : α) (rest : Interleaved first second whole) :
      Interleaved (a :: first) second (a :: whole)
  | right {first second whole : List α} (a : α) (rest : Interleaved first second whole) :
      Interleaved first (a :: second) (a :: whole)

namespace Interleaved

variable {α β : Type} {first second whole : List α}

theorem of_filter (p : α → Bool) (whole : List α) :
    Interleaved (whole.filter p) (whole.filter fun a => !p a) whole := by
  induction whole with
  | nil => exact .nil
  | cons a rest ih =>
    cases ha : p a with
    | true =>
      rw [List.filter_cons, List.filter_cons, ha]
      exact .left a ih
    | false =>
      rw [List.filter_cons, List.filter_cons, ha]
      exact .right a ih

theorem append_left (leading : List α) (hinterleaved : Interleaved first second whole) :
    Interleaved (leading ++ first) second (leading ++ whole) := by
  induction leading with
  | nil => exact hinterleaved
  | cons a rest ih => exact .left a ih

theorem append_right (leading : List α) (hinterleaved : Interleaved first second whole) :
    Interleaved first (leading ++ second) (leading ++ whole) := by
  induction leading with
  | nil => exact hinterleaved
  | cons a rest ih => exact .right a ih

theorem flatMap (f : α → List β) (hinterleaved : Interleaved first second whole) :
    Interleaved (first.flatMap f) (second.flatMap f) (whole.flatMap f) := by
  induction hinterleaved with
  | nil => exact .nil
  | left a _ ih =>
    rw [List.flatMap_cons, List.flatMap_cons]
    exact ih.append_left (f a)
  | right a _ ih =>
    rw [List.flatMap_cons, List.flatMap_cons]
    exact ih.append_right (f a)

theorem perm (hinterleaved : Interleaved first second whole) : whole.Perm (first ++ second) := by
  induction hinterleaved with
  | nil => exact .nil
  | left a _ ih => exact ih.cons a
  | right a _ ih => exact (ih.cons a).trans List.perm_middle.symm

end Interleaved

open Comparison

/-! ### Keys of the parts -/

/-- Two sorted lists that do not meet are interleaved in the sorted list of both. -/
theorem interleaved_of_sorted {first second whole : List String} (hfirst : first.SortedLT)
    (hsecond : second.SortedLT) (hwhole : whole.SortedLT)
    (hmem : ∀ key, key ∈ whole ↔ key ∈ first ∨ key ∈ second)
    (hapart : ∀ key ∈ first, key ∉ second) : Interleaved first second whole := by
  have hsorted : ∀ p : String → Bool, (whole.filter p).SortedLT :=
    fun p => (hwhole.pairwise.sublist List.filter_sublist).sortedLT
  have hleft : whole.filter (· ∈ first) = first := by
    apply (hsorted _).eq_of_mem_iff hfirst
    intro key
    rw [List.mem_filter, decide_eq_true_eq, hmem]
    tauto
  have hright : (whole.filter fun key => !decide (key ∈ first)) = second := by
    apply (hsorted _).eq_of_mem_iff hsecond
    intro key
    have := hapart key
    rw [List.mem_filter, Bool.not_eq_true', decide_eq_false_iff_not, hmem]
    tauto
  have hinterleaved := Interleaved.of_filter (fun key => decide (key ∈ first)) whole
  rwa [hleft, hright] at hinterleaved

namespace Codebase

variable {old new old' new' : Codebase}

/-- What is compared under one key of two collections. -/
def underKey (policy : Policy) (path : String) (old new : Codebase) (key : String) :
    Comparison Bump :=
  (Site.top path old new key).comparison policy

theorem mem_jointKeys_merge {key : String} :
    key ∈ jointKeys (old.merge old').keys (new.merge new').keys ↔
      key ∈ jointKeys old.keys new.keys ∨ key ∈ jointKeys old'.keys new'.keys := by
  simp only [mem_jointKeys, Keyed.mem_keys_merge]
  tauto

variable (hapart : ∀ key ∈ old.keys ++ new.keys, key ∉ old'.keys ++ new'.keys)

include hapart

theorem notMem_jointKeys_of_apart {key : String} (hkey : key ∈ jointKeys old.keys new.keys) :
    key ∉ jointKeys old'.keys new'.keys := by
  rw [mem_jointKeys, ← List.mem_append] at hkey ⊢
  exact hapart key hkey

theorem interleaved_jointKeys : Interleaved (jointKeys old.keys new.keys)
    (jointKeys old'.keys new'.keys) (jointKeys (old.merge old').keys (new.merge new').keys) :=
  interleaved_of_sorted (sorted_jointKeys _ _) (sorted_jointKeys _ _) (sorted_jointKeys _ _)
    (fun _ => mem_jointKeys_merge) fun _ hkey => notMem_jointKeys_of_apart hapart hkey

/-- Under the keys of a part the whole has what the part has. -/
theorem top_merge_left (path : String) {key : String} (hkey : key ∈ jointKeys old.keys new.keys) :
    Site.top path (old.merge old') (new.merge new') key = Site.top path old new key := by
  have hnot := notMem_jointKeys_of_apart hapart hkey
  rw [mem_jointKeys, not_or] at hnot
  rw [Site.top, Site.top, Keyed.get?_merge, Keyed.get?_merge,
    Keyed.get?_eq_none_of_notMem hnot.1, Keyed.get?_eq_none_of_notMem hnot.2]
  rfl

theorem top_merge_right (path : String) {key : String}
    (hkey : key ∈ jointKeys old'.keys new'.keys) :
    Site.top path (old.merge old') (new.merge new') key = Site.top path old' new' key := by
  have hnot : key ∉ jointKeys old.keys new.keys :=
    fun hmem => notMem_jointKeys_of_apart hapart hmem hkey
  rw [mem_jointKeys, not_or] at hnot
  rw [Site.top, Site.top, Keyed.get?_merge, Keyed.get?_merge,
    Keyed.get?_eq_none_of_notMem hnot.1, Keyed.get?_eq_none_of_notMem hnot.2, Option.or_none,
    Option.or_none]

/-! ### Comparing the parts -/

variable (policy : Policy) (path : String)

theorem compareAt_left_of_apart : compareAt policy path old new =
    inTurn ((jointKeys old.keys new.keys).map
      (underKey policy path (old.merge old') (new.merge new'))) := by
  rw [compareAt_eq_inTurn]
  apply congrArg inTurn
  apply List.map_congr_left
  intro key hkey
  rw [underKey, top_merge_left hapart path hkey]

theorem compareAt_right_of_apart : compareAt policy path old' new' =
    inTurn ((jointKeys old'.keys new'.keys).map
      (underKey policy path (old.merge old') (new.merge new'))) := by
  rw [compareAt_eq_inTurn]
  apply congrArg inTurn
  apply List.map_congr_left
  intro key hkey
  rw [underKey, top_merge_right hapart path hkey]

theorem succeeds_merge_iff :
    Succeeds (compareAt policy path (old.merge old') (new.merge new')) ↔
      Succeeds (compareAt policy path old new) ∧ Succeeds (compareAt policy path old' new') := by
  rw [compareAt_left_of_apart hapart, compareAt_right_of_apart hapart, compareAt_eq_inTurn,
    succeeds_inTurn_iff, succeeds_inTurn_iff, succeeds_inTurn_iff]
  simp only [List.forall_mem_map, mem_jointKeys_merge, or_imp, forall_and, underKey]

theorem records_merge (hfirst : Succeeds (compareAt policy path old new))
    (hsecond : Succeeds (compareAt policy path old' new')) :
    Interleaved (compareAt policy path old new).records (compareAt policy path old' new').records
      (compareAt policy path (old.merge old') (new.merge new')).records := by
  have hwhole := (succeeds_merge_iff hapart policy path).mpr ⟨hfirst, hsecond⟩
  rw [compareAt_eq_inTurn] at hwhole
  rw [compareAt_left_of_apart hapart] at hfirst ⊢
  rw [compareAt_right_of_apart hapart] at hsecond ⊢
  rw [compareAt_eq_inTurn, records_inTurn hwhole, records_inTurn hfirst, records_inTurn hsecond,
    List.flatMap_map, List.flatMap_map, List.flatMap_map]
  exact (interleaved_jointKeys hapart).flatMap _

/-- If the keys of one part come before those of the other, the parts are compared one after the other. -/
theorem compareAt_merge_of_precedes
    (hprecedes : ∀ key ∈ jointKeys old.keys new.keys, ∀ other ∈ jointKeys old'.keys new'.keys,
      key < other) :
    compareAt policy path (old.merge old') (new.merge new') =
      both (compareAt policy path old new) (compareAt policy path old' new') := by
  have hsorted : (jointKeys old.keys new.keys ++ jointKeys old'.keys new'.keys).SortedLT := by
    apply List.Pairwise.sortedLT
    rw [List.pairwise_append]
    exact ⟨(sorted_jointKeys _ _).pairwise, (sorted_jointKeys _ _).pairwise, hprecedes⟩
  have hkeys : jointKeys (old.merge old').keys (new.merge new').keys =
      jointKeys old.keys new.keys ++ jointKeys old'.keys new'.keys := by
    apply (sorted_jointKeys _ _).eq_of_mem_iff hsorted
    intro key
    rw [mem_jointKeys_merge, List.mem_append]
  rw [compareAt_left_of_apart hapart, compareAt_right_of_apart hapart, ← inTurn_append,
    ← List.map_append, ← hkeys, compareAt_eq_inTurn]
  rfl

end Codebase

/-- Two parts of a collection that share no key are compared independently. The whole succeeds exactly if both do, it is as severe as the more severe of them, and its records are theirs, interleaved as the keys are, or one after the other if the keys are. -/
theorem parts_are_compared_apart {old new old' new' : Codebase}
    (hapart : ∀ key ∈ old.keys ++ new.keys, key ∉ old'.keys ++ new'.keys)
    (policy : Policy) (path : String) :
    let whole := Codebase.compareAt policy path (old.merge old') (new.merge new')
    let first := Codebase.compareAt policy path old new
    let second := Codebase.compareAt policy path old' new'
    (Succeeds whole ↔ Succeeds first ∧ Succeeds second) ∧
      ∀ ofFirst ofSecond, first.outcome = .ok ofFirst → second.outcome = .ok ofSecond →
        whole.outcome = .ok (max ofFirst ofSecond) ∧
          Interleaved first.records second.records whole.records ∧
          whole.records.Perm (first.records ++ second.records) ∧
          ((∀ key ∈ old.keys ++ new.keys, ∀ other ∈ old'.keys ++ new'.keys, key < other) →
            whole.records = first.records ++ second.records) := by
  intro whole first second
  have hsucceeds : Succeeds whole ↔ Succeeds first ∧ Succeeds second :=
    Codebase.succeeds_merge_iff hapart policy path
  refine ⟨hsucceeds, ?_⟩
  intro ofFirst ofSecond hfirst hsecond
  have hrecords : Interleaved first.records second.records whole.records :=
    Codebase.records_merge hapart policy path ⟨ofFirst, hfirst⟩ ⟨ofSecond, hsecond⟩
  refine ⟨?_, hrecords, hrecords.perm, ?_⟩
  · obtain ⟨bump, hwhole⟩ := hsucceeds.mpr ⟨⟨ofFirst, hfirst⟩, ⟨ofSecond, hsecond⟩⟩
    have hbump := weighed_compareAt policy path _ _ bump hwhole
    have hperm := hrecords.perm.map (·.change.severity)
    rw [hwhole, hbump, Bump.worst_perm .patch hperm, List.map_append, Bump.worst_append,
      ← weighed_compareAt policy path old new ofFirst hfirst,
      ← weighed_compareAt policy path old' new' ofSecond hsecond]
  · intro hprecedes
    have hkeys : ∀ key ∈ jointKeys old.keys new.keys,
        ∀ other ∈ jointKeys old'.keys new'.keys, key < other := by
      intro key hkey other hother
      rw [mem_jointKeys, ← List.mem_append] at hkey hother
      exact hprecedes key hkey other hother
    have hwhole : whole = both first second :=
      Codebase.compareAt_merge_of_precedes hapart policy path hkeys
    rw [hwhole, records_both_of_ok hfirst hsecond]

/-- Of two fields one is gone and one has another type. One has come between them, or else one behind them. -/
theorem parts_are_compared_apart_three_fields :
    ∃ old new empty between behind : Codebase,
      (∀ key ∈ old.keys ++ new.keys, key ∉ empty.keys ++ between.keys) ∧
        (Codebase.compareAt (.ofBool fun _ => false) "u" old new).outcome = .ok .major ∧
        (Codebase.compareAt (.ofBool fun _ => false) "u" empty between).outcome = .ok .minor ∧
        (Codebase.compareAt (.ofBool fun _ => false) "u" (old.merge empty)
          (new.merge between)).outcome = .ok (max .major .minor) ∧
        Interleaved (Codebase.compareAt (.ofBool fun _ => false) "u" old new).records
          (Codebase.compareAt (.ofBool fun _ => false) "u" empty between).records
          (Codebase.compareAt (.ofBool fun _ => false) "u" (old.merge empty)
            (new.merge between)).records ∧
        (∀ key ∈ old.keys ++ new.keys, key ∉ empty.keys ++ behind.keys) ∧
        (∀ key ∈ old.keys ++ new.keys, ∀ other ∈ empty.keys ++ behind.keys, key < other) ∧
        (Codebase.compareAt (.ofBool fun _ => false) "u" (old.merge empty)
            (new.merge behind)).records =
          (Codebase.compareAt (.ofBool fun _ => false) "u" old new).records ++
            (Codebase.compareAt (.ofBool fun _ => false) "u" empty behind).records := by
  refine ⟨.cons "a" trivial (.field "a" ⟨"int", 0, []⟩)
      (.cons "c" (by decide) (.field "c" ⟨"int", 0, []⟩) .nil),
    .cons "a" trivial (.field "a" ⟨"text", 0, []⟩) .nil, .nil,
    .cons "b" trivial (.field "b" ⟨"int", 0, []⟩) .nil,
    .cons "d" trivial (.field "d" ⟨"int", 0, []⟩) .nil,
    by decide, by decide, by decide, ?_, ?_, by decide, by decide, ?_⟩
  · exact ((parts_are_compared_apart (by decide) _ _).2 _ _ (by decide) (by decide)).1
  · exact ((parts_are_compared_apart (by decide) _ _).2 .major .minor (by decide)
      (by decide)).2.1
  · exact ((parts_are_compared_apart (by decide) _ _).2 .major .minor (by decide)
      (by decide)).2.2.2 (by decide)

end ApiDrift
