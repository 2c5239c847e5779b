import ApiDrift.Proofs.Comparison.Changelog
import ApiDrift.Proofs.Comparison.Ignoring
import ApiDrift.Proofs.Comparison.Promise
import ApiDrift.Proofs.Naming

/-!
# An ignore policy filters the changelog

Where every entity stands under its own name and names are segments, an ignore policy does to a comparison what a filter does to its changelog. It takes away what lies below an ignored path, and of what lies at an ignored path everything but arrivals and departures, about which it is never asked.
-/

namespace ApiDrift

open Comparison

/-! ### The records that a policy spares -/

namespace ChangeRecord

/-- No proper ancestor of the path is ignored, and the path itself only if something came or went there. -/
def Spared (ignored : String → Bool) (record : ChangeRecord) : Prop :=
  (∀ above, Path.Ancestor above record.path → ignored above = false) ∧
    (record.change = .entityWasIntroduced ∨ record.change = .entityWasRemoved ∨
      ignored record.path = false)

instance (ignored : String → Bool) : DecidablePred (Spared ignored) := fun record =>
  decidable_of_iff ((∀ above ∈ Path.ancestors record.path, ignored above = false) ∧
      (record.change = .entityWasIntroduced ∨ record.change = .entityWasRemoved ∨
        ignored record.path = false))
    (by simp only [Spared, Path.mem_ancestors_iff])

end ChangeRecord

/-! ### Live positions -/

namespace Site

variable {site : Site}

/-- A pair of units that nothing else would close is closed exactly if it is ignored. -/
theorem opened_ofBool_iff {ignored : String → Bool} (hopened : site.Opened .ignoreNothing)
    (hnamed : ∀ new, site.new? = some new → new.name ≠ "") :
    site.Opened (.ofBool ignored) ↔ ignored site.path = false := by
  obtain ⟨old, new, hold, hnew, holdKind, hnewKind, -⟩ := hopened
  constructor
  · rintro ⟨_, other, _, hother, _, _, hkept⟩
    exact Policy.ofBool_eq_ok_iff.mp (hkept.resolve_left (hnamed other hother))
  · intro hkept
    exact ⟨old, new, hold, hnew, holdKind, hnewKind, Or.inr (Policy.ofBool_eq_ok_iff.mpr hkept)⟩

theorem present_of_opened {policy : Policy} (hopened : site.Opened policy) : site.Present := by
  obtain ⟨old, _, hold, _⟩ := hopened
  exact Or.inl (Option.isSome_of_eq_some hold)

end Site

namespace Codebase

variable {old new : Codebase}

/-- What would be live if nothing was ignored is live exactly if no ancestor of its path is ignored. -/
theorem live_iff_no_ancestor_ignored (hnamed : new.NamedByKeys) (hold : old.Segmented)
    (hnew : new.Segmented) (ignored : String → Bool) {position : Position}
    (hlive : position.Live .ignoreNothing old new) (hpresent : (site old new position).Present) :
    position.Live (.ofBool ignored) old new ↔
      ∀ above, Path.Ancestor above (site old new position).path → ignored above = false := by
  obtain ⟨key, turns⟩ := position
  induction turns using List.reverseRecOn with
  | nil =>
    have hsegment : Path.IsSegment key := isSegment_of_present hold hnew hpresent
    have hpath : (site old new ⟨key, []⟩).path = key :=
      (path_site hnamed _).trans (Path.join_empty_left key)
    rw [hpath]
    refine iff_of_true ?_ fun above habove =>
      absurd habove (Path.not_ancestor_of_isSegment hsegment)
    exact Position.live_iff_reached.mpr (Site.reached_nil _ _)
  | append_singleton turns last ih =>
    rw [Position.live_concat] at hlive ⊢
    obtain ⟨hliveAbove, hopened⟩ := hlive
    have hpresentAbove := Site.present_of_opened hopened
    have hsegment := isSegment_of_present hold hnew hpresent
    rw [Position.lastKey_concat] at hsegment
    have hpath := path_site_ne_empty hnamed hold hnew hpresentAbove
    rw [ih hliveAbove hpresentAbove,
      Site.opened_ofBool_iff hopened fun _ hentity => name_ne_empty hnamed hnew hentity,
      path_site_concat hnamed]
    simp only [Path.ancestor_join_iff hpath hsegment, or_imp, forall_and, forall_eq]
    exact and_comm

end Codebase

/-! ### Records -/

namespace Site

variable {site : Site}

theorem path_of_mem_records {policy : Policy} {record : ChangeRecord}
    (hmem : record ∈ site.records policy) : record.path = site.path := by
  unfold records at hmem
  split at hmem
  · cases hmem
  · exact congrArg ChangeRecord.path (List.mem_singleton.mp hmem)
  · exact congrArg ChangeRecord.path (List.mem_singleton.mp hmem)
  · split at hmem
    · cases hmem
    · obtain ⟨change, -, rfl⟩ := List.mem_map.mp hmem
      rfl

/-- What is found of a pair is spared or not as a whole. -/
theorem filter_pair {ignored : String → Bool}
    (hancestors : ∀ above, Path.Ancestor above site.path → ignored above = false)
    (old new : Entity) :
    ((old.changes new).map (ChangeRecord.of site.path)).filter (·.Spared ignored) =
      if ignored site.path = true then [] else (old.changes new).map (.of site.path) := by
  have hspared : ∀ change ∈ old.changes new,
      ((ChangeRecord.of site.path change).Spared ignored ↔ ignored site.path = false) := by
    intro change hchange
    obtain ⟨hintroduced, hremoved⟩ :=
      Change.ne_of_mem_ofPair change (Entity.mem_ofPair_of_mem_changes hchange)
    exact (and_iff_right hancestors).trans
      ((or_iff_right hintroduced).trans (or_iff_right hremoved))
  split
  case isTrue hignored =>
    rw [List.filter_eq_nil_iff, List.forall_mem_map]
    intro change hchange
    rw [decide_eq_true_eq, hspared change hchange, hignored]
    decide
  case isFalse hkept =>
    rw [List.filter_eq_self, List.forall_mem_map]
    intro change hchange
    rw [decide_eq_true_eq, hspared change hchange]
    exact Bool.eq_false_iff.mpr hkept

/-- At a site of named entities, a policy takes from the records what it does not spare; where it ignores an ancestor, all of them. -/
theorem filter_records {ignored : String → Bool}
    (hnamed : ∀ new, site.new? = some new → new.name ≠ "") :
    (site.records .ignoreNothing).filter (·.Spared ignored) =
      if ∀ above ∈ Path.ancestors site.path, ignored above = false then
        site.records (.ofBool ignored)
      else [] := by
  have hcondition : (∀ above ∈ Path.ancestors site.path, ignored above = false) ↔
      ∀ above, Path.Ancestor above site.path → ignored above = false := by
    simp only [Path.mem_ancestors_iff]
  by_cases hancestors : ∀ above, Path.Ancestor above site.path → ignored above = false
  case neg =>
    rw [if_neg (mt hcondition.mp hancestors), List.filter_eq_nil_iff]
    intro record hmem
    rw [decide_eq_true_eq]
    rintro ⟨hspared, -⟩
    rw [path_of_mem_records hmem] at hspared
    exact hancestors hspared
  case pos =>
    rw [if_pos (hcondition.mpr hancestors)]
    cases hold : site.old? with
    | none =>
      cases hnew : site.new? with
      | none => rw [records, records, hold, hnew]; rfl
      | some new =>
        have hspared : (ChangeRecord.of site.path .entityWasIntroduced).Spared ignored :=
          ⟨hancestors, Or.inl rfl⟩
        rw [records, records, hold, hnew, List.filter_singleton, decide_eq_true hspared]
        rfl
    | some old =>
      cases hnew : site.new? with
      | none =>
        have hspared : (ChangeRecord.of site.path .entityWasRemoved).Spared ignored :=
          ⟨hancestors, Or.inr (Or.inl rfl)⟩
        rw [records, records, hold, hnew, List.filter_singleton, decide_eq_true hspared]
        rfl
      | some new =>
        have hignored : site.Ignored (.ofBool ignored) new ↔ ignored site.path = true :=
          (and_iff_right (hnamed new hnew)).trans Policy.ofBool_eq_ok_iff
        rw [records_of_pair hold hnew, records_of_pair hold hnew,
          if_neg (not_ignored_of_kept (Or.inr rfl)), filter_pair hancestors old new]
        exact if_congr hignored.symm rfl rfl

end Site

theorem flatMap_filter {α β : Type} (parts : List α) (p : α → Bool) (f : α → List β) :
    (parts.filter p).flatMap f = parts.flatMap fun part => if p part then f part else [] := by
  induction parts with
  | nil => rfl
  | cons part rest ih =>
    rw [List.flatMap_cons, ← ih]
    cases hpart : p part with
    | true => rw [List.filter_cons_of_pos hpart, List.flatMap_cons, if_pos rfl]
    | false =>
      rw [List.filter_cons_of_neg (by simp [hpart]), if_neg Bool.false_ne_true, List.nil_append]

namespace Codebase

/-- Position by position, the changelog of a policy is what it spares of the changelog where nothing is ignored. -/
theorem records_eq_filter {old new : Codebase} (hnamed : new.NamedByKeys) (hold : old.Segmented)
    (hnew : new.Segmented) {ignored : String → Bool}
    (hsucceeds : Succeeds (compare .ignoreNothing old new)) :
    Succeeds (compare (.ofBool ignored) old new) ∧
      (compare (.ofBool ignored) old new).records =
        (compare .ignoreNothing old new).records.filter (·.Spared ignored) := by
  have hmore : ∀ path : String, false = true → ignored path = true :=
    fun _ hignored => absurd hignored Bool.false_ne_true
  have hignoring : Succeeds (compare (.ofBool ignored) old new) :=
    succeeds_of_ignoring_more hmore hsucceeds
  have hfewer : livePositions (.ofBool ignored) old new =
      (livePositions .ignoreNothing old new).filter
        (· ∈ livePositions (.ofBool ignored) old new) :=
    livePositions_eq_filter fun _ => live_of_ignoring_more hmore
  refine ⟨hignoring, ?_⟩
  rw [records_of_succeeds hsucceeds, records_of_succeeds hignoring, List.filter_flatMap]
  conv_lhs => rw [hfewer]
  rw [flatMap_filter]
  refine List.flatMap_congr fun position hmem => ?_
  obtain ⟨hlive, hpresent⟩ := mem_livePositions_iff.mp hmem
  have hmem_iff : position ∈ livePositions (.ofBool ignored) old new ↔
      ∀ above ∈ Path.ancestors (site old new position).path, ignored above = false := by
    rw [mem_livePositions_iff, and_iff_left hpresent,
      live_iff_no_ancestor_ignored hnamed hold hnew ignored hlive hpresent]
    simp only [Path.mem_ancestors_iff]
  rw [Site.filter_records fun _ => name_ne_empty hnamed hnew]
  simp only [decide_eq_true_eq, hmem_iff]

end Codebase

/-- Where names are segments and entities of the new codebase stand under their own names, a comparison that succeeds when nothing is ignored succeeds under every policy that always answers. Its changelog is that of the former, without the records that the policy does not spare. -/
theorem policy_filters_changelog {old new : Codebase} (hnamed : new.NamedByKeys)
    (hold : old.Segmented) (hnew : new.Segmented) {bump : Bump}
    (hok : (Codebase.compare .ignoreNothing old new).outcome = .ok bump)
    (ignored : String → Bool) :
    (∃ other, (Codebase.compare (.ofBool ignored) old new).outcome = .ok other) ∧
      (Codebase.compare (.ofBool ignored) old new).records =
        (Codebase.compare .ignoreNothing old new).records.filter (·.Spared ignored) :=
  Codebase.records_eq_filter hnamed hold hnew ⟨bump, hok⟩

/-- One unit is ignored and gone, and another is ignored and has lost a field; a third got a field where a function is ignored. -/
theorem policy_filters_changelog_three_units :
    ∃ old new : Codebase, new.NamedByKeys ∧ old.Segmented ∧ new.Segmented ∧
      (Codebase.compare .ignoreNothing old new).outcome = .ok .major ∧
      (∃ other, (Codebase.compare (.ofBool (· ∈ ["u", "v", "w.f"])) old new).outcome = .ok other) ∧
        (Codebase.compare (.ofBool (· ∈ ["u", "v", "w.f"])) old new).records =
          (Codebase.compare .ignoreNothing old new).records.filter
            (·.Spared (· ∈ ["u", "v", "w.f"])) ∧
        (Codebase.compare (.ofBool (· ∈ ["u", "v", "w.f"])) old new).records =
          [.of "u" .entityWasRemoved, .of "w.f" .entityWasIntroduced] := by
  have hok : (Codebase.compare .ignoreNothing
      (.cons "u" trivial (.unit "u" .nil .nil .nil)
        (.cons "v" (by decide)
          (.unit "v" (.cons "a" trivial (.field "a" ⟨"int", 0, []⟩) .nil) .nil .nil)
          (.cons "w" (by decide)
            (.unit "w" .nil (.cons "f" trivial (.function "f" ⟨"int", 0, []⟩ []) .nil) .nil) .nil)))
      (.cons "v" trivial (.unit "v" .nil .nil .nil)
        (.cons "w" (by decide)
          (.unit "w" (.cons "f" trivial (.field "f" ⟨"int", 0, []⟩) .nil)
            (.cons "f" trivial (.function "f" ⟨"text", 0, []⟩ []) .nil) .nil) .nil))).outcome =
      .ok .major := by decide
  obtain ⟨hsucceeds, hrecords⟩ :=
    policy_filters_changelog (by decide) (by decide) (by decide) hok (· ∈ ["u", "v", "w.f"])
  exact ⟨_, _, by decide, by decide, by decide, hok, hsucceeds, hrecords, by decide⟩

end ApiDrift
