import ApiDrift.Proofs.Comparison.Changelog
import ApiDrift.Proofs.Comparison.Success
import ApiDrift.Proofs.Naming

/-!
# Moves between shelves

What is introduced arrives, and what is removed leaves. Nothing does both at one position. The shelves of a unit are compared each by itself, but paths do not tell on which shelf something stands. So a path is told of twice exactly when something arrives and something leaves by the same keys and on different shelves, as a field does that becomes a function.
-/

namespace ApiDrift

open Comparison

/-! ### Arriving and leaving -/

namespace Position

/-- The shelves on the way to a position. -/
def shelves (position : Position) : List Shelf := position.turns.map Turn.shelf

theorem eq_of_keys_of_shelves {first second : Position} (hkeys : first.keys = second.keys)
    (hshelves : first.shelves = second.shelves) : first = second := by
  obtain ⟨firstKey, firstTurns⟩ := first
  obtain ⟨secondKey, secondTurns⟩ := second
  obtain ⟨rfl, hturns⟩ := List.cons.inj hkeys
  have hzip : ∀ turns : List Turn,
      List.zipWith Turn.mk (turns.map Turn.shelf) (turns.map Turn.key) = turns := by
    intro turns
    rw [List.zipWith_map, List.zipWith_self]
    exact List.map_id turns
  congr 1
  rw [← hzip firstTurns, ← hzip secondTurns]
  exact congrArg₂ (List.zipWith Turn.mk) hshelves hturns

variable (policy : Policy) (old new : Codebase) (position : Position)

/-- Where the comparison goes, something stands on the new side only. -/
structure Arrives : Prop where
  live : position.Live policy old new
  old?_eq : old.at? position = none
  new?_isSome : (new.at? position).isSome

/-- Where the comparison goes, something stands on the old side only. -/
structure Leaves : Prop where
  live : position.Live policy old new
  old?_isSome : (old.at? position).isSome
  new?_eq : new.at? position = none

end Position

namespace Site

variable {policy : Policy} {site : Site} {path : String}

theorem present_of_mem_records {record : ChangeRecord} (hmem : record ∈ site.records policy) :
    site.Present := by
  cases hold : site.old? with
  | some old => exact Or.inl (Option.isSome_of_eq_some hold)
  | none =>
    cases hnew : site.new? with
    | some new => exact Or.inr (Option.isSome_of_eq_some hnew)
    | none =>
      rw [records, hold, hnew] at hmem
      cases hmem

theorem mem_ofPair_of_mem_records {old new : Entity} (hold : site.old? = some old)
    (hnew : site.new? = some new) {record : ChangeRecord} (hmem : record ∈ site.records policy) :
    record.change ∈ Change.ofPair := by
  rw [records_of_pair hold hnew] at hmem
  split at hmem
  · cases hmem
  · obtain ⟨change, hchange, rfl⟩ := List.mem_map.mp hmem
    exact Entity.mem_ofPair_of_mem_changes hchange

theorem introduced_mem_records_iff :
    .of path .entityWasIntroduced ∈ site.records policy ↔
      site.old? = none ∧ site.new?.isSome ∧ site.path = path := by
  cases hold : site.old? with
  | none => cases hnew : site.new? <;> simp [records, hold, hnew, ChangeRecord.of, eq_comm]
  | some old =>
    refine iff_of_false (fun hmem => ?_) (by simp)
    cases hnew : site.new? with
    | none => simp [records, hold, hnew, ChangeRecord.of] at hmem
    | some new => exact (Change.ne_of_mem_ofPair _ (mem_ofPair_of_mem_records hold hnew hmem)).1 rfl

theorem removed_mem_records_iff :
    .of path .entityWasRemoved ∈ site.records policy ↔
      site.old?.isSome ∧ site.new? = none ∧ site.path = path := by
  cases hnew : site.new? with
  | none => cases hold : site.old? <;> simp [records, hold, hnew, ChangeRecord.of, eq_comm]
  | some new =>
    refine iff_of_false (fun hmem => ?_) (by simp)
    cases hold : site.old? with
    | none => simp [records, hold, hnew, ChangeRecord.of] at hmem
    | some old => exact (Change.ne_of_mem_ofPair _ (mem_ofPair_of_mem_records hold hnew hmem)).2 rfl

end Site

/-! ### Records of arrivals and departures -/

namespace Codebase

variable {policy : Policy} {old new : Codebase} {path : String}

theorem mem_records_iff (hsucceeds : Succeeds (compare policy old new)) {record : ChangeRecord} :
    record ∈ (compare policy old new).records ↔ ∃ position : Position,
      position.Live policy old new ∧ record ∈ (site old new position).records policy := by
  rw [records_of_succeeds hsucceeds, List.mem_flatMap]
  refine exists_congr fun position => and_congr_left fun hmem => ?_
  rw [mem_livePositions_iff]
  exact and_iff_left (Site.present_of_mem_records hmem)

theorem introduced_iff (hsucceeds : Succeeds (compare policy old new)) :
    .of path .entityWasIntroduced ∈ (compare policy old new).records ↔
      ∃ position : Position, position.Arrives policy old new ∧
        (site old new position).path = path := by
  rw [mem_records_iff hsucceeds]
  refine exists_congr fun position => ?_
  rw [Site.introduced_mem_records_iff, old?_site, new?_site]
  constructor
  · rintro ⟨hlive, hold, hnew, hpath⟩
    exact ⟨⟨hlive, hold, hnew⟩, hpath⟩
  · rintro ⟨⟨hlive, hold, hnew⟩, hpath⟩
    exact ⟨hlive, hold, hnew, hpath⟩

theorem removed_iff (hsucceeds : Succeeds (compare policy old new)) :
    .of path .entityWasRemoved ∈ (compare policy old new).records ↔
      ∃ position : Position, position.Leaves policy old new ∧
        (site old new position).path = path := by
  rw [mem_records_iff hsucceeds]
  refine exists_congr fun position => ?_
  rw [Site.removed_mem_records_iff, old?_site, new?_site]
  constructor
  · rintro ⟨hlive, hold, hnew, hpath⟩
    exact ⟨⟨hlive, hold, hnew⟩, hpath⟩
  · rintro ⟨⟨hlive, hold, hnew⟩, hpath⟩
    exact ⟨hlive, hold, hnew, hpath⟩

end Codebase

theorem Position.Arrives.not_leaves {policy : Policy} {old new : Codebase} {position : Position}
    (harrives : position.Arrives policy old new) : ¬ position.Leaves policy old new := by
  intro hleaves
  have hnone := hleaves.new?_eq
  exact absurd harrives.new?_isSome (by rw [hnone]; decide)

/-- In a unit, a field becomes a function with the same name. The one is removed and the other introduced, both at the path of that name. -/
theorem not_exclusive_across_shelves :
    ¬ ∀ old new : Codebase, old.NamedByKeys → new.NamedByKeys → old.Segmented → new.Segmented →
      ∀ (ignored : String → Bool) (bump : Bump),
        (Codebase.compare (.ofBool ignored) old new).outcome = .ok bump → ∀ path : String,
          ¬ (.of path .entityWasIntroduced ∈ (Codebase.compare (.ofBool ignored) old new).records ∧
            .of path .entityWasRemoved ∈ (Codebase.compare (.ofBool ignored) old new).records) := by
  intro hexclusive
  refine hexclusive
    (.cons "u" trivial (.unit "u" (.cons "x" trivial (.field "x" ⟨"int", 0, []⟩) .nil) .nil .nil)
      .nil)
    (.cons "u" trivial (.unit "u" .nil
      (.cons "x" trivial (.function "x" ⟨"int", 0, []⟩ []) .nil) .nil) .nil)
    (by decide) (by decide) (by decide) (by decide) (fun _ => false) .major (by decide) "u.x" ?_
  decide

/-- A path is both introduced and removed exactly when its keys lead to something that arrives and to something that leaves, by way of different shelves. -/
theorem introduced_and_removed_iff {policy : Policy} {old new : Codebase} {bump : Bump}
    (hnamed : new.NamedByKeys) (hold : old.Segmented) (hnew : new.Segmented)
    (hok : (Codebase.compare policy old new).outcome = .ok bump) {path : String} :
    .of path .entityWasIntroduced ∈ (Codebase.compare policy old new).records ∧
        .of path .entityWasRemoved ∈ (Codebase.compare policy old new).records ↔
      ∃ arriving leaving : Position,
        arriving.Arrives policy old new ∧ leaving.Leaves policy old new ∧
          arriving.keys = leaving.keys ∧ arriving.shelves ≠ leaving.shelves ∧
            Path.ofSegments arriving.keys = path := by
  rw [Codebase.introduced_iff ⟨bump, hok⟩, Codebase.removed_iff ⟨bump, hok⟩]
  constructor
  · rintro ⟨⟨arriving, harrives, rfl⟩, leaving, hleaves, hpath⟩
    rw [Codebase.path_site_eq_ofSegments hnamed, Codebase.path_site_eq_ofSegments hnamed] at hpath
    have harriving : (Codebase.site old new arriving).Present :=
      Or.inr (Codebase.new?_site old new arriving ▸ harrives.new?_isSome)
    have hleaving : (Codebase.site old new leaving).Present :=
      Or.inl (Codebase.old?_site old new leaving ▸ hleaves.old?_isSome)
    have hkeys : leaving.keys = arriving.keys :=
      Path.ofSegments_inj (Codebase.isSegment_of_mem_keys hold hnew hleaving)
        (Codebase.isSegment_of_mem_keys hold hnew harriving) hpath
    refine ⟨arriving, leaving, harrives, hleaves, hkeys.symm, fun hshelves => ?_,
      (Codebase.path_site_eq_ofSegments hnamed arriving).symm⟩
    obtain rfl := Position.eq_of_keys_of_shelves hkeys.symm hshelves
    exact harrives.not_leaves hleaves
  · rintro ⟨arriving, leaving, harrives, hleaves, hkeys, -, rfl⟩
    refine ⟨⟨arriving, harrives, Codebase.path_site_eq_ofSegments hnamed arriving⟩,
      leaving, hleaves, ?_⟩
    rw [Codebase.path_site_eq_ofSegments hnamed, hkeys]

/-- A field becomes a function while the field next to it only gets another type. -/
theorem introduced_and_removed_iff_field_turned_function :
    ∃ (policy : Policy) (old new : Codebase),
      new.NamedByKeys ∧ old.Segmented ∧ new.Segmented ∧
        (Codebase.compare policy old new).outcome = .ok .major ∧
          ∀ path ∈ ["u.x", "u.y"],
            (.of path .entityWasIntroduced ∈ (Codebase.compare policy old new).records ∧
                .of path .entityWasRemoved ∈ (Codebase.compare policy old new).records ↔
              ∃ arriving leaving : Position,
                arriving.Arrives policy old new ∧ leaving.Leaves policy old new ∧
                  arriving.keys = leaving.keys ∧ arriving.shelves ≠ leaving.shelves ∧
                    Path.ofSegments arriving.keys = path) := by
  let old : Codebase := .cons "u" trivial (.unit "u" (.cons "x" trivial
    (.field "x" ⟨"int", 0, []⟩) (.cons "y" (by decide) (.field "y" ⟨"int", 0, []⟩) .nil))
    .nil .nil) .nil
  let new : Codebase := .cons "u" trivial (.unit "u"
    (.cons "y" trivial (.field "y" ⟨"text", 0, []⟩) .nil)
    (.cons "x" trivial (.function "x" ⟨"int", 0, []⟩ []) .nil) .nil) .nil
  have hnamed : new.NamedByKeys := by decide
  have hold : old.Segmented := by decide
  have hnew : new.Segmented := by decide
  have hok : (Codebase.compare (.ofBool fun _ => false) old new).outcome = .ok .major := by decide
  exact ⟨_, old, new, hnamed, hold, hnew, hok, fun path _ =>
    introduced_and_removed_iff hnamed hold hnew hok⟩

end ApiDrift
