import ApiDrift.Proofs.Comparison.Promise
import ApiDrift.Proofs.Comparison.Severity
import ApiDrift.Proofs.Comparison.Success
import ApiDrift.Proofs.Overloads.Equivalence
import ApiDrift.Proofs.Throughout

/-!
# What silence means

When nothing is ignored and nothing is reported, the two codebases are equivalent: the same keys at every level, and under each key entities of one kind, with equal types and with overloads between which nothing is reported. The other way about, equivalent codebases are compared in silence. Every codebase is equivalent to itself.
-/

namespace ApiDrift

open Comparison

/-! ### Entities -/

namespace Entity

/-- One kind, equal types and equivalent overloads. What a unit holds is not looked at here. -/
structure Equivalent (old new : Entity) : Prop where
  kind_eq : old.kind = new.kind
  type_beq : Option.Rel (fun oldType newType => (oldType == newType) = true) old.type? new.type?
  overloads : Option.Rel Overloads.Equivalent old.signatures? new.signatures?

theorem equivalent_refl (entity : Entity) : entity.Equivalent entity := by
  refine ⟨rfl, ?_, ?_⟩
  · cases entity.type? with
    | none => exact .none
    | some type => exact .some (beq_self_eq_true type)
  · cases entity.signatures? with
    | none => exact .none
    | some signatures => exact .some (Overloads.equivalent_refl signatures)

theorem typeChange?_eq_none_iff {old new : Entity} (hkinds : old.kind = new.kind) :
    old.typeChange? new = none ↔
      Option.Rel (fun oldType newType => (oldType == newType) = true) old.type? new.type? := by
  cases old <;> cases new <;> cases hkinds
  case unit => exact iff_of_true rfl .none
  all_goals
    rw [type?, type?, Option.rel_some_some]
    exact TypeRef.change?_eq_none_iff

theorem overloadDiff_changes_eq_nil_iff {old new : Entity} (hkinds : old.kind = new.kind) :
    (old.overloadDiff new).changes = [] ↔
      Option.Rel Overloads.Equivalent old.signatures? new.signatures? := by
  cases old <;> cases new <;> cases hkinds
  case function =>
    rw [signatures?, signatures?, Option.rel_some_some]
    exact Overloads.diff_changes_eq_nil_iff
  all_goals exact iff_of_true rfl .none

theorem changes_eq_nil_iff {old new : Entity} (hkinds : old.kind = new.kind) :
    old.changes new = [] ↔ old.Equivalent new := by
  rw [changes, List.append_eq_nil_iff, Option.toList_eq_nil_iff, typeChange?_eq_none_iff hkinds,
    overloadDiff_changes_eq_nil_iff hkinds]
  exact ⟨fun h => ⟨hkinds, h.1, h.2⟩, fun h => ⟨h.type_beq, h.overloads⟩⟩

end Entity

/-! ### Sites -/

namespace Site

variable {site : Site}

/-- A visit succeeds and tells nothing exactly if nothing stands there, or two equivalent entities. -/
theorem silent_iff :
    Succeeds (site.visit .ignoreNothing) ∧ site.records .ignoreNothing = [] ↔
      Option.Rel Entity.Equivalent site.old? site.new? := by
  cases hold : site.old? with
  | none =>
    cases hnew : site.new? with
    | none =>
      rw [visit, records, hold, hnew]
      exact iff_of_true ⟨⟨.patch, rfl⟩, rfl⟩ .none
    | some new =>
      rw [records, hold, hnew]
      exact iff_of_false (by simp) (by rintro ⟨⟩)
  | some old =>
    cases hnew : site.new? with
    | none =>
      rw [records, hold, hnew]
      exact iff_of_false (by simp) (by rintro ⟨⟩)
    | some new =>
      rw [Succeeds, visit_of_pair hold hnew, unlessIgnored_of_kept (Or.inr rfl), outcome_compared,
        records_of_pair hold hnew, if_neg (not_ignored_of_kept (Or.inr rfl)), List.map_eq_nil_iff]
      by_cases hkinds : old.kind = new.kind
      · rw [if_pos hkinds, Entity.changes_eq_nil_iff hkinds]
        constructor
        · rintro ⟨-, hequivalent⟩
          exact .some hequivalent
        · rintro ⟨hequivalent⟩
          exact ⟨⟨_, rfl⟩, by assumption⟩
      · rw [if_neg hkinds]
        refine iff_of_false (by simp) fun hequivalent => ?_
        exact hkinds (Option.rel_some_some.mp hequivalent).kind_eq

end Site

/-! ### Codebases -/

namespace Codebase

/-- The same keys at every level, and equivalent entities under them. -/
def Equivalent (old new : Codebase) : Prop := Throughout Entity.Equivalent old new

theorem equivalent_refl (codebase : Codebase) : codebase.Equivalent codebase := by
  intro position
  cases codebase.at? position with
  | none => exact .none
  | some entity => exact .some entity.equivalent_refl

theorem equivalent_iff_site {old new : Codebase} : old.Equivalent new ↔ ∀ position,
    Option.Rel Entity.Equivalent (site old new position).old? (site old new position).new? := by
  simp only [old?_site, new?_site]
  rfl

end Codebase

/-- A comparison that succeeds and tells nothing. -/
def Comparison.Silent (comparison : Comparison Bump) : Prop :=
  Succeeds comparison ∧ comparison.records = []

namespace Codebase

variable {old new : Codebase}

/-- Nothing told is no more than a patch. -/
theorem outcome_of_silent (hsilent : Silent (compare .ignoreNothing old new)) :
    (compare .ignoreNothing old new).outcome = .ok .patch := by
  obtain ⟨⟨bump, hok⟩, hrecords⟩ := hsilent
  have hbump := weighed_compareAt .ignoreNothing "" old new bump hok
  change bump = .worst .patch ((compare .ignoreNothing old new).records.map _) at hbump
  rw [hrecords] at hbump
  rw [hok, hbump]
  rfl

theorem equivalent_at_live (hsilent : Silent (compare .ignoreNothing old new))
    {position : Position} (hlive : position.Live .ignoreNothing old new)
    (hpresent : (site old new position).Present) :
    Option.Rel Entity.Equivalent (site old new position).old? (site old new position).new? := by
  obtain ⟨hsucceeds, hrecords⟩ := hsilent
  have hmem := mem_livePositions_iff.mpr ⟨hlive, hpresent⟩
  rw [records_of_succeeds hsucceeds, List.flatMap_eq_nil_iff] at hrecords
  exact Site.silent_iff.mp ⟨succeeds_iff.mp hsucceeds position hmem, hrecords position hmem⟩

/-- Without a word on either side everything is live, so everything was looked at. -/
theorem equivalent_of_silent (hsilent : Silent (compare .ignoreNothing old new)) :
    old.Equivalent new := by
  have hok := outcome_of_silent hsilent
  rw [equivalent_iff_site]
  intro position
  cases hold : (site old new position).old? with
  | some entity =>
    have hlive := live_of_old hok (by decide) hold
    exact hold ▸ equivalent_at_live hsilent hlive (Or.inl (Option.isSome_of_eq_some hold))
  | none =>
    cases hnew : (site old new position).new? with
    | none => exact .none
    | some entity =>
      have hlive := live_of_new hok le_rfl hnew
      have hequivalent :=
        equivalent_at_live hsilent hlive (Or.inr (Option.isSome_of_eq_some hnew))
      rwa [hold, hnew] at hequivalent

theorem silent_of_equivalent (hequivalent : old.Equivalent new) :
    Silent (compare .ignoreNothing old new) := by
  have hsites := fun position => Site.silent_iff.mpr (equivalent_iff_site.mp hequivalent position)
  have hsucceeds : Succeeds (compare .ignoreNothing old new) :=
    succeeds_iff.mpr fun position _ => (hsites position).1
  refine ⟨hsucceeds, ?_⟩
  rw [records_of_succeeds hsucceeds, List.flatMap_eq_nil_iff]
  exact fun position _ => (hsites position).2

theorem silent_iff : Silent (compare .ignoreNothing old new) ↔ old.Equivalent new :=
  ⟨equivalent_of_silent, silent_of_equivalent⟩

end Codebase

/-- Where nothing is ignored, a comparison succeeds and tells nothing exactly if the codebases are equivalent, and then it is a patch. So every codebase is silent against itself. -/
theorem silence_means_equivalence :
    (∀ old new, Silent (Codebase.compare .ignoreNothing old new) ↔ old.Equivalent new) ∧
      (∀ old new, (Codebase.compare .ignoreNothing old new).outcome = .ok .patch ∧
        (Codebase.compare .ignoreNothing old new).records = [] ↔ old.Equivalent new) ∧
      ∀ codebase, Silent (Codebase.compare .ignoreNothing codebase codebase) := by
  refine ⟨fun _ _ => Codebase.silent_iff, fun old new => ?_, fun codebase => ?_⟩
  · rw [← Codebase.silent_iff]
    constructor
    · rintro ⟨hok, hrecords⟩
      exact ⟨⟨.patch, hok⟩, hrecords⟩
    · intro hsilent
      exact ⟨Codebase.outcome_of_silent hsilent, hsilent.2⟩
  · exact Codebase.silent_of_equivalent codebase.equivalent_refl

end ApiDrift
