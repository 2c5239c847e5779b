import ApiDrift.Proofs.Comparison.Lockstep
import ApiDrift.Proofs.Comparison.Success
import ApiDrift.Proofs.Overloads.Widening

/-!
# Comparing with types that accept more

Let a new codebase be extracted again, with types that accept more and otherwise the same. A comparison with it goes the same way as before, since names, kinds and keys are what they were: it asks about the same paths, and where it fails it fails alike. What it finds at a pair is softened, and so is the changelog as a whole.
-/

namespace ApiDrift

open Comparison

/-! ### Gentler comparisons -/

/-- Both succeed, the first with no higher severity, or both fail alike. -/
inductive NoWorse : Except Failure Bump → Except Failure Bump → Prop
  | ok {gentle harsh : Bump} (hle : gentle ≤ harsh) : NoWorse (.ok gentle) (.ok harsh)
  | error (failure : Failure) : NoWorse (.error failure) (.error failure)

theorem NoWorse.refl : ∀ outcome : Except Failure Bump, NoWorse outcome outcome
  | .ok _ => .ok le_rfl
  | .error failure => .error failure

namespace Comparison

variable {α : Type} {gentle harsh gentle' harsh' : Comparison Bump}

/-- A comparison that ends no worse, asks the same, and leaves a softened changelog. -/
structure Gentler (gentle harsh : Comparison Bump) : Prop where
  noWorse : NoWorse gentle.outcome harsh.outcome
  asked_eq : gentle.asked = harsh.asked
  softened : Softened harsh.records gentle.records

theorem Gentler.refl (comparison : Comparison Bump) : Gentler comparison comparison :=
  ⟨.refl _, rfl, .refl _⟩

/-- What follows the same beginning may be gentler. -/
theorem Gentler.after (first : Comparison α) {gentle harsh : α → Comparison Bump}
    (hnext : ∀ value, Gentler (gentle value) (harsh value)) :
    Gentler (first >>= gentle) (first >>= harsh) := by
  cases hfirst : first.outcome with
  | error failure =>
    rw [bind_of_error hfirst, bind_of_error hfirst]
    exact .refl _
  | ok value =>
    obtain ⟨hnoWorse, hasked, hsoftened⟩ := hnext value
    rw [bind_of_ok hfirst, bind_of_ok hfirst]
    refine ⟨hnoWorse, ?_, ?_⟩
    · rw [asked_append, asked_append]
      exact congrArg (_ ++ ·) hasked
    · rw [records_append, records_append]
      exact .append (.refl _) hsoftened

theorem Gentler.both (hfirst : Gentler gentle harsh) (hsecond : Gentler gentle' harsh') :
    Gentler (both gentle gentle') (both harsh harsh') := by
  obtain ⟨hnoWorse, hasked, hsoftened⟩ := hfirst
  obtain ⟨steps, outcome⟩ := gentle
  obtain ⟨steps', outcome'⟩ := harsh
  cases hnoWorse with
  | error failure => exact ⟨.error failure, hasked, hsoftened⟩
  | ok hle =>
    obtain ⟨hnoWorse', hasked', hsoftened'⟩ := hsecond
    have hsteps : asked ⟨steps ++ gentle'.steps, gentle'.outcome⟩ =
        asked ⟨steps' ++ harsh'.steps, harsh'.outcome⟩ := by
      rw [asked_append, asked_append]
      exact congrArg₂ (· ++ ·) hasked hasked'
    have hrecords : Softened (records ⟨steps' ++ harsh'.steps, harsh'.outcome⟩)
        (records ⟨steps ++ gentle'.steps, gentle'.outcome⟩) := by
      rw [records_append, records_append]
      exact .append hsoftened hsoftened'
    obtain ⟨others, outcome⟩ := gentle'
    obtain ⟨others', outcome'⟩ := harsh'
    cases hnoWorse' with
    | error failure => exact ⟨.error failure, hsteps, hrecords⟩
    | ok hle' =>
      rw [both_of_ok rfl rfl, both_of_ok rfl rfl]
      exact ⟨.ok (max_le_max hle hle'), hsteps, hrecords⟩

theorem Gentler.inTurn {ι : Type} {gentle harsh : ι → Comparison Bump}
    (hall : ∀ part, Gentler (gentle part) (harsh part)) (parts : List ι) :
    Gentler (inTurn (parts.map gentle)) (inTurn (parts.map harsh)) := by
  induction parts with
  | nil => exact .refl _
  | cons part parts ih => exact (hall part).both ih

end Comparison

/-! ### Entities -/

namespace Entity

/-- The same entity, with types that accept more. What a unit holds is not looked at here. -/
structure Widens (wide narrow : Entity) : Prop where
  name_eq : wide.name = narrow.name
  kind_eq : wide.kind = narrow.kind
  type : Option.Rel TypeRef.Widens wide.type? narrow.type?
  signatures : Option.Rel (List.Forall₂ Signature.Widens) wide.signatures? narrow.signatures?

variable {wide narrow : Entity}

theorem Widens.softened_changes (hwidens : wide.Widens narrow) (old : Entity) (path : String) :
    Softened ((old.changes narrow).map (.of path)) ((old.changes wide).map (.of path)) := by
  rw [changes, changes, List.map_append, List.map_append]
  refine .append ?_ ?_
  · rw [typeChange?, typeChange?]
    rcases optionRel_iff.mp hwidens.type with ⟨hwide, hnarrow⟩ | ⟨_, _, hwide, hnarrow, htype⟩
    · rw [hwide, hnarrow]
      exact .refl _
    · rw [hwide, hnarrow]
      cases old.type? with
      | none => exact .nil
      | some oldType => exact htype.softened_change? oldType path
  · rw [overloadDiff, overloadDiff]
    rcases optionRel_iff.mp hwidens.signatures with
      ⟨hwide, hnarrow⟩ | ⟨_, _, hwide, hnarrow, hsignatures⟩
    · rw [hwide, hnarrow]
      exact .refl _
    · rw [hwide, hnarrow]
      cases old.signatures? with
      | none => exact .nil
      | some oldSignatures => exact Overloads.softened_diff hsignatures oldSignatures path

theorem Widens.gentler_ofPair (hwidens : wide.Widens narrow) (path : String) (old : Entity) :
    Gentler (ofPair path old wide) (ofPair path old narrow) := by
  have hsoftened := hwidens.softened_changes old path
  have hworst := hsoftened.worst_le
  rw [List.map_map, List.map_map] at hworst
  refine ⟨?_, ?_, ?_⟩
  · rw [outcome_ofPair, outcome_ofPair]
    exact .ok hworst
  · rw [asked_ofPair, asked_ofPair]
  · rw [records_ofPair, records_ofPair]
    exact hsoftened

end Entity

/-! ### Sites -/

namespace Site

/-- The same site, but that on the new side types accept more. -/
structure Widens (wide narrow : Site) : Prop where
  parentPath_eq : wide.parentPath = narrow.parentPath
  key_eq : wide.key = narrow.key
  old?_eq : wide.old? = narrow.old?
  new? : Option.Rel Entity.Widens wide.new? narrow.new?

variable {wide narrow : Site} (hwidens : wide.Widens narrow)

include hwidens

theorem Widens.related : wide.Related Eq Entity.Widens narrow := by
  refine ⟨hwidens.parentPath_eq, hwidens.key_eq, ?_, hwidens.new?⟩
  rw [hwidens.old?_eq]
  cases narrow.old? with
  | none => exact .none
  | some old => exact .some rfl

theorem Widens.path_eq : wide.path = narrow.path :=
  hwidens.related.path_eq fun _ _ => Entity.Widens.name_eq

theorem Widens.present_iff : wide.Present ↔ narrow.Present := hwidens.related.present_iff

theorem Widens.opened_iff {policy : Policy} : wide.Opened policy ↔ narrow.Opened policy :=
  hwidens.related.opened_iff (fun _ _ => Entity.Widens.name_eq) (fun _ _ => congrArg Entity.kind)
    (fun _ _ => Entity.Widens.kind_eq) policy

variable {wideNew narrowNew : Entity} (hentity : wideNew.Widens narrowNew)

include hentity in
theorem Widens.gentler_compared (old : Entity) :
    Gentler (wide.compared old wideNew) (narrow.compared old narrowNew) := by
  rw [compared, compared, hwidens.path_eq, hentity.kind_eq]
  split
  · exact .after _ fun _ => hentity.gentler_ofPair narrow.path old
  · exact .refl _

include hentity in
theorem Widens.gentler_unlessIgnored (policy : Policy) {gentle harsh : Comparison Bump}
    (hgentler : Gentler gentle harsh) :
    Gentler (wide.unlessIgnored policy wideNew gentle)
      (narrow.unlessIgnored policy narrowNew harsh) := by
  rw [unlessIgnored, unlessIgnored, hwidens.path_eq, hentity.name_eq]
  refine .after _ fun ignored => ?_
  cases ignored with
  | false => exact hgentler
  | true => exact .refl _

theorem Widens.gentler_visit (policy : Policy) :
    Gentler (wide.visit policy) (narrow.visit policy) := by
  have hold := hwidens.old?_eq
  have hpath := hwidens.path_eq
  cases hnarrowOld : narrow.old? with
  | none =>
    rcases optionRel_iff.mp hwidens.new? with ⟨hwide, hnarrow⟩ | ⟨_, _, hwide, hnarrow, -⟩
    all_goals
      rw [visit, visit, hold, hpath, hwide, hnarrow, hnarrowOld]
      exact .refl _
  | some old =>
    rcases optionRel_iff.mp hwidens.new? with ⟨hwide, hnarrow⟩ | ⟨_, _, hwide, hnarrow, hentity⟩
    · rw [visit, visit, hold, hpath, hwide, hnarrow, hnarrowOld]
      exact .refl _
    · rw [visit_of_pair (hold.trans hnarrowOld) hwide, visit_of_pair hnarrowOld hnarrow]
      exact hwidens.gentler_unlessIgnored hentity policy (hwidens.gentler_compared hentity old)

end Site

/-! ### Codebases -/

namespace Codebase

/-- The same codebase, with types that accept more. -/
def Widens (wide narrow : Codebase) : Prop := Throughout Entity.Widens wide narrow

variable {wide narrow : Codebase} (hwidens : wide.Widens narrow)

include hwidens

theorem Widens.site (old : Codebase) (position : Position) :
    (site old wide position).Widens (site old narrow position) := by
  obtain ⟨key, turns⟩ := position
  induction turns using List.reverseRecOn with
  | nil =>
    refine ⟨rfl, rfl, rfl, ?_⟩
    rw [new?_site, new?_site]
    exact hwidens ⟨key, []⟩
  | append_singleton turns last ih =>
    refine ⟨?_, ?_, ?_, ?_⟩
    · rw [Codebase.site, Codebase.site, Site.below_concat, Site.below_concat]
      exact ih.path_eq
    · rw [Codebase.site, Codebase.site, Site.below_concat, Site.below_concat]
      rfl
    · rw [old?_site, old?_site]
    · rw [new?_site, new?_site]
      exact hwidens ⟨key, turns ++ [last]⟩

theorem livePositions_widened (policy : Policy) (old : Codebase) :
    livePositions policy old wide = livePositions policy old narrow := by
  refine livePositions_eq_of_iff fun position =>
    and_congr ?_ (hwidens.site old position).present_iff
  exact forall₂_congr fun above _ => (hwidens.site old above).opened_iff

end Codebase

/-- Comparing with types that accept more succeeds as before and asks the same; it is no more severe, and its changelog is a softened one. -/
theorem widening_softens {wide narrow : Codebase} (hwidens : wide.Widens narrow) (policy : Policy)
    (old : Codebase) :
    Gentler (Codebase.compare policy old wide) (Codebase.compare policy old narrow) := by
  rw [Codebase.compare_eq_inTurn, Codebase.compare_eq_inTurn,
    Codebase.livePositions_widened hwidens]
  exact .inTurn (fun position => (hwidens.site old position).gentler_visit policy) _

/-- Once it is known that `long` accepts `int`, a major change is a patch. -/
theorem widening_softens_long :
    ∃ old wide narrow : Codebase, wide.Widens narrow ∧
      (Codebase.compare (.ofBool fun _ => false) old wide).outcome = .ok .patch ∧
      (Codebase.compare (.ofBool fun _ => false) old narrow).outcome = .ok .major ∧
      Gentler (Codebase.compare (.ofBool fun _ => false) old wide)
        (Codebase.compare (.ofBool fun _ => false) old narrow) := by
  have hlong : TypeRef.Widens ⟨"long", 0, ["int"]⟩ ⟨"long", 0, []⟩ :=
    ⟨rfl, rfl, List.nil_subset _⟩
  have htext : TypeRef.Widens ⟨"text", 0, []⟩ ⟨"text", 0, []⟩ := ⟨rfl, rfl, List.nil_subset _⟩
  have hsignatures : List.Forall₂ Signature.Widens
      [⟨[⟨"x", ⟨"long", 0, ["int"]⟩, none⟩]⟩, ⟨[⟨"x", ⟨"text", 0, []⟩, none⟩]⟩]
      [⟨[⟨"x", ⟨"long", 0, []⟩, none⟩]⟩, ⟨[⟨"x", ⟨"text", 0, []⟩, none⟩]⟩] :=
    .cons (.cons ⟨rfl, hlong, rfl⟩ .nil) (.cons (.cons ⟨rfl, htext, rfl⟩ .nil) .nil)
  have hwidens : Codebase.Widens
      (.cons "f" trivial (.function "f" ⟨"long", 0, ["int"]⟩
        [⟨[⟨"x", ⟨"long", 0, ["int"]⟩, none⟩]⟩, ⟨[⟨"x", ⟨"text", 0, []⟩, none⟩]⟩]) .nil)
      (.cons "f" trivial (.function "f" ⟨"long", 0, []⟩
        [⟨[⟨"x", ⟨"long", 0, []⟩, none⟩]⟩, ⟨[⟨"x", ⟨"text", 0, []⟩, none⟩]⟩]) .nil) :=
    Codebase.throughout_single ⟨rfl, rfl, .some hlong, .some hsignatures⟩
      fun shelf => by cases shelf <;> exact Codebase.throughout_nil
  exact ⟨.cons "f" trivial (.function "f" ⟨"int", 0, []⟩
      [⟨[⟨"x", ⟨"int", 0, []⟩, none⟩]⟩, ⟨[⟨"x", ⟨"text", 0, []⟩, none⟩]⟩]) .nil,
    _, _, hwidens, by decide, by decide, widening_softens hwidens _ _⟩

end ApiDrift
