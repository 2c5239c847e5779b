import ApiDrift.Proofs.Overloads.Serves
import ApiDrift.Proofs.Walk

/-!
# What a severity promises

Where nothing is ignored and no change is major, every entity of the old codebase has a counterpart at its position in the new one, and code written against the old entity keeps working with it. Where nothing is worse than a patch, nothing stands at a position that the old codebase does not have.
-/

namespace ApiDrift

open Comparison

/-- No entity is left out of the comparison. -/
def Policy.ignoreNothing : Policy := .ofBool fun _ => false

namespace Entity

/-- Code written against the old entity keeps working with the new one: the kind is the same, the type stands in for the old one, and each overload is served by some overload. -/
structure Serves (new old : Entity) : Prop where
  kind_eq : new.kind = old.kind
  standsIn : ∀ type, old.type? = some type →
    ∃ other, new.type? = some other ∧ other.standsInFor type = true
  overloads : ∀ signatures, old.signatures? = some signatures →
    ∃ others, new.signatures? = some others ∧
      ∀ signature ∈ signatures, ∃ other ∈ others, other.Serves signature

theorem isSome_type?_iff {entity : Entity} : entity.type?.isSome ↔ entity.kind ≠ .unit := by
  cases entity <;> simp [type?, kind]

theorem isSome_signatures?_iff {entity : Entity} :
    entity.signatures?.isSome ↔ entity.kind = .function := by
  cases entity <;> simp [signatures?, kind]

theorem serves_of_changes {old new : Entity} (hkinds : old.kind = new.kind)
    (hminor : ∀ change ∈ old.changes new, change.severity < .major) : new.Serves old := by
  have htype : ∀ change ∈ old.typeChange? new, change.severity < .major := by
    intro change hchange
    exact hminor change (List.mem_append_left _ (Option.mem_toList.mpr hchange))
  have hoverloads : ∀ change ∈ (old.overloadDiff new).changes, change.severity < .major := by
    intro change hchange
    exact hminor change (List.mem_append_right _ hchange)
  refine ⟨hkinds.symm, fun type hold => ?_, fun signatures hold => ?_⟩
  · have hsome : new.type?.isSome := by
      rw [isSome_type?_iff, ← hkinds, ← isSome_type?_iff, hold]
      rfl
    obtain ⟨other, hnew⟩ := Option.isSome_iff_exists.mp hsome
    rw [typeChange?, hold, hnew] at htype
    exact ⟨other, hnew, TypeRef.standsInFor_of_lt_major htype⟩
  · have hsome : new.signatures?.isSome := by
      rw [isSome_signatures?_iff, ← hkinds, ← isSome_signatures?_iff, hold]
      rfl
    obtain ⟨others, hnew⟩ := Option.isSome_iff_exists.mp hsome
    rw [overloadDiff, hold, hnew] at hoverloads
    exact ⟨others, hnew, Overloads.exists_serves_of_diff hoverloads⟩

end Entity

/-! ### One site -/

namespace Site

variable {site : Site} {bump : Bump}

theorem outcome_visit_of_removed {policy : Policy} {old : Entity} (hold : site.old? = some old)
    (hnew : site.new? = none) : (site.visit policy).outcome = .ok .major := by
  rw [visit, hold, hnew]
  rfl

theorem outcome_visit_of_introduced {policy : Policy} {new : Entity} (hold : site.old? = none)
    (hnew : site.new? = some new) : (site.visit policy).outcome = .ok .minor := by
  rw [visit, hold, hnew]
  rfl

/-- An entity whose visit finds no major change has a counterpart that serves in its place. -/
theorem exists_serves_of_visit (hok : (site.visit .ignoreNothing).outcome = .ok bump)
    (hminor : bump < .major) {old : Entity} (hold : site.old? = some old) :
    ∃ new, site.new? = some new ∧ new.Serves old := by
  cases hnew : site.new? with
  | none =>
    rw [outcome_visit_of_removed hold hnew] at hok
    cases hok
    exact absurd hminor (lt_irrefl _)
  | some new =>
    rw [visit_of_pair hold hnew, unlessIgnored_of_kept (Or.inr rfl), outcome_compared] at hok
    split at hok
    case isFalse => cases hok
    case isTrue hkinds =>
      cases hok
      refine ⟨new, rfl, Entity.serves_of_changes hkinds fun change hchange => ?_⟩
      exact (Bump.le_worst_of_mem .patch (List.mem_map_of_mem hchange)).trans_lt hminor

/-- An entity whose visit finds nothing worse than a patch is no new one. -/
theorem exists_old_of_visit (hok : (site.visit .ignoreNothing).outcome = .ok bump)
    (hpatch : bump ≤ .patch) {new : Entity} (hnew : site.new? = some new) :
    ∃ old, site.old? = some old ∧ new.Serves old := by
  cases hold : site.old? with
  | none =>
    rw [outcome_visit_of_introduced hold hnew] at hok
    cases hok
    exact absurd hpatch (by decide)
  | some old =>
    obtain ⟨other, hother, hserves⟩ :=
      exists_serves_of_visit hok (hpatch.trans_lt (by decide)) hold
    obtain rfl := Option.some.inj (hnew.symm.trans hother)
    exact ⟨old, rfl, hserves⟩

theorem opened_of_serves {old new : Entity} (hold : site.old? = some old)
    (hnew : site.new? = some new) (hserves : new.Serves old) (hkind : old.kind = .unit) :
    site.Opened .ignoreNothing :=
  ⟨old, new, hold, hnew, hkind, hserves.kind_eq.trans hkind, Or.inr rfl⟩

end Site

/-! ### All positions -/

namespace Codebase

variable {old new : Codebase} {bump : Bump}

/-- On one side, every position is live at which something stands if live units are opened. -/
theorem live_of_stands {policy : Policy} {side : Site → Option Entity}
    (hside : ∀ site turn, side (site.child turn) = (side site).bind (·.child? turn))
    (hopened : ∀ position entity, position.Live policy old new →
      side (site old new position) = some entity → entity.kind = .unit →
        (site old new position).Opened policy)
    {position : Position} {entity : Entity} (hstands : side (site old new position) = some entity) :
    position.Live policy old new := by
  obtain ⟨key, turns⟩ := position
  rw [Position.live_iff_reached]
  induction turns using List.reverseRecOn generalizing entity with
  | nil => exact Site.reached_nil _ _
  | append_singleton turns last ih =>
    rw [site, Site.below_concat, hside, Option.bind_eq_some_iff] at hstands
    obtain ⟨parent, hparent, hchild⟩ := hstands
    have hreached := ih hparent
    exact Site.reached_concat.mpr ⟨hreached, hopened ⟨key, turns⟩ parent
      (Position.live_iff_reached.mpr hreached) hparent (Entity.kind_of_child? hchild)⟩

variable (hok : (compare .ignoreNothing old new).outcome = .ok bump)

include hok

/-- Without a major change, every live entity of the old codebase has a counterpart. -/
theorem exists_serves_of_live (hminor : bump < .major) {position : Position} {entity : Entity}
    (hlive : position.Live .ignoreNothing old new)
    (hold : (site old new position).old? = some entity) :
    ∃ other, (site old new position).new? = some other ∧ other.Serves entity := by
  have hpresent : (site old new position).Present := Or.inl (Option.isSome_of_eq_some hold)
  have hmem := mem_livePositions_iff.mpr ⟨hlive, hpresent⟩
  obtain ⟨part, hpart, hle⟩ := visit_of_compare_ok hok hmem
  exact Site.exists_serves_of_visit hpart (hle.trans_lt hminor) hold

/-- Without anything worse than a patch, no live entity of the new codebase is a new one. -/
theorem exists_old_of_live (hpatch : bump ≤ .patch) {position : Position} {entity : Entity}
    (hlive : position.Live .ignoreNothing old new)
    (hnew : (site old new position).new? = some entity) :
    ∃ other, (site old new position).old? = some other ∧ entity.Serves other := by
  have hpresent : (site old new position).Present := Or.inr (Option.isSome_of_eq_some hnew)
  have hmem := mem_livePositions_iff.mpr ⟨hlive, hpresent⟩
  obtain ⟨part, hpart, hle⟩ := visit_of_compare_ok hok hmem
  exact Site.exists_old_of_visit hpart (hle.trans hpatch) hnew

theorem live_of_old (hminor : bump < .major) {position : Position} {entity : Entity}
    (hold : (site old new position).old? = some entity) : position.Live .ignoreNothing old new := by
  refine live_of_stands (fun _ _ => rfl) (fun position entity hlive hold hkind => ?_) hold
  obtain ⟨other, hnew, hserves⟩ := exists_serves_of_live hok hminor hlive hold
  exact Site.opened_of_serves hold hnew hserves hkind

theorem live_of_new (hpatch : bump ≤ .patch) {position : Position} {entity : Entity}
    (hnew : (site old new position).new? = some entity) : position.Live .ignoreNothing old new := by
  refine live_of_stands (fun _ _ => rfl) (fun position entity hlive hnew hkind => ?_) hnew
  obtain ⟨other, hold, hserves⟩ := exists_old_of_live hok hpatch hlive hnew
  exact Site.opened_of_serves hold hnew hserves (hserves.kind_eq.symm.trans hkind)

end Codebase

/-- A severity below major promises that whatever the old codebase has at any position, the new one has something there that serves in its place. A patch promises that the new one has no position more. -/
theorem compare_promises {old new : Codebase} {bump : Bump}
    (hok : (Codebase.compare .ignoreNothing old new).outcome = .ok bump) (hminor : bump < .major) :
    (∀ position entity, old.at? position = some entity →
        ∃ other, new.at? position = some other ∧ other.Serves entity) ∧
      (bump = .patch → ∀ position, (new.at? position).isSome → (old.at? position).isSome) := by
  constructor
  · intro position entity hold
    rw [← Codebase.old?_site old new] at hold
    rw [← Codebase.new?_site old new]
    exact Codebase.exists_serves_of_live hok hminor (Codebase.live_of_old hok hminor hold) hold
  · intro hpatch position hnew
    obtain ⟨entity, hentity⟩ := Option.isSome_iff_exists.mp hnew
    rw [← Codebase.new?_site old new] at hentity
    rw [← Codebase.old?_site old new]
    have hlive := Codebase.live_of_new hok hpatch.le hentity
    obtain ⟨other, hother, -⟩ := Codebase.exists_old_of_live hok hpatch.le hlive hentity
    exact Option.isSome_of_eq_some hother

/-- One overload evolves into one that takes a wider type, and a third overload is new. -/
theorem compare_promises_overload_evolved :
    ∃ old new : Codebase,
      (Codebase.compare .ignoreNothing old new).outcome = .ok .minor ∧ Bump.minor < .major ∧
        (∀ position entity, old.at? position = some entity →
          ∃ other, new.at? position = some other ∧ other.Serves entity) ∧
        (Bump.minor = .patch →
          ∀ position, (new.at? position).isSome → (old.at? position).isSome) := by
  have hok : (Codebase.compare .ignoreNothing
      (.cons "u" trivial (.unit "u" .nil (.cons "f" trivial (.function "f" ⟨"int", 0, []⟩
        [⟨[⟨"x", ⟨"int", 0, []⟩, none⟩]⟩, ⟨[⟨"x", ⟨"text", 0, []⟩, none⟩]⟩]) .nil) .nil) .nil)
      (.cons "u" trivial (.unit "u" .nil (.cons "f" trivial (.function "f" ⟨"int", 0, []⟩
        [⟨[⟨"x", ⟨"text", 0, []⟩, none⟩]⟩, ⟨[⟨"x", ⟨"long", 0, ["int"]⟩, none⟩]⟩, ⟨[]⟩])
          .nil) .nil) .nil)).outcome = .ok .minor := by decide
  exact ⟨_, _, hok, by decide, compare_promises hok (by decide)⟩

end ApiDrift
