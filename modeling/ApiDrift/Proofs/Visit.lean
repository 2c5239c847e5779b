import ApiDrift.Proofs.Comparison.Sequence
import ApiDrift.Proofs.Position

/-!
# Visits

A visit is what a comparison does at one site, without what lies below it: it asks the ignore policy, checks that both entities are of one kind, and finds the changes of the pair itself. Below, a visit is described without its steps: when it fails and with which failure, and which records it leaves when it does not.
-/

namespace ApiDrift

namespace Policy

theorem ask_of_ok {policy : Policy} {path : String} {answer : Bool}
    (hok : policy path = .ok answer) : policy.ask path = .ok answer := by
  rw [ask, hok]

theorem ask_of_policyFailed {policy : Policy} {path asked message : String}
    (herror : policy path = .error (.policyFailed asked message)) :
    policy.ask path = .error (.policyFailed asked message) := by
  rw [ask, herror]

theorem ask_of_other {policy : Policy} {path : String} {other : Failure}
    (herror : policy path = .error other)
    (hother : ∀ asked message, other ≠ .policyFailed asked message) :
    policy.ask path = .error (.policyFailed path other.text) := by
  rw [ask, herror]
  cases other with
  | policyFailed asked message => exact absurd rfl (hother asked message)
  | shapeMismatch | invalidPattern | invalidVersion => rfl

theorem exists_ask_of_error {policy : Policy} {path : String} {failure : Failure}
    (herror : policy path = .error failure) : ∃ asked, policy.ask path = .error asked := by
  rw [ask, herror]
  cases failure <;> exact ⟨_, rfl⟩

end Policy

namespace Entity

/-- Only fields and functions have a type that can change. -/
def typeChange? (old new : Entity) : Option Change :=
  match old.type?, new.type? with
  | some oldType, some newType => oldType.change? newType
  | _, _ => none

/-- Only functions have overloads. -/
def overloadDiff (old new : Entity) : Overloads.Diff :=
  match old.signatures?, new.signatures? with
  | some oldSignatures, some newSignatures => Overloads.diff oldSignatures newSignatures
  | _, _ => ⟨[], []⟩

/-- What changed from one entity to another, apart from what lies below them: the type first, and then the overloads. -/
def changes (old new : Entity) : List Change :=
  (old.typeChange? new).toList ++ (old.overloadDiff new).changes

end Entity

namespace Comparison

theorem ignores_of_unnamed (policy : Policy) (path : String) {name : String} (hname : name = "") :
    ignores policy path name = pure false := by
  rw [ignores, if_pos (String.isEmpty_iff.mpr hname)]

theorem ignores_of_named (policy : Policy) (path : String) {name : String} (hname : name ≠ "") :
    ignores policy path name = ⟨[.asked path], policy.ask path⟩ := by
  rw [ignores, if_neg (fun h => hname (String.isEmpty_iff.mp h))]

/-- The changes of a pair of one kind, with the reconciled overloads told between them. -/
def ofPair (path : String) (old new : Entity) : Comparison Bump :=
  both (foundAt path (old.typeChange? new).toList) do
    note ((old.overloadDiff new).reconciled.map .reconciled)
    foundAt path (old.overloadDiff new).changes

theorem steps_ofPair (path : String) (old new : Entity) :
    (ofPair path old new).steps =
      (old.typeChange? new).toList.map (.found path) ++
        ((old.overloadDiff new).reconciled.map .reconciled ++
          (old.overloadDiff new).changes.map (.found path)) := by
  rw [ofPair, both_of_ok rfl rfl]
  rfl

theorem records_foundAt (path : String) (changes : List Change) :
    (foundAt path changes).records = changes.map (.of path) := by
  rw [records, foundAt, List.filterMap_map]
  exact congrFun List.filterMap_eq_map changes

theorem records_reconciled (pairs : List Reconciliation) (outcome : Except Failure Bump) :
    records ⟨pairs.map .reconciled, outcome⟩ = [] := by
  rw [records, List.filterMap_map]
  exact List.filterMap_eq_nil_iff.mpr fun _ _ => rfl

theorem outcome_ofPair (path : String) (old new : Entity) :
    (ofPair path old new).outcome =
      .ok (.worst .patch ((old.changes new).map Change.severity)) := by
  rw [Entity.changes, List.map_append, Bump.worst_append]
  rfl

theorem records_ofPair (path : String) (old new : Entity) :
    (ofPair path old new).records = (old.changes new).map (.of path) := by
  have hoverloads : Comparison.records (do
      note ((old.overloadDiff new).reconciled.map .reconciled)
      foundAt path (old.overloadDiff new).changes) =
        (old.overloadDiff new).changes.map (.of path) := by
    rw [bind_of_ok rfl, records_append, ← records_foundAt]
    exact congrArg (· ++ _) (records_reconciled _ _)
  rw [ofPair, records_both_of_ok rfl rfl, records_foundAt, hoverloads, Entity.changes,
    List.map_append]

end Comparison

open Comparison

namespace Site

/-- What a comparison does with a pair that is not ignored. -/
def compared (site : Site) (old new : Entity) : Comparison Bump :=
  if old.kind = new.kind then do
    note [.visited site.path new.kind]
    ofPair site.path old new
  else fail (.shapeMismatch site.path old.kind new.kind)

/-- A pair is passed over if it is ignored. -/
def unlessIgnored (policy : Policy) (site : Site) (new : Entity) (rest : Comparison Bump) :
    Comparison Bump := do
  if ← ignores policy site.path new.name then
    note [.ignored site.path]
    return .patch
  else rest

/-- What a comparison does at a site, without what lies below it. -/
def visit (policy : Policy) (site : Site) : Comparison Bump :=
  match site.old?, site.new? with
  | none, none => pure .patch
  | none, some _ => foundAt site.path [.entityWasIntroduced]
  | some _, none => foundAt site.path [.entityWasRemoved]
  | some old, some new => site.unlessIgnored policy new (site.compared old new)

/-- The ways to fail at a site: the policy fails as one, it fails in another way, or it does not ignore the pair and the kinds differ. Nothing is asked about an entity without a name. -/
inductive Fails (policy : Policy) (site : Site) : Failure → Prop
  | refused {old new : Entity} {asked message : String} (hold : site.old? = some old)
      (hnew : site.new? = some new) (hname : new.name ≠ "")
      (hpolicy : policy site.path = .error (.policyFailed asked message)) :
      Fails policy site (.policyFailed asked message)
  | wrapped {old new : Entity} {other : Failure} (hold : site.old? = some old)
      (hnew : site.new? = some new) (hname : new.name ≠ "")
      (hpolicy : policy site.path = .error other)
      (hother : ∀ asked message, other ≠ .policyFailed asked message) :
      Fails policy site (.policyFailed site.path other.text)
  | mismatched {old new : Entity} (hold : site.old? = some old) (hnew : site.new? = some new)
      (hkept : new.name = "" ∨ policy site.path = .ok false) (hkinds : old.kind ≠ new.kind) :
      Fails policy site (.shapeMismatch site.path old.kind new.kind)

/-- A pair is ignored when its new entity has a name and the policy says so. -/
def Ignored (policy : Policy) (site : Site) (new : Entity) : Prop :=
  new.name ≠ "" ∧ policy site.path = .ok true

instance (policy : Policy) (site : Site) (new : Entity) : Decidable (site.Ignored policy new) :=
  inferInstanceAs (Decidable (_ ∧ _))

/-- The records of a site where nothing fails. -/
def records (policy : Policy) (site : Site) : List ChangeRecord :=
  match site.old?, site.new? with
  | none, none => []
  | none, some _ => [.of site.path .entityWasIntroduced]
  | some _, none => [.of site.path .entityWasRemoved]
  | some old, some new =>
    if site.Ignored policy new then [] else (old.changes new).map (.of site.path)

/-! ### The cases of a pair -/

section Pair

variable {policy : Policy} {site : Site} {old new : Entity}

theorem pair_cases (policy : Policy) (site : Site) (new : Entity) :
    site.Ignored policy new ∨ (new.name = "" ∨ policy site.path = .ok false) ∨
      new.name ≠ "" ∧ ∃ failure, policy site.path = .error failure := by
  by_cases hname : new.name = ""
  · exact Or.inr (Or.inl (Or.inl hname))
  · cases hpolicy : policy site.path with
    | error failure => exact Or.inr (Or.inr ⟨hname, failure, rfl⟩)
    | ok answer =>
      cases answer with
      | true => exact Or.inl ⟨hname, hpolicy⟩
      | false => exact Or.inr (Or.inl (Or.inr rfl))

theorem not_ignored_of_kept (hkept : new.name = "" ∨ policy site.path = .ok false) :
    ¬ site.Ignored policy new := by
  rintro ⟨hname, hpolicy⟩
  rcases hkept with hempty | hfalse
  · exact hname hempty
  · rw [hfalse] at hpolicy
    cases hpolicy

theorem unlessIgnored_of_ignored (hignored : site.Ignored policy new) (rest : Comparison Bump) :
    site.unlessIgnored policy new rest = ⟨[.asked site.path, .ignored site.path], .ok .patch⟩ := by
  rw [unlessIgnored, ignores_of_named _ _ hignored.1, Policy.ask_of_ok hignored.2]
  rfl

theorem unlessIgnored_of_kept (hkept : new.name = "" ∨ policy site.path = .ok false)
    (rest : Comparison Bump) :
    site.unlessIgnored policy new rest =
      ⟨(if new.name = "" then [] else [.asked site.path]) ++ rest.steps, rest.outcome⟩ := by
  rw [unlessIgnored]
  by_cases hname : new.name = ""
  · rw [ignores_of_unnamed _ _ hname, if_pos hname]
    rfl
  · rw [ignores_of_named _ _ hname, if_neg hname, Policy.ask_of_ok (hkept.resolve_left hname)]
    rfl

theorem unlessIgnored_of_policy_error {failure : Failure} (hname : new.name ≠ "")
    (herror : policy.ask site.path = .error failure) (rest : Comparison Bump) :
    site.unlessIgnored policy new rest = ⟨[.asked site.path], .error failure⟩ := by
  rw [unlessIgnored, ignores_of_named _ _ hname, herror]
  rfl

variable (hold : site.old? = some old) (hnew : site.new? = some new)

include hold hnew

theorem visit_of_pair :
    site.visit policy = site.unlessIgnored policy new (site.compared old new) := by
  rw [visit, hold, hnew]

theorem records_of_pair :
    site.records policy =
      if site.Ignored policy new then [] else (old.changes new).map (.of site.path) := by
  rw [records, hold, hnew]

end Pair

/-! ### Outcome and records of a visit -/

variable {policy : Policy} {site : Site}

theorem outcome_compared (old new : Entity) :
    (site.compared old new).outcome =
      if old.kind = new.kind then .ok (.worst .patch ((old.changes new).map Change.severity))
      else .error (.shapeMismatch site.path old.kind new.kind) := by
  rw [compared]
  split
  · exact outcome_ofPair site.path old new
  · rfl

theorem records_compared (old new : Entity) :
    (site.compared old new).records =
      if old.kind = new.kind then (old.changes new).map (.of site.path) else [] := by
  rw [compared]
  split
  · exact records_ofPair site.path old new
  · rfl

/-- Asking leaves no record. -/
theorem records_asked_append (name path : String) (comparison : Comparison Bump) :
    Comparison.records ⟨(if name = "" then [] else [.asked path]) ++ comparison.steps,
      comparison.outcome⟩ = comparison.records := by
  rw [records_append]
  split <;> rfl

/-- A visit that fails has found nothing. -/
theorem visit_of_fails {failure : Failure} (hfails : site.Fails policy failure) :
    (site.visit policy).outcome = .error failure ∧ (site.visit policy).records = [] := by
  cases hfails with
  | refused hold hnew hname hpolicy =>
    rw [visit_of_pair hold hnew,
      unlessIgnored_of_policy_error hname (Policy.ask_of_policyFailed hpolicy)]
    exact ⟨rfl, rfl⟩
  | wrapped hold hnew hname hpolicy hother =>
    rw [visit_of_pair hold hnew,
      unlessIgnored_of_policy_error hname (Policy.ask_of_other hpolicy hother)]
    exact ⟨rfl, rfl⟩
  | mismatched hold hnew hkept hkinds =>
    rw [visit_of_pair hold hnew, unlessIgnored_of_kept hkept, records_asked_append,
      records_compared, outcome_compared, if_neg hkinds, if_neg hkinds]
    exact ⟨rfl, rfl⟩

theorem fails_of_policy_error {old new : Entity} (hold : site.old? = some old)
    (hnew : site.new? = some new) (hname : new.name ≠ "") {other : Failure}
    (hpolicy : policy site.path = .error other) : ∃ failure, site.Fails policy failure := by
  by_cases hpolicyFailed : ∃ asked message, other = .policyFailed asked message
  · obtain ⟨asked, message, rfl⟩ := hpolicyFailed
    exact ⟨_, .refused hold hnew hname hpolicy⟩
  · refine ⟨_, .wrapped hold hnew hname hpolicy fun asked message h => ?_⟩
    exact hpolicyFailed ⟨asked, message, h⟩

/-- Where nothing fails, a visit leaves the records of its site, and it is as severe as the worst of them. -/
def Settled (policy : Policy) (site : Site) : Prop :=
  (site.visit policy).outcome =
      .ok (.worst .patch ((site.records policy).map (·.change.severity))) ∧
    (site.visit policy).records = site.records policy

theorem settled_of_old?_eq_none (hold : site.old? = none) : site.Settled policy := by
  cases hnew : site.new? <;> rw [Settled, visit, records, hold, hnew] <;> exact ⟨rfl, rfl⟩

theorem settled_of_new?_eq_none (hnew : site.new? = none) : site.Settled policy := by
  cases hold : site.old? <;> rw [Settled, visit, records, hold, hnew] <;> exact ⟨rfl, rfl⟩

theorem fails_or_settled (policy : Policy) (site : Site) :
    (∃ failure, site.Fails policy failure) ∨ site.Settled policy := by
  cases hold : site.old? with
  | none => exact Or.inr (settled_of_old?_eq_none hold)
  | some old =>
    cases hnew : site.new? with
    | none => exact Or.inr (settled_of_new?_eq_none hnew)
    | some new =>
      rcases pair_cases policy site new with hignored | hkept | ⟨hname, other, hother⟩
      · right
        rw [Settled, visit_of_pair hold hnew, unlessIgnored_of_ignored hignored,
          records_of_pair hold hnew, if_pos hignored]
        exact ⟨rfl, rfl⟩
      · by_cases hkinds : old.kind = new.kind
        · right
          rw [Settled, visit_of_pair hold hnew, unlessIgnored_of_kept hkept, records_asked_append,
            records_compared, outcome_compared, if_pos hkinds, if_pos hkinds,
            records_of_pair hold hnew, if_neg (not_ignored_of_kept hkept), List.map_map]
          exact ⟨rfl, rfl⟩
        · exact Or.inl ⟨_, .mismatched hold hnew hkept hkinds⟩
      · exact Or.inl (fails_of_policy_error hold hnew hname hother)

theorem outcome_visit_eq_error_iff {failure : Failure} :
    (site.visit policy).outcome = .error failure ↔ site.Fails policy failure := by
  constructor
  · intro herror
    rcases fails_or_settled policy site with ⟨other, hfails⟩ | ⟨hok, -⟩
    · obtain rfl := Except.error.inj (herror.symm.trans (visit_of_fails hfails).1)
      exact hfails
    · rw [hok] at herror
      cases herror
  · intro hfails
    exact (visit_of_fails hfails).1

theorem settled_of_ok {bump : Bump} (hok : (site.visit policy).outcome = .ok bump) :
    site.Settled policy := by
  rcases fails_or_settled policy site with ⟨failure, hfails⟩ | hsettled
  · rw [(visit_of_fails hfails).1] at hok
    cases hok
  · exact hsettled

theorem records_visit {bump : Bump} (hok : (site.visit policy).outcome = .ok bump) :
    (site.visit policy).records = site.records policy :=
  (settled_of_ok hok).2

/-- A visit is as severe as its worst record, and at least a patch. -/
theorem outcome_visit_of_ok {bump : Bump} (hok : (site.visit policy).outcome = .ok bump) :
    bump = .worst .patch ((site.records policy).map (·.change.severity)) :=
  Except.ok.inj (hok.symm.trans (settled_of_ok hok).1)

theorem floored_visit (policy : Policy) (site : Site) : Floored (site.visit policy) := by
  intro bump hok
  rw [outcome_visit_of_ok hok]
  exact Bump.floor_le_worst _ _

end Site

end ApiDrift
