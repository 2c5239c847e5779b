import ApiDrift.Proofs.Throughout
import ApiDrift.Proofs.Walk

/-!
# A differ that writes as it goes

A comparison leaves its steps behind. A differ writes them down while it works: each question to the ignore policy, and each change, if it was given a changelog. It looks every key up on both sides and keeps the severity as it grows. At the first failure it stops, and what was written stays. Both are one: a differ writes what replaying the comparison writes.
-/

namespace ApiDrift

open Comparison

/-- The paths that were asked about, and a changelog if there is one to write. -/
structure Journal where
  asked : List String
  changelog? : Option (List ChangeRecord)

namespace Journal

def ask (journal : Journal) (path : String) : Journal :=
  { journal with asked := journal.asked ++ [path] }

def enter (journal : Journal) (record : ChangeRecord) : Journal :=
  { journal with changelog? := journal.changelog?.map (· ++ [record]) }

/-- What else a comparison does is for the log and not for the journal. -/
def take (journal : Journal) : Step → Journal
  | .asked path => journal.ask path
  | .found path change => journal.enter (.of path change)
  | .ignored _ | .visited .. | .reconciled _ => journal

end Journal

abbrev Differ := ExceptT Failure (StateM Journal)

namespace Differ

def ask (policy : Policy) (path : String) : Differ Bool := do
  modify (·.ask path)
  ofExcept (policy.ask path)

def ignores (policy : Policy) (path name : String) : Differ Bool :=
  if name.isEmpty then pure false else ask policy path

/-- A change counts whether or not there is a changelog. -/
def emit (path : String) (worst : Bump) (change : Change) : Differ Bump := do
  modify (·.enter (.of path change))
  return max worst change.severity

end Differ

theorem Entity.sizeOf_shelf (entity : Entity) (shelf : Shelf) :
    sizeOf (entity.shelf shelf) < sizeOf entity := by
  cases entity with
  | field name type =>
    cases type
    cases shelf <;> simp [Entity.shelf, Entity.children?] <;> omega
  | function name type signatures =>
    cases type
    cases shelf <;> simp [Entity.shelf, Entity.children?] <;> omega
  | unit name fields functions units =>
    cases shelf <;> simp [Entity.shelf, Entity.children?] <;> omega

namespace Differ

mutual

/-- Compares two entities below a path. -/
def compareEntities (policy : Policy) (path : String) (old new : Entity) : Differ Bump := do
  let entityPath := Path.join path new.name
  if ← ignores policy entityPath new.name then
    return .patch
  else if old.kind = new.kind then
    let ofType ← (old.typeChange? new).toList.foldlM (emit entityPath) .patch
    let ofPair ← (old.overloadDiff new).changes.foldlM (emit entityPath) ofType
    Shelf.all.foldlM (fun worst shelf => do
      let ofShelf ←
        compareCollections policy entityPath (old.shelf shelf) (new.shelf shelf)
      return max worst ofShelf) ofPair
  else
    throw (.shapeMismatch entityPath old.kind new.kind)
termination_by sizeOf old
decreasing_by exact old.sizeOf_shelf shelf

/-- Compares two collections of children at a path. -/
def compareCollections (policy : Policy) (path : String) (old new : Codebase) : Differ Bump :=
  (jointKeys old.keys new.keys).foldlM (fun worst key =>
    match _ : old.get? key, new.get? key with
    | none, none => return worst
    | none, some _ => emit (Path.join path key) worst .entityWasIntroduced
    | some _, none => emit (Path.join path key) worst .entityWasRemoved
    | some oldChild, some newChild => do
      let ofPair ← compareEntities policy path oldChild newChild
      return max worst ofPair) .patch
termination_by sizeOf old
decreasing_by exact Keyed.sizeOf_get? old ‹_›

end

/-! ### Replaying a comparison -/

variable {α β : Type}

/-- Writes what a comparison leaves behind, and ends as it does. -/
def replay (comparison : Comparison α) : Differ α := fun journal =>
  (comparison.outcome, comparison.steps.foldl Journal.take journal)

theorem replay_pure (value : α) : replay (pure value) = pure value := rfl

theorem replay_bind (first : Comparison α) (next : α → Comparison β) :
    replay (first >>= next) = replay first >>= fun value => replay (next value) := by
  funext journal
  obtain ⟨steps, failure | value⟩ := first
  · rfl
  · exact congrArg (Prod.mk (next value).outcome) List.foldl_append

theorem replay_both (first second : Comparison Bump) :
    replay (both first second) = (do
      let ofFirst ← replay first
      let ofSecond ← replay second
      return max ofFirst ofSecond) := by
  rw [both, replay_bind]
  simp only [replay_bind, replay_pure]

theorem replay_ignores (policy : Policy) (path name : String) :
    replay (Comparison.ignores policy path name) = ignores policy path name := by
  rw [Comparison.ignores, ignores]
  split
  · rfl
  · funext journal
    have hask : ∀ answer : Except Failure Bool,
        replay ⟨[.asked path], answer⟩ journal = (ofExcept answer : Differ Bool) (journal.ask path) := by
      intro answer
      cases answer <;> rfl
    exact hask (policy.ask path)

theorem replay_told (path : String) (kind : Kind) : replay (note [.visited path kind]) = pure () := rfl

theorem replay_reconciled (pairs : List Reconciliation) :
    replay (note (pairs.map .reconciled)) = pure () := by
  funext journal
  have htake : (pairs.map Step.reconciled).foldl Journal.take journal = journal := by
    rw [List.foldl_map]
    exact List.foldl_fixed' (fun _ => rfl) pairs
  exact congrArg (Prod.mk (Except.ok ())) htake

/-- A change found at a severity that is at least a patch. -/
theorem emit_eq_replay {worst : Bump} (hfloor : .patch ≤ worst) (path : String) (change : Change) :
    emit path worst change = (do
      let found ← replay (foundAt path [change])
      return max worst found) := by
  have hmax : max worst (max change.severity .patch) = max worst change.severity := by
    rw [max_comm change.severity, ← max_assoc, max_eq_left hfloor]
  have hworst : Bump.worst .patch [change.severity] = max change.severity .patch :=
    Bump.worst_cons _ _ _
  funext journal
  change (Except.ok (max worst change.severity), _) =
    (Except.ok (max worst (Bump.worst .patch [change.severity])), _)
  rw [hworst, hmax]
  rfl

/-- Keeping the severity as it grows comes to the same as comparing in turn. -/
theorem foldlM_eq_replay {ι : Type} {step : Bump → ι → Differ Bump} (part : ι → Comparison Bump)
    (hstep : ∀ worst, .patch ≤ worst → ∀ i, step worst i = (do
      let ofPart ← replay (part i)
      return max worst ofPart))
    (parts : List ι) {worst : Bump} (hfloor : .patch ≤ worst) :
    parts.foldlM step worst = (do
      let ofParts ← replay (inTurn (parts.map part))
      return max worst ofParts) := by
  induction parts generalizing worst with
  | nil =>
    rw [List.foldlM_nil, List.map_nil, inTurn, replay_pure, pure_bind, max_eq_left hfloor]
  | cons i rest ih =>
    rw [List.foldlM_cons, hstep worst hfloor, List.map_cons, inTurn, replay_both]
    simp only [bind_assoc, pure_bind]
    refine bind_congr fun ofPart => ?_
    rw [ih (hfloor.trans (le_max_left worst ofPart))]
    simp only [max_assoc]

theorem foldlM_emit {worst : Bump} (hfloor : .patch ≤ worst) (path : String)
    (changes : List Change) :
    changes.foldlM (emit path) worst = (do
      let found ← replay (foundAt path changes)
      return max worst found) := by
  rw [foundAt_eq_inTurn]
  exact foldlM_eq_replay _ (fun worst hfloor change => emit_eq_replay hfloor path change) changes
    hfloor

theorem max_patch_replay {comparison : Comparison Bump} (hfloored : Floored comparison) :
    (do
      let found ← replay comparison
      return max .patch found) = replay comparison := by
  conv_rhs => rw [← pure_patch_both hfloored, replay_both, replay_pure, pure_bind]

theorem bind_congr_of_floored {comparison : Comparison Bump} (hfloored : Floored comparison)
    {next other : Bump → Differ α} (hnext : ∀ bump, .patch ≤ bump → next bump = other bump) :
    replay comparison >>= next = replay comparison >>= other := by
  rw [← max_patch_replay hfloored, bind_assoc, bind_assoc]
  refine bind_congr fun bump => ?_
  rw [pure_bind, pure_bind, hnext _ (le_max_left _ _)]

/-! ### A differ replays the comparison -/

/-- What stands on a shelf of a pair is compared as two collections are. -/
theorem inside_eq_compareAt (policy : Policy) {site : Site} {old new : Entity}
    (hold : site.old? = some old) (hnew : site.new? = some new) :
    site.inside policy = inTurn (Shelf.all.map fun shelf =>
      Codebase.compareAt policy site.path (old.shelf shelf) (new.shelf shelf)) := by
  have hkeys : ∀ (entity : Entity) (shelf : Shelf),
      ((entity.children? shelf).map Keyed.keys).getD [] = (entity.shelf shelf).keys := by
    intro entity shelf
    rw [Entity.shelf]
    cases entity.children? shelf <;> rfl
  refine congrArg inTurn (List.map_congr_left fun shelf _ => ?_)
  rw [Codebase.compareAt_eq_inTurn, Site.keys, hold, hnew, Option.bind_some, Option.bind_some,
    hkeys, hkeys]
  refine congrArg inTurn (List.map_congr_left fun key _ => ?_)
  rw [Site.child, hold, hnew, Option.bind_some, Option.bind_some, Entity.child?_eq_get?,
    Entity.child?_eq_get?]
  rfl

mutual

theorem compareEntities_eq_replay (policy : Policy) (path : String) (old new : Entity) :
    compareEntities policy path old new = replay (Entity.compare policy path old new) := by
  let site : Site := ⟨path, "", some old, some new⟩
  have hpair : Entity.compare policy path old new = site.comparison policy := rfl
  have hcomparison : site.comparison policy = site.unlessIgnored policy new
      (both (site.compared old new) (site.inside policy)) :=
    Site.comparison_eq_unlessIgnored rfl rfl
  have hshelves : ∀ {worst : Bump}, .patch ≤ worst → (Shelf.all.foldlM (fun worst shelf => do
      let ofShelf ← compareCollections policy site.path (old.shelf shelf) (new.shelf shelf)
      return max worst ofShelf) worst) = (do
        let ofShelves ← replay (site.inside policy)
        return max worst ofShelves) := by
    intro worst hfloor
    rw [inside_eq_compareAt policy rfl rfl]
    refine foldlM_eq_replay _ (fun worst _ shelf => ?_) Shelf.all hfloor
    rw [compareCollections_eq_replay]
  have hpath : Path.join path new.name = site.path := rfl
  rw [compareEntities, hpath, hpair, hcomparison, Site.unlessIgnored, replay_bind, replay_ignores]
  refine bind_congr fun ignored => ?_
  cases ignored with
  | true => rfl
  | false =>
    rw [if_neg Bool.false_ne_true, if_neg Bool.false_ne_true, Site.compared]
    split
    case isFalse => rfl
    case isTrue =>
      have htype : Floored (foundAt site.path (old.typeChange? new).toList) :=
        floored_of_ok (Bump.floor_le_worst _ _)
      rw [foldlM_emit le_rfl, max_patch_replay htype]
      simp only [replay_both, replay_bind, replay_told, ofPair, replay_reconciled, bind_assoc,
        pure_bind]
      -- What is found next goes on from the severity of the type, which is a patch at least.
      refine bind_congr_of_floored htype fun ofType hofType => ?_
      rw [foldlM_emit hofType]
      simp only [bind_assoc, pure_bind]
      refine bind_congr fun found => ?_
      exact hshelves (le_max_of_le_left hofType)
termination_by sizeOf old
decreasing_by exact old.sizeOf_shelf shelf

theorem compareCollections_eq_replay (policy : Policy) (path : String) (old new : Codebase) :
    compareCollections policy path old new =
      replay (Codebase.compareAt policy path old new) := by
  rw [compareCollections, Codebase.compareAt_eq_inTurn, foldlM_eq_replay
    (fun key => (Site.top path old new key).comparison policy) ?_ _ le_rfl]
  · exact max_patch_replay (floored_inTurn _)
  · intro worst hfloor key
    rw [Site.comparison, Site.visit, Site.top]
    split
    case h_1 hold hnew =>
      rw [hold, hnew, replay_pure, pure_bind, max_eq_left hfloor]
    case h_2 hold hnew =>
      rw [hold, hnew]
      exact emit_eq_replay hfloor _ _
    case h_3 hold hnew =>
      rw [hold, hnew]
      exact emit_eq_replay hfloor _ _
    case h_4 hold hnew =>
      rw [hold, hnew, compareEntities_eq_replay]
termination_by sizeOf old
decreasing_by exact Keyed.sizeOf_get? old ‹_›

end

end Differ

end ApiDrift
