import ApiDrift.Proofs.Comparison.Lockstep
import ApiDrift.Proofs.Path.Ancestor

/-!
# Comparing below a path

A comparison may be made below any path. It asks about the paths it would ask about at the root, with that path in front, and it finds the same changes there. So it does what a comparison at the root does under the policy that puts the path in front before it answers.

A codebase has no name, and neither do units that hold nothing else: comparing two such units is comparing what they hold.
-/

namespace ApiDrift

/-! ### What is said below a path -/

def Step.under (path : String) : Step → Step
  | .asked place => .asked (Path.join path place)
  | .ignored place => .ignored (Path.join path place)
  | .visited place kind => .visited (Path.join path place) kind
  | .reconciled pair => .reconciled pair
  | .found place change => .found (Path.join path place) change

/-- A policy that always answers leaves only the failure of mixed kinds. -/
def Failure.under (path : String) : Failure → Failure
  | .shapeMismatch place old new => .shapeMismatch (Path.join path place) old new
  | other => other

def ChangeRecord.under (path : String) (record : ChangeRecord) : ChangeRecord :=
  { record with path := Path.join path record.path }

namespace Comparison

variable {α β : Type}

/-- The comparison as it is made below a path. -/
def under (path : String) (comparison : Comparison α) : Comparison α :=
  ⟨comparison.steps.map (Step.under path), comparison.outcome.mapError (Failure.under path)⟩

theorem records_under (path : String) (comparison : Comparison α) :
    (comparison.under path).records = comparison.records.map (ChangeRecord.under path) := by
  rw [records, records, under, List.filterMap_map, List.map_filterMap]
  apply List.filterMap_congr
  intro step _
  cases step <;> rfl

theorem asked_under (path : String) (comparison : Comparison α) :
    (comparison.under path).asked = comparison.asked.map (Path.join path) := by
  rw [asked, asked, under, List.filterMap_map, List.map_filterMap]
  apply List.filterMap_congr
  intro step _
  cases step <;> rfl

theorem under_bind (path : String) (first : Comparison α) (next : α → Comparison β) :
    (first >>= next).under path = first.under path >>= fun value => (next value).under path := by
  obtain ⟨steps, failure | value⟩ := first
  · rfl
  · have hok : (under path ⟨steps, .ok value⟩ : Comparison α).outcome = .ok value := rfl
    rw [bind_of_ok rfl, bind_of_ok hok]
    exact congrArg (Comparison.mk · _) List.map_append

theorem under_both (path : String) (first second : Comparison Bump) :
    (both first second).under path = both (first.under path) (second.under path) := by
  rw [both, under_bind, both]
  apply bind_congr
  intro ofFirst
  exact under_bind path second _

theorem sequential_under (path : String) : Sequential fun here root => here = root.under path := by
  constructor
  · rfl
  · intro first second first' second' hfirst hsecond
    rw [hfirst, hsecond, under_both]

theorem under_foundAt (path place : String) (changes : List Change) :
    (foundAt place changes).under path = foundAt (Path.join path place) changes := by
  have hsteps : (changes.map (.found place)).map (Step.under path) =
      changes.map (.found (Path.join path place)) := by
    rw [List.map_map]
    rfl
  exact congrArg (Comparison.mk · _) hsteps

theorem under_reconciled (path : String) (pairs : List Reconciliation) :
    (note (pairs.map .reconciled)).under path = note (pairs.map .reconciled) := by
  have hsteps : (pairs.map Step.reconciled).map (Step.under path) = pairs.map .reconciled := by
    rw [List.map_map]
    rfl
  exact congrArg (Comparison.mk · _) hsteps

theorem under_ofPair (path place : String) (old new : Entity) :
    (ofPair place old new).under path = ofPair (Path.join path place) old new := by
  rw [ofPair, under_both, under_foundAt, under_bind, under_reconciled]
  simp only [under_foundAt]
  rfl

/-- The root asks what is asked below the path. -/
theorem under_ignores (ignored : String → Bool) (path place name : String) :
    (ignores (.ofBool fun asked => ignored (Path.join path asked)) place name).under path =
      ignores (.ofBool ignored) (Path.join path place) name := by
  by_cases hname : name = ""
  · rw [ignores_of_unnamed _ _ hname, ignores_of_unnamed _ _ hname]
    rfl
  · rw [ignores_of_named _ _ hname, ignores_of_named _ _ hname]
    rfl

end Comparison

open Comparison

/-! ### Sites below a path -/

namespace Site

def under (path : String) (site : Site) : Site :=
  { site with parentPath := Path.join path site.parentPath }

theorem path_under (path : String) (site : Site) :
    (site.under path).path = Path.join path site.path := by
  obtain ⟨parentPath, key, old?, new?⟩ := site
  cases old? with
  | none => exact Path.join_assoc path parentPath key
  | some old =>
    cases new? with
    | none => exact Path.join_assoc path parentPath key
    | some new => exact Path.join_assoc path parentPath new.name

theorem child_under (path : String) (site : Site) (turn : Turn) :
    (site.under path).child turn = (site.child turn).under path := by
  have hpath := path_under path site
  rw [child, child, hpath]
  rfl

theorem under_compared (path : String) (site : Site) (old new : Entity) :
    (site.compared old new).under path = (site.under path).compared old new := by
  rw [compared, compared, path_under]
  split
  · rw [under_bind]
    apply bind_congr
    intro _
    exact under_ofPair path site.path old new
  · rfl

variable (ignored : String → Bool) (path : String)

theorem under_unlessIgnored (site : Site) (new : Entity) (rest : Comparison Bump) :
    (site.unlessIgnored (.ofBool fun place => ignored (Path.join path place)) new rest).under path =
      (site.under path).unlessIgnored (.ofBool ignored) new (rest.under path) := by
  rw [unlessIgnored, unlessIgnored, under_bind, under_ignores, path_under]
  apply bind_congr
  intro answer
  cases answer <;> rfl

theorem visit_under (site : Site) :
    (site.under path).visit (.ofBool ignored) =
      (site.visit (.ofBool fun place => ignored (Path.join path place))).under path := by
  cases hold : site.old? with
  | none =>
    cases hnew : site.new? with
    | none =>
      rw [visit, visit, under, hold, hnew]
      rfl
    | some new =>
      have hpath := path_under path site
      rw [visit, visit, hpath, hold, hnew, under_foundAt]
      simp only [under, hold, hnew]
  | some old =>
    cases hnew : site.new? with
    | none =>
      have hpath := path_under path site
      rw [visit, visit, hpath, hold, hnew, under_foundAt]
      simp only [under, hold, hnew]
    | some new =>
      have hold' : (site.under path).old? = some old := hold
      have hnew' : (site.under path).new? = some new := hnew
      rw [visit_of_pair hold hnew, visit_of_pair hold' hnew', under_unlessIgnored,
        under_compared]

theorem lockstep_under :
    Lockstep (.ofBool ignored) (.ofBool fun place => ignored (Path.join path place))
      fun here root => here = root.under path := by
  constructor
  · rintro here root rfl
    rfl
  · rintro here root rfl
    rw [Opened, Opened, path_under]
    rfl
  · rintro here root rfl turn
    exact child_under path root turn

theorem comparison_under (site : Site) :
    (site.under path).comparison (.ofBool ignored) =
      (site.comparison (.ofBool fun place => ignored (Path.join path place))).under path := by
  apply (lockstep_under ignored path).comparison (sequential_under path) _ rfl
  rintro here root rfl
  exact visit_under ignored path root

end Site

theorem Codebase.compareAt_under (ignored : String → Bool) (path : String) (old new : Codebase) :
    Codebase.compareAt (.ofBool ignored) path old new =
      (Codebase.compareAt (.ofBool fun place => ignored (Path.join path place)) "" old new).under
        path := by
  apply (Site.lockstep_under ignored path).compareAt (sequential_under path)
  · rintro here root rfl
    exact Site.visit_under ignored path root
  · intro key
    rfl

theorem Entity.compare_under (ignored : String → Bool) (path : String) (old new : Entity) :
    Entity.compare (.ofBool ignored) path old new =
      (Entity.compare (.ofBool fun place => ignored (Path.join path place)) "" old new).under
        path :=
  Site.comparison_under ignored path ⟨"", new.name, some old, some new⟩

/-! ### Units without a name -/

/-- A unit without a name that keeps a codebase on one of its shelves and nothing on the others. -/
def Entity.root : Shelf → Codebase → Entity
  | .fields, codebase => .unit "" codebase .nil .nil
  | .functions, codebase => .unit "" .nil codebase .nil
  | .units, codebase => .unit "" .nil .nil codebase

theorem Codebase.floored_compareAt (policy : Policy) (path : String) (old new : Codebase) :
    Floored (Codebase.compareAt policy path old new) := by
  rw [Codebase.compareAt_eq_inTurn]
  exact floored_inTurn _

/-- Nothing but that the units were looked at is told of them. -/
theorem Entity.compare_root (policy : Policy) (shelf : Shelf) (old new : Codebase) :
    Entity.compare policy "" (.root shelf old) (.root shelf new) = (do
      note [.visited "" .unit]
      Codebase.compare policy old new) := by
  have hnothing : Entity.compareEntries policy "" (.nil : Codebase) [] = pure .patch := by
    rw [Entity.compareEntries]
    rfl
  have hfloored : Floored (Entity.compareEntries policy "" old new.toList) :=
    Codebase.floored_compareAt policy "" old new
  have hunits : ∀ fields functions units fields' functions' units' : Codebase,
      Entity.compare policy "" (.unit "" fields functions units)
          (.unit "" fields' functions' units') = (do
        note [.visited "" .unit]
        both (Entity.compareEntries policy "" fields fields'.toList)
          (both (Entity.compareEntries policy "" functions functions'.toList)
            (Entity.compareEntries policy "" units units'.toList))) := by
    intro fields functions units fields' functions' units'
    rw [Entity.compare, both_both]
    rfl
  -- The empty shelves count as a patch each, before or after the one that is in use.
  have hpatch : Floored (pure .patch) := floored_of_ok le_rfl
  cases shelf with
  | fields =>
    rw [root, root, hunits]
    simp only [Keyed.toList, hnothing, pure_patch_both hpatch, both_pure_patch hfloored]
    rfl
  | functions =>
    rw [root, root, hunits]
    simp only [Keyed.toList, hnothing, pure_patch_both hfloored, both_pure_patch hfloored]
    rfl
  | units =>
    rw [root, root, hunits]
    simp only [Keyed.toList, hnothing, pure_patch_both hfloored]
    rfl

/-- Joining has the empty path on either side as its neutral element, and what is compared below a path is what is compared at the root with the path in front. Two codebases are compared as two units that have no name and hold nothing else. -/
theorem comparing_below_a_path :
    (∀ path middle name, Path.join (Path.join path middle) name =
        Path.join path (Path.join middle name)) ∧
      (∀ path, Path.join "" path = path ∧ Path.join path "" = path) ∧
      (∀ (ignored : String → Bool) path old new,
        Codebase.compareAt (.ofBool ignored) path old new =
          (Codebase.compareAt (.ofBool fun place => ignored (Path.join path place)) "" old
            new).under path) ∧
      (∀ (ignored : String → Bool) path old new,
        Entity.compare (.ofBool ignored) path old new =
          (Entity.compare (.ofBool fun place => ignored (Path.join path place)) "" old
            new).under path) ∧
      (∀ path (comparison : Comparison Bump),
        (comparison.under path).records = comparison.records.map (ChangeRecord.under path) ∧
          (comparison.under path).asked = comparison.asked.map (Path.join path)) ∧
      ∀ policy shelf old new,
        let roots := Entity.compare policy "" (.root shelf old) (.root shelf new)
        let codebases := Codebase.compare policy old new
        roots.outcome = codebases.outcome ∧ roots.records = codebases.records ∧
          roots.asked = codebases.asked := by
  refine ⟨Path.join_assoc, ?_, Codebase.compareAt_under, Entity.compare_under, ?_, ?_⟩
  · intro path
    exact ⟨Path.join_empty_left path, Path.join_empty_right path⟩
  · intro path comparison
    exact ⟨records_under path comparison, asked_under path comparison⟩
  · intro policy shelf old new
    rw [Entity.compare_root]
    exact ⟨rfl, rfl, rfl⟩

end ApiDrift
