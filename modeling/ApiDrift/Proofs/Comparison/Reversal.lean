import ApiDrift.Proofs.Comparison.Changelog
import ApiDrift.Proofs.Comparison.Lockstep
import ApiDrift.Proofs.Comparison.Success
import ApiDrift.Proofs.Naming

/-!
# There and back

An upgrade from one codebase to another can be taken back. Where every entity stands under its own name, the comparison of the way back is the mirror image of the other one. It asks about the same paths, what came on the way there has gone on the way back, and if kinds are mixed both stop at the same entity. What changed within a pair has no such symmetry: a type that stands in for another one need not be stood in for by it.
-/

namespace ApiDrift

open Comparison

/-! ### Arrivals and departures -/

namespace Change

/-- An entity came or went. -/
def OneSided (change : Change) : Prop :=
  change = .entityWasIntroduced ∨ change = .entityWasRemoved

instance : DecidablePred OneSided :=
  fun change => inferInstanceAs (Decidable (change = _ ∨ change = _))

/-- What came on one way has gone on the other. -/
def reversed : Change → Change
  | entityWasIntroduced => entityWasRemoved
  | entityWasRemoved => entityWasIntroduced
  | other => other

end Change

def ChangeRecord.reversed (record : ChangeRecord) : ChangeRecord :=
  .of record.path record.change.reversed

namespace Comparison

variable {α : Type}

/-- The records of entities that came or went. -/
def oneSidedRecords (comparison : Comparison α) : List ChangeRecord :=
  comparison.records.filter (·.change.OneSided)

theorem oneSidedRecords_append (first second : List Step) (outcome : Except Failure α) :
    oneSidedRecords ⟨first ++ second, outcome⟩ =
      oneSidedRecords ⟨first, outcome⟩ ++ oneSidedRecords ⟨second, outcome⟩ := by
  rw [oneSidedRecords, records_append, List.filter_append]
  rfl

/-! ### Mirror images -/

/-- Both ways succeed, or kinds are mixed at one path and told in the order of the way. -/
inductive Mirrored : Except Failure Bump → Except Failure Bump → Prop
  | ok (there back : Bump) : Mirrored (.ok there) (.ok back)
  | mismatched (path : String) (old new : Kind) :
      Mirrored (.error (.shapeMismatch path old new)) (.error (.shapeMismatch path new old))

/-- The comparison of the way there and that of the way back. -/
structure Mirror (there back : Comparison Bump) : Prop where
  outcome : Mirrored there.outcome back.outcome
  asked_eq : there.asked = back.asked
  oneSidedRecords_eq : back.oneSidedRecords = there.oneSidedRecords.map ChangeRecord.reversed

theorem Mirrored.map {there back : Except Failure Bump} (hmirrored : Mirrored there back)
    (f g : Bump → Bump) : Mirrored (there.map f) (back.map g) := by
  cases hmirrored with
  | ok => exact .ok _ _
  | mismatched path old new => exact .mismatched path old new

theorem sequential_mirror : Sequential Mirror := by
  constructor
  · exact ⟨.ok _ _, rfl, rfl⟩
  · rintro ⟨steps, outcome⟩ ⟨steps', outcome'⟩ there back hfirst hsecond
    obtain ⟨houtcome, hasked, hrecords⟩ := hfirst
    cases houtcome with
    | mismatched path old new => exact ⟨.mismatched path old new, hasked, hrecords⟩
    | ok ofThere ofBack =>
      rw [both_of_ok_left rfl, both_of_ok_left rfl]
      refine ⟨hsecond.outcome.map _ _, ?_, ?_⟩
      · rw [asked_append, asked_append]
        exact congrArg₂ (· ++ ·) hasked hsecond.asked_eq
      · rw [oneSidedRecords_append, oneSidedRecords_append, List.map_append]
        exact congrArg₂ (· ++ ·) hrecords hsecond.oneSidedRecords_eq

end Comparison

/-! ### Entities under their own names -/

/-- The entity has the given name, and everything below it stands under its own. -/
def Entity.NamedBy (key : String) (entity : Entity) : Prop :=
  (entity.name == key) = true ∧ entity.everywhere (fun key entity => entity.name == key) = true

theorem Entity.NamedBy.child? {key : String} {entity child : Entity} {turn : Turn}
    (hnamed : entity.NamedBy key) (hchild : entity.child? turn = some child) :
    child.NamedBy turn.key :=
  Entity.everywhere_of_child? hnamed.2 hchild

namespace Site

/-- What stands at the site stands under its own name, and so does everything below. -/
structure Named (site : Site) : Prop where
  old : ∀ entity, site.old? = some entity → entity.NamedBy site.key
  new : ∀ entity, site.new? = some entity → entity.NamedBy site.key

/-- The site as it is seen on the way back. -/
def reversed (site : Site) : Site := ⟨site.parentPath, site.key, site.new?, site.old?⟩

variable {site : Site}

theorem Named.reversed (hnamed : site.Named) : site.reversed.Named := ⟨hnamed.new, hnamed.old⟩

theorem Named.child (hnamed : site.Named) (turn : Turn) : (site.child turn).Named := by
  constructor
  · intro child hchild
    obtain ⟨entity, hentity, hchild⟩ := Option.bind_eq_some_iff.mp hchild
    exact (hnamed.old entity hentity).child? hchild
  · intro child hchild
    obtain ⟨entity, hentity, hchild⟩ := Option.bind_eq_some_iff.mp hchild
    exact (hnamed.new entity hentity).child? hchild

theorem Named.path_eq (hnamed : site.Named) : site.path = Path.join site.parentPath site.key := by
  rw [path]
  split
  case h_1 _ new _ hnew =>
    have hname : new.name = site.key := beq_iff_eq.mp (hnamed.new new hnew).1
    rw [hname]
  case h_2 => rfl

theorem Named.path_reversed (hnamed : site.Named) : site.reversed.path = site.path := by
  rw [hnamed.path_eq, hnamed.reversed.path_eq]
  rfl

theorem Named.child_reversed (hnamed : site.Named) (turn : Turn) :
    site.reversed.child turn = (site.child turn).reversed := by
  have hpath := hnamed.path_reversed
  rw [Site.child, Site.child, hpath]
  rfl

theorem Named.name_eq (hnamed : site.Named) {old new : Entity} (hold : site.old? = some old)
    (hnew : site.new? = some new) : old.name = new.name := by
  have holdName : old.name = site.key := beq_iff_eq.mp (hnamed.old old hold).1
  have hnewName : new.name = site.key := beq_iff_eq.mp (hnamed.new new hnew).1
  rw [holdName, hnewName]

theorem Named.opened_reversed {policy : Policy} (hnamed : site.Named)
    (hopened : site.Opened policy) : site.reversed.Opened policy := by
  obtain ⟨old, new, hold, hnew, holdKind, hnewKind, hkept⟩ := hopened
  refine ⟨new, old, hnew, hold, hnewKind, holdKind, ?_⟩
  rw [hnamed.path_reversed, hnamed.name_eq hold hnew]
  exact hkept

theorem lockstep_reversed (policy : Policy) :
    Lockstep policy policy fun there back => there.Named ∧ back = there.reversed := by
  constructor
  · rintro there back ⟨-, rfl⟩
    exact or_comm
  · rintro there back ⟨hnamed, rfl⟩
    exact ⟨hnamed.opened_reversed, hnamed.reversed.opened_reversed⟩
  · rintro there back ⟨hnamed, rfl⟩ turn
    exact ⟨hnamed.child turn, hnamed.child_reversed turn⟩

/-! ### Visits -/

theorem asked_reversed (hnamed : site.Named) : site.reversed.asked = site.asked := by
  have hpath := hnamed.path_reversed
  cases hold : site.old? with
  | none =>
    cases hnew : site.new? <;> simp only [asked, reversed, hold, hnew]
  | some old =>
    cases hnew : site.new? with
    | none => simp only [asked, reversed, hold, hnew]
    | some new =>
      have holdBack : site.reversed.old? = some new := hnew
      have hnewBack : site.reversed.new? = some old := hold
      have hname := hnamed.name_eq hold hnew
      rw [asked_of_pair holdBack hnewBack, asked_of_pair hold hnew, hpath, hname]

/-- A policy that always answers leaves only mixed kinds to fail at. -/
theorem fails_reversed {ignored : String → Bool} {failure : Failure} (hnamed : site.Named)
    (hfails : site.Fails (.ofBool ignored) failure) :
    ∃ path old new, failure = .shapeMismatch path old new ∧
      site.reversed.Fails (.ofBool ignored) (.shapeMismatch path new old) := by
  cases hfails with
  | refused _ _ _ hpolicy => cases hpolicy
  | wrapped _ _ _ hpolicy _ => cases hpolicy
  | @mismatched old new hold hnew hkept hkinds =>
    refine ⟨site.path, old.kind, new.kind, rfl, ?_⟩
    have holdBack : site.reversed.old? = some new := hnew
    have hnewBack : site.reversed.new? = some old := hold
    have hpath := hnamed.path_reversed
    have hname := hnamed.name_eq hold hnew
    rw [← hpath, ← hname] at hkept
    rw [← hpath]
    exact .mismatched holdBack hnewBack hkept (Ne.symm hkinds)

/-- Nothing within a pair is an arrival or a departure. -/
theorem filter_oneSided_of_pair (old new : Entity) (path : String) :
    ((old.changes new).map (ChangeRecord.of path)).filter (·.change.OneSided) = [] := by
  rw [List.filter_eq_nil_iff]
  intro record hrecord
  obtain ⟨change, hchange, rfl⟩ := List.mem_map.mp hrecord
  have hne := Change.ne_of_mem_ofPair change (Entity.mem_ofPair_of_mem_changes hchange)
  rw [decide_eq_true_eq]
  rintro (hintroduced | hremoved)
  · exact hne.1 hintroduced
  · exact hne.2 hremoved

theorem filter_oneSided_records_of_pair {policy : Policy} {old new : Entity}
    (hold : site.old? = some old) (hnew : site.new? = some new) :
    (site.records policy).filter (·.change.OneSided) = [] := by
  rw [records_of_pair hold hnew]
  split
  · rfl
  · exact filter_oneSided_of_pair old new site.path

theorem filter_oneSided_records_reversed {policy : Policy} (hnamed : site.Named) :
    (site.reversed.records policy).filter (·.change.OneSided) =
      ((site.records policy).filter (·.change.OneSided)).map ChangeRecord.reversed := by
  have hpath := hnamed.path_reversed
  cases hold : site.old? with
  | none =>
    cases hnew : site.new? with
    | none =>
      rw [records, records, reversed, hold, hnew]
      rfl
    | some new =>
      rw [records, records, hpath, hold, hnew, reversed, hold, hnew]
      rfl
  | some old =>
    cases hnew : site.new? with
    | none =>
      rw [records, records, hpath, hold, hnew, reversed, hold, hnew]
      rfl
    | some new =>
      have holdBack : site.reversed.old? = some new := hnew
      have hnewBack : site.reversed.new? = some old := hold
      rw [filter_oneSided_records_of_pair holdBack hnewBack,
        filter_oneSided_records_of_pair hold hnew]
      rfl

theorem mirror_visit (ignored : String → Bool) (hnamed : site.Named) :
    Mirror (site.visit (.ofBool ignored)) (site.reversed.visit (.ofBool ignored)) := by
  have hasked : (site.visit (.ofBool ignored)).asked =
      (site.reversed.visit (.ofBool ignored)).asked := by
    rw [asked_visit, asked_visit, asked_reversed hnamed]
  rcases fails_or_settled (.ofBool ignored) site with ⟨failure, hfails⟩ | ⟨hok, hrecords⟩
  · obtain ⟨path, old, new, rfl, hback⟩ := fails_reversed hnamed hfails
    refine ⟨?_, hasked, ?_⟩
    · rw [(visit_of_fails hfails).1, (visit_of_fails hback).1]
      exact .mismatched path old new
    · rw [oneSidedRecords, oneSidedRecords, (visit_of_fails hfails).2, (visit_of_fails hback).2]
      rfl
  · rcases fails_or_settled (.ofBool ignored) site.reversed with
      ⟨failure, hfails⟩ | ⟨hokBack, hrecordsBack⟩
    · obtain ⟨path, old, new, -, hthere⟩ := fails_reversed hnamed.reversed hfails
      have herror := (visit_of_fails hthere).1
      rw [show site.reversed.reversed = site from rfl, hok] at herror
      cases herror
    · refine ⟨?_, hasked, ?_⟩
      · rw [hok, hokBack]
        exact .ok _ _
      · rw [oneSidedRecords, oneSidedRecords, hrecords, hrecordsBack]
        exact filter_oneSided_records_reversed hnamed

end Site

/-! ### Codebases -/

theorem Codebase.NamedByKeys.named_top {old new : Codebase} (hold : old.NamedByKeys)
    (hnew : new.NamedByKeys) (path key : String) : (Site.top path old new key).Named := by
  constructor
  · intro entity hentity
    exact Entity.everywhere_of_get? hold hentity
  · intro entity hentity
    exact Entity.everywhere_of_get? hnew hentity

/-- Where entities stand under their own names, the comparison of the way back mirrors that of the way there. -/
theorem comparing_back_mirrors {old new : Codebase} (hold : old.NamedByKeys)
    (hnew : new.NamedByKeys) (ignored : String → Bool) :
    Mirror (Codebase.compare (.ofBool ignored) old new)
      (Codebase.compare (.ofBool ignored) new old) := by
  apply (Site.lockstep_reversed (.ofBool ignored)).compareAt sequential_mirror
  · rintro there back ⟨hnamed, rfl⟩
    exact Site.mirror_visit ignored hnamed
  · intro key
    exact ⟨hold.named_top hnew "" key, rfl⟩

/-- One field is gone, one has come, and one has changed its type for better or worse. -/
theorem comparing_back_mirrors_three_fields :
    ∃ old new : Codebase, old.NamedByKeys ∧ new.NamedByKeys ∧
      (Codebase.compare (.ofBool fun _ => false) old new).outcome = .ok .major ∧
      (Codebase.compare (.ofBool fun _ => false) old new).oneSidedRecords =
        [.of "u.a" .entityWasRemoved, .of "u.c" .entityWasIntroduced] ∧
      Mirror (Codebase.compare (.ofBool fun _ => false) old new)
        (Codebase.compare (.ofBool fun _ => false) new old) := by
  have hold : Codebase.NamedByKeys (.cons "u" trivial
      (.unit "u" (.cons "a" trivial (.field "a" ⟨"int", 0, []⟩)
        (.cons "b" (by decide) (.field "b" ⟨"int", 0, []⟩) .nil)) .nil .nil) .nil) := by decide
  have hnew : Codebase.NamedByKeys (.cons "u" trivial
      (.unit "u" (.cons "b" trivial (.field "b" ⟨"long", 0, ["int"]⟩)
        (.cons "c" (by decide) (.field "c" ⟨"int", 0, []⟩) .nil)) .nil .nil) .nil) := by decide
  exact ⟨_, _, hold, hnew, by decide, by decide, comparing_back_mirrors hold hnew _⟩

end ApiDrift
