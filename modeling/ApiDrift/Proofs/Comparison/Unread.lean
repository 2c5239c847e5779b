import ApiDrift.Proofs.Comparison.Lockstep
import ApiDrift.Proofs.Overloads.Reach

/-!
# What a comparison does not read

Much in a snapshot only informs its readers. A comparison reads no parameter names. On the old side it reads neither the names of entities, which stand under keys, nor the names that types accept. On the new side it asks which names a type accepts, and not in what order or how often they are listed. Snapshots that differ in nothing else lead to the same comparison, step by step.
-/

namespace ApiDrift

open Comparison

/-! ### Entities -/

namespace Entity

/-- Entities that read the same on the old side, apart from what they hold. -/
structure SameValue (a b : Entity) : Prop where
  kind_eq : a.kind = b.kind
  type : Option.Rel (fun type type' => type.value = type'.value) a.type? b.type?
  signatures : Option.Rel Overloads.SameValues a.signatures? b.signatures?

/-- Entities that read the same on the new side, apart from what they hold. -/
structure SameReach (a b : Entity) : Prop where
  name_eq : a.name = b.name
  kind_eq : a.kind = b.kind
  type : Option.Rel (fun type type' => type.reach = type'.reach) a.type? b.type?
  signatures : Option.Rel Overloads.SameReaches a.signatures? b.signatures?

variable {old old' new new' : Entity} (hold : old.SameValue old') (hnew : new.SameReach new')

include hold hnew

theorem typeChange?_eq : old.typeChange? new = old'.typeChange? new' := by
  rw [typeChange?, typeChange?]
  rcases optionRel_iff.mp hold.type with ⟨hnone, hnone'⟩ | ⟨type, type', hsome, hsome', hvalue⟩
  · rw [hnone, hnone']
  · rw [hsome, hsome']
    rcases optionRel_iff.mp hnew.type with
      ⟨hnone, hnone'⟩ | ⟨newType, newType', hsome, hsome', hreach⟩
    · rw [hnone, hnone']
    · rw [hsome, hsome']
      exact TypeRef.change?_eq hvalue hreach

theorem overloadDiff_eq : old.overloadDiff new = old'.overloadDiff new' := by
  rw [overloadDiff, overloadDiff]
  rcases optionRel_iff.mp hold.signatures with
    ⟨hnone, hnone'⟩ | ⟨overloads, overloads', hsome, hsome', hvalues⟩
  · rw [hnone, hnone']
  · rw [hsome, hsome']
    rcases optionRel_iff.mp hnew.signatures with
      ⟨hnone, hnone'⟩ | ⟨newOverloads, newOverloads', hsome, hsome', hreaches⟩
    · rw [hnone, hnone']
    · rw [hsome, hsome']
      exact Overloads.diff_eq hvalues hreaches

theorem ofPair_eq (path : String) : ofPair path old new = ofPair path old' new' := by
  rw [ofPair, ofPair, typeChange?_eq hold hnew, overloadDiff_eq hold hnew]

end Entity

/-! ### Sites -/

namespace Site

/-- Sites that read the same, with all that stands below them. -/
abbrev Alike (first second : Site) : Prop :=
  first.Related (Entity.Throughout Entity.SameValue) (Entity.Throughout Entity.SameReach) second

variable {first second : Site}

theorem lockstep_alike (policy : Policy) : Lockstep policy policy Alike :=
  lockstep_throughout (fun _ _ => Entity.SameReach.name_eq) (fun _ _ => Entity.SameValue.kind_eq)
    (fun _ _ => Entity.SameReach.kind_eq) policy

/-- What is done at either site is the same to the last step. -/
theorem visit_eq (halike : first.Alike second) (policy : Policy) :
    first.visit policy = second.visit policy := by
  have hpath : first.path = second.path := halike.path_eq fun _ _ hnew => hnew.1.name_eq
  rcases optionRel_iff.mp halike.old? with ⟨hnone, hnone'⟩ | ⟨old, old', hsome, hsome', hold⟩
  · rcases optionRel_iff.mp halike.new? with ⟨hnew, hnew'⟩ | ⟨new, new', hnew, hnew', -⟩
    all_goals rw [visit, visit, hnone, hnone', hnew, hnew', hpath]
  · rcases optionRel_iff.mp halike.new? with ⟨hnone, hnone'⟩ | ⟨new, new', hnew, hnew', hreach⟩
    · rw [visit, visit, hsome, hsome', hnone, hnone', hpath]
    · -- Of the two names only the new one is read, for the path and for whether to ask at all.
      have hpair : ofPair second.path old new = ofPair second.path old' new' :=
        Entity.ofPair_eq hold.1 hreach.1 second.path
      have hcompared : first.compared old new = second.compared old' new' := by
        rw [compared, compared, hpath, hold.1.kind_eq, hreach.1.kind_eq, hpair]
      rw [visit_of_pair hsome hnew, visit_of_pair hsome' hnew', hcompared, unlessIgnored,
        unlessIgnored, hpath, hreach.1.name_eq]

end Site

/-! ### Codebases -/

namespace Codebase

/-- The same codebase for whoever reads it on the old side: names of entities and of parameters may differ, and so may the names that types accept. -/
def SameValue (codebase other : Codebase) : Prop := Throughout Entity.SameValue codebase other

/-- The same codebase for whoever reads it on the new side: names of parameters may differ, and accepted names may be listed in another order and another number of times. -/
def SameReach (codebase other : Codebase) : Prop := Throughout Entity.SameReach codebase other

end Codebase

/-- Whatever only informs readers goes unread: the comparison stays the same in its outcome and in each of its steps, which are the paths asked about, the changes found and the events logged. -/
theorem informational_data_goes_unread (policy : Policy) (path : String) :
    (∀ {old old' new new' : Codebase}, old.SameValue old' → new.SameReach new' →
      Codebase.compareAt policy path old new = Codebase.compareAt policy path old' new') ∧
    ∀ {old old' new new' : Entity}, old.Throughout Entity.SameValue old' →
      new.Throughout Entity.SameReach new' →
        Entity.compare policy path old new = Entity.compare policy path old' new' := by
  have hlockstep : Site.Lockstep policy policy Site.Alike := Site.lockstep_alike policy
  have hvisit : ∀ {first second : Site}, first.Alike second →
      first.visit policy = second.visit policy := fun halike => Site.visit_eq halike policy
  constructor
  · intro old old' new new' hold hnew
    apply hlockstep.compareAt sequential_eq hvisit
    intro key
    exact ⟨rfl, rfl, Codebase.throughout_iff.mp hold key, Codebase.throughout_iff.mp hnew key⟩
  · intro old old' new new' hold hnew
    have halike : Site.Alike ⟨path, "", some old, some new⟩ ⟨path, "", some old', some new'⟩ :=
      ⟨rfl, rfl, .some hold, .some hnew⟩
    exact hlockstep.comparison sequential_eq hvisit halike

/-- A function under another name, with other names of parameters and accepted names shuffled: an overload is still reconciled, and the whole is still a patch. -/
theorem informational_data_goes_unread_two_overloads :
    ∃ old old' new new' : Entity, old.Throughout Entity.SameValue old' ∧
      new.Throughout Entity.SameReach new' ∧
      (Entity.compare (.ofBool fun _ => false) "" old new).outcome = .ok .patch ∧
      Entity.compare (.ofBool fun _ => false) "" old new =
        Entity.compare (.ofBool fun _ => false) "" old' new' ∧
      Codebase.compareAt (.ofBool fun _ => false) "a" (.cons "f" trivial old .nil)
          (.cons "f" trivial new .nil) =
        Codebase.compareAt (.ofBool fun _ => false) "a" (.cons "f" trivial old' .nil)
          (.cons "f" trivial new' .nil) := by
  have hold : Entity.Throughout Entity.SameValue
      (.function "f" ⟨"int", 0, []⟩
        [⟨[⟨"x", ⟨"int", 0, []⟩, none⟩]⟩, ⟨[⟨"y", ⟨"text", 0, []⟩, none⟩]⟩])
      (.function "g" ⟨"int", 0, ["long"]⟩
        [⟨[⟨"left", ⟨"int", 0, ["text"]⟩, none⟩]⟩, ⟨[⟨"", ⟨"text", 0, ["int"]⟩, none⟩]⟩]) := by
    refine ⟨⟨rfl, .some rfl, .some (map_eq_map_iff_forall₂.mp rfl)⟩, fun shelf => ?_⟩
    cases shelf <;> exact Codebase.throughout_nil
  have hnew : Entity.Throughout Entity.SameReach
      (.function "f" ⟨"long", 0, ["int", "byte"]⟩
        [⟨[⟨"x", ⟨"long", 0, ["int", "byte"]⟩, none⟩]⟩, ⟨[⟨"y", ⟨"text", 0, []⟩, none⟩]⟩])
      (.function "f" ⟨"long", 0, ["byte", "int", "byte"]⟩
        [⟨[⟨"y", ⟨"long", 0, ["byte", "int"]⟩, none⟩]⟩, ⟨[⟨"x", ⟨"text", 0, []⟩, none⟩]⟩]) := by
    refine ⟨⟨rfl, rfl, .some (by decide), .some (map_eq_map_iff_forall₂.mp (by decide))⟩,
      fun shelf => ?_⟩
    cases shelf <;> exact Codebase.throughout_nil
  exact ⟨_, _, _, _, hold, hnew, by decide, (informational_data_goes_unread _ "").2 hold hnew,
    (informational_data_goes_unread _ "a").1 (Codebase.throughout_single hold.1 hold.2)
      (Codebase.throughout_single hnew.1 hnew.2)⟩

end ApiDrift
