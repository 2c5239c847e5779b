import ApiDrift.Proofs.Keyed.Last
import ApiDrift.Proofs.Naming

/-!
# Entities built step by step

An entity starts without children. It gets children one by one, each under its own name, and may become a child of a new unit itself. Since a child is never put under another name, whatever is built of entities that keep to their names keeps to them at every level.
-/

namespace ApiDrift

/-! ### Building -/

/-- An entity without children. -/
inductive Seed
  | field (name : String) (type : TypeRef)
  | function (name : String) (type : TypeRef) (signatures : List Signature)
  | unit (name : String)

def Seed.entity : Seed → Entity
  | field name type => .field name type
  | function name type signatures => .function name type signatures
  | unit name => .emptyUnit name

/-- What may be done with the entity at hand: it is begun anew, it gets a child, or a new unit gets it as its child. -/
inductive BuildStep
  | anew (seed : Seed)
  | add (shelf : Shelf) (child : Entity)
  | wrap (shelf : Shelf) (name : String)

def BuildStep.apply (entity : Entity) : BuildStep → Entity
  | anew seed => seed.entity
  | add shelf child => entity.withChild shelf child
  | wrap shelf name => (Entity.emptyUnit name).withChild shelf entity

def Seed.build (seed : Seed) (steps : List BuildStep) : Entity :=
  steps.foldl BuildStep.apply seed.entity

/-! ### Names -/

namespace Entity

variable {holds : String → Entity → Bool}

theorem everywhereIn_insertAbove {low : Option String} {key : String} {above : Above low key}
    {entity : Entity} {entries : Keyed Entity low}
    (hentries : everywhereIn holds entries = true) (hkey : holds key entity = true)
    (hentity : entity.everywhere holds = true) :
    everywhereIn holds (entries.insertAbove key above entity) = true := by
  induction entries with
  | nil =>
    rw [Keyed.insertAbove, everywhereIn, hkey, hentity]
    rfl
  | cons head headAbove other rest ih =>
    have hparts := hentries
    rw [everywhereIn, Bool.and_eq_true, Bool.and_eq_true] at hparts
    obtain ⟨⟨hheadKey, hhead⟩, hrest⟩ := hparts
    rw [Keyed.insertAbove]
    split
    case isTrue hbefore => rw [everywhereIn, hkey, hentity]; exact hentries
    case isFalse hnotBefore =>
      split
      case isTrue hafter =>
        rw [everywhereIn, hheadKey, hhead]
        exact ih hrest
      case isFalse hnotAfter =>
        obtain rfl : head = key := le_antisymm (not_lt.mp hnotBefore) (not_lt.mp hnotAfter)
        rw [everywhereIn, hkey, hentity, hrest]
        rfl

/-- At every level below an entity, every child stands under its own name. -/
def NamedByKeys (entity : Entity) : Prop :=
  entity.everywhere (fun key child => child.name == key) = true

instance (entity : Entity) : Decidable entity.NamedByKeys := inferInstanceAs (Decidable (_ = true))

end Entity

/-- A child is put among its siblings under its own name. -/
theorem Codebase.NamedByKeys.insert {entries : Codebase} {child : Entity}
    (hentries : entries.NamedByKeys) (hchild : child.NamedByKeys) :
    Codebase.NamedByKeys (entries.insert child.name child) :=
  Entity.everywhereIn_insertAbove hentries (beq_self_eq_true child.name) hchild

theorem Seed.namedByKeys_entity (seed : Seed) : seed.entity.NamedByKeys := by
  cases seed <;> rfl

theorem Entity.namedByKeys_unit_iff {name : String} {fields functions units : Codebase} :
    (unit name fields functions units).NamedByKeys ↔
      fields.NamedByKeys ∧ functions.NamedByKeys ∧ units.NamedByKeys := by
  rw [NamedByKeys, everywhere, Bool.and_eq_true, Bool.and_eq_true, and_assoc]
  rfl

theorem Entity.NamedByKeys.withChild {entity child : Entity} (hentity : entity.NamedByKeys)
    (hchild : child.NamedByKeys) (shelf : Shelf) : (entity.withChild shelf child).NamedByKeys := by
  cases entity with
  | field | function => cases shelf <;> exact hentity
  | unit name fields functions units =>
    obtain ⟨hfields, hfunctions, hunits⟩ := namedByKeys_unit_iff.mp hentity
    cases shelf with
    | fields => exact namedByKeys_unit_iff.mpr ⟨hfields.insert hchild, hfunctions, hunits⟩
    | functions => exact namedByKeys_unit_iff.mpr ⟨hfields, hfunctions.insert hchild, hunits⟩
    | units => exact namedByKeys_unit_iff.mpr ⟨hfields, hfunctions, hunits.insert hchild⟩

/-- What a step brings in keeps to its names. -/
def BuildStep.NamedByKeys : BuildStep → Prop
  | anew _ => True
  | add _ child => child.NamedByKeys
  | wrap _ _ => True

theorem BuildStep.namedByKeys_apply {entity : Entity} {step : BuildStep}
    (hentity : entity.NamedByKeys) (hstep : step.NamedByKeys) :
    (step.apply entity).NamedByKeys := by
  cases step with
  | anew seed => exact seed.namedByKeys_entity
  | add shelf child => exact hentity.withChild hstep shelf
  | wrap shelf name => exact (Seed.namedByKeys_entity (.unit name)).withChild hentity shelf

theorem Seed.namedByKeys_build (seed : Seed) {steps : List BuildStep}
    (hsteps : ∀ step ∈ steps, step.NamedByKeys) : (seed.build steps).NamedByKeys := by
  induction steps using List.reverseRecOn with
  | nil => exact seed.namedByKeys_entity
  | append_singleton steps last ih =>
    rw [List.forall_mem_append, List.forall_mem_singleton] at hsteps
    rw [build, List.foldl_append]
    exact BuildStep.namedByKeys_apply (ih hsteps.1) hsteps.2

/-! ### What stands where -/

namespace Entity

/-- A unit has changed at most in what stands under one name on one shelf, where the child stands now. An entity that is no unit has not changed at all. -/
structure Added (shelf : Shelf) (child before after : Entity) : Prop where
  name : after.name = before.name
  kind : after.kind = before.kind
  there : before.kind = .unit → after.child? ⟨shelf, child.name⟩ = some child
  elsewhere : ∀ turn, turn ≠ ⟨shelf, child.name⟩ → after.child? turn = before.child? turn
  others : ∀ other, other ≠ shelf → after.children? other = before.children? other
  leaf : before.kind ≠ .unit → after = before

/-- A child is put on its shelf under its own name. -/
def turnTo (child : Shelf × Entity) : Turn := ⟨child.1, child.2.name⟩

theorem child?_withChild {entity : Entity} (hunit : entity.kind = .unit) (child : Shelf × Entity)
    (turn : Turn) :
    (entity.withChild child.1 child.2).child? turn =
      if turn = turnTo child then some child.2 else entity.child? turn := by
  obtain ⟨shelf, child⟩ := child
  obtain ⟨other, key⟩ := turn
  cases entity with
  | field | function => cases hunit
  | unit name fields functions units =>
    cases shelf <;> cases other <;>
      simp [turnTo, Entity.withChild, child?, children?, Keyed.get?_insert]

theorem withChild_of_not_unit {entity : Entity} (hunit : entity.kind ≠ .unit) (shelf : Shelf)
    (child : Entity) : entity.withChild shelf child = entity := by
  cases entity with
  | unit => exact absurd rfl hunit
  | field | function => cases shelf <;> rfl

theorem added_withChild (entity : Entity) (shelf : Shelf) (child : Entity) :
    Added shelf child entity (entity.withChild shelf child) := by
  by_cases hunit : entity.kind = .unit
  · refine ⟨?_, ?_, fun _ => ?_, fun turn hturn => ?_, fun other hother => ?_, ?_⟩
    · cases entity <;> cases shelf <;> rfl
    · cases entity <;> cases shelf <;> rfl
    · exact (child?_withChild hunit (shelf, child) _).trans (if_pos rfl)
    · exact (child?_withChild hunit (shelf, child) turn).trans (if_neg hturn)
    · cases entity <;> cases shelf <;> cases other <;> first | rfl | exact absurd rfl hother
    · exact fun hleaf => absurd hunit hleaf
  · rw [withChild_of_not_unit hunit]
    exact ⟨rfl, rfl, fun h => absurd h hunit, fun _ _ => rfl, fun _ _ => rfl, fun _ => rfl⟩

/-- Children are added one after the other, each to a shelf. -/
def withChildren (entity : Entity) (children : List (Shelf × Entity)) : Entity :=
  children.foldl (fun made child => made.withChild child.1 child.2) entity

theorem withChildren_concat (entity : Entity) (children : List (Shelf × Entity))
    (last : Shelf × Entity) :
    entity.withChildren (children ++ [last]) =
      (entity.withChildren children).withChild last.1 last.2 := by
  rw [withChildren, List.foldl_append]
  rfl

theorem kind_withChildren (entity : Entity) (children : List (Shelf × Entity)) :
    (entity.withChildren children).kind = entity.kind := by
  induction children generalizing entity with
  | nil => rfl
  | cons child rest ih => exact (ih _).trans (added_withChild entity child.1 child.2).kind

/-- Of the children added under one name to one shelf the last one stays, and without any what stood there before. -/
theorem child?_withChildren_eq_some_iff {entity : Entity} (hunit : entity.kind = .unit)
    (children : List (Shelf × Entity)) (turn : Turn) (found : Entity) :
    (entity.withChildren children).child? turn = some found ↔
      (∃ child, IsLast turnTo children turn child ∧ child.2 = found) ∨
        (∀ child ∈ children, turnTo child ≠ turn) ∧ entity.child? turn = some found := by
  induction children using List.reverseRecOn with
  | nil =>
    have hnone : ¬ ∃ child, IsLast turnTo [] turn child ∧ child.2 = found :=
      fun ⟨_, hlast, _⟩ => not_isLast_nil hlast
    rw [or_iff_right hnone]
    exact (and_iff_right fun _ hmem => nomatch hmem).symm
  | append_singleton children last ih =>
    rw [withChildren_concat, child?_withChild ((entity.kind_withChildren children).trans hunit),
      List.forall_mem_append, List.forall_mem_singleton]
    by_cases hlast : turnTo last = turn
    · rw [if_pos hlast.symm]
      simp [isLast_concat_of_eq hlast, hlast]
    · rw [if_neg (Ne.symm hlast), ih]
      simp [isLast_concat_of_ne hlast, hlast]

end Entity

namespace Codebase

theorem get?_ofEntities_eq_some_iff (entities : List Entity) (name : String) (entity : Entity) :
    (ofEntities entities).get? name = some entity ↔ IsLast Entity.name entities name entity :=
  (Keyed.get?_ofList_eq_some_iff Entity.name id entities name entity).trans exists_eq_right

theorem mem_keys_ofEntities_iff (entities : List Entity) (name : String) :
    name ∈ (ofEntities entities).keys ↔ ∃ entity ∈ entities, entity.name = name :=
  Keyed.mem_keys_ofList_iff Entity.name id entities name

theorem ofEntities_perm {first second : List Entity} (hnodup : (first.map Entity.name).Nodup)
    (hperm : first.Perm second) : ofEntities first = ofEntities second :=
  Keyed.ofList_perm Entity.name id hnodup hperm

theorem namedByKeys_ofEntities {entities : List Entity}
    (hentities : ∀ entity ∈ entities, entity.NamedByKeys) : (ofEntities entities).NamedByKeys := by
  induction entities using List.reverseRecOn with
  | nil => rfl
  | append_singleton entities last ih =>
    rw [List.forall_mem_append, List.forall_mem_singleton] at hentities
    rw [ofEntities, List.map_append, List.map_singleton, Keyed.ofList_concat]
    exact (ih hentities.1).insert hentities.2

end Codebase

/-- Whatever is built of entities that keep to their names keeps to them at every level. A child that is added stands under its name and everything else stays, so that of several under one name the last one stays. A codebase has the names of its entities, each for the last entity with it. -/
theorem Entity.built_by_name :
    (∀ (seed : Seed) (steps : List BuildStep),
      (∀ shelf child, .add shelf child ∈ steps → child.NamedByKeys) →
      (seed.build steps).NamedByKeys) ∧
    (∀ entity shelf child, Added shelf child entity (entity.withChild shelf child)) ∧
    (∀ (entity : Entity) (children : List (Shelf × Entity)) (turn : Turn) (found : Entity),
      entity.kind = .unit →
      ((entity.withChildren children).child? turn = some found ↔
        (∃ child, IsLast turnTo children turn child ∧ child.2 = found) ∨
          (∀ child ∈ children, turnTo child ≠ turn) ∧ entity.child? turn = some found)) ∧
    (∀ (entities : List Entity) (name : String),
      (name ∈ (Codebase.ofEntities entities).keys ↔ ∃ entity ∈ entities, entity.name = name) ∧
      ∀ entity, (Codebase.ofEntities entities).get? name = some entity ↔
        IsLast Entity.name entities name entity) ∧
    (∀ entities : List Entity, (∀ entity ∈ entities, entity.NamedByKeys) →
      (Codebase.ofEntities entities).NamedByKeys) ∧
    ∀ first second : List Entity, (first.map Entity.name).Nodup → first.Perm second →
      Codebase.ofEntities first = Codebase.ofEntities second := by
  refine ⟨fun seed steps hsteps => ?_, added_withChild, fun entity children turn found hunit => ?_,
    fun entities name => ⟨?_, ?_⟩, fun entities hentities => ?_,
    fun first second hnodup hperm => ?_⟩
  · refine seed.namedByKeys_build fun step hmem => ?_
    cases step with
    | anew seed => trivial
    | add shelf child => exact hsteps shelf child hmem
    | wrap shelf name => trivial
  · exact child?_withChildren_eq_some_iff hunit children turn found
  · exact Codebase.mem_keys_ofEntities_iff entities name
  · exact Codebase.get?_ofEntities_eq_some_iff entities name
  · exact Codebase.namedByKeys_ofEntities hentities
  · exact Codebase.ofEntities_perm hnodup hperm

/-- A unit gets two fields of one name, becomes a child itself, and its parent gets a function; two entities make the same codebase in both orders. -/
theorem Entity.built_by_name_overwritten :
    let long : Entity := .field "f" ⟨"long", 0, []⟩
    let int : Entity := .field "f" ⟨"int", 0, []⟩
    let call : Entity := .function "g" ⟨"int", 0, []⟩ []
    let steps : List BuildStep :=
      [.add .fields int, .add .fields long, .wrap .units "outer", .add .functions call]
    (∀ shelf child, .add shelf child ∈ steps → child.NamedByKeys) ∧
      ((Seed.unit "inner").build steps).NamedByKeys ∧
      (emptyUnit "inner").kind = .unit ∧
      ((emptyUnit "inner").withChildren [(.fields, int), (.fields, long)]).child? ⟨.fields, "f"⟩ =
        some long ∧
      (∀ entity ∈ [long, call], entity.NamedByKeys) ∧
      (Codebase.ofEntities [long, call]).NamedByKeys ∧
      ([long, call].map Entity.name).Nodup ∧ [long, call].Perm [call, long] ∧
      Codebase.ofEntities [long, call] = Codebase.ofEntities [call, long] := by
  intro long int call steps
  obtain ⟨hbuilt, -, hchildren, -, hnamed, hperm⟩ := Entity.built_by_name
  have hsteps : ∀ shelf child, BuildStep.add shelf child ∈ steps → child.NamedByKeys := by
    intro shelf child hmem
    simp only [steps, List.mem_cons, BuildStep.add.injEq, reduceCtorEq, List.not_mem_nil, or_false,
      false_or] at hmem
    rcases hmem with ⟨-, rfl⟩ | ⟨-, rfl⟩ | ⟨-, rfl⟩ <;> rfl
  have hlast : IsLast turnTo [(.fields, int), (.fields, long)] ⟨.fields, "f"⟩ (.fields, long) :=
    ⟨rfl, [(.fields, int)], [], rfl, fun _ hmem => nomatch hmem⟩
  have hentities : ∀ entity ∈ [long, call], entity.NamedByKeys := by
    rw [List.forall_mem_cons, List.forall_mem_singleton]
    exact ⟨rfl, rfl⟩
  have hnodup : ([long, call].map Entity.name).Nodup := by decide
  exact ⟨hsteps, hbuilt _ steps hsteps, rfl,
    (hchildren _ _ _ long rfl).mpr (Or.inl ⟨_, hlast, rfl⟩), hentities, hnamed _ hentities, hnodup,
    .swap .., hperm _ _ hnodup (.swap ..)⟩

end ApiDrift
