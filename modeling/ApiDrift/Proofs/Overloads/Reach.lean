import ApiDrift.Proofs.Overloads.Missing
import Mathlib.Data.Finset.Dedup

/-!
# What a comparison reads of overloads

Of an old overload only its value is read: no names of parameters, and no names that its types accept. Of a new overload its reach is read: its types are also asked which names they accept, in whatever order these are listed. Overloads that are alike in this sense differ in the same way, and the same pairs of them are reconciled.
-/

namespace ApiDrift

/-! ### Reach -/

/-- What is read of a new type. -/
def TypeRef.reach (type : TypeRef) : (String × UInt32) × Finset String :=
  (type.value, type.accepts.toFinset)

def Parameter.reach (parameter : Parameter) :
    ((String × UInt32) × Finset String) × Option String :=
  (parameter.type.reach, parameter.defaultValue)

def Signature.reach (signature : Signature) :
    List (((String × UInt32) × Finset String) × Option String) :=
  signature.parameters.map Parameter.reach

/-! ### Lists that correspond -/

section Corresponding

variable {α β γ : Type} {related : α → β → Prop} {first : List α} {second : List β}
  (hall : List.Forall₂ related first second)

include hall

theorem flatMap_eq_flatMap_of_forall₂ {f : α → List γ} {g : β → List γ}
    (himp : ∀ a b, related a b → f a = g b) : first.flatMap f = second.flatMap g := by
  rw [List.flatMap_def, List.flatMap_def, map_eq_map_of_forall₂ hall himp]

theorem filterMap_eq_filterMap_of_forall₂ {f : α → Option γ} {g : β → Option γ}
    (himp : ∀ a b, related a b → f a = g b) : first.filterMap f = second.filterMap g := by
  rw [List.filterMap_eq_flatMap_toList, List.filterMap_eq_flatMap_toList]
  apply flatMap_eq_flatMap_of_forall₂ hall
  intro a b hab
  rw [himp a b hab]

theorem any_eq_any_of_forall₂ {p : α → Bool} {q : β → Bool}
    (himp : ∀ a b, related a b → p a = q b) : first.any p = second.any q := by
  have hanswers : first.map p = second.map q := map_eq_map_of_forall₂ hall himp
  rw [← Function.id_comp p, ← Function.id_comp q, ← List.any_map, ← List.any_map, hanswers]

theorem forall₂_zip_of_forall₂ {γ' : Type} {related' : γ → γ' → Prop} {others : List γ}
    {others' : List γ'} (hothers : List.Forall₂ related' others others') :
    List.Forall₂ (fun pair pair' => related pair.1 pair'.1 ∧ related' pair.2 pair'.2)
      (first.zip others) (second.zip others') := by
  induction hall generalizing others others' with
  | nil => exact .nil
  | cons hhead _ ih =>
    cases hothers with
    | nil => exact .nil
    | cons hother hothers => exact .cons ⟨hhead, hother⟩ (ih hothers)

theorem forall₂_zipIdx : List.Forall₂ (fun pair pair' => related pair.1 pair'.1 ∧ pair.2 = pair'.2)
    first.zipIdx second.zipIdx := by
  rw [List.zipIdx_eq_zip_range', List.zipIdx_eq_zip_range', hall.length_eq]
  exact forall₂_zip_of_forall₂ hall (List.forall₂_refl _)

end Corresponding

/-! ### Types -/

namespace TypeRef

variable {old old' new new' : TypeRef}

theorem value_eq_of_reach (hnew : new.reach = new'.reach) : new.value = new'.value :=
  congrArg Prod.fst hnew

theorem standsInFor_eq (hold : old.value = old'.value) (hnew : new.reach = new'.reach) :
    new.standsInFor old = new'.standsInFor old' := by
  have hvalue : new.value = new'.value := value_eq_of_reach hnew
  have haccepts : new.accepts.toFinset = new'.accepts.toFinset := congrArg Prod.snd hnew
  have hname : old.name = old'.name := congrArg Prod.fst hold
  have hdimension : old.dimension = old'.dimension := congrArg Prod.snd hold
  have hnewDimension : new.dimension = new'.dimension := congrArg Prod.snd hvalue
  rw [Bool.eq_iff_iff, standsInFor, standsInFor, Bool.or_eq_true, Bool.or_eq_true,
    Bool.and_eq_true, Bool.and_eq_true, beq_iff_value, beq_iff_value, List.contains_iff_mem,
    List.contains_iff_mem, ← List.mem_toFinset, ← List.mem_toFinset, hvalue, hold, hnewDimension,
    hdimension, haccepts, hname]

theorem change?_eq (hold : old.value = old'.value) (hnew : new.reach = new'.reach) :
    old.change? new = old'.change? new' := by
  have hbeq : (old == new) = (old' == new') := by
    rw [Bool.eq_iff_iff, beq_iff_value, beq_iff_value, hold, value_eq_of_reach hnew]
  rw [change?, change?, hbeq, standsInFor_eq hold hnew]

end TypeRef

/-! ### Signatures -/

namespace Signature

variable {old old' new new' : Signature}

theorem length_eq_of_value (hvalue : old.value = old'.value) : old.length = old'.length :=
  (map_eq_map_iff_forall₂.mp hvalue).length_eq

theorem forall₂_types_of_value (hvalue : old.value = old'.value) :
    List.Forall₂ (fun type type' => type.value = type'.value) old.types old'.types := by
  rw [types, types, List.forall₂_map_left_iff, List.forall₂_map_right_iff]
  exact (map_eq_map_iff_forall₂.mp hvalue).imp fun _ _ => congrArg Prod.fst

theorem forall₂_types_of_reach (hreach : new.reach = new'.reach) :
    List.Forall₂ (fun type type' => type.reach = type'.reach) new.types new'.types := by
  rw [types, types, List.forall₂_map_left_iff, List.forall₂_map_right_iff]
  exact (map_eq_map_iff_forall₂.mp hreach).imp fun _ _ => congrArg Prod.fst

theorem value_eq_of_reach (hreach : new.reach = new'.reach) : new.value = new'.value := by
  apply map_eq_map_of_forall₂ (map_eq_map_iff_forall₂.mp hreach)
  intro parameter parameter' hparameter
  have htype : parameter.type.reach = parameter'.type.reach := congrArg Prod.fst hparameter
  have hdefault : parameter.defaultValue = parameter'.defaultValue := congrArg Prod.snd hparameter
  rw [Parameter.value, Parameter.value, TypeRef.value_eq_of_reach htype, hdefault]

theorem map_hasDefault_of_reach (hreach : new.reach = new'.reach) :
    new.parameters.map Parameter.hasDefault = new'.parameters.map Parameter.hasDefault := by
  apply map_eq_map_of_forall₂ (map_eq_map_iff_forall₂.mp hreach)
  intro parameter parameter' hparameter
  exact congrArg (fun reach => reach.2.isSome) hparameter

variable (hold : old.value = old'.value) (hnew : new.reach = new'.reach)

include hold hnew

theorem changes_eq : old.changes new = old'.changes new' := by
  have htypes : (old.types.zip new.types).filterMap (fun pair => pair.1.change? pair.2) =
      (old'.types.zip new'.types).filterMap fun pair => pair.1.change? pair.2 := by
    apply filterMap_eq_filterMap_of_forall₂
      (forall₂_zip_of_forall₂ (forall₂_types_of_value hold) (forall₂_types_of_reach hnew))
    intro pair pair' hpair
    exact TypeRef.change?_eq hpair.1 hpair.2
  have hlength : old.lengthChange? new = old'.lengthChange? new' :=
    lengthChange?_congr (length_eq_of_value hold) (map_hasDefault_of_reach hnew)
  rw [changes, changes, htypes, hlength]

theorem evolvesInto_eq : old.evolvesInto new = old'.evolvesInto new' := by
  rw [evolvesInto, evolvesInto, changes_eq hold hnew]

end Signature

/-! ### Overloads -/

namespace Overloads

/-- Overloads that read the same on the old side. -/
abbrev SameValues (signatures signatures' : List Signature) : Prop :=
  List.Forall₂ (fun signature signature' => signature.value = signature'.value)
    signatures signatures'

/-- Overloads that read the same on the new side. -/
abbrev SameReaches (signatures signatures' : List Signature) : Prop :=
  List.Forall₂ (fun signature signature' => signature.reach = signature'.reach)
    signatures signatures'

variable {removed removed' added added' : List Signature}

section Missing

variable (hremoved : SameValues removed removed') (hadded : SameReaches added added')

include hremoved hadded

theorem reconciliations_eq : reconciliations removed added = reconciliations removed' added' := by
  rw [reconciliations, reconciliations]
  apply flatMap_eq_flatMap_of_forall₂ (forall₂_zipIdx hremoved)
  intro old old' hold
  apply filterMap_eq_filterMap_of_forall₂ (forall₂_zipIdx hadded)
  intro new new' hnew
  rw [Signature.evolvesInto_eq hold.1 hnew.1, Signature.changes_eq hold.1 hnew.1, hold.2, hnew.2]

theorem unreconciled_eq : unreconciled removed added = unreconciled removed' added' := by
  have hkeptAdded : SameReaches (added.filter fun new => !removed.any (·.evolvesInto new))
      (added'.filter fun new => !removed'.any (·.evolvesInto new)) := by
    apply forall₂_filter hadded
    intro new new' hnew
    rw [any_eq_any_of_forall₂ hremoved fun _ _ hold => Signature.evolvesInto_eq hold hnew]
  have hkeptRemoved : SameValues (removed.filter fun old => !added.any old.evolvesInto)
      (removed'.filter fun old => !added'.any old.evolvesInto) := by
    apply forall₂_filter hremoved
    intro old old' hold
    rw [any_eq_any_of_forall₂ hadded fun _ _ hnew => Signature.evolvesInto_eq hold hnew]
  rw [unreconciled, unreconciled, map_eq_map_of_forall₂ hkeptAdded fun _ _ _ => rfl,
    map_eq_map_of_forall₂ hkeptRemoved fun _ _ _ => rfl]

end Missing

/-- Overloads that read the same have the same differences, and the same pairs are reconciled. -/
theorem diff_eq {old old' new new' : List Signature} (hold : SameValues old old')
    (hnew : SameReaches new new') : diff old new = diff old' new' := by
  have hlength : old.length = old'.length := hold.length_eq
  have hnewLength : new.length = new'.length := hnew.length_eq
  by_cases hsingles : old.length = 1 ∧ new.length = 1
  · obtain ⟨single, rfl⟩ := List.length_eq_one_iff.mp hsingles.1
    obtain ⟨other, rfl⟩ := List.length_eq_one_iff.mp hsingles.2
    cases hold with
    | cons hsingle hnil =>
      cases hnil
      cases hnew with
      | cons hother hnil =>
        cases hnil
        exact congrArg (Diff.mk []) (Signature.changes_eq hsingle hother)
  · have hsingles' : ¬ (old'.length = 1 ∧ new'.length = 1) := by
      rwa [← hlength, ← hnewLength]
    have holdValues : old.map Signature.value = old'.map Signature.value :=
      map_eq_map_iff_forall₂.mpr hold
    have hnewValues : new.map Signature.value = new'.map Signature.value :=
      map_eq_map_of_forall₂ hnew fun _ _ => Signature.value_eq_of_reach
    -- What is missing keeps its place among the missing, so reconciled pairs keep their numbers.
    have hremoved : SameValues (missingFrom old new) (missingFrom old' new') :=
      forall₂_missingFrom (fun _ _ => id) hold hnewValues
    have hadded : SameReaches (missingFrom new old) (missingFrom new' old') :=
      forall₂_missingFrom (fun _ _ => Signature.value_eq_of_reach) hnew holdValues
    rw [diff_of_not_singles hsingles, diff_of_not_singles hsingles',
      reconciliations_eq hremoved hadded, unreconciled_eq hremoved hadded, countChange?,
      countChange?, hlength, hnewLength]

end Overloads

end ApiDrift
