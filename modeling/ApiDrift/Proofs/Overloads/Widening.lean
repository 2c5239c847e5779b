import ApiDrift.Proofs.Change.Softened
import ApiDrift.Proofs.Overloads.Equivalence

/-!
# Types that accept more

A type may be extracted again with further names that it accepts, and be the same type. It then stands in for more old types than before, and for none less. Equality knows nothing of accepted names, so the same overloads are missing as before, and those that found a partner keep it.
-/

namespace ApiDrift

/-! ### Types -/

namespace TypeRef

/-- The same type, which accepts more. -/
structure Widens (wide narrow : TypeRef) : Prop where
  name_eq : wide.name = narrow.name
  dimension_eq : wide.dimension = narrow.dimension
  accepts_subset : narrow.accepts ⊆ wide.accepts

variable {old wide narrow : TypeRef} (hwidens : wide.Widens narrow)

include hwidens

theorem Widens.value_eq : wide.value = narrow.value :=
  Prod.ext hwidens.name_eq hwidens.dimension_eq

theorem Widens.beq_eq (old : TypeRef) : (old == wide) = (old == narrow) := by
  rw [Bool.eq_iff_iff, beq_iff_value, beq_iff_value, hwidens.value_eq]

theorem Widens.standsInFor (hstands : narrow.standsInFor old = true) :
    wide.standsInFor old = true := by
  rw [TypeRef.standsInFor, Bool.or_eq_true, Bool.and_eq_true, beq_iff_value, beq_iff_eq,
    List.contains_iff_mem] at hstands ⊢
  rw [hwidens.value_eq, hwidens.dimension_eq]
  exact hstands.imp_right (And.imp_right (hwidens.accepts_subset ·))

theorem Widens.softened_change? (old : TypeRef) (path : String) :
    Softened ((old.change? narrow).toList.map (.of path))
      ((old.change? wide).toList.map (.of path)) := by
  rw [change?, change?, hwidens.beq_eq]
  split
  case isTrue => exact .nil
  case isFalse =>
    split
    case isTrue hstands =>
      rw [if_pos (hwidens.standsInFor hstands)]
      exact .refl _
    case isFalse =>
      split
      case isTrue => exact .compatible path .nil
      case isFalse => exact .refl _

omit hwidens in
theorem forall₂_standsInFor {oldTypes wideTypes narrowTypes : List TypeRef}
    (hwidens : List.Forall₂ Widens wideTypes narrowTypes)
    (hstands : List.Forall₂ (fun old new => new.standsInFor old = true) oldTypes narrowTypes) :
    List.Forall₂ (fun old new => new.standsInFor old = true) oldTypes wideTypes := by
  induction hwidens generalizing oldTypes with
  | nil => exact hstands
  | cons hfirst _ ih =>
    cases hstands with
    | cons hhead hrest => exact .cons (hfirst.standsInFor hhead) (ih hrest)

omit hwidens in
theorem softened_changes {wideTypes narrowTypes : List TypeRef}
    (hwidens : List.Forall₂ Widens wideTypes narrowTypes) (oldTypes : List TypeRef)
    (path : String) :
    Softened
      (((oldTypes.zip narrowTypes).filterMap fun pair => pair.1.change? pair.2).map (.of path))
      (((oldTypes.zip wideTypes).filterMap fun pair => pair.1.change? pair.2).map (.of path)) := by
  rw [List.filterMap_eq_flatMap_toList, List.filterMap_eq_flatMap_toList]
  induction hwidens generalizing oldTypes with
  | nil => exact .refl _
  | cons hfirst _ ih =>
    cases oldTypes with
    | nil => exact .nil
    | cons oldType oldTypes =>
      rw [List.zip_cons_cons, List.flatMap_cons, List.map_append, List.zip_cons_cons,
        List.flatMap_cons, List.map_append]
      exact .append (hfirst.softened_change? oldType path) (ih oldTypes)

end TypeRef

/-! ### Signatures -/

/-- The same parameter, of a type that accepts more. -/
structure Parameter.Widens (wide narrow : Parameter) : Prop where
  name_eq : wide.name = narrow.name
  type : wide.type.Widens narrow.type
  defaultValue_eq : wide.defaultValue = narrow.defaultValue

theorem Parameter.Widens.value_eq {wide narrow : Parameter} (hwidens : wide.Widens narrow) :
    wide.value = narrow.value :=
  Prod.ext hwidens.type.value_eq hwidens.defaultValue_eq

theorem Parameter.Widens.hasDefault_eq {wide narrow : Parameter} (hwidens : wide.Widens narrow) :
    wide.hasDefault = narrow.hasDefault :=
  congrArg Option.isSome hwidens.defaultValue_eq

namespace Signature

/-- The same parameters, of types that accept more. -/
def Widens (wide narrow : Signature) : Prop :=
  List.Forall₂ Parameter.Widens wide.parameters narrow.parameters

variable {old wide narrow : Signature} (hwidens : wide.Widens narrow)

include hwidens

theorem Widens.value_eq : wide.value = narrow.value :=
  map_eq_map_of_forall₂ hwidens fun _ _ => Parameter.Widens.value_eq

theorem Widens.types : List.Forall₂ TypeRef.Widens wide.types narrow.types := by
  rw [Signature.types, Signature.types, List.forall₂_map_left_iff, List.forall₂_map_right_iff]
  exact List.Forall₂.imp (fun _ _ => Parameter.Widens.type) hwidens

/-- Whatever evolved into a signature evolves into one that takes more. -/
theorem Widens.evolvesInto (hevolves : old.evolvesInto narrow = true) :
    old.evolvesInto wide = true :=
  evolvesInto_iff.mpr (TypeRef.forall₂_standsInFor hwidens.types (evolvesInto_iff.mp hevolves))

theorem Widens.lengthChange?_eq (old : Signature) :
    old.lengthChange? wide = old.lengthChange? narrow := by
  apply lengthChange?_congr rfl
  exact map_eq_map_of_forall₂ hwidens fun _ _ => Parameter.Widens.hasDefault_eq

theorem Widens.softened_changes (old : Signature) (path : String) :
    Softened ((old.changes narrow).map (.of path)) ((old.changes wide).map (.of path)) := by
  rw [changes, changes, List.map_append, List.map_append, hwidens.lengthChange?_eq]
  exact .append (TypeRef.softened_changes hwidens.types old.types path) (.refl _)

end Signature

/-! ### Overloads -/

/-- What is kept of related lists, told without saying what it is. -/
theorem map_const_filter_sublist {α β γ : Type} {related : α → β → Prop} {p : α → Bool}
    {q : β → Bool} (himp : ∀ a b, related a b → p a = true → q b = true) {first : List α}
    {second : List β} (hall : List.Forall₂ related first second) (c : γ) :
    ((first.filter p).map fun _ => c).Sublist ((second.filter q).map fun _ => c) := by
  induction hall with
  | nil => exact .slnil
  | @cons a b _ _ hhead _ ih =>
    rw [List.filter_cons, List.filter_cons]
    by_cases hp : p a = true
    · rw [if_pos hp, if_pos (himp a b hhead hp)]
      exact ih.cons_cons c
    · rw [if_neg hp]
      split
      · exact ih.cons c
      · exact ih

namespace Overloads

variable {wide narrow : List Signature} (hwidens : List.Forall₂ Signature.Widens wide narrow)

include hwidens

theorem exists_widened_of_mem {signature : Signature} (hmem : signature ∈ narrow) :
    ∃ other ∈ wide, other.Widens signature := by
  induction hwidens with
  | nil => cases hmem
  | cons hhead _ ih =>
    rcases List.mem_cons.mp hmem with rfl | hmem
    · exact ⟨_, List.mem_cons_self, hhead⟩
    · exact (ih hmem).imp fun _ => And.imp_left (List.mem_cons_of_mem _)

/-- The same old overloads are missing. -/
theorem missingFrom_widened (old : List Signature) :
    missingFrom old wide = missingFrom old narrow := by
  have hvalues : wide.map Signature.value = narrow.map Signature.value :=
    map_eq_map_of_forall₂ hwidens fun _ _ => Signature.Widens.value_eq
  have hmissing : List.Forall₂ Eq (missingFrom old wide) (missingFrom old narrow) :=
    forall₂_missingFrom (fun _ _ => congrArg Signature.value) (List.forall₂_refl old) hvalues
  rwa [List.forall₂_eq_eq_eq] at hmissing

/-- The same new overloads are missing, but that they take more. -/
theorem widens_missingFrom (old : List Signature) :
    List.Forall₂ Signature.Widens (missingFrom wide old) (missingFrom narrow old) :=
  forall₂_missingFrom (fun _ _ => Signature.Widens.value_eq) hwidens rfl

theorem softened_unreconciled (removed : List Signature) (path : String) :
    Softened ((unreconciled removed narrow).map (.of path))
      ((unreconciled removed wide).map (.of path)) := by
  refine .of_sublist (.append ?_ ?_) ?_ path
  · refine map_const_filter_sublist (fun a b hab => ?_) hwidens _
    simp only [Bool.not_eq_true', List.any_eq_false]
    exact fun hnone old hold hevolves => hnone old hold (hab.evolvesInto hevolves)
  · refine (List.monotone_filter_right removed fun old => ?_).map _
    simp only [Bool.not_eq_true', List.any_eq_false]
    intro hnone new hnew hevolves
    obtain ⟨other, hother, hwiden⟩ := exists_widened_of_mem hwidens hnew
    exact hnone other hother (hwiden.evolvesInto hevolves)
  · rw [List.forall_mem_append, List.forall_mem_map, List.forall_mem_map]
    exact ⟨fun _ _ => Or.inl rfl, fun _ _ => Or.inr rfl⟩

theorem softened_diff (old : List Signature) (path : String) :
    Softened ((diff old narrow).changes.map (.of path))
      ((diff old wide).changes.map (.of path)) := by
  have hlength : wide.length = narrow.length := hwidens.length_eq
  by_cases hsingles : old.length = 1 ∧ narrow.length = 1
  · obtain ⟨single, rfl⟩ := List.length_eq_one_iff.mp hsingles.1
    obtain ⟨other, rfl⟩ := List.length_eq_one_iff.mp hsingles.2
    cases hwidens with
    | cons hother hnil =>
      cases hnil
      exact hother.softened_changes single path
  · rw [diff_of_not_singles hsingles, diff_of_not_singles (hlength ▸ hsingles), List.map_append,
      List.map_append, missingFrom_widened hwidens, countChange?, countChange?, hlength]
    exact .append (.refl _) (softened_unreconciled (widens_missingFrom hwidens old) _ path)

end Overloads

end ApiDrift
