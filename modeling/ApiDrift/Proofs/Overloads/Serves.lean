import ApiDrift.Overloads
import ApiDrift.Proofs.Bump.Order

/-!
# Signatures that serve old callers

A new signature serves the callers of an old one when every argument they pass is taken by a type that stands in for the old type, and every parameter they do not know of has a default. Here it is shown that no caller is lost without a major change, both when two single signatures are compared and when the signatures of two larger sets are reconciled.
-/

namespace ApiDrift

/-! ### Types -/

namespace TypeRef

theorem beq_iff {a b : TypeRef} :
    (a == b) = true ↔ a.name = b.name ∧ a.dimension = b.dimension := by
  change (a.name == b.name && a.dimension == b.dimension) = true ↔ _
  rw [Bool.and_eq_true, beq_iff_eq, beq_iff_eq]

instance : ReflBEq TypeRef where
  rfl := beq_iff.mpr ⟨rfl, rfl⟩

/-- Equal types are stood in for by the same types. -/
theorem standsInFor_congr (new : TypeRef) {a b : TypeRef} (hbeq : (a == b) = true) :
    new.standsInFor a = new.standsInFor b := by
  obtain ⟨hname, hdimension⟩ := beq_iff.mp hbeq
  have hnew : (new == a) = (new == b) := by
    rw [Bool.eq_iff_iff, beq_iff, beq_iff, hname, hdimension]
  rw [standsInFor, standsInFor, hnew, hname, hdimension]

theorem standsInFor_of_beq {new old : TypeRef} (hbeq : (old == new) = true) :
    new.standsInFor old = true := by
  rw [standsInFor_congr new hbeq, standsInFor, beq_self_eq_true, Bool.true_or]

theorem change?_cases (old new : TypeRef) :
    new.standsInFor old = true ∧ (old.change? new = none ∨
        old.change? new = some .typeChangedToCompatibleType) ∨
      old.change? new = some .typeChangedToIncompatibleType := by
  rw [change?]
  split
  case isTrue hbeq => exact Or.inl ⟨standsInFor_of_beq hbeq, Or.inl rfl⟩
  case isFalse =>
    split
    case isTrue hstands => exact Or.inl ⟨hstands, Or.inr rfl⟩
    case isFalse => exact Or.inr rfl

/-- A type that does not stand in for the old one is a major change. -/
theorem standsInFor_of_lt_major {old new : TypeRef}
    (hminor : ∀ change ∈ old.change? new, change.severity < .major) :
    new.standsInFor old = true := by
  rcases change?_cases old new with ⟨hstands, -⟩ | hincompatible
  · exact hstands
  · exact absurd (hminor _ hincompatible) (by decide)

end TypeRef

/-! ### Signatures -/

/-- Equal lists have equal entries at every position. -/
theorem exists_getElem?_of_beq {α : Type} [BEq α] {first second : List α}
    (hbeq : (first == second) = true) {position : Nat} {a : α} (ha : first[position]? = some a) :
    ∃ b, second[position]? = some b ∧ (a == b) = true := by
  induction first generalizing second position with
  | nil => simp at ha
  | cons head rest ih =>
    cases second with
    | nil => cases hbeq
    | cons other others =>
      rw [List.cons_beq_cons, Bool.and_eq_true] at hbeq
      cases position with
      | zero =>
        cases ha
        exact ⟨other, rfl, hbeq.1⟩
      | succ position => exact ih hbeq.2 ha

namespace Parameter

instance : ReflBEq Parameter where
  rfl {a} := by
    change (a.type == a.type && a.defaultValue == a.defaultValue) = true
    rw [beq_self_eq_true, beq_self_eq_true]
    rfl

theorem type_beq {a b : Parameter} (hbeq : (a == b) = true) : (a.type == b.type) = true :=
  (Bool.and_eq_true_iff.mp hbeq).1

end Parameter

namespace Signature

instance : ReflBEq Signature where
  rfl {a} := beq_self_eq_true a.parameters

/-- Callers of the old signature can call the new one: it has at least as many parameters, types stand in for those at the same positions, and the parameters that are left have defaults. -/
structure Serves (new old : Signature) : Prop where
  length_le : old.length ≤ new.length
  standsIn : ∀ (position : Nat) (parameter : Parameter),
    old.parameters[position]? = some parameter →
      ∃ other, new.parameters[position]? = some other ∧
        other.type.standsInFor parameter.type = true
  hasDefault : ∀ parameter ∈ new.parameters.drop old.length, parameter.hasDefault = true

theorem serves_of_beq {old new : Signature} (hbeq : (old == new) = true) : new.Serves old := by
  have hlength : old.length = new.length := List.length_eq_of_beq hbeq
  refine ⟨hlength.le, fun position parameter hparameter => ?_, fun parameter hmem => ?_⟩
  · obtain ⟨other, hother, htypes⟩ := exists_getElem?_of_beq hbeq hparameter
    exact ⟨other, hother, TypeRef.standsInFor_of_beq (Parameter.type_beq htypes)⟩
  · rw [hlength, length, List.drop_length] at hmem
    cases hmem

/-- What serves one signature serves its equals. -/
theorem Serves.of_beq {old same new : Signature} (hserves : new.Serves same)
    (hbeq : (old == same) = true) : new.Serves old := by
  have hlength : old.length = same.length := List.length_eq_of_beq hbeq
  refine ⟨hlength ▸ hserves.length_le, fun position parameter hparameter => ?_,
    hlength ▸ hserves.hasDefault⟩
  obtain ⟨twin, htwin, htypes⟩ := exists_getElem?_of_beq hbeq hparameter
  obtain ⟨other, hother, hstands⟩ := hserves.standsIn position twin htwin
  rw [← TypeRef.standsInFor_congr other.type (Parameter.type_beq htypes)] at hstands
  exact ⟨other, hother, hstands⟩

/-- What is told of parameters beyond the common positions. -/
inductive Resized (old new : Signature) : Change → Prop
  | optional (hlonger : old.length < new.length)
      (hdefaults : ∀ parameter ∈ new.parameters.drop old.length, parameter.hasDefault = true) :
      Resized old new .parameterDefaultsAddedToSignature
  | required {parameter : Parameter} (hmem : parameter ∈ new.parameters.drop old.length)
      (hrequired : parameter.hasDefault = false) :
      Resized old new .parameterAddedToSignature
  | shorter (hshorter : new.length < old.length) :
      Resized old new .parameterRemovedFromSignature

theorem length_lt_of_mem_drop {old new : Signature} {parameter : Parameter}
    (hmem : parameter ∈ new.parameters.drop old.length) : old.length < new.length := by
  have hpos : 0 < (new.parameters.drop old.length).length := List.length_pos_of_mem hmem
  rw [List.length_drop] at hpos
  exact Nat.lt_of_sub_pos hpos

theorem mem_lengthChange?_iff {old new : Signature} {change : Change} :
    change ∈ old.lengthChange? new ↔ old.Resized new change := by
  constructor
  · intro hchange
    rw [lengthChange?] at hchange
    split at hchange
    case isTrue hlonger =>
      split at hchange
      case isTrue hdefaults =>
        cases hchange
        exact .optional hlonger (List.all_eq_true.mp hdefaults)
      case isFalse hdefaults =>
        cases hchange
        obtain ⟨parameter, hmem, hrequired⟩ := List.all_eq_false.mp (Bool.eq_false_iff.mpr hdefaults)
        exact .required hmem (Bool.eq_false_iff.mpr hrequired)
    case isFalse =>
      split at hchange
      case isTrue hshorter =>
        cases hchange
        exact .shorter hshorter
      case isFalse => cases hchange
  · rw [lengthChange?]
    rintro (⟨hlonger, hdefaults⟩ | ⟨hmem, hrequired⟩ | hshorter)
    · rw [if_pos hlonger, if_pos (List.all_eq_true.mpr hdefaults)]
      rfl
    · rw [if_pos (length_lt_of_mem_drop hmem), if_neg]
      · rfl
      · intro hdefaults
        rw [List.all_eq_true.mp hdefaults _ hmem] at hrequired
        cases hrequired
    · rw [if_neg (Nat.lt_asymm hshorter), if_pos hshorter]
      rfl

theorem Resized.length_ne {old new : Signature} {change : Change}
    (hresized : old.Resized new change) : old.length ≠ new.length := by
  cases hresized with
  | optional hlonger => exact hlonger.ne
  | required hmem => exact (length_lt_of_mem_drop hmem).ne
  | shorter hshorter => exact hshorter.ne'

theorem lengthChange?_of_lt_major {old new : Signature}
    (hminor : ∀ change ∈ old.lengthChange? new, change.severity < .major) :
    old.length ≤ new.length ∧ ∀ parameter ∈ new.parameters.drop old.length,
      parameter.hasDefault = true := by
  constructor
  · by_contra hshorter
    have hremoved := mem_lengthChange?_iff.mpr (.shorter (Nat.lt_of_not_le hshorter))
    exact absurd (hminor _ hremoved) (by decide)
  · intro parameter hmem
    by_contra hrequired
    have hadded := mem_lengthChange?_iff.mpr (.required hmem (Bool.eq_false_iff.mpr hrequired))
    exact absurd (hminor _ hadded) (by decide)

/-- Of the parameters beyond the common positions only the defaults matter. -/
theorem lengthChange?_congr {old old' new new' : Signature} (hlength : old.length = old'.length)
    (hdefaults : new.parameters.map Parameter.hasDefault =
      new'.parameters.map Parameter.hasDefault) :
    old.lengthChange? new = old'.lengthChange? new' := by
  have hnewLength : new.length = new'.length := by
    have hmaps := congrArg List.length hdefaults
    rwa [List.length_map, List.length_map] at hmaps
  have hrest : ∀ signature : Signature,
      (signature.parameters.drop old.length).all Parameter.hasDefault =
        ((signature.parameters.map Parameter.hasDefault).drop old.length).all id := by
    intro signature
    rw [← List.map_drop, List.all_map, Function.id_comp]
  rw [lengthChange?, lengthChange?, ← hlength, hnewLength, hrest new, hrest new', hdefaults]

/-- The only way to lose the callers of a signature is a major change. -/
theorem serves_of_changes {old new : Signature}
    (hminor : ∀ change ∈ old.changes new, change.severity < .major) : new.Serves old := by
  have hlength : ∀ change ∈ old.lengthChange? new, change.severity < .major := by
    intro change hchange
    exact hminor change (List.mem_append_right _ (Option.mem_toList.mpr hchange))
  obtain ⟨hle, hdefaults⟩ := lengthChange?_of_lt_major hlength
  refine ⟨hle, fun position parameter hparameter => ?_, hdefaults⟩
  have hposition : position < new.parameters.length :=
    (List.getElem?_eq_some_iff.mp hparameter).1.trans_le hle
  have hother : new.parameters[position]? = some new.parameters[position] :=
    List.getElem?_eq_getElem hposition
  refine ⟨_, hother, TypeRef.standsInFor_of_lt_major fun change hchange => hminor change ?_⟩
  refine List.mem_append_left _ (List.mem_filterMap.mpr ⟨(_, _), ?_, hchange⟩)
  refine List.mem_iff_getElem?.mpr ⟨position, List.getElem?_zip_eq_some.mpr ⟨?_, ?_⟩⟩
  · rw [types, List.getElem?_map, hparameter, Option.map_some]
  · rw [types, List.getElem?_map, hother, Option.map_some]

theorem serves_of_evolvesInto {old new : Signature} (hevolves : old.evolvesInto new = true) :
    new.Serves old := by
  refine serves_of_changes fun change hchange => ?_
  have hpatch : change.severity ≤ .patch :=
    of_decide_eq_true (List.all_eq_true.mp hevolves change hchange)
  exact hpatch.trans_lt (by decide)

end Signature

/-! ### Overloads -/

/-- Induction as `eraseDups` recurs: of the rest only what is not equal to the head is left. -/
theorem eraseDups_induction {α : Type} [BEq α] {motive : List α → Prop} (nil : motive [])
    (cons : ∀ head rest, motive (rest.filter fun other => !other == head) → motive (head :: rest)) :
    ∀ elements, motive elements
  | [] => nil
  | head :: rest => cons head rest (eraseDups_induction nil cons _)
termination_by elements => elements.length
decreasing_by exact Nat.lt_succ_of_le (List.length_filter_le _ _)

/-- Keeping only first occurrences keeps an equal of every element. -/
theorem exists_mem_eraseDups {α : Type} [BEq α] [ReflBEq α] {a : α} {elements : List α}
    (hmem : a ∈ elements) : ∃ b ∈ elements.eraseDups, (a == b) = true := by
  induction elements using eraseDups_induction with
  | nil => cases hmem
  | cons head rest ih =>
    rw [List.eraseDups_cons]
    by_cases hhead : (a == head) = true
    · exact ⟨head, List.mem_cons_self, hhead⟩
    · have hrest : a ∈ rest.filter fun other => !other == head := by
        rcases List.mem_cons.mp hmem with rfl | hmem
        · exact absurd (beq_self_eq_true a) hhead
        · exact List.mem_filter.mpr ⟨hmem, by simpa using hhead⟩
      obtain ⟨b, hb, hbeq⟩ := ih hrest
      exact ⟨b, List.mem_cons_of_mem head hb, hbeq⟩

theorem eraseDups_sublist {α : Type} [BEq α] (elements : List α) :
    elements.eraseDups.Sublist elements := by
  induction elements using eraseDups_induction with
  | nil => exact List.nil_sublist _
  | cons head rest ih =>
    rw [List.eraseDups_cons]
    exact (ih.trans List.filter_sublist).cons_cons head

namespace Overloads

variable {old new : List Signature}

theorem missingFrom_sublist (side other : List Signature) :
    (missingFrom side other).Sublist side :=
  (eraseDups_sublist _).trans List.filter_sublist

theorem missingFrom_subset (side other : List Signature) : missingFrom side other ⊆ side :=
  (missingFrom_sublist side other).subset

theorem exists_mem_missingFrom {side other : List Signature} {signature : Signature}
    (hmem : signature ∈ side) (hmissing : other.contains signature = false) :
    ∃ same ∈ missingFrom side other, (signature == same) = true :=
  exists_mem_eraseDups (List.mem_filter.mpr ⟨hmem, by rw [hmissing]; rfl⟩)

/-- A removed signature evolves into an added one, unless its loss is reported. -/
theorem exists_evolvesInto_of_unreconciled {removed added : List Signature}
    (hminor : ∀ change ∈ unreconciled removed added, change.severity < .major)
    {signature : Signature} (hmem : signature ∈ removed) :
    ∃ other ∈ added, signature.evolvesInto other = true := by
  by_contra hlost
  have hnone : added.any signature.evolvesInto = false := by
    rw [List.any_eq_false]
    exact fun other hother hevolves => hlost ⟨other, hother, hevolves⟩
  have hreported : Change.overloadedFunctionRemoved ∈ unreconciled removed added := by
    refine List.mem_append_right _ (List.mem_map.mpr ⟨signature, ?_, rfl⟩)
    exact List.mem_filter.mpr ⟨hmem, by rw [hnone]; rfl⟩
  exact absurd (hminor _ hreported) (by decide)

theorem exists_serves_of_reconciled
    (hminor : ∀ change ∈ unreconciled (missingFrom old new) (missingFrom new old),
      change.severity < .major) :
    ∀ signature ∈ old, ∃ other ∈ new, other.Serves signature := by
  intro signature hmem
  cases hcontains : new.contains signature with
  | true =>
    obtain ⟨other, hother, hbeq⟩ := List.contains_iff_exists_mem_beq.mp hcontains
    exact ⟨other, hother, Signature.serves_of_beq hbeq⟩
  | false =>
    obtain ⟨same, hsame, hbeq⟩ := exists_mem_missingFrom hmem hcontains
    obtain ⟨other, hother, hevolves⟩ := exists_evolvesInto_of_unreconciled hminor hsame
    exact ⟨other, missingFrom_subset new old hother,
      (Signature.serves_of_evolvesInto hevolves).of_beq hbeq⟩

/-- However the overloads are compared, every old one is served by a new one unless a change is major. -/
theorem exists_serves_of_diff
    (hminor : ∀ change ∈ (diff old new).changes, change.severity < .major) :
    ∀ signature ∈ old, ∃ other ∈ new, other.Serves signature := by
  unfold diff at hminor
  split at hminor
  case h_1 single other =>
    intro signature hmem
    obtain rfl := List.mem_singleton.mp hmem
    exact ⟨other, List.mem_singleton_self other, Signature.serves_of_changes hminor⟩
  case h_2 =>
    refine exists_serves_of_reconciled fun change hchange => ?_
    exact hminor change (List.mem_append_right _ hchange)

end Overloads

end ApiDrift
