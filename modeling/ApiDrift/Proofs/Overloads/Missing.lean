import ApiDrift.Proofs.Overloads.Serves
import Mathlib.Data.List.Forall2

/-!
# Overloads that are missing on one side

Signatures are equal when their values are, that is the names and dimensions of the types and the default values, position by position. An overload that has no equal on the other side is missing there; of several equal ones the first stands for all.
-/

namespace ApiDrift

/-! ### Values -/

def TypeRef.value (type : TypeRef) : String × UInt32 := (type.name, type.dimension)

def Parameter.value (parameter : Parameter) : (String × UInt32) × Option String :=
  (parameter.type.value, parameter.defaultValue)

/-- What takes part in the equality of signatures. -/
def Signature.value (signature : Signature) : List ((String × UInt32) × Option String) :=
  signature.parameters.map Parameter.value

theorem TypeRef.beq_iff_value {a b : TypeRef} : (a == b) = true ↔ a.value = b.value := by
  rw [beq_iff, value, value, Prod.mk.injEq]

theorem Parameter.beq_iff_value {a b : Parameter} : (a == b) = true ↔ a.value = b.value := by
  rw [value, value, Prod.mk.injEq, ← TypeRef.beq_iff_value, ← beq_iff_eq (b := b.defaultValue)]
  exact Bool.and_eq_true_iff

/-- Lists are equal when the values of their entries are. -/
theorem list_beq_iff_map {α β : Type} [BEq α] {value : α → β}
    (hvalue : ∀ {a b : α}, (a == b) = true ↔ value a = value b) {first second : List α} :
    (first == second) = true ↔ first.map value = second.map value := by
  induction first generalizing second with
  | nil => cases second <;> simp
  | cons a first ih =>
    cases second with
    | nil => simp
    | cons b second =>
      rw [List.cons_beq_cons, Bool.and_eq_true, hvalue, ih, List.map_cons, List.map_cons,
        List.cons.injEq]

theorem Signature.beq_iff_value {a b : Signature} : (a == b) = true ↔ a.value = b.value :=
  list_beq_iff_map Parameter.beq_iff_value

theorem Signature.contains_iff_value {signatures : List Signature} {signature : Signature} :
    signatures.contains signature = true ↔ signature.value ∈ signatures.map Signature.value := by
  rw [List.contains_iff_exists_mem_beq, List.mem_map]
  exact exists_congr fun same => and_congr_right fun _ => beq_iff_value.trans eq_comm

instance : EquivBEq Signature where
  symm h := Signature.beq_iff_value.mpr (Signature.beq_iff_value.mp h).symm
  trans h h' := Signature.beq_iff_value.mpr
    ((Signature.beq_iff_value.mp h).trans (Signature.beq_iff_value.mp h'))

/-! ### Lists that correspond -/

/-- Lists have equal images when their entries do, position by position. -/
theorem map_eq_map_iff_forall₂ {α β γ : Type} {f : α → γ} {g : β → γ} {first : List α}
    {second : List β} :
    first.map f = second.map g ↔ List.Forall₂ (fun a b => f a = g b) first second := by
  rw [← List.forall₂_eq_eq_eq, List.forall₂_map_left_iff, List.forall₂_map_right_iff]

/-- Related lists have equal images under functions that agree on what is related. -/
theorem map_eq_map_of_forall₂ {α β γ : Type} {related : α → β → Prop} {f : α → γ} {g : β → γ}
    {first : List α} {second : List β} (hall : List.Forall₂ related first second)
    (himp : ∀ a b, related a b → f a = g b) : first.map f = second.map g :=
  map_eq_map_iff_forall₂.mpr (hall.imp himp)

/-- Related lists stay related when related entries are kept together. -/
theorem forall₂_filter {α β : Type} {related : α → β → Prop} {p : α → Bool} {q : β → Bool}
    {first : List α} {second : List β} (hall : List.Forall₂ related first second)
    (himp : ∀ a b, related a b → p a = q b) :
    List.Forall₂ related (first.filter p) (second.filter q) := by
  refine List.rel_filter (fun a b hab => ?_) hall
  change p a = true ↔ q b = true
  rw [himp a b hab]

/-- The entries of a numbered list are in the order of their numbers. -/
theorem pairwise_zipIdx {α : Type} (entries : List α) :
    entries.zipIdx.Pairwise fun entry entry' => entry.2 < entry'.2 := by
  rw [← List.pairwise_map (f := Prod.snd) (R := (· < ·)), List.zipIdx_map_snd]
  exact List.pairwise_lt_range'

/-! ### First occurrences -/

/-- A filter that keeps everything one looks for does not matter. -/
theorem find?_filter_of_imp {α : Type} {p q : α → Bool} (himp : ∀ a, p a = true → q a = true)
    (elements : List α) : (elements.filter q).find? p = elements.find? p := by
  rw [List.find?_filter]
  refine congrArg (List.find? · elements) (funext fun a => ?_)
  rw [Bool.eq_iff_iff, decide_eq_true_eq]
  exact and_iff_right_of_imp (himp a)

/-- Keeping first occurrences keeps exactly what is the first of its equals. -/
theorem mem_eraseDups_iff_find? {α : Type} [BEq α] [EquivBEq α] {a : α} {elements : List α} :
    a ∈ elements.eraseDups ↔ elements.find? (· == a) = some a := by
  induction elements using eraseDups_induction with
  | nil => simp
  | cons head rest ih =>
    rw [List.eraseDups_cons, List.mem_cons, ih]
    cases hhead : head == a with
    | true =>
      have hrest : (rest.filter fun b => !b == head).find? (· == a) ≠ some a := by
        intro hfind
        have hother := (List.mem_filter.mp (List.mem_of_find?_eq_some hfind)).2
        rw [BEq.symm hhead] at hother
        cases hother
      rw [List.find?_cons, hhead, Option.some.injEq, or_iff_left hrest, eq_comm]
    | false =>
      have hne : a ≠ head := by
        rintro rfl
        rw [beq_self_eq_true] at hhead
        cases hhead
      rw [List.find?_cons, hhead, or_iff_right hne]
      refine iff_of_eq (congrArg (· = some a) (find?_filter_of_imp (fun b hb => ?_) rest))
      rw [Bool.not_eq_true', Bool.eq_false_iff]
      intro hbHead
      rw [BEq.trans (BEq.symm hbHead) hb] at hhead
      cases hhead

/-- Among first occurrences no two are equal. -/
theorem pairwise_eraseDups {α : Type} [BEq α] (elements : List α) :
    elements.eraseDups.Pairwise fun a b => (b == a) = false := by
  induction elements using eraseDups_induction with
  | nil => exact .nil
  | cons head rest ih =>
    rw [List.eraseDups_cons, List.pairwise_cons]
    refine ⟨fun b hb => ?_, ih⟩
    have hkept := (List.mem_filter.mp ((eraseDups_sublist _).subset hb)).2
    rwa [Bool.not_eq_true'] at hkept

/-- Related lists keep related first occurrences, if what is equal on one side is equal on the other. -/
theorem forall₂_eraseDups {α β : Type} [BEq α] [BEq β] {related : α → β → Prop}
    (hbeq : ∀ a a' b b', related a b → related a' b' → (a == a') = (b == b')) {first : List α}
    {second : List β} (hall : List.Forall₂ related first second) :
    List.Forall₂ related first.eraseDups second.eraseDups := by
  induction first using eraseDups_induction generalizing second with
  | nil =>
    cases hall
    exact .nil
  | cons head rest ih =>
    cases hall with
    | @cons _ head' _ rest' hhead hrest =>
      have hothers : List.Forall₂ related (rest.filter fun a => !a == head)
          (rest'.filter fun b => !b == head') := by
        apply forall₂_filter hrest
        intro a b hab
        rw [hbeq a head b head' hab hhead]
      rw [List.eraseDups_cons, List.eraseDups_cons]
      exact .cons hhead (ih hothers)

namespace Overloads

/-- An overload of one side that has no equal on the other, and none before it on its own side. -/
def Lacking (side other : List Signature) (signature : Signature) : Prop :=
  side.find? (·.value = signature.value) = some signature ∧
    ∀ same ∈ other, same.value ≠ signature.value

theorem mem_missingFrom_iff {side other : List Signature} {signature : Signature} :
    signature ∈ missingFrom side other ↔ Lacking side other signature := by
  have hequal : (fun same : Signature => same == signature) =
      fun same => decide (same.value = signature.value) := by
    funext same
    rw [Bool.eq_iff_iff, decide_eq_true_eq, Signature.beq_iff_value]
  have hcontains : other.contains signature = false ↔
      ∀ same ∈ other, same.value ≠ signature.value := by
    rw [Bool.eq_false_iff, ne_eq, Signature.contains_iff_value, List.mem_map]
    simp only [not_exists, not_and, ne_eq]
  rw [Lacking, ← hcontains, ← hequal, missingFrom, mem_eraseDups_iff_find?]
  cases hother : other.contains signature with
  | true =>
    refine iff_of_false (fun hfind => ?_) (fun h => absurd h.2 (by decide))
    have hmissing := (List.mem_filter.mp (List.mem_of_find?_eq_some hfind)).2
    rw [hother] at hmissing
    cases hmissing
  | false =>
    rw [and_iff_left rfl]
    refine iff_of_eq
      (congrArg (· = some signature) (find?_filter_of_imp (fun same hsame => ?_) side))
    rw [List.contains_congr hsame, hother]
    rfl

/-- If two sides correspond, and equal overloads to equal ones, then what is missing on them corresponds. -/
theorem forall₂_missingFrom {related : Signature → Signature → Prop}
    (hvalue : ∀ a b, related a b → a.value = b.value) {side side' other other' : List Signature}
    (hside : List.Forall₂ related side side')
    (hother : other.map Signature.value = other'.map Signature.value) :
    List.Forall₂ related (missingFrom side other) (missingFrom side' other') := by
  have hkept : List.Forall₂ related (side.filter fun signature => !other.contains signature)
      (side'.filter fun signature => !other'.contains signature) := by
    apply forall₂_filter hside
    intro a b hab
    have hcontains : other.contains a = other'.contains b := by
      rw [Bool.eq_iff_iff, Signature.contains_iff_value, Signature.contains_iff_value,
        hvalue a b hab, hother]
    rw [hcontains]
  refine forall₂_eraseDups (fun a a' b b' hab hab' => ?_) hkept
  rw [Bool.eq_iff_iff, Signature.beq_iff_value, Signature.beq_iff_value, hvalue a b hab,
    hvalue a' b' hab']

/-- Outside the comparison of two single overloads, changes in number come first, and then what is missing and not reconciled. -/
theorem diff_of_not_singles {old new : List Signature}
    (hsingles : ¬ (old.length = 1 ∧ new.length = 1)) :
    diff old new = ⟨reconciliations (missingFrom old new) (missingFrom new old),
      (countChange? old new).toList ++
        unreconciled (missingFrom old new) (missingFrom new old)⟩ := by
  unfold diff
  split
  · exact absurd ⟨rfl, rfl⟩ hsingles
  · rfl

end Overloads

end ApiDrift
