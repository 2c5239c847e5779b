import ApiDrift.Proofs.Overloads.Equivalence

/-!
# What is told of larger sets of overloads

Two sets of overloads are told apart by their number and by the overloads that find no partner. A new one is gained if it is missing on the old side and stands in for nothing that is missing on the new side; an old one is lost if nothing that is missing on the old side stands in for it. Each is told once, however often it was declared.
-/

namespace ApiDrift.Overloads

/-! ### Selections -/

/-- A choice among overloads: in the order of their declaration, without equals, and exactly those with a property. -/
structure Selection (side : List Signature) (property : Signature → Prop)
    (selected : List Signature) : Prop where
  sublist : selected.Sublist side
  distinct : (selected.map Signature.value).Nodup
  mem_iff : ∀ signature, signature ∈ selected ↔ property signature

variable {side side' selected selected' : List Signature} {property property' : Signature → Prop}

theorem selection_missingFrom (side other : List Signature) :
    Selection side (Lacking side other) (missingFrom side other) where
  sublist := missingFrom_sublist side other
  distinct := by
    rw [List.Nodup, List.pairwise_map]
    refine (pairwise_eraseDups _).imp fun {a b} hne => ?_
    rw [Bool.eq_false_iff, ne_eq, Signature.beq_iff_value] at hne
    exact Ne.symm hne
  mem_iff _ := mem_missingFrom_iff

theorem Selection.filter (hselected : Selection side property selected) {p : Signature → Bool}
    {kept : Signature → Prop} (hkept : ∀ signature, p signature = true ↔ kept signature) :
    Selection side (fun signature => property signature ∧ kept signature) (selected.filter p) where
  sublist := List.filter_sublist.trans hselected.sublist
  distinct := hselected.distinct.sublist (List.filter_sublist.map Signature.value)
  mem_iff signature := by rw [List.mem_filter, hselected.mem_iff, hkept]

/-- Selections have the same values if each property is one of values of the other. -/
theorem Selection.perm_values (hselected : Selection side property selected)
    (hselected' : Selection side' property' selected')
    (hforth : ∀ signature, property signature →
      ∃ twin, property' twin ∧ twin.value = signature.value)
    (hback : ∀ twin, property' twin →
      ∃ signature, property signature ∧ signature.value = twin.value) :
    (selected.map Signature.value).Perm (selected'.map Signature.value) := by
  rw [List.perm_ext_iff_of_nodup hselected.distinct hselected'.distinct]
  intro value
  rw [List.mem_map, List.mem_map]
  constructor
  · rintro ⟨signature, hmem, rfl⟩
    obtain ⟨twin, htwin, hvalue⟩ := hforth signature ((hselected.mem_iff _).mp hmem)
    exact ⟨twin, (hselected'.mem_iff twin).mpr htwin, hvalue⟩
  · rintro ⟨twin, hmem, rfl⟩
    obtain ⟨signature, hsignature, hvalue⟩ := hback twin ((hselected'.mem_iff _).mp hmem)
    exact ⟨signature, (hselected.mem_iff signature).mpr hsignature, hvalue⟩

/-! ### Gains and losses -/

variable {old new : List Signature}

/-- A new overload that is missing on the old side and stands in for nothing missing on the new side. -/
def Gained (old new : List Signature) (added : Signature) : Prop :=
  Lacking new old added ∧ ¬ ∃ removed, Lacking old new removed ∧ added.StandsInFor removed

/-- An old overload that is missing on the new side, and nothing missing on the old side stands in for it. -/
def Lost (old new : List Signature) (removed : Signature) : Prop :=
  Lacking old new removed ∧ ¬ ∃ added, Lacking new old added ∧ added.StandsInFor removed

theorem selection_gained (old new : List Signature) :
    Selection new (Gained old new) ((missingFrom new old).filter fun added =>
      !(missingFrom old new).any (·.evolvesInto added)) := by
  refine (selection_missingFrom new old).filter fun added => ?_
  simp only [Bool.not_eq_true', Bool.eq_false_iff, ne_eq, List.any_eq_true,
    Signature.evolvesInto_iff, mem_missingFrom_iff]

theorem selection_lost (old new : List Signature) :
    Selection old (Lost old new) ((missingFrom old new).filter fun removed =>
      !(missingFrom new old).any removed.evolvesInto) := by
  refine (selection_missingFrom old new).filter fun removed => ?_
  simp only [Bool.not_eq_true', Bool.eq_false_iff, ne_eq, List.any_eq_true,
    Signature.evolvesInto_iff, mem_missingFrom_iff]

theorem toList_countChange? (old new : List Signature) :
    (countChange? old new).toList =
      if old.length < new.length then [.functionWasOverloaded]
      else if new.length < old.length then [.overloadedFunctionRemoved]
      else [] := by
  rw [countChange?]
  split
  · rfl
  · split <;> rfl

/-- What is told: the difference in number, then what was gained, then what was lost. -/
theorem exists_changes_eq (hsingles : ¬ (old.length = 1 ∧ new.length = 1)) :
    ∃ gained lost, Selection new (Gained old new) gained ∧ Selection old (Lost old new) lost ∧
      (diff old new).changes =
        (if old.length < new.length then [.functionWasOverloaded]
          else if new.length < old.length then [.overloadedFunctionRemoved]
          else []) ++
        (List.replicate gained.length .functionWasOverloaded ++
          List.replicate lost.length .overloadedFunctionRemoved) := by
  refine ⟨_, _, selection_gained old new, selection_lost old new, ?_⟩
  rw [diff_of_not_singles hsingles, toList_countChange?, unreconciled, List.map_const',
    List.map_const']

end ApiDrift.Overloads
