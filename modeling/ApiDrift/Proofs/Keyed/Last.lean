import ApiDrift.Proofs.Keyed.Merge

/-!
# The last entry under a key

When entries are put into a collection one after the other, the last one under a key is the one that stays. If no key occurs twice the order does not matter.
-/

namespace ApiDrift

section Last

variable {ι κ : Type} {keyOf : ι → κ} {items : List ι} {key : κ} {item : ι}

/-- The item has the key, and no later one has. -/
def IsLast (keyOf : ι → κ) (items : List ι) (key : κ) (item : ι) : Prop :=
  keyOf item = key ∧ ∃ before after, items = before ++ item :: after ∧
    ∀ later ∈ after, keyOf later ≠ key

theorem not_isLast_nil : ¬ IsLast keyOf [] key item := by
  rintro ⟨-, before, after, hsplit, -⟩
  exact List.append_ne_nil_of_right_ne_nil before (List.cons_ne_nil item after) hsplit.symm

theorem isLast_concat_of_eq {last : ι} (hlast : keyOf last = key) :
    IsLast keyOf (items ++ [last]) key item ↔ item = last := by
  constructor
  · rintro ⟨-, before, after, hsplit, hlater⟩
    cases after using List.reverseRecOn with
    | nil => exact (List.singleton_inj.mp (List.append_inj' hsplit rfl).2).symm
    | append_singleton after other =>
      rw [← List.cons_append, ← List.append_assoc] at hsplit
      obtain rfl := List.singleton_inj.mp (List.append_inj' hsplit rfl).2
      exact absurd hlast (hlater last (List.mem_append_right _ (List.mem_singleton_self last)))
  · rintro rfl
    exact ⟨hlast, items, [], rfl, fun _ hmem => nomatch hmem⟩

theorem isLast_concat_of_ne {last : ι} (hlast : keyOf last ≠ key) :
    IsLast keyOf (items ++ [last]) key item ↔ IsLast keyOf items key item := by
  refine and_congr_right fun hkey => ⟨?_, ?_⟩
  · rintro ⟨before, after, hsplit, hlater⟩
    cases after using List.reverseRecOn with
    | nil =>
      obtain rfl := List.singleton_inj.mp (List.append_inj' hsplit rfl).2
      exact absurd hkey hlast
    | append_singleton after other =>
      rw [← List.cons_append, ← List.append_assoc] at hsplit
      exact ⟨before, after, (List.append_inj' hsplit rfl).1,
        fun later hmem => hlater later (List.mem_append_left _ hmem)⟩
  · rintro ⟨before, after, rfl, hlater⟩
    refine ⟨before, after ++ [last], by simp, ?_⟩
    rw [List.forall_mem_append, List.forall_mem_singleton]
    exact ⟨hlater, hlast⟩

/-- Some item is the last with a key as soon as one has the key. -/
theorem exists_isLast_iff :
    (∃ item, IsLast keyOf items key item) ↔ ∃ item ∈ items, keyOf item = key := by
  classical
  induction items using List.reverseRecOn with
  | nil => exact iff_of_false (fun ⟨_, h⟩ => not_isLast_nil h) (fun ⟨_, h, _⟩ => nomatch h)
  | append_singleton items last ih =>
    simp only [List.mem_append, List.mem_singleton, or_and_right, exists_or, exists_eq_left]
    by_cases hlast : keyOf last = key
    · exact iff_of_true ⟨last, (isLast_concat_of_eq hlast).mpr rfl⟩ (Or.inr hlast)
    · simp only [isLast_concat_of_ne hlast, ih, hlast, or_false]

theorem isLast_iff_of_nodup (hnodup : (items.map keyOf).Nodup) :
    IsLast keyOf items key item ↔ item ∈ items ∧ keyOf item = key := by
  constructor
  · rintro ⟨hkey, before, after, rfl, -⟩
    exact ⟨List.mem_append_right _ List.mem_cons_self, hkey⟩
  · rintro ⟨hmem, hkey⟩
    obtain ⟨before, after, rfl⟩ := List.append_of_mem hmem
    rw [List.map_append, List.map_cons, List.nodup_append] at hnodup
    refine ⟨hkey, before, after, rfl, fun later hlater hsame => ?_⟩
    have hfresh := (List.nodup_cons.mp hnodup.2.1).1
    exact hfresh (hkey.trans hsame.symm ▸ List.mem_map_of_mem hlater)

end Last

namespace Keyed

variable {α ι : Type} (keyOf : ι → String) (valueOf : ι → α)

theorem ofList_concat (entries : List (String × α)) (last : String × α) :
    ofList (entries ++ [last]) = (ofList entries).insert last.1 last.2 := by
  rw [ofList, List.foldl_append]
  rfl

/-- What stands under a key is the value of the last item with it. -/
theorem get?_ofList_eq_some_iff (items : List ι) (key : String) (value : α) :
    (ofList (items.map fun item => (keyOf item, valueOf item))).get? key = some value ↔
      ∃ item, IsLast keyOf items key item ∧ valueOf item = value := by
  induction items using List.reverseRecOn with
  | nil => exact iff_of_false (fun h => nomatch h) (fun ⟨_, h, _⟩ => not_isLast_nil h)
  | append_singleton items last ih =>
    rw [List.map_append, List.map_singleton, ofList_concat, get?_insert]
    by_cases hlast : keyOf last = key
    · rw [if_pos hlast.symm]
      simp only [isLast_concat_of_eq hlast, exists_eq_left, Option.some.injEq]
    · rw [if_neg (Ne.symm hlast), ih]
      simp only [isLast_concat_of_ne hlast]

theorem mem_keys_ofList_iff (items : List ι) (key : String) :
    key ∈ (ofList (items.map fun item => (keyOf item, valueOf item))).keys ↔
      ∃ item ∈ items, keyOf item = key := by
  rw [mem_keys_iff, Option.isSome_iff_exists, ← exists_isLast_iff]
  simp only [get?_ofList_eq_some_iff]
  exact ⟨fun ⟨_, item, hlast, _⟩ => ⟨item, hlast⟩, fun ⟨item, hlast⟩ => ⟨_, item, hlast, rfl⟩⟩

/-- Where every key occurs once, the order of the items does not matter. -/
theorem ofList_perm {first second : List ι} (hnodup : (first.map keyOf).Nodup)
    (hperm : first.Perm second) :
    ofList (first.map fun item => (keyOf item, valueOf item)) =
      ofList (second.map fun item => (keyOf item, valueOf item)) := by
  have hnodup' : (second.map keyOf).Nodup := (hperm.map keyOf).nodup_iff.mp hnodup
  refine ext_get? fun key => Option.ext fun value => ?_
  rw [get?_ofList_eq_some_iff, get?_ofList_eq_some_iff]
  simp only [isLast_iff_of_nodup hnodup, isLast_iff_of_nodup hnodup', hperm.mem_iff]

end Keyed

end ApiDrift
