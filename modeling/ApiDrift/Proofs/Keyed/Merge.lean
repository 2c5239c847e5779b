import ApiDrift.Proofs.Keyed.Lookup

/-!
# Putting entries together

What stands under each key once an entry was put into a collection, and once the entries of another collection were. In both cases what comes later counts, and everything else stays where it is.
-/

namespace ApiDrift.Keyed

variable {α : Type}

theorem get?_insertAbove {low : Option String} (key : String) (above : Above low key) (value : α)
    (entries : Keyed α low) (wanted : String) :
    (entries.insertAbove key above value).get? wanted =
      if wanted = key then some value else entries.get? wanted := by
  induction entries with
  | nil => rfl
  | cons head headAbove other rest ih =>
    rw [insertAbove]
    split
    case isTrue before => rfl
    case isFalse hnotBefore =>
      split
      case isTrue after =>
        have hbeyond : Above (some head) key := after
        have hrest : (rest.insertAbove key hbeyond value).get? wanted =
            if wanted = key then some value else rest.get? wanted := ih hbeyond
        rw [get?, get?, hrest]
        by_cases hhead : wanted = head
        · have hne : wanted ≠ key := hhead ▸ after.ne
          rw [if_pos hhead, if_pos hhead, if_neg hne]
        · rw [if_neg hhead, if_neg hhead]
      case isFalse hnotAfter =>
        obtain rfl : head = key := le_antisymm (not_lt.mp hnotBefore) (not_lt.mp hnotAfter)
        rw [get?, get?]
        split <;> rfl

theorem get?_insert (entries : Keyed α none) (key : String) (value : α) (wanted : String) :
    (entries.insert key value).get? wanted =
      if wanted = key then some value else entries.get? wanted :=
  get?_insertAbove key (show Above none key from trivial) value entries wanted

/-- The entries of both collections; under a key of both stands what the second has there. -/
def merge (first second : Keyed α none) : Keyed α none :=
  second.toList.foldl (fun made entry => made.insert entry.1 entry.2) first

theorem get?_foldl_insert {low : Option String} (first : Keyed α none) (second : Keyed α low)
    (wanted : String) :
    (second.toList.foldl (fun made entry => made.insert entry.1 entry.2) first).get? wanted =
      (second.get? wanted).or (first.get? wanted) := by
  induction second generalizing first with
  | nil => rfl
  | cons key above value rest ih =>
    rw [toList, List.foldl_cons, ih, get?_insert]
    by_cases hkey : wanted = key
    · have hrest : rest.get? key = none := by
        rw [← Option.not_isSome_iff_eq_none, ← mem_keys_iff]
        intro hmem
        exact lt_irrefl key (rest.above_of_mem_keys hmem)
      rw [hkey, if_pos rfl, hrest, get?_cons_self]
      rfl
    · rw [if_neg hkey, get?, if_neg hkey]

theorem get?_merge (first second : Keyed α none) (wanted : String) :
    (first.merge second).get? wanted = (second.get? wanted).or (first.get? wanted) :=
  get?_foldl_insert first second wanted

theorem mem_keys_merge {first second : Keyed α none} {key : String} :
    key ∈ (first.merge second).keys ↔ key ∈ first.keys ∨ key ∈ second.keys := by
  rw [mem_keys_iff, mem_keys_iff, mem_keys_iff, get?_merge, Option.isSome_or, Bool.or_eq_true,
    or_comm]

theorem get?_eq_none_of_notMem {low : Option String} {entries : Keyed α low} {key : String}
    (hkey : key ∉ entries.keys) : entries.get? key = none := by
  rwa [mem_keys_iff, Option.not_isSome_iff_eq_none] at hkey

/-! ### A collection is known by what stands under each key -/

theorem get?_eq_none_of_not_above {key : String} (entries : Keyed α (some key)) {wanted : String}
    (hnot : ¬ key < wanted) : entries.get? wanted = none :=
  get?_eq_none_of_notMem fun hmem => hnot (entries.above_of_mem_keys hmem)

theorem ext_get? {low : Option String} {first second : Keyed α low}
    (hget : ∀ key, first.get? key = second.get? key) : first = second := by
  induction first with
  | nil =>
    cases second with
    | nil => rfl
    | cons key above value rest => exact nomatch (hget key).trans (get?_cons_self key above value rest)
  | cons key above value rest ih =>
    cases second with
    | nil => exact nomatch (get?_cons_self key above value rest).symm.trans (hget key)
    | cons other otherAbove otherValue otherRest =>
      have hkey : key = other := by
        rcases lt_trichotomy key other with hlt | heq | hgt
        · have hnone := get?_cons_eq_none_of_lt otherAbove otherValue otherRest hlt
          rw [← hget, get?_cons_self] at hnone
          cases hnone
        · exact heq
        · have hnone := get?_cons_eq_none_of_lt above value rest hgt
          rw [hget, get?_cons_self] at hnone
          cases hnone
      subst hkey
      have hvalue := hget key
      rw [get?_cons_self, get?_cons_self] at hvalue
      obtain rfl := Option.some.inj hvalue
      have hrest : rest = otherRest := by
        refine ih fun wanted => ?_
        by_cases hlt : key < wanted
        · have hsame := hget wanted
          rwa [get?_cons_of_lt above value rest hlt,
            get?_cons_of_lt otherAbove value otherRest hlt] at hsame
        · rw [rest.get?_eq_none_of_not_above hlt, otherRest.get?_eq_none_of_not_above hlt]
      rw [hrest]

/-- Putting together the entries of a collection gives the collection. -/
theorem ofList_toList (entries : Keyed α none) : ofList entries.toList = entries := by
  refine ext_get? fun key => ?_
  rw [ofList, get?_foldl_insert]
  exact Option.or_none

end ApiDrift.Keyed
