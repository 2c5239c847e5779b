import ApiDrift.Keyed
import Mathlib.Data.Finset.Sort
import Mathlib.Data.String.Basic

/-!
# Looking keys up

A keyed collection is known by its keys and by what stands under each of them. Two collections are walked together along their joint keys: every key of either side, each once, in ascending order. The lemmas on splitting say what that walk meets before, at and after one key.
-/

namespace ApiDrift

namespace Keyed

variable {α : Type}

theorem above_trans {low : Option String} {key next : String} (habove : Above low key)
    (hlt : key < next) : Above low next := by
  cases low with
  | none => trivial
  | some low => exact lt_trans (show low < key from habove) hlt

@[simp] theorem keys_nil {low : Option String} : (nil : Keyed α low).keys = [] := rfl

@[simp] theorem keys_cons {low : Option String} (key : String) (above : Above low key) (value : α)
    (rest : Keyed α (some key)) : (cons key above value rest).keys = key :: rest.keys := rfl

theorem above_of_mem_keys {low : Option String} (entries : Keyed α low) {key : String}
    (hkey : key ∈ entries.keys) : Above low key := by
  induction entries with
  | nil => cases hkey
  | cons first above value rest ih =>
    rcases List.mem_cons.mp hkey with rfl | hrest
    · exact above
    · exact above_trans above (ih hrest)

theorem pairwise_keys {low : Option String} (entries : Keyed α low) :
    entries.keys.Pairwise (· < ·) := by
  induction entries with
  | nil => exact List.Pairwise.nil
  | cons first above value rest ih =>
    exact List.Pairwise.cons (fun key hkey => rest.above_of_mem_keys hkey) ih

theorem pairwise_toList {low : Option String} (entries : Keyed α low) :
    entries.toList.Pairwise (·.1 < ·.1) :=
  List.pairwise_map.mp entries.pairwise_keys

theorem get?_eq_lookup {low : Option String} (entries : Keyed α low) (key : String) :
    entries.get? key = entries.toList.lookup key := by
  induction entries with
  | nil => rfl
  | cons first above value rest ih =>
    rw [get?, toList, List.lookup_cons, ih]
    by_cases h : key = first
    · rw [if_pos h, beq_iff_eq.mpr h]
    · rw [if_neg h, beq_eq_false_iff_ne.mpr h]

theorem get?_cons_self {low : Option String} (key : String) (above : Above low key) (value : α)
    (rest : Keyed α (some key)) : (cons key above value rest).get? key = some value := by
  rw [get?, if_pos rfl]

theorem get?_cons_of_lt {low : Option String} {key wanted : String} (above : Above low key)
    (value : α) (rest : Keyed α (some key)) (hlt : key < wanted) :
    (cons key above value rest).get? wanted = rest.get? wanted := by
  rw [get?, if_neg hlt.ne']

theorem mem_keys_iff {low : Option String} (entries : Keyed α low) (key : String) :
    key ∈ entries.keys ↔ (entries.get? key).isSome := by
  rw [get?_eq_lookup, List.lookup_isSome_iff, keys]
  simp

theorem get?_cons_eq_none_of_lt {low : Option String} {key wanted : String} (above : Above low key)
    (value : α) (rest : Keyed α (some key)) (hlt : wanted < key) :
    (cons key above value rest).get? wanted = none := by
  rw [← Option.not_isSome_iff_eq_none, ← mem_keys_iff, keys_cons, List.mem_cons, not_or]
  exact ⟨hlt.ne, fun hrest => hlt.asymm (rest.above_of_mem_keys hrest)⟩

end Keyed

/-! ### Splitting entries at a key -/

section Splitting

variable {β : Type} {entries : List (String × β)}

theorem lookup_eq_none_of_forall_lt {key : String} (h : ∀ entry ∈ entries, key < entry.1) :
    entries.lookup key = none := by
  rw [List.lookup_eq_none_iff]
  intro entry hentry
  simpa using (h entry hentry).ne

theorem lookup_filter_lt {key wanted : String} (hlt : key < wanted) :
    (entries.filter (key < ·.1)).lookup wanted = entries.lookup wanted := by
  induction entries with
  | nil => rfl
  | cons entry rest ih =>
    by_cases hentry : key < entry.1
    · rw [List.filter_cons_of_pos (by simpa using hentry), List.lookup_cons, List.lookup_cons, ih]
    · have hne : (wanted == entry.1) = false := by
        rw [beq_eq_false_iff_ne]
        rintro rfl
        exact hentry hlt
      rw [List.filter_cons_of_neg (by simpa only [decide_eq_true_eq] using hentry),
        List.lookup_cons, hne, ih]

/-- Up to a key stand the entries below it. -/
theorem takeWhile_lt_eq_filter (hsorted : entries.Pairwise (·.1 < ·.1)) (key : String) :
    entries.takeWhile (·.1 < key) = entries.filter (·.1 < key) := by
  induction entries with
  | nil => rfl
  | cons entry rest ih =>
    obtain ⟨hhead, hrest⟩ := List.pairwise_cons.mp hsorted
    by_cases hentry : entry.1 < key
    · rw [List.takeWhile_cons_of_pos (by simpa using hentry),
        List.filter_cons_of_pos (by simpa using hentry), ih hrest]
    · have hnone : rest.filter (·.1 < key) = [] := by
        rw [List.filter_eq_nil_iff]
        intro other hother
        rw [decide_eq_true_eq]
        exact fun hlow => hentry ((hhead other hother).trans hlow)
      rw [List.takeWhile_cons_of_neg (by simpa only [decide_eq_true_eq] using hentry),
        List.filter_cons_of_neg (by simpa only [decide_eq_true_eq] using hentry), hnone]

/-- From a key on stand its own entry, if there is one, and the entries beyond it. -/
theorem dropWhile_lt_eq_append (hsorted : entries.Pairwise (·.1 < ·.1)) (key : String) :
    entries.dropWhile (·.1 < key) =
      ((entries.lookup key).map (key, ·)).toList ++ entries.filter (key < ·.1) := by
  induction entries with
  | nil => rfl
  | cons entry rest ih =>
    obtain ⟨hhead, hrest⟩ := List.pairwise_cons.mp hsorted
    rcases lt_trichotomy entry.1 key with hlt | heq | hgt
    · have hne : (key == entry.1) = false := by simpa using hlt.ne'
      rw [List.dropWhile_cons_of_pos (by simpa using hlt),
        List.filter_cons_of_neg (by simpa only [decide_eq_true_eq] using hlt.asymm),
        List.lookup_cons, hne, ih hrest]
    · obtain ⟨first, value⟩ := entry
      obtain rfl : first = key := heq
      have hall : rest.filter (first < ·.1) = rest := by
        rw [List.filter_eq_self]
        intro other hother
        simpa using hhead other hother
      rw [List.dropWhile_cons_of_neg (by simp), List.filter_cons_of_neg (by simp),
        List.lookup_cons_self, hall]
      rfl
    · have hall : ∀ other ∈ entry :: rest, key < other.1 := by
        intro other hother
        rcases List.mem_cons.mp hother with rfl | hother
        · exact hgt
        · exact hgt.trans (hhead other hother)
      rw [List.dropWhile_cons_of_neg (by simpa only [decide_eq_true_eq] using hgt.asymm),
        lookup_eq_none_of_forall_lt hall, List.filter_eq_self.mpr fun other hother => by simpa using hall other hother]
      rfl

end Splitting

/-! ### Joint keys -/

/-- The keys of both sides in ascending order, each once. -/
def jointKeys (old new : List String) : List String := (old.toFinset ∪ new.toFinset).sort

theorem mem_jointKeys {old new : List String} {key : String} :
    key ∈ jointKeys old new ↔ key ∈ old ∨ key ∈ new := by
  rw [jointKeys, Finset.mem_sort, Finset.mem_union, List.mem_toFinset, List.mem_toFinset]

theorem sorted_jointKeys (old new : List String) : (jointKeys old new).SortedLT :=
  Finset.sortedLT_sort _

theorem jointKeys_nil {new : List String} (hnew : new.Pairwise (· < ·)) :
    jointKeys [] new = new := by
  apply (sorted_jointKeys [] new).eq_of_mem_iff hnew.sortedLT
  intro key
  simp [mem_jointKeys]

/-- Before the first key of one side come the lower keys of the other. -/
theorem jointKeys_cons {key : String} {rest new : List String}
    (hrest : (key :: rest).Pairwise (· < ·)) (hnew : new.Pairwise (· < ·)) :
    jointKeys (key :: rest) new =
      new.filter (· < key) ++ key :: jointKeys rest (new.filter (key < ·)) := by
  obtain ⟨hkey, hrest⟩ := List.pairwise_cons.mp hrest
  have hbeyond : ∀ other ∈ jointKeys rest (new.filter (key < ·)), key < other := by
    intro other hother
    rcases mem_jointKeys.mp hother with hother | hother
    · exact hkey other hother
    · simpa using List.of_mem_filter hother
  have hsorted : (new.filter (· < key) ++
      key :: jointKeys rest (new.filter (key < ·))).Pairwise (· < ·) := by
    rw [List.pairwise_append]
    refine ⟨hnew.sublist List.filter_sublist, List.pairwise_cons.mpr
      ⟨hbeyond, (sorted_jointKeys _ _).pairwise⟩, fun low hlow other hother => ?_⟩
    have hlow : low < key := by simpa using List.of_mem_filter hlow
    rcases List.mem_cons.mp hother with rfl | hother
    · exact hlow
    · exact hlow.trans (hbeyond other hother)
  apply (sorted_jointKeys _ _).eq_of_mem_iff hsorted.sortedLT
  intro other
  simp only [mem_jointKeys, List.mem_cons, List.mem_append, List.mem_filter, decide_eq_true_eq]
  have := lt_trichotomy other key
  tauto

end ApiDrift
