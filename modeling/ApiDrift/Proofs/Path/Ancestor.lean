import ApiDrift.Path
import Mathlib.Data.List.Infix

/-!
# Ancestors of paths

A path goes on below each of its proper ancestors with a dot. When names are segments, that is when they are not empty and hold no dot, joining a name to a path adds one ancestor, which is the path itself.
-/

namespace ApiDrift.Path

/-- The path goes on after the ancestor with a dot. -/
def Ancestor (above path : String) : Prop := above.toList ++ ['.'] <+: path.toList

/-! ### All ancestors of a path -/

/-- What stands before a dot, for every dot of the path. -/
def ancestors (path : String) : List String :=
  path.toList.inits.filterMap fun start =>
    if start.getLast? = some '.' then some (String.ofList start.dropLast) else none

theorem mem_ancestors_iff {above path : String} : above ∈ ancestors path ↔ Ancestor above path := by
  rw [ancestors, List.mem_filterMap, Ancestor]
  simp only [List.mem_inits, Option.ite_none_right_eq_some, Option.some.injEq]
  constructor
  · rintro ⟨start, hstart, hdot, rfl⟩
    rw [String.toList_ofList, List.dropLast_append_getLast? '.' hdot]
    exact hstart
  · intro habove
    refine ⟨above.toList ++ ['.'], habove, List.getLast?_concat, ?_⟩
    rw [List.dropLast_concat, String.ofList_toList]

/-! ### Segments -/

/-- A name that adds exactly one segment to a path. -/
def IsSegment (name : String) : Prop := name ≠ "" ∧ '.' ∉ name.toList

instance : DecidablePred IsSegment := fun _ => inferInstanceAs (Decidable (_ ∧ _))

theorem join_empty_left (name : String) : join "" name = name := by
  rw [join]
  split
  · exact (String.isEmpty_iff.mp ‹_›).symm
  · rfl

theorem join_empty_right (path : String) : join path "" = path := rfl

theorem toList_join {path name : String} (hpath : path ≠ "") (hname : name ≠ "") :
    (join path name).toList = path.toList ++ ['.'] ++ name.toList := by
  rw [join, if_neg (mt String.isEmpty_iff.mp hname), if_neg (mt String.isEmpty_iff.mp hpath),
    String.toList_append, String.toList_append]
  rfl

theorem join_ne_empty {name : String} (path : String) (hname : name ≠ "") :
    join path name ≠ "" := by
  by_cases hpath : path = ""
  · rw [hpath, join_empty_left]
    exact hname
  · intro hjoin
    have htoList := toList_join hpath hname
    rw [hjoin] at htoList
    simp at htoList

/-- Joining is associative, whichever of the parts are empty. -/
theorem join_assoc (path middle name : String) :
    join (join path middle) name = join path (join middle name) := by
  by_cases hname : name = ""
  · rw [hname, join_empty_right, join_empty_right]
  · by_cases hmiddle : middle = ""
    · rw [hmiddle, join_empty_right, join_empty_left]
    · by_cases hpath : path = ""
      · rw [hpath, join_empty_left, join_empty_left]
      · apply String.toList_inj.mp
        rw [toList_join (join_ne_empty path hmiddle) hname, toList_join hpath hmiddle,
          toList_join hpath (join_ne_empty middle hname), toList_join hmiddle hname]
        simp only [List.append_assoc]

theorem not_ancestor_of_isSegment {above name : String} (hname : IsSegment name) :
    ¬ Ancestor above name :=
  fun habove => hname.2 (habove.subset (List.mem_append_right _ (List.mem_singleton_self '.')))

/-- A beginning ends before a part that does not hold its last entry. -/
theorem prefix_of_notMem {α : Type} {start first second : List α} {last : α}
    (hbegins : start ++ [last] <+: first ++ second) (hlast : last ∉ second) :
    start ++ [last] <+: first := by
  rcases List.prefix_or_prefix_of_prefix hbegins (List.prefix_append first second) with
    h | ⟨rest, hrest⟩
  · exact h
  · rw [← hrest, List.prefix_append_right_inj] at hbegins
    cases rest using List.reverseRecOn with
    | nil => exact ⟨[], by rw [← hrest, List.append_nil, List.append_nil]⟩
    | append_singleton rest other =>
      rw [← List.append_assoc] at hrest
      obtain rfl := List.singleton_inj.mp (List.append_inj' hrest rfl).2
      exact absurd (hbegins.subset (List.mem_append_right _ (List.mem_singleton_self _))) hlast

/-- Below a path, the ancestors are the path and those it has itself. -/
theorem ancestor_join_iff {above path name : String} (hpath : path ≠ "") (hname : IsSegment name) :
    Ancestor above (join path name) ↔ above = path ∨ Ancestor above path := by
  rw [Ancestor, Ancestor, toList_join hpath hname.1]
  constructor
  · intro habove
    rcases List.prefix_concat_iff.mp (prefix_of_notMem habove hname.2) with hsame | hbelow
    · exact Or.inl (String.toList_inj.mp (List.append_cancel_right hsame))
    · exact Or.inr hbelow
  · rintro (rfl | habove)
    · exact List.prefix_append _ _
    · exact habove.trans ((List.prefix_append _ _).trans (List.prefix_append _ _))

end ApiDrift.Path
