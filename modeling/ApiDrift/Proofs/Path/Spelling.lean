import ApiDrift.Proofs.Path.Ancestor

/-!
# Paths that segments spell

Segments joined one after the other spell a path. Since no segment holds a dot, the path can be cut at its dots again, so different lists of segments spell different paths.
-/

namespace ApiDrift.Path

def ofSegments (segments : List String) : String := segments.foldl join ""

theorem ofSegments_concat (segments : List String) (last : String) :
    ofSegments (segments ++ [last]) = join (ofSegments segments) last := by
  rw [ofSegments, List.foldl_append]
  rfl

theorem foldl_join (path : String) (segments : List String) :
    segments.foldl join path = join path (ofSegments segments) := by
  induction segments using List.reverseRecOn with
  | nil => exact (join_empty_right path).symm
  | append_singleton segments last ih =>
    rw [List.foldl_append, ih, ofSegments_concat, ← join_assoc]
    rfl

theorem ofSegments_cons (segment : String) (rest : List String) :
    ofSegments (segment :: rest) = join segment (ofSegments rest) := by
  rw [ofSegments, List.foldl_cons, join_empty_left, foldl_join]

variable {segments : List String}

theorem ofSegments_ne_empty {segment : String} (rest : List String) (hsegment : segment ≠ "") :
    ofSegments (segment :: rest) ≠ "" := by
  rw [ofSegments_cons]
  by_cases hrest : ofSegments rest = ""
  · rw [hrest, join_empty_right]
    exact hsegment
  · exact join_ne_empty segment hrest

theorem toList_ofSegments (hsegments : ∀ segment ∈ segments, segment ≠ "") :
    (ofSegments segments).toList = ['.'].intercalate (segments.map String.toList) := by
  induction segments with
  | nil => rfl
  | cons segment rest ih =>
    obtain ⟨hsegment, hrest⟩ := List.forall_mem_cons.mp hsegments
    cases rest with
    | nil => simp [ofSegments, join_empty_left, List.intercalate]
    | cons next rest =>
      have hnext : ofSegments (next :: rest) ≠ "" :=
        ofSegments_ne_empty rest (hrest next List.mem_cons_self)
      rw [ofSegments_cons, toList_join hsegment hnext, ih hrest]
      exact List.intercalate_cons_cons.symm

/-- The segments of a path stand between its dots. -/
theorem splitOn_ofSegments (hsegments : ∀ segment ∈ segments, IsSegment segment)
    (hne : segments ≠ []) :
    (ofSegments segments).toList.splitOn '.' = segments.map String.toList := by
  rw [toList_ofSegments fun segment hmem => (hsegments segment hmem).1]
  apply List.splitOn_intercalate
  · rw [List.forall_mem_map]
    intro segment hmem
    exact (hsegments segment hmem).2
  · exact fun hnil => hne (List.map_eq_nil_iff.mp hnil)

theorem ofSegments_eq_empty_iff (hsegments : ∀ segment ∈ segments, IsSegment segment) :
    ofSegments segments = "" ↔ segments = [] := by
  constructor
  · intro hempty
    cases segments with
    | nil => rfl
    | cons segment rest =>
      exact absurd hempty (ofSegments_ne_empty rest (hsegments segment List.mem_cons_self).1)
  · rintro rfl
    rfl

theorem ofSegments_inj {first second : List String}
    (hfirst : ∀ segment ∈ first, IsSegment segment)
    (hsecond : ∀ segment ∈ second, IsSegment segment)
    (hspelled : ofSegments first = ofSegments second) : first = second := by
  -- Splitting the empty path gives one empty segment, so it has to be told apart from the others.
  by_cases hempty : ofSegments first = ""
  · rw [(ofSegments_eq_empty_iff hfirst).mp hempty,
      (ofSegments_eq_empty_iff hsecond).mp (hspelled ▸ hempty)]
  · have hne : second ≠ [] := mt (ofSegments_eq_empty_iff hsecond).mpr (hspelled ▸ hempty)
    have hmap : first.map String.toList = second.map String.toList := by
      rw [← splitOn_ofSegments hfirst (mt (ofSegments_eq_empty_iff hfirst).mpr hempty), hspelled,
        splitOn_ofSegments hsecond hne]
    exact List.map_injective_iff.mpr (fun _ _ => String.toList_inj.mp) hmap

end ApiDrift.Path
