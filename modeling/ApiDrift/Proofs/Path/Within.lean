import ApiDrift.Proofs.Path.Spelling

/-!
# Paths within a path

Whether one path lies within another is seen by their texts alone. Where segments spell a path, it lies within what its first few segments spell and within nothing else. So no name stands for a longer one that begins with it.
-/

namespace ApiDrift.Path

theorem within_iff {root path : String} :
    within root path = true ↔ path = root ∨ Ancestor root path := by
  rw [within, Bool.or_eq_true, beq_iff_eq, List.isPrefixOf_iff_prefix]
  rfl

theorem ofSegments_singleton (segment : String) : ofSegments [segment] = segment :=
  join_empty_left segment

theorem mem_dot_ofSegments {first second : String} {rest : List String}
    (hsegments : ∀ segment ∈ first :: second :: rest, IsSegment segment) :
    '.' ∈ (ofSegments (first :: second :: rest)).toList := by
  obtain ⟨hfirst, hrest⟩ := List.forall_mem_cons.mp hsegments
  have hbelow := ofSegments_ne_empty rest (hrest second List.mem_cons_self).1
  rw [ofSegments_cons, toList_join hfirst.1 hbelow]
  exact List.mem_append_left _ (List.mem_append_right _ (List.mem_singleton_self _))

variable {path : List String} {root : String}

theorem ancestor_ofSegments_concat_iff {last : String}
    (hpath : ∀ segment ∈ path ++ [last], IsSegment segment) :
    Ancestor root (ofSegments (path ++ [last])) ↔
      path ≠ [] ∧ within root (ofSegments path) = true := by
  obtain ⟨hstart, hlast⟩ := List.forall_mem_append.mp hpath
  rw [List.forall_mem_singleton] at hlast
  cases path with
  | nil =>
    rw [List.nil_append, ofSegments_singleton]
    exact iff_of_false (not_ancestor_of_isSegment hlast) fun h => h.1 rfl
  | cons first rest =>
    have hnonempty := ofSegments_ne_empty rest (hstart first List.mem_cons_self).1
    rw [ofSegments_concat, ancestor_join_iff hnonempty hlast, within_iff,
      and_iff_right (List.cons_ne_nil first rest), eq_comm]

/-- A path lies within exactly those that its beginnings spell. -/
theorem within_ofSegments_iff (hpath : ∀ segment ∈ path, IsSegment segment) :
    path ≠ [] ∧ within root (ofSegments path) = true ↔
      ∃ start, start ≠ [] ∧ start <+: path ∧ ofSegments start = root := by
  induction path using List.reverseRecOn with
  | nil =>
    refine iff_of_false (fun h => h.1 rfl) ?_
    rintro ⟨start, hne, hbegins, -⟩
    exact hne (List.prefix_nil.mp hbegins)
  | append_singleton path last ih =>
    have hne : path ++ [last] ≠ [] := List.append_ne_nil_of_right_ne_nil path (List.cons_ne_nil _ _)
    rw [and_iff_right hne, within_iff, ancestor_ofSegments_concat_iff hpath,
      ih (List.forall_mem_append.mp hpath).1]
    simp only [List.prefix_concat_iff, or_and_right, and_or_left, exists_or]
    refine or_congr_left ⟨fun hsame => ⟨_, hne, rfl, hsame⟩, ?_⟩
    rintro ⟨_, -, rfl, hsame⟩
    exact hsame

/-- A path lies within a name without dots exactly if it begins with it. -/
theorem within_name_iff {name first : String} {rest : List String}
    (hname : '.' ∉ name.toList) (hpath : ∀ segment ∈ first :: rest, IsSegment segment) :
    within name (ofSegments (first :: rest)) = true ↔ first = name := by
  have hne : first :: rest ≠ [] := List.cons_ne_nil first rest
  refine (and_iff_right hne).symm.trans ((within_ofSegments_iff hpath).trans ⟨?_, ?_⟩)
  · rintro ⟨start, hstart, hbegins, rfl⟩
    obtain ⟨head, more, rfl⟩ := List.exists_cons_of_ne_nil hstart
    obtain ⟨rfl, hmore⟩ := List.cons_prefix_cons.mp hbegins
    cases more with
    | nil => exact (ofSegments_singleton head).symm
    | cons second more =>
      exact absurd (mem_dot_ofSegments fun segment hmem => hpath segment (hbegins.subset hmem))
        hname
  · rintro rfl
    exact ⟨[first], List.cons_ne_nil _ _, List.prefix_append [first] rest,
      ofSegments_singleton first⟩

/-- The empty path lies within no other. -/
theorem within_empty_path {root : String} (hroot : root ≠ "") : within root "" = false := by
  rw [Bool.eq_false_iff, Ne, within_iff, Ancestor]
  rintro (hsame | hbegins)
  · exact hroot hsame.symm
  · have hlength := hbegins.length_le
    simp at hlength

/-- Lists of segments and the paths they spell say the same: different lists spell different paths, and one path lies within another that is not empty exactly if its list begins with the list of the other. -/
theorem segments_told_by_path {path root : List String}
    (hpath : ∀ segment ∈ path, IsSegment segment) (hroot : ∀ segment ∈ root, IsSegment segment) :
    (ofSegments path = ofSegments root → path = root) ∧
      (ofSegments root ≠ "" →
        (within (ofSegments root) (ofSegments path) = true ↔ root <+: path)) := by
  refine ⟨ofSegments_inj hpath hroot, fun hne => ?_⟩
  have hroot_ne : root ≠ [] := mt (ofSegments_eq_empty_iff hroot).mpr hne
  by_cases hempty : path = []
  · subst hempty
    have hnone : within (ofSegments root) (ofSegments []) = false := within_empty_path hne
    rw [hnone, List.prefix_nil]
    exact iff_of_false Bool.false_ne_true hroot_ne
  · refine (and_iff_right hempty).symm.trans ((within_ofSegments_iff hpath).trans ⟨?_, ?_⟩)
    · rintro ⟨start, -, hbegins, hspelled⟩
      have hstart : ∀ segment ∈ start, IsSegment segment :=
        fun segment hmem => hpath segment (hbegins.subset hmem)
      rwa [← ofSegments_inj hstart hroot hspelled]
    · intro hbegins
      exact ⟨root, hroot_ne, hbegins, rfl⟩

/-- `pkg.WidgetFactory.make` begins with the characters of `pkg.Widget` and does not lie within it. -/
theorem segments_told_by_path_widget_factory :
    (∀ segment ∈ ["pkg", "WidgetFactory", "make"], IsSegment segment) ∧
      (∀ segment ∈ ["pkg", "Widget", "make"], IsSegment segment) ∧
      (∀ segment ∈ ["pkg", "Widget"], IsSegment segment) ∧
      ofSegments ["pkg", "Widget"] ≠ "" ∧
      within (ofSegments ["pkg", "Widget"]) (ofSegments ["pkg", "WidgetFactory", "make"]) = false ∧
      within (ofSegments ["pkg", "Widget"]) (ofSegments ["pkg", "Widget", "make"]) = true := by
  have hfactory : ∀ segment ∈ ["pkg", "WidgetFactory", "make"], IsSegment segment := by decide
  have hmember : ∀ segment ∈ ["pkg", "Widget", "make"], IsSegment segment := by decide
  have hwidget : ∀ segment ∈ ["pkg", "Widget"], IsSegment segment := by decide
  have hne : ofSegments ["pkg", "Widget"] ≠ "" := by decide
  refine ⟨hfactory, hmember, hwidget, hne, ?_, ?_⟩
  · rw [Bool.eq_false_iff]
    intro hwithin
    exact absurd (((segments_told_by_path hfactory hwidget).2 hne).mp hwithin) (by decide)
  · exact ((segments_told_by_path hmember hwidget).2 hne).mpr (by decide)

end ApiDrift.Path
