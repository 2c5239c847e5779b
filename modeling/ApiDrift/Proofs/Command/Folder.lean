import ApiDrift.Command.Folder

/-!
# What was written is read back

Where a path leads is found name by name, and only folders are passed on the way. A file that is written is none of them, so its path still leads to it afterwards.
-/

namespace ApiDrift.Command.Folder

variable {folder : Folder} {place here : List String}

theorem node?_put_self (folder : Folder) (node : Node) (hplace : place ≠ []) :
    (folder.put place node).node? place = some node := by
  have hnone : (folder.filter (·.1 ≠ place)).find? (·.1 = place) = none := by
    simp [List.find?_eq_none]
  rw [node?, if_neg (by simp [hplace]), put, List.find?_append, hnone]
  simp

theorem node?_put_of_ne (folder : Folder) (node : Node) {other : List String}
    (hne : other ≠ place) : (folder.put place node).node? other = folder.node? other := by
  have hkept : (folder.filter (·.1 ≠ place)).find? (·.1 = other) =
      folder.find? (·.1 = other) := by
    rw [List.find?_filter]
    congr 1
    funext entry
    by_cases hother : entry.1 = other <;> simp [hother, hne]
  rw [node?, node?, put, List.find?_append, hkept]
  simp [hne.symm]

/-- Whatever is put where no folder stands, every way that led on leads on. -/
theorem follow?_put (hplace : folder.node? place ≠ some .folder) (node : Node)
    {way next : List String} {name : String} (hfollow : folder.follow? way name = some next) :
    (folder.put place node).follow? way name = some next := by
  by_cases hway : folder.node? way.reverse = some .folder
  · have hne : way.reverse ≠ place := by
      intro h
      exact hplace (h ▸ hway)
    unfold follow? at hfollow ⊢
    rw [node?_put_of_ne folder node hne]
    exact hfollow
  · simp [follow?, hway] at hfollow

theorem foldlM_follow?_put (hplace : folder.node? place ≠ some .folder) (node : Node)
    {names : List String} {way final : List String}
    (hfollow : names.foldlM folder.follow? way = some final) :
    names.foldlM (folder.put place node).follow? way = some final := by
  induction names generalizing way with
  | nil => exact hfollow
  | cons name rest ih =>
    rw [List.foldlM_cons] at hfollow ⊢
    obtain ⟨next, hnext, hrest⟩ := Option.bind_eq_some_iff.mp hfollow
    exact Option.bind_eq_some_iff.mpr ⟨next, follow?_put hplace node hnext, ih hrest⟩

theorem place?_put (hplace : folder.node? place ≠ some .folder) (node : Node) {path : String}
    {final : List String} (hpath : folder.place? here path = some final) :
    (folder.put place node).place? here path = some final := by
  unfold place? at hpath ⊢
  split at hpath
  · cases hpath
  · next hnamed =>
    obtain ⟨way, hway, hfinal⟩ := Option.map_eq_some_iff.mp hpath
    rw [if_neg hnamed, foldlM_follow?_put hplace node hway]
    exact congrArg some hfinal

/-- A file holds what was written to it. -/
theorem read_of_write? {changed : Folder} {path text : String}
    (hwrite : folder.write? path text here = some changed) :
    changed.read path here = .text text := by
  unfold write? at hwrite
  split at hwrite
  · next place hpath =>
    split at hwrite
    · cases hwrite
    · next hplace =>
      obtain rfl := Option.some.inj hwrite
      have hnonempty : place ≠ [] := by
        intro h
        exact hplace (by simp [h, node?])
      simp [read, place?_put hplace _ hpath, node?_put_self folder _ hnonempty]
  · cases hwrite

theorem retains_store (here : List String) (path : String) : (store here).Retains path :=
  fun _ _ _ hwrite => read_of_write? hwrite

end ApiDrift.Command.Folder
