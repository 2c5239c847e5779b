import ApiDrift.Proofs.Overloads.Reach
import ApiDrift.Proofs.Overloads.Unmatched

/-!
# The order of overloads

It makes no difference in which order overloads are declared. Of equal ones the first stands for all, and which one is first depends on the order; but whether it finds a partner does not, as long as equal new overloads accept the same. That one overload may serve several is what keeps the order out: no partner is ever taken away.
-/

namespace ApiDrift

/-! ### The same accepted names -/

/-- Parameter by parameter, types that accept the same names, in whatever order they are listed. -/
def Signature.SameAccepts (a b : Signature) : Prop :=
  List.Forall₂ (fun parameter parameter' =>
    parameter.type.accepts.toFinset = parameter'.type.accepts.toFinset) a.parameters b.parameters

instance (a b : Signature) : Decidable (a.SameAccepts b) :=
  inferInstanceAs (Decidable (List.Forall₂ _ _ _))

theorem Parameter.reach_eq {a b : Parameter} (hvalue : a.value = b.value)
    (haccepts : a.type.accepts.toFinset = b.type.accepts.toFinset) : a.reach = b.reach := by
  have htype : a.type.value = b.type.value := congrArg Prod.fst hvalue
  have hdefault : a.defaultValue = b.defaultValue := congrArg Prod.snd hvalue
  rw [reach, reach, TypeRef.reach, TypeRef.reach, htype, hdefault, haccepts]

/-- Equal signatures that accept the same are read the same on the new side. -/
theorem Signature.reach_eq {a b : Signature} (hvalue : a.value = b.value)
    (haccepts : a.SameAccepts b) : a.reach = b.reach :=
  map_eq_map_iff_forall₂.mpr
    ((map_eq_map_iff_forall₂.mp hvalue).mp (fun _ _ => Parameter.reach_eq) haccepts)

/-- Whether a signature stands in for another is read off from its reach and the value of the other. -/
theorem Signature.standsInFor_congr {old old' new new' : Signature}
    (hold : old.value = old'.value) (hnew : new.reach = new'.reach) :
    new.StandsInFor old ↔ new'.StandsInFor old' := by
  rw [← evolvesInto_iff, ← evolvesInto_iff, evolvesInto_eq hold hnew]

namespace Overloads

/-- The same overloads on both sides in another order, where equal new ones are read the same. -/
structure Reordered (old new old' new' : List Signature) : Prop where
  perm_old : old.Perm old'
  perm_new : new.Perm new'
  reach_eq : ∀ a ∈ new, ∀ b ∈ new, a.value = b.value → a.reach = b.reach

variable {side side' other other' old old' new new' : List Signature} {signature : Signature}

theorem Reordered.symm (hreordered : Reordered old new old' new') :
    Reordered old' new' old new where
  perm_old := hreordered.perm_old.symm
  perm_new := hreordered.perm_new.symm
  reach_eq a ha b hb :=
    hreordered.reach_eq a (hreordered.perm_new.mem_iff.mpr ha) b (hreordered.perm_new.mem_iff.mpr hb)

/-- What is missing stays missing in another order, though another of its equals may come first. -/
theorem Lacking.of_perm (hside : side.Perm side') (hother : other.Perm other')
    (hlacking : Lacking side other signature) :
    ∃ twin, Lacking side' other' twin ∧ twin.value = signature.value := by
  obtain ⟨hfirst, hmissing⟩ := hlacking
  have hmem : signature ∈ side' := hside.mem_iff.mp (List.mem_of_find?_eq_some hfirst)
  have hfound : (side'.find? (·.value = signature.value)).isSome :=
    List.find?_isSome.mpr ⟨signature, hmem, decide_eq_true rfl⟩
  obtain ⟨twin, htwin⟩ := Option.isSome_iff_exists.mp hfound
  have hvalue : twin.value = signature.value := by simpa using List.find?_some htwin
  refine ⟨twin, ⟨?_, fun same hsame => ?_⟩, hvalue⟩
  · rw [hvalue]
    exact htwin
  · rw [hvalue]
    exact hmissing same (hother.mem_iff.mpr hsame)

theorem Lacking.mem (hlacking : Lacking side other signature) : signature ∈ side :=
  List.mem_of_find?_eq_some hlacking.1

/-- The first of equal overloads reads the same in either order. -/
theorem Reordered.reach_eq_of_lacking (hreordered : Reordered old new old' new')
    {added twin : Signature} (hadded : Lacking new old added) (htwin : Lacking new' old' twin)
    (hvalue : twin.value = added.value) : added.reach = twin.reach :=
  hreordered.reach_eq added hadded.mem twin (hreordered.perm_new.mem_iff.mpr htwin.mem) hvalue.symm

theorem Gained.of_reordered (hreordered : Reordered old new old' new')
    (hgained : Gained old new signature) :
    ∃ twin, Gained old' new' twin ∧ twin.value = signature.value := by
  obtain ⟨hadded, hnone⟩ := hgained
  obtain ⟨twin, htwin, hvalue⟩ := hadded.of_perm hreordered.perm_new hreordered.perm_old
  refine ⟨twin, ⟨htwin, ?_⟩, hvalue⟩
  rintro ⟨removed', hremoved', hstands⟩
  obtain ⟨removed, hremoved, hvalue'⟩ :=
    hremoved'.of_perm hreordered.perm_old.symm hreordered.perm_new.symm
  have hreach : signature.reach = twin.reach :=
    hreordered.reach_eq_of_lacking hadded htwin hvalue
  exact hnone ⟨removed, hremoved, (Signature.standsInFor_congr hvalue' hreach).mpr hstands⟩

theorem Lost.of_reordered (hreordered : Reordered old new old' new')
    (hlost : Lost old new signature) :
    ∃ twin, Lost old' new' twin ∧ twin.value = signature.value := by
  obtain ⟨hremoved, hnone⟩ := hlost
  obtain ⟨twin, htwin, hvalue⟩ := hremoved.of_perm hreordered.perm_old hreordered.perm_new
  refine ⟨twin, ⟨htwin, ?_⟩, hvalue⟩
  rintro ⟨added', hadded', hstands⟩
  obtain ⟨added, hadded, hvalue'⟩ := hadded'.of_perm hreordered.perm_new.symm hreordered.perm_old.symm
  have hreach : added.reach = added'.reach :=
    hreordered.reach_eq_of_lacking hadded hadded' hvalue'.symm
  exact hnone ⟨added, hadded, (Signature.standsInFor_congr hvalue.symm hreach).mpr hstands⟩

theorem Reordered.changes_eq (hreordered : Reordered old new old' new')
    (hsingles : ¬ (old.length = 1 ∧ new.length = 1)) :
    (diff old' new').changes = (diff old new).changes := by
  have hlength : old'.length = old.length := hreordered.perm_old.length_eq.symm
  have hlength' : new'.length = new.length := hreordered.perm_new.length_eq.symm
  have hsingles' : ¬ (old'.length = 1 ∧ new'.length = 1) := by rwa [hlength, hlength']
  obtain ⟨gained, lost, hgained, hlost, hchanges⟩ := exists_changes_eq hsingles
  obtain ⟨gained', lost', hgained', hlost', hchanges'⟩ := exists_changes_eq hsingles'
  have hgainedValues := hgained.perm_values hgained' (fun _ => Gained.of_reordered hreordered)
    fun _ => Gained.of_reordered hreordered.symm
  have hlostValues := hlost.perm_values hlost' (fun _ => Lost.of_reordered hreordered)
    fun _ => Lost.of_reordered hreordered.symm
  have hgainedLength : gained'.length = gained.length := by
    simpa only [List.length_map] using hgainedValues.length_eq.symm
  have hlostLength : lost'.length = lost.length := by
    simpa only [List.length_map] using hlostValues.length_eq.symm
  rw [hchanges, hchanges', hlength, hlength', hgainedLength, hlostLength]

/-- The order in which overloads are declared makes no difference to what is told of them, if equal new ones accept the same names at each parameter. -/
theorem declaration_order_is_free {old new old' new' : List Signature} (hold : old.Perm old')
    (hnew : new.Perm new')
    (haccepts : ∀ a ∈ new, ∀ b ∈ new, a.value = b.value → a.SameAccepts b) :
    (diff old' new').changes = (diff old new).changes := by
  by_cases hsingles : old.length = 1 ∧ new.length = 1
  · obtain ⟨single, rfl⟩ := List.length_eq_one_iff.mp hsingles.1
    obtain ⟨other, rfl⟩ := List.length_eq_one_iff.mp hsingles.2
    rw [List.perm_singleton.mp hold.symm, List.perm_singleton.mp hnew.symm]
  · have hreordered : Reordered old new old' new' :=
      ⟨hold, hnew, fun a ha b hb hvalue => Signature.reach_eq hvalue (haccepts a ha b hb hvalue)⟩
    exact hreordered.changes_eq hsingles

/-- Both sides turned around, and on the new side two equal overloads that list what they accept in different orders. -/
theorem declaration_order_is_free_two_equal :
    ∃ old new old' new' : List Signature, old.Perm old' ∧ new.Perm new' ∧
      (∀ a ∈ new, ∀ b ∈ new, a.value = b.value → a.SameAccepts b) ∧
      (diff old new).changes = [.functionWasOverloaded, .functionWasOverloaded] ∧
      (diff old' new').changes = (diff old new).changes := by
  let int : Signature := ⟨[⟨"x", ⟨"int", 0, []⟩, none⟩]⟩
  let long : Signature := ⟨[⟨"x", ⟨"long", 0, ["byte", "int"]⟩, none⟩]⟩
  let other : Signature := ⟨[⟨"y", ⟨"long", 0, ["int", "byte"]⟩, none⟩]⟩
  let text : Signature := ⟨[⟨"x", ⟨"text", 0, []⟩, none⟩]⟩
  have hold : [int, ⟨[]⟩].Perm [⟨[]⟩, int] := .swap _ _ _
  have hnew : [long, other, text, ⟨[]⟩].Perm [long, other, text, ⟨[]⟩].reverse :=
    (List.reverse_perm _).symm
  have haccepts : ∀ a ∈ [long, other, text, ⟨[]⟩], ∀ b ∈ [long, other, text, ⟨[]⟩],
      a.value = b.value → a.SameAccepts b := by decide
  exact ⟨_, _, _, _, hold, hnew, haccepts, by decide,
    declaration_order_is_free hold hnew haccepts⟩

/-- Equal overloads that accept different names do not stand for each other: the first decides. -/
example :
    let int : Signature := ⟨[⟨"x", ⟨"int", 0, []⟩, none⟩]⟩
    let wide : Signature := ⟨[⟨"x", ⟨"long", 0, ["int"]⟩, none⟩]⟩
    let narrow : Signature := ⟨[⟨"x", ⟨"long", 0, []⟩, none⟩]⟩
    (diff [int, ⟨[]⟩] [wide, narrow]).changes = [.overloadedFunctionRemoved] ∧
      (diff [int, ⟨[]⟩] [narrow, wide]).changes =
        [.functionWasOverloaded, .overloadedFunctionRemoved, .overloadedFunctionRemoved] := by
  decide

end Overloads

end ApiDrift
