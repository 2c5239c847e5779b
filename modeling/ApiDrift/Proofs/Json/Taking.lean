import ApiDrift.Proofs.Json.Reordering
import Mathlib.Data.List.Pairwise

/-!
# Taking members in any order

Whoever goes through the members of an object knows of each key what to do with it: the member is taken as a field into the draft, or it is passed over. As every field has a place of its own in the draft, it does not matter which of two members comes first. A value that is only looked through is one without fields.
-/

namespace ApiDrift.Json

variable {α δ : Type}

/-! ### Going through members -/

/-- Takes a member of an object into a draft. What is no field is passed over. -/
def takeMember (pass : Decoder Unit) (fields : List (RecordField δ)) (draft : δ)
    (member : String × Json) : Except Rejection δ :=
  match fields.find? (·.name = member.1) with
  | some field =>
    if field.isSet draft then .error (.duplicateField member.1) else field.take draft member.2
  | none => do
    pass member.2
    return draft

theorem takeMember_of_field {pass : Decoder Unit} {fields : List (RecordField δ)}
    {field : RecordField δ} {member : String × Json}
    (hfield : fields.find? (·.name = member.1) = some field) (draft : δ) :
    takeMember pass fields draft member =
      if field.isSet draft then .error (.duplicateField member.1)
      else field.take draft member.2 := by
  rw [takeMember, hfield]

theorem takeMember_of_none {pass : Decoder Unit} {fields : List (RecordField δ)}
    {member : String × Json} (hfield : fields.find? (·.name = member.1) = none) (draft : δ) :
    takeMember pass fields draft member = do
      pass member.2
      return draft := by
  rw [takeMember, hfield]

/-- Whatever goes from member to member in this way goes through all of them. -/
theorem run_ofList {pass : Decoder Unit} {fields : List (RecordField δ)}
    (run : δ → Members → Except Rejection δ) (hdone : ∀ draft, run draft .done = .ok draft)
    (hcons : ∀ draft key value rest, run draft (.cons key value rest) =
      takeMember pass fields draft (key, value) >>= (run · rest))
    (draft : δ) (members : List (String × Json)) :
    run draft (Members.ofList members .done) = members.foldlM (takeMember pass fields) draft := by
  induction members generalizing draft with
  | nil => exact hdone draft
  | cons member rest ih =>
    rw [List.foldlM_cons]
    exact (hcons draft member.1 member.2 _).trans (bind_congr ih)

theorem Members.fields_ofList (fields : List (RecordField δ)) (draft : δ)
    (members : List (String × Json)) :
    (Members.ofList members .done).fields fields draft =
      members.foldlM (takeMember Json.skip fields) draft := by
  refine run_ofList (Members.fields fields) (fun _ => rfl) (fun draft key value rest => ?_) draft
    members
  rw [Members.fields, takeMember]
  cases fields.find? (·.name = key) with
  | none =>
    dsimp only
    rw [bind_assoc]
    rfl
  | some field =>
    dsimp only
    split <;> rfl

theorem Members.skip_ofList (members : List (String × Json)) :
    (Members.ofList members .done).skip = members.foldlM (takeMember Json.skip []) () := by
  refine run_ofList (fun _ members => members.skip) (fun _ => rfl) (fun _ key value rest => ?_) ()
    members
  rw [Members.skip, takeMember_of_none rfl, bind_assoc]
  rfl

theorem Members.hold_ofList (brackets : Nat) (members : List (String × Json)) :
    (Members.ofList members .done).hold brackets =
      members.foldlM (takeMember (Json.hold brackets) []) () := by
  refine run_ofList (fun _ members => members.hold brackets) (fun _ => rfl)
    (fun _ key value rest => ?_) () members
  rw [Members.hold, takeMember_of_none rfl, bind_assoc]
  rfl

/-! ### Fields that are apart -/

/-- To take the one field does not set the other, and it makes no difference when it is taken first. -/
structure RecordField.Yields (first second : RecordField δ) : Prop where
  isSet : ∀ draft value next, first.take draft value = .ok next →
    second.isSet next = second.isSet draft
  take : ∀ draft value other, Keeps (first.take draft value >>= (second.take · other))
    (second.take draft other >>= (first.take · value))

/-- Neither of two fields gets in the way of the other. -/
def RecordField.Apart (first second : RecordField δ) : Prop :=
  first.Yields second ∧ second.Yields first

instance : Std.Symm (@RecordField.Apart δ) := ⟨fun _ _ => And.symm⟩

section Places

variable {β : Type} {name other : String} {get : δ → Option α} {put : δ → α → δ}
  {decode : Decoder α} {otherGet : δ → Option β} {otherPut : δ → β → δ} {otherDecode : Decoder β}

theorem RecordField.yields_of (hget : ∀ draft value, otherGet (put draft value) = otherGet draft)
    (hput : ∀ draft value found,
      otherPut (put draft value) found = put (otherPut draft found) value) :
    Yields (.of name get put decode) (.of other otherGet otherPut otherDecode) := by
  refine ⟨fun draft json next htake => ?_, fun draft first second next hok => ?_⟩
  · obtain ⟨value, -, rfl⟩ := map_eq_ok_iff.mp htake
    exact congrArg Option.isSome (hget draft value)
  · obtain ⟨middle, hmiddle, hnext⟩ := bind_eq_ok_iff.mp hok
    obtain ⟨value, hvalue, rfl⟩ := map_eq_ok_iff.mp hmiddle
    obtain ⟨found, hfound, rfl⟩ := map_eq_ok_iff.mp hnext
    exact bind_eq_ok_iff.mpr ⟨otherPut draft found, map_eq_ok_iff.mpr ⟨found, hfound, rfl⟩,
      map_eq_ok_iff.mpr ⟨value, hvalue, (hput draft value found).symm⟩⟩

/-- Fields are apart when a draft keeps them in different places. -/
theorem RecordField.apart_of (hget : ∀ draft value, otherGet (put draft value) = otherGet draft)
    (hotherGet : ∀ draft found, get (otherPut draft found) = get draft)
    (hput : ∀ draft value found,
      otherPut (put draft value) found = put (otherPut draft found) value) :
    Apart (.of name get put decode) (.of other otherGet otherPut otherDecode) :=
  ⟨yields_of hget hput, yields_of hotherGet fun draft found value => (hput draft value found).symm⟩

end Places

theorem RecordField.pairwise_apart {first second third : RecordField δ}
    (hsecond : first.Apart second) (hthird : first.Apart third) (hlast : second.Apart third) :
    [first, second, third].Pairwise Apart := by
  simp [hsecond, hthird, hlast]

section Taking

variable {pass : Decoder Unit} {fields : List (RecordField δ)}

theorem takeMember_field_eq_ok_iff {draft next : δ} {member : String × Json} {field : RecordField δ}
    (hfield : fields.find? (·.name = member.1) = some field) :
    takeMember pass fields draft member = .ok next ↔
      field.isSet draft = false ∧ field.take draft member.2 = .ok next := by
  rw [takeMember_of_field hfield]
  cases hset : field.isSet draft <;> simp

theorem takeMember_none_eq_ok_iff {draft next : δ} {member : String × Json}
    (hfield : fields.find? (·.name = member.1) = none) :
    takeMember pass fields draft member = .ok next ↔ pass member.2 = .ok () ∧ draft = next := by
  rw [takeMember_of_none hfield]
  cases pass member.2 <;> simp

/-- Two members under different keys may come the other way round. -/
theorem takeMember_swap (hapart : fields.Pairwise RecordField.Apart) (draft : δ)
    (first second : String × Json) (hkeys : first.1 ≠ second.1) :
    Keeps (takeMember pass fields draft first >>= (takeMember pass fields · second))
      (takeMember pass fields draft second >>= (takeMember pass fields · first)) := by
  intro next hok
  obtain ⟨middle, hfirst, hsecond⟩ := bind_eq_ok_iff.mp hok
  rw [bind_eq_ok_iff]
  cases hfield : fields.find? (·.name = first.1) with
  | none =>
    obtain ⟨hpass, rfl⟩ := (takeMember_none_eq_ok_iff hfield).mp hfirst
    exact ⟨next, hsecond, (takeMember_none_eq_ok_iff hfield).mpr ⟨hpass, rfl⟩⟩
  | some field =>
    cases hother : fields.find? (·.name = second.1) with
    | none =>
      obtain ⟨hpass, rfl⟩ := (takeMember_none_eq_ok_iff hother).mp hsecond
      exact ⟨draft, (takeMember_none_eq_ok_iff hother).mpr ⟨hpass, rfl⟩, hfirst⟩
    | some other =>
      have hname : field.name = first.1 := by simpa using List.find?_some hfield
      have hotherName : other.name = second.1 := by simpa using List.find?_some hother
      have hne : field ≠ other := by
        rintro rfl
        exact hkeys (hname.symm.trans hotherName)
      obtain ⟨hyields, hback⟩ := hapart.forall (List.mem_of_find?_eq_some hfield)
        (List.mem_of_find?_eq_some hother) hne
      obtain ⟨hunset, htake⟩ := (takeMember_field_eq_ok_iff hfield).mp hfirst
      obtain ⟨hotherUnset, hotherTake⟩ := (takeMember_field_eq_ok_iff hother).mp hsecond
      obtain ⟨swapped, hswapped, hlast⟩ := bind_eq_ok_iff.mp
        (hyields.take draft first.2 second.2 next (bind_eq_ok_iff.mpr ⟨middle, htake, hotherTake⟩))
      rw [hyields.isSet draft first.2 middle htake] at hotherUnset
      rw [← hback.isSet draft second.2 swapped hswapped] at hunset
      exact ⟨swapped, (takeMember_field_eq_ok_iff hother).mpr ⟨hotherUnset, hswapped⟩,
        (takeMember_field_eq_ok_iff hfield).mpr ⟨hunset, hlast⟩⟩

/-- Members in another order, with values from which the same is taken, make the same draft. -/
theorem keeps_foldlM_takeMember (hapart : fields.Pairwise RecordField.Apart)
    {members middle others : List (String × Json)} (hnodup : (members.map Prod.fst).Nodup)
    (hmembers : List.Forall₂ (SameKey fun value other => Keeps (pass value) (pass other) ∧
      ∀ field ∈ fields, ∀ draft, Keeps (field.take draft value) (field.take draft other))
      members middle)
    (hperm : middle.Perm others) (draft : δ) :
    Keeps (members.foldlM (takeMember pass fields) draft)
      (others.foldlM (takeMember pass fields) draft) := by
  have hkeys := keys_eq_of_forall₂ (fun _ _ ⟨_⟩ => rfl) hmembers
  have hvalues : Keeps (members.foldlM (takeMember pass fields) draft)
      (middle.foldlM (takeMember pass fields) draft) := by
    refine keeps_foldlM_of_forall₂ (hmembers.imp ?_) draft
    rintro ⟨key, value⟩ ⟨_, other⟩ ⟨hpass, htake⟩ draft
    cases hfield : fields.find? (·.name = key) with
    | none =>
      rw [takeMember_of_none hfield, takeMember_of_none hfield]
      exact hpass.bind fun _ => Keeps.refl _
    | some field =>
      rw [takeMember_of_field hfield, takeMember_of_field hfield]
      split
      · exact keeps_error _ _
      · exact htake field (List.mem_of_find?_eq_some hfield) draft
  exact hvalues.trans
    (keeps_foldlM_of_perm (takeMember_swap hapart) hperm (hkeys ▸ hnodup) draft)

/-! ### Values that are looked through -/

theorem Items.keeps_skip {items others : List Json}
    (hitems : List.Forall₂ (fun item other => Keeps item.skip other.skip) items others) :
    Keeps (Items.ofList items .done).skip (Items.ofList others .done).skip := by
  induction hitems with
  | nil => exact Keeps.refl _
  | cons hitem _ ih => exact hitem.bind fun _ => ih

theorem Items.keeps_hold {brackets : Nat} {items others : List Json}
    (hitems : List.Forall₂ (fun item other => Keeps (item.hold brackets) (other.hold brackets))
      items others) :
    Keeps ((Items.ofList items .done).hold brackets)
      ((Items.ofList others .done).hold brackets) := by
  induction hitems with
  | nil => exact Keeps.refl _
  | cons hitem _ ih => exact hitem.bind fun _ => ih

/-- Without fields, only what is passed over counts. -/
theorem keeps_foldlM_pass {members middle others : List (String × Json)}
    (hnodup : (members.map Prod.fst).Nodup)
    (hmembers : List.Forall₂ (SameKey fun value other => Keeps (pass value) (pass other))
      members middle)
    (hperm : middle.Perm others) :
    Keeps (members.foldlM (takeMember pass []) ()) (others.foldlM (takeMember pass []) ()) :=
  keeps_foldlM_takeMember .nil hnodup
    (hmembers.imp fun _ _ => SameKey.imp fun _ _ h => ⟨h, fun _ hmem => nomatch hmem⟩) hperm ()

theorem steady_skip : Steady skip := by
  intro json other
  refine Reordered.induction (motive := fun json other => Keeps json.skip other.skip)
    (fun json => Keeps.refl _) (fun items others hitems => ?_)
    (fun members middle others hnodup hmembers hperm => ?_)
  · exact Items.keeps_skip (hitems.imp fun _ _ h => h.2)
  · rw [record, record, skip, skip, Members.skip_ofList, Members.skip_ofList]
    exact keeps_foldlM_pass hnodup (hmembers.imp fun _ _ => SameKey.imp fun _ _ h => h.2) hperm

theorem steady_hold (brackets : Nat) : Steady (hold brackets) := by
  intro json other hreordered hdistinct
  revert brackets
  refine Reordered.induction
    (motive := fun json other => ∀ brackets, Keeps (json.hold brackets) (other.hold brackets))
    (fun json _ => Keeps.refl _) (fun items others hitems brackets => ?_)
    (fun members middle others hnodup hmembers hperm brackets => ?_) hreordered hdistinct
  · cases brackets with
    | zero => exact keeps_error _ _
    | succ inner => exact Items.keeps_hold (hitems.imp fun _ _ h => h.2 inner)
  · cases brackets with
    | zero => exact keeps_error _ _
    | succ inner =>
      rw [record, record, hold, hold, Members.hold_ofList, Members.hold_ofList]
      exact keeps_foldlM_pass hnodup
        (hmembers.imp fun _ _ => SameKey.imp fun _ _ h => h.2 inner) hperm

/-! ### Records -/

theorem keeps_foldlM_takeMember_of_steady (hpass : Steady pass)
    (hfields : ∀ field ∈ fields, ∀ draft, Steady (field.take draft))
    (hapart : fields.Pairwise RecordField.Apart) {members middle others : List (String × Json)}
    (hnodup : (members.map Prod.fst).Nodup)
    (hmembers : List.Forall₂ (SameKey fun value other => value.Reordered other ∧ value.Distinct)
      members middle)
    (hperm : middle.Perm others) (draft : δ) :
    Keeps (members.foldlM (takeMember pass fields) draft)
      (others.foldlM (takeMember pass fields) draft) := by
  refine keeps_foldlM_takeMember hapart hnodup (hmembers.imp fun _ _ => SameKey.imp ?_) hperm draft
  rintro value other ⟨hreordered, hdistinct⟩
  exact ⟨hpass value other hreordered hdistinct,
    fun field hmem draft => hfields field hmem draft value other hreordered hdistinct⟩

end Taking

theorem Items.keeps_fields {source : Source} {fields : List (RecordField δ)}
    {related : Json → Json → Prop} {items others : List Json}
    (hitems : List.Forall₂ related items others)
    (htake : ∀ field ∈ fields, ∀ draft item other, related item other →
      Keeps (field.take draft item) (field.take draft other)) (draft : δ) :
    Keeps ((Items.ofList items .done).fields source fields draft)
      ((Items.ofList others .done).fields source fields draft) := by
  induction hitems generalizing fields draft with
  | nil => exact Keeps.refl _
  | cons hitem _ ih =>
    cases fields with
    | nil => exact keeps_error _ _
    | cons field later =>
      obtain ⟨hfield, hlater⟩ := List.forall_mem_cons.mp htake
      exact (hfield draft _ _ hitem).bind (ih hlater)

/-- A record whose fields are apart is taken from members in any order. -/
theorem steady_fields {source : Source} {fields : List (RecordField δ)} {draft : δ}
    {make : (String → Rejection) → δ → Except Rejection α}
    (hapart : fields.Pairwise RecordField.Apart)
    (hfields : ∀ field ∈ fields, ∀ draft, Steady (field.take draft)) :
    Steady (Json.fields source fields draft make) := by
  intro json other hreordered hdistinct
  refine Reordered.induction
    (motive := fun json other =>
      Keeps (json.fields source fields draft make) (other.fields source fields draft make))
    (fun json => Keeps.refl _) (fun items others hitems => ?_)
    (fun members middle others hnodup hmembers hperm => ?_) hreordered hdistinct
  · refine (Items.keeps_fields hitems ?_ draft).bind fun _ => Keeps.refl _
    exact fun field hmem draft item other h => hfields field hmem draft item other h.1.1 h.1.2
  · refine Keeps.bind ?_ fun _ => Keeps.refl _
    rw [Members.fields_ofList, Members.fields_ofList]
    exact keeps_foldlM_takeMember_of_steady steady_skip hfields hapart hnodup
      (hmembers.imp fun _ _ => SameKey.imp fun _ _ h => h.1) hperm draft

/-- A field is steady if its value is decoded steadily. -/
theorem steady_take {name : String} {get : δ → Option α} {put : δ → α → δ} {decode : Decoder α}
    (hdecode : Steady decode) (draft : δ) :
    Steady ((RecordField.of name get put decode).take draft) :=
  fun json other hreordered hdistinct => (hdecode json other hreordered hdistinct).map _

end ApiDrift.Json
