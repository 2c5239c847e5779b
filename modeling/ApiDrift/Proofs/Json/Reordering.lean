import ApiDrift.Json.Decoding
import Mathlib.Data.List.Perm.Basic

/-!
# Members in another order

A value stays the same, as far as its meaning goes, when the members of its objects are written in another order, at whatever depth. A decoder is steady if it does not see that order either. Steps that are taken member by member do not see it if those under different keys may change places and no key comes twice.
-/

namespace ApiDrift

/-! ### Results that are kept -/

section Keeps

variable {ε α β δ ι κ : Type}

/-- What the one computation gives the other gives as well. -/
def Keeps (first second : Except ε α) : Prop := ∀ value, first = .ok value → second = .ok value

theorem Keeps.refl (first : Except ε α) : Keeps first first := fun _ hok => hok

theorem Keeps.trans {first second third : Except ε α} (hfirst : Keeps first second)
    (hsecond : Keeps second third) : Keeps first third :=
  fun value hok => hsecond value (hfirst value hok)

theorem keeps_error (failure : ε) (second : Except ε α) : Keeps (.error failure) second :=
  fun _ hok => nomatch hok

theorem bind_eq_ok_iff {first : Except ε α} {next : α → Except ε β} {result : β} :
    first >>= next = .ok result ↔ ∃ value, first = .ok value ∧ next value = .ok result := by
  cases first with
  | error failure =>
    refine iff_of_false (fun hok => nomatch hok) ?_
    rintro ⟨_, hvalue, -⟩
    cases hvalue
  | ok value =>
    refine ⟨fun hok => ⟨value, rfl, hok⟩, ?_⟩
    rintro ⟨_, hvalue, hok⟩
    cases hvalue
    exact hok

theorem map_eq_ok_iff {first : Except ε α} {f : α → β} {result : β} :
    first.map f = .ok result ↔ ∃ value, first = .ok value ∧ f value = result := by
  cases first <;> simp [Except.map]

theorem Keeps.bind {first second : Except ε α} {next other : α → Except ε β}
    (hfirst : Keeps first second) (hnext : ∀ value, Keeps (next value) (other value)) :
    Keeps (first >>= next) (second >>= other) := by
  intro result hok
  obtain ⟨value, hvalue, hresult⟩ := bind_eq_ok_iff.mp hok
  exact bind_eq_ok_iff.mpr ⟨value, hfirst value hvalue, hnext value result hresult⟩

theorem Keeps.map {first second : Except ε α} (hfirst : Keeps first second) (f : α → β) :
    Keeps (first.map f) (second.map f) := by
  intro result hok
  obtain ⟨value, hvalue, hresult⟩ := map_eq_ok_iff.mp hok
  exact map_eq_ok_iff.mpr ⟨value, hfirst value hvalue, hresult⟩

variable {step : δ → ι → Except ε δ} {items others : List ι}

theorem keeps_foldlM_of_forall₂
    (hitems : List.Forall₂ (fun item other => ∀ draft, Keeps (step draft item) (step draft other))
      items others) (draft : δ) : Keeps (items.foldlM step draft) (others.foldlM step draft) := by
  induction hitems generalizing draft with
  | nil => exact Keeps.refl _
  | cons hfirst _ ih =>
    rw [List.foldlM_cons, List.foldlM_cons]
    exact (hfirst draft).bind ih

/-- If steps under different keys may change places, the order does not matter as long as no key comes twice. -/
theorem keeps_foldlM_of_perm {keyOf : ι → κ}
    (hswap : ∀ draft first second, keyOf first ≠ keyOf second →
      Keeps (step draft first >>= (step · second)) (step draft second >>= (step · first)))
    (hperm : items.Perm others) (hnodup : (items.map keyOf).Nodup) (draft : δ) :
    Keeps (items.foldlM step draft) (others.foldlM step draft) := by
  induction hperm generalizing draft with
  | nil => exact Keeps.refl _
  | cons item _ ih =>
    rw [List.foldlM_cons, List.foldlM_cons]
    exact (Keeps.refl _).bind (ih (List.nodup_cons.mp hnodup).2)
  | swap second first rest =>
    have hne : keyOf first ≠ keyOf second := fun hsame =>
      (List.nodup_cons.mp hnodup).1 (hsame ▸ List.mem_cons_self)
    simp only [List.foldlM_cons, ← bind_assoc]
    exact (hswap draft first second hne).bind fun _ => Keeps.refl _
  | trans hfirst _ ihfirst ihsecond =>
    exact (ihfirst hnodup draft).trans (ihsecond ((hfirst.map keyOf).nodup_iff.mp hnodup) draft)

end Keeps

/-! ### Values in another member order -/

namespace Json

/-- Under one key stand related values. -/
inductive SameKey (related : Json → Json → Prop) : String × Json → String × Json → Prop
  | mk {key : String} {value other : Json} (hvalue : related value other) :
      SameKey related (key, value) (key, other)

theorem SameKey.imp {related implied : Json → Json → Prop}
    (himp : ∀ value other, related value other → implied value other)
    {member other : String × Json} : SameKey related member other → SameKey implied member other
  | mk hvalue => mk (himp _ _ hvalue)

theorem keys_eq_of_forall₂ {α β : Type} {related : String × α → String × β → Prop}
    (hkey : ∀ member other, related member other → member.1 = other.1)
    {members : List (String × α)} {others : List (String × β)}
    (hmembers : List.Forall₂ related members others) :
    members.map Prod.fst = others.map Prod.fst := by
  induction hmembers with
  | nil => rfl
  | cons hmember _ ih => rw [List.map_cons, List.map_cons, hkey _ _ hmember, ih]

/-- The same value, with the members of its objects in any order at any depth. -/
inductive Reordered : Json → Json → Prop
  | same (json : Json) : Reordered json json
  | array {items others : List Json} (hitems : List.Forall₂ Reordered items others) :
      Reordered (list items) (list others)
  | object {members middle others : List (String × Json)}
      (hmembers : List.Forall₂ (SameKey Reordered) members middle)
      (hperm : middle.Perm others) : Reordered (record members) (record others)

mutual

/-- In no object of the value, at any depth, is there a key twice. -/
def Distinct : Json → Prop
  | .array items => items.Distinct
  | .object members => (members.toList.map Prod.fst).Nodup ∧ members.Distinct
  | _ => True

def Items.Distinct : Items → Prop
  | .cons item rest => item.Distinct ∧ rest.Distinct
  | _ => True

def Members.Distinct : Members → Prop
  | .cons _ value rest => value.Distinct ∧ rest.Distinct
  | .nameless value rest => value.Distinct ∧ rest.Distinct
  | _ => True

end

theorem Members.toList_ofList (members : List (String × Json)) :
    (Members.ofList members .done).toList = members := by
  induction members with
  | nil => rfl
  | cons member rest ih => exact congrArg (member :: ·) ih

theorem distinct_list_iff {items : List Json} :
    (list items).Distinct ↔ ∀ item ∈ items, item.Distinct := by
  induction items with
  | nil => exact iff_of_true trivial fun _ hmem => nomatch hmem
  | cons item rest ih => rw [List.forall_mem_cons, ← ih]; rfl

theorem Members.distinct_ofList_iff {members : List (String × Json)} :
    (Members.ofList members .done).Distinct ↔ ∀ member ∈ members, member.2.Distinct := by
  induction members with
  | nil => exact iff_of_true trivial fun _ hmem => nomatch hmem
  | cons member rest ih => rw [List.forall_mem_cons, ← ih]; rfl

theorem distinct_record_iff {members : List (String × Json)} :
    (record members).Distinct ↔
      (members.map Prod.fst).Nodup ∧ ∀ member ∈ members, member.2.Distinct := by
  rw [record, Distinct, Members.toList_ofList, Members.distinct_ofList_iff]

/-- Induction on a value without repeated keys and the same value in another order: the parts of both are reordered and have no repeated keys either. -/
theorem Reordered.induction {motive : Json → Json → Prop} (same : ∀ json, motive json json)
    (array : ∀ items others,
      List.Forall₂ (fun item other => (item.Reordered other ∧ item.Distinct) ∧ motive item other)
        items others → motive (list items) (list others))
    (object : ∀ members middle others, (members.map Prod.fst).Nodup →
      List.Forall₂ (SameKey fun value other =>
        (value.Reordered other ∧ value.Distinct) ∧ motive value other) members middle →
      middle.Perm others → motive (record members) (record others))
    {json other : Json} (hreordered : json.Reordered other) (hdistinct : json.Distinct) :
    motive json other := by
  revert hdistinct
  refine @Reordered.rec
    (fun json other _ => json.Distinct → motive json other)
    (fun items others _ => (∀ item ∈ items, item.Distinct) → List.Forall₂ (fun item other =>
      (item.Reordered other ∧ item.Distinct) ∧ motive item other) items others)
    (fun members others _ => (∀ member ∈ members, member.2.Distinct) →
      List.Forall₂ (SameKey fun value other =>
        (value.Reordered other ∧ value.Distinct) ∧ motive value other) members others)
    (fun member other _ => member.2.Distinct → SameKey (fun value other =>
      (value.Reordered other ∧ value.Distinct) ∧ motive value other) member other)
    ?_ ?_ ?_ ?_ ?_ ?_ ?_ ?_ _ _ hreordered
  · exact fun json _ => same json
  · intro items others _ ih hdistinct
    exact array _ _ (ih (distinct_list_iff.mp hdistinct))
  · intro members middle others _ hperm ih hdistinct
    obtain ⟨hnodup, hvalues⟩ := distinct_record_iff.mp hdistinct
    exact object _ _ _ hnodup (ih hvalues) hperm
  · exact fun _ => .nil
  · intro item other items others hitem _ ih ihrest hdistinct
    rw [List.forall_mem_cons] at hdistinct
    exact .cons ⟨⟨hitem, hdistinct.1⟩, ih hdistinct.1⟩ (ihrest hdistinct.2)
  · exact fun _ => .nil
  · intro member other members others _ _ ih ihrest hdistinct
    rw [List.forall_mem_cons] at hdistinct
    exact .cons (ih hdistinct.1) (ihrest hdistinct.2)
  · exact fun hvalue ih hdistinct => .mk ⟨⟨hvalue, hdistinct⟩, ih hdistinct⟩

/-! ### Decoders that do not see the order -/

/-- The decoder takes the same out of a value without repeated keys in any order of members. -/
def Steady {α : Type} (decode : Decoder α) : Prop :=
  ∀ json other : Json, json.Reordered other → json.Distinct → Keeps (decode json) (decode other)

variable {α : Type}

/-- Neither arrays nor objects have anything to reorder for a decoder that refuses them. -/
theorem steady_of_refuses {decode : Decoder α}
    (harray : ∀ items value, decode (.array items) ≠ .ok value)
    (hobject : ∀ members value, decode (.object members) ≠ .ok value) : Steady decode := by
  intro json other hreordered _
  cases hreordered with
  | same => exact Keeps.refl _
  | array => exact fun value hok => absurd hok (harray _ value)
  | object => exact fun value hok => absurd hok (hobject _ value)

theorem steady_string : Steady string :=
  steady_of_refuses (fun _ _ hok => nomatch hok) (fun _ _ hok => nomatch hok)

theorem steady_string? : Steady string? :=
  steady_of_refuses (fun _ _ hok => nomatch hok) (fun _ _ hok => nomatch hok)

theorem steady_uint32 : Steady uint32 :=
  steady_of_refuses (fun _ _ hok => nomatch hok) (fun _ _ hok => nomatch hok)

theorem Items.keeps_decode {item : Decoder α} {items others : List Json}
    (hitems : List.Forall₂ (fun value other => Keeps (item value) (item other)) items others) :
    Keeps ((Items.ofList items .done).decode item) ((Items.ofList others .done).decode item) := by
  induction hitems with
  | nil => exact Keeps.refl _
  | cons hfirst _ ih => exact hfirst.bind fun _ => ih.bind fun _ => Keeps.refl _

theorem steady_items {item : Decoder α} (hitem : Steady item) : Steady (items item) := by
  intro json other hreordered hdistinct
  refine Reordered.induction
    (motive := fun json other => Keeps (json.items item) (other.items item))
    (fun json => Keeps.refl _) (fun items others hitems => ?_) (fun _ _ _ _ _ _ => ?_)
    hreordered hdistinct
  · exact Items.keeps_decode (hitems.imp fun _ _ h => hitem _ _ h.1.1 h.1.2)
  · exact keeps_error _ _

/-- A document that holds the same value in another order, with nothing behind it, gives the same. -/
theorem Document.keeps_decode {decode : Decoder α} (hdecode : Steady decode)
    {document other : Document} (hreordered : document.root.Reordered other.root)
    (hdistinct : document.root.Distinct) (hend : other.trailing = false) :
    Keeps (document.decode decode) (other.decode decode) := by
  refine (hdecode _ _ hreordered hdistinct).bind fun value => ?_
  rw [hend]
  split
  · exact keeps_error _ _
  · exact Keeps.refl _

end Json

end ApiDrift
