import ApiDrift.Proofs.Json.Taking
import ApiDrift.Proofs.Keyed.Last
import ApiDrift.Proofs.Position
import ApiDrift.Proofs.Snapshot.RoundTrip

/-!
# The order of members in a snapshot

What a snapshot says does not depend on the order in which the members of its objects were written, be it the kind of an entity before or behind the fields of that kind, or one entity before or behind another.
-/

namespace ApiDrift

open Json

/-! ### Records of the data model -/

theorem TypeRef.steady_decode (source : Source) : Steady (TypeRef.decode source) := by
  refine steady_fields (RecordField.pairwise_apart ?_ ?_ ?_) ?_
  iterate 3 exact RecordField.apart_of (fun _ _ => rfl) (fun _ _ => rfl) fun _ _ _ => rfl
  simp only [draftFields, List.forall_mem_cons]
  exact ⟨steady_take steady_string, steady_take steady_uint32,
    steady_take (steady_items steady_string), fun _ hmem => nomatch hmem⟩

theorem Parameter.steady_decode (source : Source) : Steady (Parameter.decode source) := by
  refine steady_fields (RecordField.pairwise_apart ?_ ?_ ?_) ?_
  iterate 3 exact RecordField.apart_of (fun _ _ => rfl) (fun _ _ => rfl) fun _ _ _ => rfl
  simp only [draftFields, List.forall_mem_cons]
  exact ⟨steady_take steady_string, steady_take (TypeRef.steady_decode source),
    steady_take steady_string?, fun _ hmem => nomatch hmem⟩

theorem Signature.steady_decode (source : Source) : Steady (Signature.decode source) := by
  refine steady_fields (List.pairwise_singleton _ _) (List.forall_mem_singleton.mpr ?_)
  exact steady_take (steady_items (Parameter.steady_decode source))

theorem Kind.steady_decode : Steady Kind.decode :=
  steady_of_refuses (fun _ _ hok => nomatch hok) (fun _ _ hok => nomatch hok)

/-! ### The members of an entity -/

namespace Entity

def nameField : RecordField (Option String) := .of "name" id (fun _ name => some name) string

def kindField : RecordField (Option Kind) := .of "kind" id (fun _ kind => some kind) Kind.decode

def shelfField (shelf : Shelf) : RecordField Shelves :=
  .of shelf.word (fun shelves => shelves.get shelf)
    (fun shelves children => shelves.put shelf children) decodeShelf

theorem nameAmong_ofList_eq (pass : Decoder Unit) (name : Option String)
    (members : List (String × Json)) :
    nameAmong pass name (Members.ofList members .done) =
      members.foldlM (takeMember pass [nameField]) name := by
  refine run_ofList (nameAmong pass) (fun _ => rfl) (fun name key value rest => ?_) name members
  rw [nameAmong, takeMember, List.find?_singleton]
  by_cases hkey : key = "name"
  · subst hkey
    cases name <;> cases hvalue : value.string <;>
      simp [nameField, RecordField.of, hvalue, Except.map, bind, Except.bind]
  · have hne : nameField.name ≠ key := Ne.symm hkey
    simp [hkey, hne]

theorem kindAmong_ofList_eq (kind : Option Kind) (members : List (String × Json)) :
    kindAmong kind (Members.ofList members .done) =
      members.foldlM (takeMember (fun _ => .ok ()) [kindField]) kind := by
  refine run_ofList kindAmong (fun _ => rfl) (fun kind key value rest => ?_) kind members
  rw [kindAmong, takeMember, List.find?_singleton]
  by_cases hkey : key = "kind"
  · subst hkey
    cases kind <;> cases hvalue : Kind.decode value <;>
      simp [kindField, RecordField.of, hvalue, Except.map, bind, Except.bind]
  · have hne : kindField.name ≠ key := Ne.symm hkey
    simp [hkey, hne]
    rfl

theorem pairwise_apart_shelfField : (Shelf.all.map shelfField).Pairwise RecordField.Apart := by
  have hshelves : Shelf.all.Pairwise (· ≠ ·) := by decide
  refine List.pairwise_map.mpr (hshelves.imp fun {shelf next} hne => ?_)
  refine RecordField.apart_of (fun _ _ => ?_) (fun _ _ => ?_) fun _ _ _ => ?_ <;>
    cases shelf <;> cases next <;> first | rfl | exact absurd rfl hne

theorem find?_shelfField (key : String) :
    (Shelf.all.map shelfField).find? (·.name = key) = (shelfNamed? key).map shelfField :=
  List.find?_map

theorem decodeShelves_ofList_eq (shelves : Shelves) (members : List (String × Json)) :
    decodeShelves shelves (Members.ofList members .done) =
      members.foldlM (takeMember (fun _ => .ok ()) (Shelf.all.map shelfField)) shelves := by
  refine run_ofList decodeShelves (fun _ => rfl) (fun shelves key value rest => ?_) shelves members
  rw [decodeShelves, takeMember, find?_shelfField]
  cases shelfNamed? key with
  | none => rfl
  | some shelf =>
    cases hset : (shelves.get shelf).isSome <;> cases hvalue : decodeShelf value <;>
      simp [shelfField, RecordField.of, hset, hvalue, Except.map, bind, Except.bind]

/-- Entries are decoded one by one, each under its key. -/
theorem decodeEntries_ofList_eq_ok_iff {pass : Decoder Unit} {members : List (String × Json)}
    {entries : List (String × Entity)} :
    decodeEntries pass (Members.ofList members .done) = .ok entries ↔
      List.Forall₂ (fun member entry => member.1 = entry.1 ∧ decode pass member.2 = .ok entry.2)
        members entries := by
  induction members generalizing entries with
  | nil =>
    rw [List.forall₂_nil_left_iff]
    exact ⟨fun hok => (Except.ok.inj hok).symm, fun hnil => congrArg Except.ok hnil.symm⟩
  | cons member rest ih =>
    change decodeEntries pass (.cons member.1 member.2 (Members.ofList rest .done)) = _ ↔ _
    rw [decodeEntries, List.forall₂_cons_left_iff]
    simp only [bind_eq_ok_iff, ih]
    constructor
    · rintro ⟨entity, hentity, others, hothers, hentries⟩
      cases hentries
      exact ⟨(member.1, entity), others, ⟨rfl, hentity⟩, hothers, rfl⟩
    · rintro ⟨⟨_, entity⟩, others, ⟨rfl, hentity⟩, hothers, rfl⟩
      exact ⟨entity, hentity, others, hothers, rfl⟩

theorem keeps_decodeEntries {pass : Decoder Unit} {members others : List (String × Json)}
    (hmembers : List.Forall₂
      (SameKey fun value other => Keeps (decode pass value) (decode pass other)) members others) :
    Keeps (decodeEntries pass (Members.ofList members .done))
      (decodeEntries pass (Members.ofList others .done)) := by
  induction hmembers with
  | nil => exact Keeps.refl _
  | @cons member other members others hmember _ ih =>
    obtain ⟨hvalue⟩ := hmember
    change Keeps (decodeEntries pass (.cons _ _ _)) (decodeEntries pass (.cons _ _ _))
    rw [decodeEntries, decodeEntries]
    exact hvalue.bind fun _ => ih.bind fun _ => Keeps.refl _

/-- Entries in another order make the same collection. -/
theorem keeps_decodeEntries_of_perm {pass : Decoder Unit} {members others : List (String × Json)}
    (hnodup : (members.map Prod.fst).Nodup) (hperm : members.Perm others) :
    Keeps ((decodeEntries pass (Members.ofList members .done)).map Keyed.ofList)
      ((decodeEntries pass (Members.ofList others .done)).map Keyed.ofList) := by
  intro collection hok
  obtain ⟨entries, hentries, rfl⟩ := map_eq_ok_iff.mp hok
  rw [decodeEntries_ofList_eq_ok_iff] at hentries
  have hkeys := keys_eq_of_forall₂ (fun _ _ h => h.1) hentries
  obtain ⟨swapped, hothers, hswapped⟩ := List.perm_comp_forall₂ hperm.symm hentries
  refine map_eq_ok_iff.mpr ⟨swapped, decodeEntries_ofList_eq_ok_iff.mpr hothers, ?_⟩
  have hsame := Keyed.ofList_perm Prod.fst Prod.snd (hkeys ▸ hnodup) hswapped.symm
  rwa [List.map_id', List.map_id', eq_comm] at hsame

/-! ### Entities -/

section Members

variable {members middle others : List (String × Json)} {pass : Decoder Unit}
  (hnodup : (members.map Prod.fst).Nodup) (hperm : middle.Perm others)

include hnodup hperm

/-- A collection is decoded from its entries in any order. -/
theorem keeps_collection
    (hentries : List.Forall₂
      (SameKey fun value other => Keeps (decode pass value) (decode pass other)) members middle) :
    Keeps (do return Keyed.ofList (← decodeEntries pass (Members.ofList members .done)))
      (do return Keyed.ofList (← decodeEntries pass (Members.ofList others .done))) := by
  rw [bind_pure_comp, bind_pure_comp]
  have hkeys := keys_eq_of_forall₂ (fun _ _ ⟨_⟩ => rfl) hentries
  exact ((keeps_decodeEntries hentries).map Keyed.ofList).trans
    (keeps_decodeEntries_of_perm (hkeys ▸ hnodup) hperm)

theorem keeps_decodeShelves
    (hshelves : List.Forall₂
      (SameKey fun value other => Keeps (decodeShelf value) (decodeShelf other)) members middle) :
    Keeps (decodeShelves {} (Members.ofList members .done))
      (decodeShelves {} (Members.ofList others .done)) := by
  rw [decodeShelves_ofList_eq, decodeShelves_ofList_eq]
  refine keeps_foldlM_takeMember pairwise_apart_shelfField hnodup
    (hshelves.imp fun _ _ => SameKey.imp fun value other hshelf => ?_) hperm _
  exact ⟨Keeps.refl _, List.forall_mem_map.mpr fun shelf _ draft => hshelf.map _⟩

variable (hvalues : List.Forall₂
  (SameKey fun value other => value.Reordered other ∧ value.Distinct) members middle)

include hvalues

theorem keeps_nameAmong (hpass : Steady pass) :
    Keeps (nameAmong pass none (Members.ofList members .done))
      (nameAmong pass none (Members.ofList others .done)) := by
  rw [nameAmong_ofList_eq, nameAmong_ofList_eq]
  exact keeps_foldlM_takeMember_of_steady hpass
    (List.forall_mem_singleton.mpr (steady_take steady_string)) (List.pairwise_singleton _ _)
    hnodup hvalues hperm none

theorem keeps_kindAmong :
    Keeps (kindAmong none (Members.ofList members .done))
      (kindAmong none (Members.ofList others .done)) := by
  rw [kindAmong_ofList_eq, kindAmong_ofList_eq]
  exact keeps_foldlM_takeMember_of_steady (fun _ _ _ _ => Keeps.refl _)
    (List.forall_mem_singleton.mpr (steady_take Kind.steady_decode)) (List.pairwise_singleton _ _)
    hnodup hvalues hperm none

theorem keeps_fields {fields : List (RecordField Typed)}
    (hfields : ∀ field ∈ fields, ∀ draft, Steady (field.take draft))
    (hapart : fields.Pairwise RecordField.Apart) :
    Keeps ((Members.ofList members .done).fields fields {})
      ((Members.ofList others .done).fields fields {}) := by
  rw [Members.fields_ofList, Members.fields_ofList]
  exact keeps_foldlM_takeMember_of_steady steady_skip hfields hapart hnodup hvalues hperm {}

/-- Whatever its kind, an entity is decoded from its members in any order. -/
theorem keeps_decode (hpass : Steady pass)
    (hshelves : List.Forall₂
      (SameKey fun value other => Keeps (decodeShelf value) (decodeShelf other)) members middle) :
    Keeps (decode pass (record members)) (decode pass (record others)) := by
  have htype : ∀ draft, Steady (typeField.take draft) := steady_take (TypeRef.steady_decode .held)
  have hsignatures : ∀ draft, Steady (signaturesField.take draft) :=
    steady_take (steady_items (Signature.steady_decode .held))
  rw [record, record, decode, decode]
  refine (keeps_nameAmong hnodup hperm hvalues hpass).bind fun _ => (Keeps.refl _).bind fun name =>
    (keeps_kindAmong hnodup hperm hvalues).bind fun _ => (Keeps.refl _).bind fun kind => ?_
  cases kind with
  | field =>
    refine (keeps_fields hnodup hperm hvalues ?_ ?_).bind fun _ => Keeps.refl _
    · exact List.forall_mem_singleton.mpr htype
    · exact List.pairwise_singleton _ _
  | function =>
    refine (keeps_fields hnodup hperm hvalues ?_ ?_).bind fun _ => Keeps.refl _
    · exact List.forall_mem_cons.mpr ⟨htype, List.forall_mem_singleton.mpr hsignatures⟩
    · exact List.pairwise_pair.mpr
        (RecordField.apart_of (fun _ _ => rfl) (fun _ _ => rfl) fun _ _ _ => rfl)
  | unit => exact (keeps_decodeShelves hnodup hperm hshelves).bind fun _ => Keeps.refl _

end Members

/-- Level by level, entities and shelves are decoded from members in any order. -/
theorem keeps_of_reordered {json other : Json} (hreordered : json.Reordered other)
    (hdistinct : json.Distinct) :
    (∀ pass, Steady pass → Keeps (decode pass json) (decode pass other)) ∧
      Keeps (decodeShelf json) (decodeShelf other) := by
  refine Reordered.induction
    (motive := fun json other =>
      (∀ pass, Steady pass → Keeps (decode pass json) (decode pass other)) ∧
        Keeps (decodeShelf json) (decodeShelf other))
    (fun json => ⟨fun pass _ => Keeps.refl _, Keeps.refl _⟩)
    (fun items others _ => ⟨fun pass _ => keeps_error _ _, keeps_error _ _⟩)
    (fun members middle others hnodup hmembers hperm => ⟨fun pass hpass => ?_, ?_⟩)
    hreordered hdistinct
  · exact keeps_decode hnodup hperm (hmembers.imp fun _ _ => SameKey.imp fun _ _ h => h.1) hpass
      (hmembers.imp fun _ _ => SameKey.imp fun _ _ h => h.2.2)
  · rw [record, record, decodeShelf, decodeShelf]
    -- On a shelf nothing has to be held back any more.
    have hnothing : Steady fun _ => .ok () := fun _ _ _ _ => Keeps.refl _
    exact keeps_collection hnodup hperm
      (hmembers.imp fun _ _ => SameKey.imp fun _ _ h => h.2.1 _ hnothing)

theorem steady_decode {pass : Decoder Unit} (hpass : Steady pass) : Steady (decode pass) :=
  fun _ _ hreordered hdistinct => (keeps_of_reordered hreordered hdistinct).1 pass hpass

end Entity

namespace Snapshot

theorem steady_entity (outer : Nat) : Steady (entity outer) :=
  Entity.steady_decode (steady_hold _)

theorem steady_codebase : Steady codebase := by
  intro json other hreordered hdistinct
  refine Reordered.induction (motive := fun json other => Keeps (codebase json) (codebase other))
    (fun _ => Keeps.refl _) (fun items others _ => ?_)
    (fun members middle others hnodup hmembers hperm => ?_) hreordered hdistinct
  · exact keeps_error _ _
  · refine Entity.keeps_collection hnodup hperm (hmembers.imp fun _ _ => SameKey.imp ?_)
    rintro value other ⟨⟨hvalue, hdistinct⟩, -⟩
    exact Entity.steady_decode (steady_hold _) value other hvalue hdistinct

end Snapshot

/-- Without repeated keys, a value decodes to the same codebase or entity in every order of members, and a text with such a value is read as the same snapshot. -/
theorem Snapshot.member_order_unseen {json other : Json} (hreordered : json.Reordered other)
    (hdistinct : json.Distinct) :
    (∀ codebase, Snapshot.codebase json = .ok codebase →
      Snapshot.codebase other = .ok codebase) ∧
    (∀ outer entity, Snapshot.entity outer json = .ok entity →
      Snapshot.entity outer other = .ok entity) ∧
    ∀ text otherText : String, (Json.read text.toList).root = json →
      Json.read otherText.toList = ⟨other, false⟩ →
      ∀ codebase, Snapshot.read text = .ok codebase → Snapshot.read otherText = .ok codebase := by
  refine ⟨steady_codebase json other hreordered hdistinct,
    fun outer => steady_entity outer json other hreordered hdistinct,
    fun text otherText hroot hother => ?_⟩
  rw [Snapshot.read, Snapshot.read, hother]
  subst hroot
  exact Document.keeps_decode steady_codebase hreordered hdistinct rfl

/-- A field whose kind stands behind its type, in a unit whose kind and name stand behind its fields, in a codebase; in the other values all of it is the other way round. -/
theorem Snapshot.member_order_unseen_reversed :
    ∃ (inner otherInner json other : Json) (entity : Entity) (codebase : Codebase),
      inner.Reordered otherInner ∧ inner.Distinct ∧ json.Reordered other ∧ json.Distinct ∧
        Snapshot.entity 0 inner = .ok entity ∧ Snapshot.entity 0 otherInner = .ok entity ∧
        entity.child? ⟨.fields, "f"⟩ = some (.field "f" ⟨"int", 1, []⟩) ∧
        Snapshot.codebase json = .ok codebase ∧ Snapshot.codebase other = .ok codebase ∧
        codebase.get? "u" = some entity ∧
        Snapshot.read json.compact = .ok codebase ∧ Snapshot.read other.compact = .ok codebase := by
  let type : List (String × Json) := [("dimension", natural 1), ("name", .text "int")]
  let member (type : List (String × Json)) : List (String × Json) :=
    [("type", record type), ("kind", .text "field"), ("name", .text "f")]
  let unit (member : List (String × Json)) : List (String × Json) :=
    [("fields", record [("f", record member)]), ("kind", .text "unit"), ("name", .text "u")]
  let inner := record (unit (member type))
  let otherInner := record (unit (member type.reverse).reverse).reverse
  let json := record [("u", inner)]
  let other := record [("u", otherInner)]
  let entity : Entity :=
    .unit "u" (.cons "f" trivial (.field "f" ⟨"int", 1, []⟩) .nil) .nil .nil
  have htype : (record type).Reordered (record type.reverse) :=
    .object (.cons ⟨.same _⟩ (.cons ⟨.same _⟩ .nil)) (List.reverse_perm type).symm
  have hmember : (record (member type)).Reordered (record (member type.reverse).reverse) :=
    .object (.cons ⟨htype⟩ (.cons ⟨.same _⟩ (.cons ⟨.same _⟩ .nil))) (List.reverse_perm _).symm
  have hfields : (record [("f", record (member type))]).Reordered
      (record [("f", record (member type.reverse).reverse)]) :=
    .object (.cons ⟨hmember⟩ .nil) (.refl _)
  have hinner : inner.Reordered otherInner :=
    .object (.cons ⟨hfields⟩ (.cons ⟨.same _⟩ (.cons ⟨.same _⟩ .nil))) (List.reverse_perm _).symm
  have hjson : json.Reordered other := .object (.cons ⟨hinner⟩ .nil) (.refl _)
  have hdistinctInner : inner.Distinct := by
    simp [inner, unit, member, type, distinct_record_iff, Distinct, natural]
  have hdistinct : json.Distinct := by
    simp [json, distinct_record_iff, hdistinctInner]
  have hwhole : ∀ members : List (String × Json),
      (record members).Whole ↔ ∀ member ∈ members, member.2.Whole :=
    fun _ => Members.whole_ofList_iff
  have hdimension : (natural 1).Whole := whole_natural (by decide)
  have hread : Json.read json.compact.toList = ⟨json, false⟩ :=
    read_compact (by simp [json, inner, unit, member, type, hwhole, hdimension, Json.Whole])
  have hreadOther : Json.read other.compact.toList = ⟨other, false⟩ :=
    read_compact (by simp [other, otherInner, unit, member, type, hwhole, hdimension, Json.Whole])
  have hentity : Snapshot.entity 0 inner = .ok entity := rfl
  have hcodebase : Snapshot.codebase json = .ok (.cons "u" trivial entity .nil) := rfl
  have hsnapshot : Snapshot.read json.compact = .ok (.cons "u" trivial entity .nil) := by
    rw [Snapshot.read, hread]
    rfl
  obtain ⟨-, hentities, -⟩ := Snapshot.member_order_unseen hinner hdistinctInner
  obtain ⟨hcodebases, -, htexts⟩ := Snapshot.member_order_unseen hjson hdistinct
  exact ⟨inner, otherInner, json, other, entity, _, hinner, hdistinctInner, hjson, hdistinct,
    hentity, hentities 0 entity hentity, rfl, hcodebase, hcodebases _ hcodebase, rfl, hsnapshot,
    htexts _ _ (congrArg Document.root hread) hreadOther _ hsnapshot⟩

end ApiDrift
