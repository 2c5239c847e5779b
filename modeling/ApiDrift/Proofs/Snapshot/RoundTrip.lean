import ApiDrift.Proofs.Keyed.Merge
import ApiDrift.Proofs.Snapshot.Records

/-!
# Snapshots read back

What is written of the data model is a whole tree. Records are taken back from it without more ado. Of an entity everything but the name is held back at first, so an entity and a codebase are read back unless their text is nested more deeply than the limit. Keys and names play no part in this, and neither does the shelf on which an entity stands.
-/

namespace ApiDrift

open Json

namespace Json

/-! ### Records and lists that are whole -/

theorem Items.whole_ofList {items : List Json} (hitems : ∀ item ∈ items, item.Whole) :
    (Items.ofList items .done).Whole := by
  induction items with
  | nil => trivial
  | cons item rest ih =>
    obtain ⟨hitem, hrest⟩ := List.forall_mem_cons.mp hitems
    exact ⟨hitem, ih hrest⟩

theorem Members.whole_ofList_iff {members : List (String × Json)} :
    (Members.ofList members .done).Whole ↔ ∀ member ∈ members, member.2.Whole := by
  induction members with
  | nil => exact iff_of_true trivial (fun _ h => nomatch h)
  | cons member rest ih =>
    rw [List.forall_mem_cons, ← ih]
    exact Iff.rfl

theorem Members.depth_ofList_le_iff {members : List (String × Json)} {bound : Nat} :
    (Members.ofList members .done).depth ≤ bound ↔ ∀ member ∈ members, member.2.depth ≤ bound := by
  induction members with
  | nil => exact iff_of_true bound.zero_le (fun _ h => nomatch h)
  | cons member rest ih =>
    rw [List.forall_mem_cons, ← ih]
    exact max_le_iff

theorem whole_natural {number : Nat} (hfits : number < UInt64.size) : (natural number).Whole :=
  ⟨Decimal.Numeral.proper_ofNat number, isTooLarge_ofNat hfits⟩

theorem whole_uint32 (number : UInt32) : (natural number.toNat).Whole :=
  whole_natural (number.toNat_lt.trans (by decide))

theorem whole_list {α : Type} {encode : α → Json} (hencode : ∀ value, (encode value).Whole)
    (values : List α) : (list (values.map encode)).Whole :=
  Items.whole_ofList (List.forall_mem_map.mpr fun value _ => hencode value)

end Json

/-! ### What is written is whole -/

theorem TypeRef.whole_encode (type : TypeRef) : type.encode.Whole := by
  refine Members.whole_ofList_iff.mpr (List.forall_mem_append.mpr ⟨?_, ?_⟩)
  · simp [Json.Whole, whole_uint32]
  · split
    · exact fun _ h => nomatch h
    · have htext : ∀ name, (Json.text name).Whole := fun _ => trivial
      exact List.forall_mem_singleton.mpr (whole_list htext type.accepts)

theorem whole_optionalMember (name : String) (value : Option String) :
    ∀ member ∈ optionalMember name (value.map .text), member.2.Whole := by
  cases value with
  | none => exact fun _ h => nomatch h
  | some value => exact List.forall_mem_singleton.mpr trivial

theorem Parameter.whole_encode (parameter : Parameter) : parameter.encode.Whole := by
  refine Members.whole_ofList_iff.mpr (List.forall_mem_append.mpr ⟨?_, ?_⟩)
  · simp [Json.Whole, TypeRef.whole_encode]
  · exact whole_optionalMember _ _

theorem Signature.whole_encode (signature : Signature) : signature.encode.Whole :=
  Members.whole_ofList_iff.mpr
    (List.forall_mem_singleton.mpr (whole_list Parameter.whole_encode signature.parameters))

theorem Version.whole_encode (version : Version) : version.encode.Whole := by
  refine Members.whole_ofList_iff.mpr (List.forall_mem_append.mpr ⟨?_, ?_⟩)
  · simp [whole_natural, UInt64.toNat_lt_size]
  · exact whole_optionalMember _ _

theorem ChangeRecord.whole_encode (record : ChangeRecord) : record.encode.Whole := by
  refine Members.whole_ofList_iff.mpr ?_
  simp [Json.Whole, Change.encode, Bump.encode]

theorem Summary.whole_encode (summary : Summary) : summary.encode.Whole := by
  have hkinds : (record (summary.kinds.map fun kind =>
      (kind.1.word, natural kind.2.toNat))).Whole :=
    Members.whole_ofList_iff.mpr (List.forall_mem_map.mpr fun kind _ => whole_uint32 kind.2)
  refine Members.whole_ofList_iff.mpr ?_
  simp [whole_uint32, hkinds]

mutual

theorem Entity.whole_encode : (entity : Entity) → entity.encode.Whole
  | .field name type => by
    refine Members.whole_ofList_iff.mpr ?_
    simp [Json.Whole, type.whole_encode]
  | .function name type signatures => by
    refine Members.whole_ofList_iff.mpr ?_
    simp [Json.Whole, type.whole_encode, whole_list Signature.whole_encode signatures]
  | .unit name fields functions units => by
    refine Members.whole_ofList_iff.mpr ?_
    simp [Json.Whole, Entity.whole_encodeEntries fields, Entity.whole_encodeEntries functions,
      Entity.whole_encodeEntries units]

theorem Entity.whole_encodeEntries : {low : Option String} → (entries : Keyed Entity low) →
    (Entity.encodeEntries entries).Whole
  | _, .nil => trivial
  | _, .cons _ _ entity rest => ⟨entity.whole_encode, Entity.whole_encodeEntries rest⟩

end

/-! ### Entities -/

namespace Entity

/-- So many brackets may be open in a value that is held back. -/
def Holds (others : Json → Except Rejection Unit) (brackets : Nat) : Prop :=
  ∀ json : Json, json.Whole → json.depth ≤ brackets → others json = .ok ()

theorem holds_hold (brackets : Nat) : Holds (Json.hold brackets) brackets :=
  fun json hwhole hdepth => (json.hold_eq_ok_iff hwhole brackets).mpr hdepth

theorem holds_ok (brackets : Nat) : Holds (fun _ => .ok ()) brackets := fun _ _ _ => rfl

variable {others : Json → Except Rejection Unit} {brackets : Nat}

theorem nameAmong_ofList (hothers : Holds others brackets) (name : Option String)
    {members : List (String × Json)} (hkeys : ∀ member ∈ members, member.1 ≠ "name")
    (hwhole : ∀ member ∈ members, member.2.Whole)
    (hdepth : ∀ member ∈ members, member.2.depth ≤ brackets) :
    nameAmong others name (Members.ofList members .done) = .ok name := by
  induction members with
  | nil => rfl
  | cons member rest ih =>
    rw [List.forall_mem_cons] at hkeys hwhole hdepth
    change nameAmong others name (.cons member.1 member.2 (Members.ofList rest .done)) = _
    rw [nameAmong, if_neg hkeys.1, hothers member.2 hwhole.1 hdepth.1]
    exact ih hkeys.2 hwhole.2 hdepth.2

/-- The name comes first, and the rest of an entity can be held back if it is not nested too deeply. -/
theorem nameAmong_record (hothers : Holds others brackets) (name : String)
    {members : List (String × Json)} (hkeys : ∀ member ∈ members, member.1 ≠ "name")
    (hwhole : (record (("name", .text name) :: members)).Whole)
    (hdepth : (record (("name", .text name) :: members)).depth ≤ brackets + 1) :
    nameAmong others none (Members.ofList (("name", .text name) :: members) .done) =
      .ok (some name) := by
  have hmembers := (List.forall_mem_cons.mp (Members.whole_ofList_iff.mp hwhole)).2
  have hvalues := (List.forall_mem_cons.mp
    (Members.depth_ofList_le_iff.mp (Nat.le_of_succ_le_succ hdepth))).2
  exact nameAmong_ofList hothers (some name) hkeys hmembers hvalues

/-! Once name and kind are known, an entity is taken by its kind. -/

section Kinds

variable {members : Members} {name : String} {type : TypeRef}
  (hname : nameAmong others none members = .ok (some name))

include hname

theorem decode_field (hkind : kindAmong none members = .ok (some .field))
    (hfields : members.fields [typeField] {} = .ok ⟨some type, none⟩) :
    decode others (.object members) = .ok (.field name type) := by
  simp only [decode, hname, hkind, hfields, required, bind, Except.bind]
  rfl

theorem decode_function {signatures : List Signature}
    (hkind : kindAmong none members = .ok (some .function))
    (hfields : members.fields [typeField, signaturesField] {} = .ok ⟨some type, some signatures⟩) :
    decode others (.object members) = .ok (.function name type signatures) := by
  simp only [decode, hname, hkind, hfields, required, bind, Except.bind]
  rfl

theorem decode_unit {fields functions units : Codebase}
    (hkind : kindAmong none members = .ok (some .unit))
    (hshelves : decodeShelves {} members = .ok ⟨some fields, some functions, some units⟩) :
    decode others (.object members) = .ok (.unit name fields functions units) := by
  simp only [decode, hname, hkind, hshelves, required, bind, Except.bind]
  rfl

end Kinds

theorem decodeShelves_skip {shelves : Shelves} {key : String} {value : Json} {rest : Members}
    (hkey : shelfNamed? key = none) :
    decodeShelves shelves (.cons key value rest) = decodeShelves shelves rest := by
  rw [decodeShelves, hkey]

theorem decodeShelves_cons {shelves : Shelves} {shelf : Shelf} {key : String} {value : Json}
    {rest : Members} {children : Codebase} (hkey : shelfNamed? key = some shelf)
    (hunset : shelves.get shelf = none) (hchildren : decodeShelf value = .ok children) :
    decodeShelves shelves (.cons key value rest) =
      decodeShelves (shelves.put shelf children) rest := by
  rw [decodeShelves, hkey]
  simp only [hunset, hchildren, bind, Except.bind]
  rfl

end Entity

mutual

/-- An entity is read back if what is held back of it is not nested too deeply. -/
theorem Entity.decode_encode : (entity : Entity) → {others : Json → Except Rejection Unit} →
    {brackets : Nat} → Entity.Holds others brackets → entity.encode.depth ≤ brackets + 1 →
    Entity.decode others entity.encode = .ok entity
  | .field name type, others, brackets, hothers, hdepth => by
    have hname := Entity.nameAmong_record hothers name (by simp)
      (Entity.field name type).whole_encode hdepth
    refine Entity.decode_field hname rfl ?_
    change Members.fields [Entity.typeField] {} (.cons "name" (.text name)
      (.cons "kind" (.text Kind.field.word) (.cons "type" type.encode .done))) = _
    rw [Members.fields_skip rfl rfl, Members.fields_skip rfl rfl]
    exact Members.fields_cons rfl rfl (congrArg (Except.map _) (type.decode_encode .held))
  | .function name type signatures, others, brackets, hothers, hdepth => by
    have hname := Entity.nameAmong_record hothers name (by simp)
      (Entity.function name type signatures).whole_encode hdepth
    have hsignatures := items_list fun signature (_ : signature ∈ signatures) =>
      signature.decode_encode .held
    refine Entity.decode_function hname rfl ?_
    change Members.fields [Entity.typeField, Entity.signaturesField] {} (.cons "name" (.text name)
      (.cons "kind" (.text Kind.function.word) (.cons "type" type.encode
        (.cons "signatures" (list (signatures.map Signature.encode)) .done)))) = _
    rw [Members.fields_skip rfl rfl, Members.fields_skip rfl rfl,
      Members.fields_cons rfl rfl (congrArg (Except.map _) (type.decode_encode .held))]
    exact Members.fields_cons rfl rfl (congrArg (Except.map _) hsignatures)
  | .unit name fields functions units, others, brackets, hothers, hdepth => by
    have hname := Entity.nameAmong_record hothers name (by simp [Shelf.word])
      (Entity.unit name fields functions units).whole_encode hdepth
    refine Entity.decode_unit hname rfl ?_
    change Entity.decodeShelves {} (.cons "name" (.text name) (.cons "kind" (.text Kind.unit.word)
      (.cons Shelf.fields.word (.object (Entity.encodeEntries fields))
        (.cons Shelf.functions.word (.object (Entity.encodeEntries functions))
          (.cons Shelf.units.word (.object (Entity.encodeEntries units)) .done))))) = _
    rw [Entity.decodeShelves_skip rfl, Entity.decodeShelves_skip rfl,
      Entity.decodeShelves_cons rfl rfl (Entity.decodeShelf_encodeEntries fields),
      Entity.decodeShelves_cons rfl rfl (Entity.decodeShelf_encodeEntries functions),
      Entity.decodeShelves_cons rfl rfl (Entity.decodeShelf_encodeEntries units)]
    rfl

/-- On a shelf nothing is held back. -/
theorem Entity.decodeShelf_encodeEntries : (children : Codebase) →
    Entity.decodeShelf (.object (Entity.encodeEntries children)) = .ok children
  | children => by
    -- Nothing is refused here, so the depth of the entries serves as a bound.
    have hentries := Entity.decodeEntries_encodeEntries children
      (Entity.holds_ok (Entity.encodeEntries children).depth) (Nat.le_succ _)
    rw [Entity.decodeShelf, hentries]
    exact congrArg Except.ok children.ofList_toList

theorem Entity.decodeEntries_encodeEntries : {low : Option String} →
    (entries : Keyed Entity low) → {others : Json → Except Rejection Unit} → {brackets : Nat} →
    Entity.Holds others brackets → (Entity.encodeEntries entries).depth ≤ brackets + 1 →
    Entity.decodeEntries others (Entity.encodeEntries entries) = .ok entries.toList
  | _, .nil, _, _, _, _ => rfl
  | _, .cons key _ entity rest, others, brackets, hothers, hdepth => by
    obtain ⟨hentity, hrest⟩ := max_le_iff.mp hdepth
    rw [Entity.encodeEntries, Entity.decodeEntries, entity.decode_encode hothers hentity,
      Entity.decodeEntries_encodeEntries rest hothers hrest]
    rfl

end

theorem Snapshot.entity_encode {entity : Entity} (hdepth : entity.encode.depth ≤ nestingLimit) :
    Snapshot.entity 0 entity.encode = .ok entity :=
  entity.decode_encode (Entity.holds_hold _) hdepth

theorem Snapshot.codebase_encode {codebase : Codebase}
    (hdepth : codebase.encode.depth ≤ nestingLimit) :
    Snapshot.codebase codebase.encode = .ok codebase := by
  have hentries := Entity.decodeEntries_encodeEntries codebase
    (Entity.holds_hold (nestingLimit - 2)) (Nat.le_of_succ_le_succ hdepth)
  rw [Codebase.encode, Snapshot.codebase, hentries]
  exact congrArg Except.ok codebase.ofList_toList

/-! ### Texts -/

namespace Json

/-- Whichever way a tree is written, the value is taken from the text again. -/
def ReadsBack {α : Type} (decode : Decoder α) (json : Json) (value : α) : Prop :=
  ∀ text ∈ [json.compact, json.pretty], (read text.toList).decode decode = .ok value

theorem readsBack {α : Type} {decode : Decoder α} {json : Json} {value : α}
    (hwhole : json.Whole) (hdecode : decode json = .ok value) : ReadsBack decode json value := by
  have hdocument : Document.decode ⟨json, false⟩ decode = .ok value := by
    rw [Document.decode, hdecode]
    rfl
  intro text hmem
  rcases List.mem_pair.mp hmem with rfl | rfl
  · rw [read_compact hwhole, hdocument]
  · rw [read_pretty hwhole, hdocument]

end Json

theorem Snapshot.read_compact_encode {codebase : Codebase}
    (hdepth : codebase.encode.depth ≤ nestingLimit) :
    Snapshot.read codebase.encode.compact = .ok codebase := by
  have hback : ReadsBack Snapshot.codebase codebase.encode codebase :=
    readsBack (Entity.whole_encodeEntries codebase) (Snapshot.codebase_encode hdepth)
  exact hback _ List.mem_cons_self

/-- The data model is read back from the text that is written of it. -/
theorem data_model_reads_back :
    (∀ type : TypeRef, ReadsBack (TypeRef.decode .direct) type.encode type) ∧
      (∀ parameter : Parameter,
        ReadsBack (Parameter.decode .direct) parameter.encode parameter) ∧
      (∀ signature : Signature,
        ReadsBack (Signature.decode .direct) signature.encode signature) ∧
      (∀ version : Version, ReadsBack Version.decode version.encode version) ∧
      (∀ record : ChangeRecord, ReadsBack ChangeRecord.decode record.encode record) ∧
      (∀ summary : Summary, ReadsBack Summary.decode summary.encode summary) ∧
      (∀ entity : Entity, entity.encode.depth ≤ Snapshot.nestingLimit →
        ReadsBack (Snapshot.entity 0) entity.encode entity) ∧
      ∀ codebase : Codebase, codebase.encode.depth ≤ Snapshot.nestingLimit →
        ReadsBack Snapshot.codebase codebase.encode codebase := by
  refine ⟨fun type => ?_, fun parameter => ?_, fun signature => ?_, fun version => ?_,
    fun record => ?_, fun summary => ?_, fun entity hdepth => ?_, fun codebase hdepth => ?_⟩
  · exact readsBack type.whole_encode (type.decode_encode .direct)
  · exact readsBack parameter.whole_encode (parameter.decode_encode .direct)
  · exact readsBack signature.whole_encode (signature.decode_encode .direct)
  · exact readsBack version.whole_encode version.decode_encode
  · exact readsBack record.whole_encode record.decode_encode
  · exact readsBack summary.whole_encode summary.decode_encode
  · exact readsBack entity.whole_encode (Snapshot.entity_encode hdepth)
  · exact readsBack (Entity.whole_encodeEntries codebase) (Snapshot.codebase_encode hdepth)

/-- A function stands among the fields of a unit under another key than its name, and its one parameter has an empty default value. -/
theorem data_model_reads_back_function_among_fields :
    ∃ (entity : Entity) (codebase : Codebase), entity.encode.depth = 7 ∧
      ReadsBack (Snapshot.entity 0) entity.encode entity ∧ codebase.encode.depth = 10 ∧
        ReadsBack Snapshot.codebase codebase.encode codebase := by
  let entity : Entity := .function "f \"\n\"" ⟨"int", 4294967295, []⟩
    [⟨[⟨"", ⟨"long", 0, ["int", ""]⟩, some ""⟩]⟩]
  let codebase : Codebase := .cons "ключ" trivial
    (.unit "u" (.cons "k" trivial entity .nil) .nil .nil) .nil
  have hentity : entity.encode.depth = 7 := by decide
  have hcodebase : codebase.encode.depth = 10 := by decide
  obtain ⟨-, -, -, -, -, -, hentities, hcodebases⟩ := data_model_reads_back
  exact ⟨entity, codebase, hentity, hentities entity (by rw [hentity]; decide), hcodebase,
    hcodebases codebase (by rw [hcodebase]; decide)⟩

end ApiDrift
