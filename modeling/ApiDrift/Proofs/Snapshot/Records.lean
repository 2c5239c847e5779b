import ApiDrift.Proofs.Decimal.Quick
import ApiDrift.Proofs.Json.Nesting
import ApiDrift.Snapshot.Decoding
import ApiDrift.Snapshot.Encoding

/-!
# Records read back

A record is taken field by field in the order in which it was written, so its draft fills up with the values of the record. Fields that are left out have nothing to say that their defaults do not.
-/

namespace ApiDrift

namespace Json

/-! ### Numbers and lists -/

theorem isTooLarge_ofNat {number : Nat} (hfits : number < UInt64.size) :
    isTooLarge (.ofNat number) = false := by
  rw [isTooLarge, Option.isNone_eq_false_iff]
  exact Decimal.Numeral.isSome_quick?_ofNat hfits

theorem numberBelow_natural {bound number : Nat} (hbound : number < bound)
    (hfits : number < UInt64.size) : (natural number).numberBelow bound = .ok number := by
  have hnumeral : ofNumeral (.ofNat number) = .ok (.ofNat number) := by
    rw [ofNumeral, isTooLarge_ofNat hfits]
    rfl
  simp only [natural, numberBelow, hnumeral, bind, Except.bind, Decimal.Numeral.natural?_ofNat]
  exact if_pos hbound

@[simp] theorem uint32_natural (number : UInt32) : (natural number.toNat).uint32 = .ok number := by
  rw [uint32, numberBelow_natural number.toNat_lt (number.toNat_lt.trans (by decide))]
  exact congrArg Except.ok number.ofNat_toNat

@[simp] theorem uint64_natural (number : UInt64) : (natural number.toNat).uint64 = .ok number := by
  rw [uint64, numberBelow_natural number.toNat_lt number.toNat_lt]
  exact congrArg Except.ok number.ofNat_toNat

theorem items_list {α : Type} {decode : Decoder α} {encode : α → Json} {values : List α}
    (hdecode : ∀ value ∈ values, decode (encode value) = .ok value) :
    (list (values.map encode)).items decode = .ok values := by
  induction values with
  | nil => rfl
  | cons value rest ih =>
    obtain ⟨hvalue, hrest⟩ := List.forall_mem_cons.mp hdecode
    have hlater := ih hrest
    change (do
      let first ← decode (encode value)
      return first :: (← (list (rest.map encode)).items decode)) = _
    rw [hvalue, hlater]
    rfl

theorem members_record {κ α : Type} {key : String → Except Rejection κ} {value : Decoder α}
    {word : κ → String} {encode : α → Json} (hkey : ∀ name, key (word name) = .ok name)
    (hvalue : ∀ found, value (encode found) = .ok found) (entries : List (κ × α)) :
    (record (entries.map fun entry => (word entry.1, encode entry.2))).members key value =
      .ok entries := by
  induction entries with
  | nil => rfl
  | cons entry rest ih =>
    change (do
      let first := (← key (word entry.1), ← value (encode entry.2))
      return first ::
        (← (record (rest.map fun other => (word other.1, encode other.2))).members key value) :
        Except Rejection (List (κ × α))) = _
    rw [hkey, hvalue, ih]
    rfl

@[simp] theorem strings_texts (values : List String) : (texts values).strings = .ok values :=
  items_list fun _ _ => rfl

theorem ofWord_word {α : Type} {all : List α} {word : α → String} {value : α}
    (hword : all.find? (word · = word value) = some value) :
    ofWord all word (word value) = .ok value := by
  rw [ofWord, hword]

/-! ### Fields -/

variable {δ α : Type} {recordFields : List (RecordField δ)} {draft : δ}

/-- A member for a field that the draft does not have yet goes into the draft. -/
theorem Members.fields_cons {key : String} {value : Json} {rest : Members} {field : RecordField δ}
    {next : δ} (hfield : recordFields.find? (·.name = key) = some field)
    (hunset : field.isSet draft = false) (htake : field.take draft value = .ok next) :
    (Members.cons key value rest).fields recordFields draft = rest.fields recordFields next := by
  rw [Members.fields, hfield]
  dsimp only
  rw [hunset, htake]
  rfl

/-- A member that is no field is passed over. -/
theorem Members.fields_skip {key : String} {value : Json} {rest : Members}
    (hfield : recordFields.find? (·.name = key) = none) (hskip : value.skip = .ok ()) :
    (Members.cons key value rest).fields recordFields draft = rest.fields recordFields draft := by
  rw [Members.fields, hfield]
  dsimp only
  rw [hskip]
  rfl

/-- A record is made of the draft that its members fill. -/
theorem fields_object {source : Source} {made : δ} {members : Members}
    {make : (String → Rejection) → δ → Except Rejection α}
    (hmembers : members.fields recordFields draft = .ok made) :
    (object members).fields source recordFields draft make = make .missingField made := by
  rw [Json.fields, hmembers]
  rfl

end Json

open Json

@[simp] theorem Change.ofWord_word (change : Change) :
    ofWord Change.all Change.word change.word = .ok change :=
  Json.ofWord_word (by cases change <;> rfl)

@[simp] theorem Change.decode_encode (change : Change) : Change.decode change.encode = .ok change :=
  change.ofWord_word

@[simp] theorem Bump.decode_encode (bump : Bump) : Bump.decode bump.encode = .ok bump :=
  Json.ofWord_word (by cases bump <;> rfl)

theorem TypeRef.decode_encode (source : Source) (type : TypeRef) :
    TypeRef.decode source type.encode = .ok type := by
  obtain ⟨name, dimension, accepts⟩ := type
  have hfields : ∀ rest : Members,
      (Members.cons "name" (.text name) (.cons "dimension" (natural dimension.toNat) rest)).fields
          draftFields {} =
        rest.fields draftFields ⟨some name, some dimension, none⟩ := by
    intro rest
    rw [Members.fields_cons rfl rfl rfl]
    exact Members.fields_cons rfl rfl (congrArg (Except.map _) (uint32_natural dimension))
  cases accepts with
  | nil => exact fields_object (hfields .done)
  | cons first rest =>
    have haccepts : Members.fields draftFields ⟨some name, some dimension, none⟩
        (.cons "accepts" (texts (first :: rest)) .done) =
          .ok ⟨some name, some dimension, some (first :: rest)⟩ :=
      Members.fields_cons rfl rfl (congrArg (Except.map _) (strings_texts _))
    exact fields_object ((hfields _).trans haccepts)

theorem Parameter.decode_encode (source : Source) (parameter : Parameter) :
    Parameter.decode source parameter.encode = .ok parameter := by
  obtain ⟨name, type, defaultValue⟩ := parameter
  have hfields : ∀ rest : Members,
      (Members.cons "name" (.text name) (.cons "type" type.encode rest)).fields
          (draftFields source) {} =
        rest.fields (draftFields source) ⟨some name, some type, none⟩ := by
    intro rest
    rw [Members.fields_cons rfl rfl rfl]
    exact Members.fields_cons rfl rfl (congrArg (Except.map _) (type.decode_encode source))
  cases defaultValue with
  | none => exact fields_object (hfields .done)
  | some value =>
    have hdefault : Members.fields (draftFields source) ⟨some name, some type, none⟩
        (.cons "default_value" (.text value) .done) =
          .ok ⟨some name, some type, some (some value)⟩ :=
      Members.fields_cons rfl rfl rfl
    exact fields_object ((hfields _).trans hdefault)

theorem Signature.decode_encode (source : Source) (signature : Signature) :
    Signature.decode source signature.encode = .ok signature := by
  obtain ⟨parameters⟩ := signature
  have hparameters : Members.fields (draftFields source) {}
      (.cons "parameters" (list (parameters.map Parameter.encode)) .done) =
        .ok ⟨some parameters⟩ :=
    Members.fields_cons rfl rfl (congrArg (Except.map _)
      (items_list fun parameter _ => parameter.decode_encode source))
  exact fields_object hparameters

theorem Version.decode_encode (version : Version) :
    Version.decode version.encode = .ok version := by
  obtain ⟨major, minor, patch, label⟩ := version
  have hfields : ∀ rest : Members,
      (Members.cons "major" (natural major.toNat) (.cons "minor" (natural minor.toNat)
          (.cons "patch" (natural patch.toNat) rest))).fields draftFields {} =
        rest.fields draftFields ⟨some major, some minor, some patch, none⟩ := by
    intro rest
    rw [Members.fields_cons rfl rfl (congrArg (Except.map _) (uint64_natural major)),
      Members.fields_cons rfl rfl (congrArg (Except.map _) (uint64_natural minor))]
    exact Members.fields_cons rfl rfl (congrArg (Except.map _) (uint64_natural patch))
  cases label with
  | none => exact fields_object (hfields .done)
  | some label =>
    have hlabel : Members.fields draftFields ⟨some major, some minor, some patch, none⟩
        (.cons "label" (.text label) .done) =
          .ok ⟨some major, some minor, some patch, some (some label)⟩ :=
      Members.fields_cons rfl rfl rfl
    exact fields_object ((hfields _).trans hlabel)

theorem ChangeRecord.decode_encode (record : ChangeRecord) :
    ChangeRecord.decode record.encode = .ok record := by
  obtain ⟨path, change, severity, description⟩ := record
  have hmembers : Members.fields draftFields {}
      (.cons "path" (.text path) (.cons "kind" change.encode (.cons "severity" severity.encode
        (.cons "description" (.text description) .done)))) =
        .ok ⟨some path, some change, some severity, some description⟩ := by
    rw [Members.fields_cons rfl rfl rfl,
      Members.fields_cons rfl rfl (congrArg (Except.map _) change.decode_encode),
      Members.fields_cons rfl rfl (congrArg (Except.map _) severity.decode_encode)]
    exact Members.fields_cons rfl rfl rfl
  exact fields_object hmembers

namespace Summary

/-- Setting the counts of some kinds one by one. -/
theorem foldl_setKind (counted start : Summary) (changes : List Change) :
    (changes.filterMap fun change => (counted.byKind change).map fun count => (change, count)).foldl
        (fun summary kind => summary.setKind kind.1 kind.2) start =
      { start with byKind := fun change =>
          if change ∈ changes then (counted.byKind change).or (start.byKind change)
          else start.byKind change } := by
  induction changes generalizing start with
  | nil => rfl
  | cons first rest ih =>
    rw [List.filterMap_cons]
    cases hfirst : counted.byKind first with
    | none =>
      rw [Option.map_none]
      dsimp only
      rw [ih]
      congr 1
      funext change
      by_cases hchange : change = first
      · rw [hchange, hfirst]
        simp
      · simp [hchange]
    | some count =>
      rw [Option.map_some]
      dsimp only
      rw [List.foldl_cons, ih, setKind]
      congr 1
      funext change
      by_cases hchange : change = first
      · rw [hchange, hfirst]
        simp
      · simp [hchange]

theorem decode_encode (summary : Summary) : Summary.decode summary.encode = .ok summary := by
  obtain ⟨major, minor, patch, byKind⟩ := summary
  let counted : Summary := ⟨major, minor, patch, byKind⟩
  have hkinds : kindCounts (record (counted.kinds.map fun kind =>
      (kind.1.word, natural kind.2.toNat))) = .ok counted.kinds :=
    members_record Change.ofWord_word uint32_natural counted.kinds
  have hmembers : Members.fields draftFields {}
      (.cons "major" (natural major.toNat) (.cons "minor" (natural minor.toNat)
        (.cons "patch" (natural patch.toNat) (.cons "by_kind" (record (counted.kinds.map fun kind =>
          (kind.1.word, natural kind.2.toNat))) .done)))) =
        .ok ⟨some major, some minor, some patch, some counted.kinds⟩ := by
    rw [Members.fields_cons rfl rfl (congrArg (Except.map _) (uint32_natural major)),
      Members.fields_cons rfl rfl (congrArg (Except.map _) (uint32_natural minor)),
      Members.fields_cons rfl rfl (congrArg (Except.map _) (uint32_natural patch))]
    exact Members.fields_cons rfl rfl (congrArg (Except.map _) hkinds)
  have hcounts := foldl_setKind counted { major, minor, patch } Change.all
  have hall : ∀ change : Change, change ∈ Change.all := by
    intro change
    cases change <;> decide
  refine (fields_object hmembers).trans (congrArg Except.ok (hcounts.trans ?_))
  simp [hall, counted]

end Summary

end ApiDrift
