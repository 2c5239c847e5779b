import ApiDrift.Output.Rendering
import ApiDrift.Proofs.Snapshot.RoundTrip

/-!
# Results read back

The JSON of a verdict is read as a record of all that it says, without the time it took, and the JSON of a configuration as its three sections with their defaults. What is written is a whole tree, and reading gives back what was written.
-/

namespace ApiDrift

open Json

namespace Json

/-- A member that may be missing leaves the draft as it is where it is missing. -/
theorem Members.fields_optional {δ : Type} {recordFields : List (RecordField δ)} {name : String}
    {field : RecordField δ} (draft : Option String → δ) (rest : List (String × Json))
    (hfield : recordFields.find? (·.name = name) = some field)
    (hunset : field.isSet (draft none) = false)
    (htake : ∀ value, field.take (draft none) (.text value) = .ok (draft (some value)))
    (found : Option String) :
    (Members.ofList (optionalMember name (found.map .text) ++ rest) .done).fields recordFields
        (draft none) =
      (Members.ofList rest .done).fields recordFields (draft found) := by
  cases found with
  | none => rfl
  | some value => exact Members.fields_cons hfield hunset (htake value)

end Json

/-! ### Verdicts -/

namespace Verdict

/-- What the document of a verdict says. -/
structure Told where
  old : String
  new : String
  bump : Bump
  releaseBump : Bump
  previousVersion : Option String
  nextVersion : Option String
  changes : List ChangeRecord
  summary : Summary
  summaryText : String

def told (verdict : Verdict) : Told where
  old := verdict.old
  new := verdict.new
  bump := verdict.bump
  releaseBump := verdict.releaseBump
  previousVersion := verdict.previousVersion
  nextVersion := verdict.nextVersion
  changes := verdict.changes
  summary := verdict.summary
  summaryText := verdict.summaryText

namespace Told

structure Draft where
  old : Option String := none
  new : Option String := none
  bump : Option Bump := none
  releaseBump : Option Bump := none
  previousVersion : Option String := none
  nextVersion : Option String := none
  changes : Option (List ChangeRecord) := none
  summary : Option Summary := none
  summaryText : Option String := none

def draftFields : List (RecordField Draft) :=
  [.of "old" Draft.old (fun draft old => { draft with old := some old }) string,
    .of "new" Draft.new (fun draft new => { draft with new := some new }) string,
    .of "bump" Draft.bump (fun draft bump => { draft with bump := some bump }) Bump.decode,
    .of "release_bump" Draft.releaseBump (fun draft bump => { draft with releaseBump := some bump })
      Bump.decode,
    .of "previous_version" Draft.previousVersion
      (fun draft version => { draft with previousVersion := some version }) string,
    .of "next_version" Draft.nextVersion
      (fun draft version => { draft with nextVersion := some version }) string,
    .of "changes" Draft.changes (fun draft changes => { draft with changes := some changes })
      (items ChangeRecord.decode),
    .of "summary" Draft.summary (fun draft summary => { draft with summary := some summary })
      Summary.decode,
    .of "summary_text" Draft.summaryText (fun draft text => { draft with summaryText := some text })
      string]

def ofDraft (missing : String → Rejection) (draft : Draft) : Except Rejection Told := do
  return {
    old := ← required missing "old" draft.old
    new := ← required missing "new" draft.new
    bump := ← required missing "bump" draft.bump
    releaseBump := ← required missing "release_bump" draft.releaseBump
    previousVersion := draft.previousVersion
    nextVersion := draft.nextVersion
    changes := ← required missing "changes" draft.changes
    summary := ← required missing "summary" draft.summary
    summaryText := ← required missing "summary_text" draft.summaryText }

def decode : Decoder Told := fields .direct draftFields {} ofDraft

end Told

theorem decode_encode (verdict : Verdict) : Told.decode verdict.encode = .ok verdict.told := by
  obtain ⟨old, new, bump, releaseBump, previous, next, changes, summary, summaryText, duration⟩ :=
    verdict
  let draft (previous next : Option String) : Told.Draft :=
    { old := some old, new := some new, bump := some bump, releaseBump := some releaseBump,
      previousVersion := previous, nextVersion := next }
  let made : Told.Draft := { draft previous next with
    changes := some changes, summary := some summary, summaryText := some summaryText }
  let rest : List (String × Json) :=
    [changesMember changes, ("summary", summary.encode), ("summary_text", .text summaryText),
      durationMember duration.numeral]
  have hfirst (later : Members) :
      (Members.cons "old" (.text old) (.cons "new" (.text new) (.cons "bump" bump.encode
          (.cons "release_bump" releaseBump.encode later)))).fields Told.draftFields {} =
        later.fields Told.draftFields (draft none none) := by
    rw [Members.fields_cons rfl rfl rfl, Members.fields_cons rfl rfl rfl,
      Members.fields_cons rfl rfl (congrArg (Except.map _) bump.decode_encode)]
    exact Members.fields_cons rfl rfl (congrArg (Except.map _) releaseBump.decode_encode)
  have hprevious (later : List (String × Json)) :
      (Members.ofList (optionalMember "previous_version" (previous.map .text) ++ later)
          .done).fields Told.draftFields (draft none none) =
        (Members.ofList later .done).fields Told.draftFields (draft previous none) :=
    Members.fields_optional (draft · none) later rfl rfl (fun _ => rfl) previous
  have hnext : (Members.ofList (optionalMember "next_version" (next.map .text) ++ rest)
          .done).fields Told.draftFields (draft previous none) =
        (Members.ofList rest .done).fields Told.draftFields (draft previous next) :=
    Members.fields_optional (draft previous ·) rest rfl rfl (fun _ => rfl) next
  have hlast : (Members.ofList rest .done).fields Told.draftFields (draft previous next) =
      .ok made := by
    have hchanges : (list (changes.map ChangeRecord.encode)).items ChangeRecord.decode =
        .ok changes := items_list fun record _ => record.decode_encode
    rw [Members.ofList, List.foldr_cons,
      Members.fields_cons rfl rfl (congrArg (Except.map _) hchanges), List.foldr_cons,
      Members.fields_cons rfl rfl (congrArg (Except.map _) summary.decode_encode), List.foldr_cons,
      Members.fields_cons rfl rfl rfl]
    exact Members.fields_skip rfl rfl
  rw [Told.decode, encode, List.append_assoc, List.append_assoc]
  have hmembers := ((hfirst _).trans (hprevious _)).trans (hnext.trans hlast)
  exact fields_object hmembers

theorem whole_encode {verdict : Verdict}
    (hduration : (Json.number verdict.duration.numeral).Whole) : verdict.encode.Whole := by
  have htext (text : String) : (Json.text text).Whole := trivial
  have hrest : ∀ member ∈ [changesMember verdict.changes, ("summary", verdict.summary.encode),
      ("summary_text", .text verdict.summaryText), durationMember verdict.duration.numeral],
      member.2.Whole := by
    simp [changesMember, durationMember, whole_list ChangeRecord.whole_encode verdict.changes,
      verdict.summary.whole_encode, htext, hduration]
  refine Members.whole_ofList_iff.mpr ?_
  rw [List.append_assoc, List.append_assoc]
  refine List.forall_mem_append.mpr ⟨?_, List.forall_mem_append.mpr ⟨whole_optionalMember _ _,
    List.forall_mem_append.mpr ⟨whole_optionalMember _ _, hrest⟩⟩⟩
  simp [htext, Bump.encode]

end Verdict

/-! ### Configurations -/

namespace Config

/-- What the sections of a configuration set. -/
structure Draft where
  ignored : Option (List String) := none
  majorIsMinor : Option Bool := none
  output : Option (Option String × Option Bool) := none

/-- A section with one setting, which has a default. -/
def single {α : Type} (name : String) (decode : Decoder α) (default : α) : Decoder α :=
  fields .direct [.of name id (fun _ found => some found) decode] none fun _ found =>
    .ok (found.getD default)

def outputFields : List (RecordField (Option String × Option Bool)) :=
  [.of "format" Prod.fst (fun draft format => (some format, draft.2)) string,
    .of "color" Prod.snd (fun draft color => (draft.1, some color)) boolean]

def draftFields : List (RecordField Draft) :=
  [.of "ignore" Draft.ignored (fun draft ignored => { draft with ignored := some ignored })
      (single "entities" strings []),
    .of "versioning" Draft.majorIsMinor
      (fun draft value => { draft with majorIsMinor := some value })
      (single "initial_development_major_is_minor" boolean true),
    .of "output" Draft.output (fun draft output => { draft with output := some output })
      (fields .direct outputFields (none, none) fun _ output => .ok output)]

def ofDraft (draft : Draft) : Config where
  ignored := draft.ignored.getD []
  majorIsMinor := draft.majorIsMinor.getD true
  format := (draft.output.getD (none, none)).1
  color := (draft.output.getD (none, none)).2

/-- Reads the document of a configuration. Sections and settings that are missing keep their defaults. -/
def decode : Decoder Config := fields .direct draftFields {} fun _ draft => .ok (ofDraft draft)

theorem single_record {α : Type} (name : String) {decode : Decoder α} {json : Json} {value : α}
    (hdecode : decode json = .ok value) (default : α) :
    single name decode default (record [(name, json)]) = .ok value := by
  have hmember : Members.fields [.of name id (fun _ found => some found) decode] none
      (.cons name json .done) = .ok (some value) :=
    Members.fields_cons (List.find?_cons_of_pos (decide_eq_true rfl)) rfl
      (congrArg (Except.map _) hdecode)
  exact fields_object hmember

theorem decode_encode (config : Config) : decode config.encode = .ok config := by
  obtain ⟨ignored, majorIsMinor, format, color⟩ := config
  have hignore := single_record "entities" (strings_texts ignored) []
  have hversioning := single_record "initial_development_major_is_minor"
    (show boolean (.bool majorIsMinor) = .ok majorIsMinor from rfl) true
  let output : Json := record ((format.map fun format => ("format", .text format)).toList ++
    (color.map fun color => ("color", .bool color)).toList)
  have houtput : fields .direct outputFields (none, none) (fun _ output => .ok output) output =
      .ok (format, color) := by
    cases format <;> cases color <;> rfl
  have hmembers : Members.fields draftFields {}
      (.cons "ignore" (record [("entities", texts ignored)])
        (.cons "versioning" (record [("initial_development_major_is_minor", .bool majorIsMinor)])
          (.cons "output" output .done))) =
      .ok ⟨some ignored, some majorIsMinor, some (format, color)⟩ := by
    rw [Members.fields_cons rfl rfl (congrArg (Except.map _) hignore)]
    have hversioned : Except.map (fun value => (⟨some ignored, some value, none⟩ : Draft))
        (single "initial_development_major_is_minor" boolean true
          (record [("initial_development_major_is_minor", .bool majorIsMinor)])) =
        .ok ⟨some ignored, some majorIsMinor, none⟩ := by
      rw [hversioning]
      rfl
    refine (Members.fields_cons rfl rfl hversioned).trans ?_
    exact Members.fields_cons rfl rfl (congrArg (Except.map _) houtput)
  exact fields_object hmembers

theorem whole_encode (config : Config) : config.encode.Whole := by
  obtain ⟨ignored, majorIsMinor, format, color⟩ := config
  have htext (text : String) : (Json.text text).Whole := trivial
  have hignored : (list (ignored.map Json.text)).Whole := whole_list htext ignored
  refine ⟨⟨hignored, trivial⟩, ⟨trivial, trivial⟩, ?_, trivial⟩
  cases format <;> cases color <;> simp [Json.Whole, Json.Members.Whole, record, Members.ofList]

end Config

end ApiDrift
