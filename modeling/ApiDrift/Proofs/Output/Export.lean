import ApiDrift.Config
import ApiDrift.Proofs.Toml.Document

/-!
# Configurations read back

A configuration is written as a document of three sections. Whatever its patterns and its format consist of, the document is read as a configuration again, and as the same one.
-/

namespace ApiDrift.Config

open Toml

variable (config : Config)

/-! ### Settings -/

def ignoredSetting : Setting :=
  ⟨"entities", (listed config.ignored).toList, .array (config.ignored.map .text)⟩

def majorSetting : Setting :=
  ⟨"initial_development_major_is_minor", (boolWord config.majorIsMinor).toList,
    .bool config.majorIsMinor⟩

def formatSetting (format : String) : Setting := ⟨"format", (quoted format).toList, .text format⟩

def colorSetting (color : Bool) : Setting := ⟨"color", (boolWord color).toList, .bool color⟩

theorem begins_listed (items : List String) (rest : List Char) :
    Begins ((listed items).toList ++ rest) := by
  have hopening : ∃ later, (listed items).toList ++ rest = '[' :: later := by
    match items with
    | [] | [_] | _ :: _ :: _ => exact ⟨_, by simp only [listed, String.toList_append]; rfl⟩
  obtain ⟨later, hopening⟩ := hopening
  rw [hopening, begins_cons]
  decide

theorem begins_boolWord (value : Bool) (rest : List Char) :
    Begins ((boolWord value).toList ++ rest) := by
  cases value with
  | true =>
    have htrue : (boolWord true).toList = ['t', 'r', 'u', 'e'] := by decide
    rw [htrue, List.cons_append, begins_cons]
    decide
  | false =>
    have hfalse : (boolWord false).toList = ['f', 'a', 'l', 's', 'e'] := by decide
    rw [hfalse, List.cons_append, begins_cons]
    decide

theorem value?_boolWord (value : Bool) (rest : List Char) :
    value? (depthLimit - 1) ((boolWord value).toList ++ '\n' :: rest) =
      some (.bool value, '\n' :: rest) :=
  value?_bool (depthLimit - 1) value (by simp [isScalarChar, isBare])

theorem legible_ignoredSetting : config.ignoredSetting.Legible where
  name := show IsBareName "entities" by decide
  begins rest := begins_listed config.ignored ('\n' :: rest)
  reads rest := value?_listed (depthLimit - 2) config.ignored ('\n' :: rest)

theorem legible_majorSetting : config.majorSetting.Legible where
  name := show IsBareName "initial_development_major_is_minor" by decide
  begins rest := begins_boolWord config.majorIsMinor ('\n' :: rest)
  reads rest := value?_boolWord config.majorIsMinor rest

theorem legible_formatSetting (format : String) : (formatSetting format).Legible where
  name := show IsBareName "format" by decide
  begins rest := by
    rw [formatSetting, quoted, String.toList_ofList]
    exact begins_quotedChars format.toList ('\n' :: rest)
  reads rest := by
    have hread := value?_quotedChars (depthLimit - 1) format.toList
      (closes_cons (c := '\n') rest (by decide))
    rwa [String.ofList_toList, ← String.toList_ofList (l := quotedChars _)] at hread

theorem legible_colorSetting (color : Bool) : (colorSetting color).Legible where
  name := show IsBareName "color" by decide
  begins rest := begins_boolWord color ('\n' :: rest)
  reads rest := value?_boolWord color rest

/-! ### Sections -/

def outputSettings : List Setting :=
  (config.format.map formatSetting).toList ++ (config.color.map colorSetting).toList

def ignoreSection : Section := ⟨"ignore", [config.ignoredSetting]⟩

def versioningSection : Section := ⟨"versioning", [config.majorSetting]⟩

def outputSection : Section := ⟨"output", config.outputSettings⟩

theorem legible_ignoreSection : config.ignoreSection.Legible where
  name := show IsBareName "ignore" by decide
  settings := List.forall_mem_singleton.mpr config.legible_ignoredSetting
  nodup := List.pairwise_singleton _ _

theorem legible_versioningSection : config.versioningSection.Legible where
  name := show IsBareName "versioning" by decide
  settings := List.forall_mem_singleton.mpr config.legible_majorSetting
  nodup := List.pairwise_singleton _ _

theorem legible_outputSection : config.outputSection.Legible where
  name := show IsBareName "output" by decide
  settings setting hmem := by
    simp only [outputSection, outputSettings, List.mem_append, Option.mem_toList,
      Option.map_eq_some_iff] at hmem
    obtain ⟨format, -, rfl⟩ | ⟨color, -, rfl⟩ := hmem
    · exact legible_formatSetting format
    · exact legible_colorSetting color
  nodup := by
    cases hformat : config.format <;> cases hcolor : config.color <;>
      simp [outputSection, outputSettings, hformat, hcolor, formatSetting, colorSetting]

/-! ### The whole text -/

theorem toList_optionalLine (name written : String) :
    (optionalLine name (some written)).toList =
      name.toList ++ ' ' :: '=' :: ' ' :: (written.toList ++ ['\n']) := by
  simp [optionalLine]

theorem toList_outputLines :
    (optionalLine "format" (config.format.map quoted)).toList ++
        (optionalLine "color" (config.color.map boolWord)).toList =
      config.outputSettings.flatMap Setting.line := by
  have hformat : (optionalLine "format" (config.format.map quoted)).toList =
      (config.format.map formatSetting).toList.flatMap Setting.line := by
    cases config.format with
    | none => rfl
    | some format => exact (toList_optionalLine "format" _).trans (List.append_nil _).symm
  have hcolor : (optionalLine "color" (config.color.map boolWord)).toList =
      (config.color.map colorSetting).toList.flatMap Setting.line := by
    cases config.color with
    | none => rfl
    | some color => exact (toList_optionalLine "color" _).trans (List.append_nil _).symm
  rw [hformat, hcolor, outputSettings, List.flatMap_append]

theorem toToml_eq_document :
    config.toToml = String.ofList
      (document [config.ignoreSection, config.versioningSection, config.outputSection]) := by
  have hignore : "[ignore]\nentities = ".toList =
      '[' :: ("ignore".toList ++ ']' :: '\n' :: ("entities".toList ++ [' ', '=', ' '])) := by
    decide
  have hversioning : "\n\n[versioning]\ninitial_development_major_is_minor = ".toList =
      '\n' :: '\n' :: '[' :: ("versioning".toList ++ ']' :: '\n' ::
        ("initial_development_major_is_minor".toList ++ [' ', '=', ' '])) := by
    decide
  have houtput : "\n\n[output]\n".toList =
      '\n' :: '\n' :: '[' :: ("output".toList ++ [']', '\n']) := by
    decide
  apply String.toList_injective
  unfold toToml
  simp only [String.toList_append, hignore, hversioning, houtput, List.append_assoc,
    toList_outputLines, String.toList_ofList]
  simp [document, List.intercalate, Section.text, Setting.line,
    ignoreSection, ignoredSetting, versioningSection, majorSetting, outputSection]

theorem mapM_text?_map_text (items : List String) :
    (items.map Value.text).mapM text? = some items := by
  induction items with
  | nil => rfl
  | cons item items ih => simp [ih, text?]

theorem ofEntries?_sections :
    ofEntries? ([config.ignoreSection, config.versioningSection, config.outputSection].map
      Section.entry) = some config := by
  obtain ⟨ignored, majorIsMinor, format, color⟩ := config
  have hignored := mapM_text?_map_text ignored
  cases format <;> cases color <;>
    simp [ofEntries?, section?, setting?, Entries.get?, reading?, texts?, text?, bool?, hignored,
      Section.entry, Setting.entry, ignoreSection, ignoredSetting, versioningSection, majorSetting,
      outputSection, outputSettings, formatSetting, colorSetting]

/-- Every configuration is read back from its own text. -/
theorem read?_toToml : read? config.toToml = some config := by
  have hlegible : ∀ part ∈ [config.ignoreSection, config.versioningSection, config.outputSection],
      part.Legible := by
    simp only [List.forall_mem_cons]
    exact ⟨config.legible_ignoreSection, config.legible_versioningSection,
      config.legible_outputSection, List.forall_mem_nil _⟩
  have hnodup : ([config.ignoreSection, config.versioningSection, config.outputSection].map
      Section.name).Nodup := by
    simp [ignoreSection, versioningSection, outputSection]
  rw [read?, toToml_eq_document, read?_document hlegible hnodup, Option.bind_some]
  exact config.ofEntries?_sections

end ApiDrift.Config
