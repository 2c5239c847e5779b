import ApiDrift.Pattern.Reading
import ApiDrift.Proofs.Pattern.Language
import ApiDrift.Proofs.Version.Guessing

/-!
# The regular expression of versions

What is taken for a version is described by one regular expression. Between the two ends of a text it matches exactly what divides into three runs of digits and a label; inside a tag it occurs where three runs of digits stand. What it does not match is refused, and what it matches is refused only because of a number that is too large or in digits of another script.
-/

namespace ApiDrift.Version

open Pattern

/-- The regular expression of a version. -/
def pattern : String := "(\\d+)\\.(\\d+)\\.(\\d+)(?:-([0-9A-Za-z.-]+))?"

def labelChars : CharSet :=
  .union (.union (.union (.union (.union .nothing (.range '0' '9')) (.range 'A' 'Z'))
    (.range 'a' 'z')) (.single '.')) (.single '-')

def labelPart : Expr := .opt (.seqAll [.one (.single '-'), .many (.one labelChars)])

/-- The parts of a version in their order. -/
def parts : List Expr :=
  [.many (.one .digit), .one (.single '.'), .many (.one .digit), .one (.single '.'),
    .many (.one .digit), labelPart]

/-! ### How the expression is read -/

/-- A run of digits as it is read, with its depth and its room. -/
def readNumber : Part := ((Part.ofSet .digit 0).repeated 1 none).group true

def readLabel : Part :=
  ((Part.inRow [some (.ofSet (.single '-') 0),
    some (((Part.ofSet labelChars 2).repeated 1 none).group true)]).group false).repeated 0 (some 1)

def readParts : List (Option Part) :=
  [readNumber, Part.ofSet (.single '.') 0, readNumber, Part.ofSet (.single '.') 0, readNumber,
    readLabel]

/-- The ranges of digits are in their order already. -/
theorem ofSet_digit : Room.ofSet .digit = .ofCodes Text.digitRanges := by
  have hsorted : Text.digitRanges.mergeSort (fun a b => a.1 ≤ b.1) = Text.digitRanges :=
    List.mergeSort_of_pairwise (by decide)
  rw [Room.ofSet, CharSet.codes, CodeRange.inOrder, hsorted]
  rfl

theorem ofSet_labelChars :
    Room.ofSet labelChars =
      .ofCodes [(0x2D, 0x2E), (0x30, 0x39), (0x41, 0x5A), (0x61, 0x7A)] := by
  have hcodes :
      labelChars.codes = [(0x2D, 0x2E), (0x30, 0x39), (0x41, 0x5A), (0x61, 0x7A)] := by
    simp [labelChars, CharSet.codes, CharSet.single, CodeRange.inOrder, CodeRange.joinBefore,
      List.mergeSort, List.MergeSort.Internal.splitInTwo]
  rw [Room.ofSet, hcodes]

theorem read?_of_assembled {text : List Char} {part : Part}
    (hpart : (Token.all? {} text).bind (assemble? {} []) = some part)
    (hdepth : part.depth ≤ Part.depthLimit) (hfits : part.room.fits = true) :
    Expr.read? text = some part.expr := by
  obtain ⟨tokens, htokens, hassembled⟩ := Option.bind_eq_some_iff.mp hpart
  simp [Expr.read?, htokens, hassembled, hdepth, hfits]

theorem read?_pattern : Expr.read? pattern.toList = some (.seqAll parts) := by
  have hpart : (Token.all? {} pattern.toList).bind (assemble? {} []) =
      some (.inRow readParts) := by with_unfolding_all rfl
  refine read?_of_assembled hpart (by decide) ?_
  simp only [readParts, readNumber, readLabel, Part.inRow, Part.group, Part.repeated, Part.ofSet,
    ofSet_digit, ofSet_labelChars]
  decide +kernel

theorem read?_whole_pattern :
    Expr.read? ('^' :: (pattern.toList ++ ['$'])) = some (.whole parts) := by
  have hpart : (Token.all? {} ('^' :: (pattern.toList ++ ['$']))).bind (assemble? {} []) =
      some (.inRow (some (.ofAnchor .textStart) ::
        (readParts ++ [some (.ofAnchor .textEnd)]))) := by with_unfolding_all rfl
  refine read?_of_assembled hpart (by decide) ?_
  simp only [readParts, readNumber, readLabel, Part.inRow, Part.group, Part.repeated, Part.ofSet,
    ofSet_digit, ofSet_labelChars, List.cons_append, List.nil_append]
  decide +kernel

/-! ### The language of the expression -/

theorem contains_labelChars_iff {c : Char} :
    labelChars.contains c = true ↔ isLabelChar c = true := by
  have hle (a b : Char) : a ≤ b ↔ a.toNat ≤ b.toNat := Iff.rfl
  rw [isLabelChar_iff]
  simp [labelChars, CharSet.contains, CharSet.single, hle, Text.inRanges]
  omega

section Mul

variable {text : List Char} {language : Language Char}

theorem mem_single_mul_iff {c : Char} :
    text ∈ (Expr.one (.single c)).language * language ↔ ∃ rest ∈ language, text = c :: rest := by
  rw [Language.mem_mul]
  constructor
  · rintro ⟨_, ⟨other, rfl, hother⟩, rest, hrest, rfl⟩
    obtain rfl := CharSet.contains_single_iff.mp hother
    exact ⟨rest, hrest, rfl⟩
  · rintro ⟨rest, hrest, rfl⟩
    exact ⟨[c], ⟨c, rfl, CharSet.contains_single_iff.mpr rfl⟩, rest, hrest, rfl⟩

theorem mem_digits_mul_iff :
    text ∈ (Expr.many (.one .digit)).language * language ↔
      ∃ digits, AreDigits digits ∧ ∃ rest ∈ language, text = digits ++ rest := by
  simp only [Language.mem_mul, Expr.mem_language_many_one_iff, AreDigits, CharSet.contains, eq_comm]

end Mul

theorem mem_labelPart_iff {text : List Char} :
    text ∈ labelPart.language ↔
      ∃ label, (∀ chars ∈ label, IsLabel chars) ∧ text = labelText label := by
  show text = [] ∨ text ∈
    (Expr.one (.single '-')).language * ((Expr.many (.one labelChars)).language * 1) ↔ _
  rw [mul_one, mem_single_mul_iff]
  simp only [Expr.mem_language_many_one_iff, contains_labelChars_iff]
  constructor
  · rintro (rfl | ⟨chars, hchars, rfl⟩)
    · exact ⟨none, by simp, rfl⟩
    · exact ⟨some chars, fun _ hlabel => Option.some.inj hlabel ▸ hchars, rfl⟩
  · rintro ⟨label, hlabel, rfl⟩
    cases label with
    | none => exact .inl rfl
    | some chars => exact .inr ⟨chars, hlabel chars rfl, rfl⟩

/-- Three runs of digits and a label. -/
theorem mem_language_parts_iff {text : List Char} :
    text ∈ (Expr.seqAll parts).language ↔ ∃ (core : Core) (label : Option (List Char)),
      core.Runs ∧ (∀ chars ∈ label, IsLabel chars) ∧ text = core.text (labelText label) := by
  show text ∈ (Expr.many (.one .digit)).language * ((Expr.one (.single '.')).language *
    ((Expr.many (.one .digit)).language * ((Expr.one (.single '.')).language *
      ((Expr.many (.one .digit)).language * (labelPart.language * 1))))) ↔ _
  simp only [mul_one, mem_digits_mul_iff, mem_single_mul_iff, mem_labelPart_iff]
  constructor
  · rintro ⟨major, hmajor, _, ⟨_, ⟨minor, hminor, _, ⟨_, ⟨patch, hpatch, _, ⟨label, hlabel, rfl⟩,
      rfl⟩, rfl⟩, rfl⟩, rfl⟩, rfl⟩
    exact ⟨⟨major, minor, patch⟩, label, ⟨hmajor, hminor, hpatch⟩, hlabel, rfl⟩
  · rintro ⟨core, label, hruns, hlabel, rfl⟩
    exact ⟨_, hruns.major, _, ⟨_, ⟨_, hruns.minor, _, ⟨_, ⟨_, hruns.patch, _, ⟨label, hlabel, rfl⟩,
      rfl⟩, rfl⟩, rfl⟩, rfl⟩, rfl⟩

theorem anchorFree_parts : (Expr.seqAll parts).AnchorFree :=
  Expr.anchorFree_seqAll (by simp [parts, labelPart, Expr.AnchorFree, Expr.seqAll])

/-! ### What is read and what is matched -/

theorem occursIn_whole_parts_iff {text : List Char} :
    (Expr.whole parts).occursIn text = true ↔
      ∃ core rest label, core? text = some (core, rest) ∧ wholeLabel? rest = some label := by
  rw [Expr.occursIn_whole_iff text anchorFree_parts, mem_language_parts_iff]
  simp only [core?_eq_some_iff, wholeLabel?_eq_some_iff]
  constructor
  · rintro ⟨core, label, hruns, hlabel, rfl⟩
    exact ⟨core, _, label, ⟨hruns, noDigitFirst_labelText label, rfl⟩, rfl, hlabel⟩
  · rintro ⟨core, _, label, ⟨hruns, -, rfl⟩, rfl, hlabel⟩
    exact ⟨core, label, hruns, hlabel, rfl⟩

/-- More digits behind the last run make it longer. -/
theorem exists_core? {core : Core} (hruns : core.Runs) (rest : List Char) :
    ∃ found, core? (core.text rest) = some found := by
  have hpatch : AreDigits (core.patch ++ rest.takeWhile Text.isDigit) :=
    ⟨List.append_ne_nil_of_left_ne_nil hruns.patch.1 _,
      List.forall_mem_append.mpr ⟨hruns.patch.2, fun c hc => List.mem_takeWhile_imp hc⟩⟩
  refine ⟨(⟨core.major, core.minor, core.patch ++ rest.takeWhile Text.isDigit⟩,
    rest.dropWhile Text.isDigit), core?_eq_some_iff.mpr
      ⟨⟨hruns.major, hruns.minor, hpatch⟩, Text.head?_dropWhile Text.isDigit rest, ?_⟩⟩
  simp [Core.text, List.takeWhile_append_dropWhile]

theorem occursIn_parts_iff {tag : List Char} :
    (Expr.seqAll parts).occursIn tag = true ↔
      ∃ before after found, tag = before ++ after ∧ core? after = some found := by
  rw [Expr.occursIn_iff_infix anchorFree_parts]
  simp only [mem_language_parts_iff]
  constructor
  · rintro ⟨_, ⟨core, label, hruns, -, rfl⟩, before, after, rfl⟩
    obtain ⟨found, hfound⟩ := exists_core? hruns (labelText label ++ after)
    exact ⟨before, _, found, by simp [Core.text], hfound⟩
  · rintro ⟨before, _, ⟨core, rest⟩, rfl, hfound⟩
    obtain ⟨hruns, -, rfl⟩ := core?_eq_some_iff.mp hfound
    exact ⟨core.text [], ⟨core, none, hruns, by simp, rfl⟩, before, rest, by simp [Core.text]⟩

/-- What the expression does not match is refused. -/
theorem alone?_of_not_occursIn {text : List Char}
    (hoccurs : (Expr.whole parts).occursIn text = false) : alone? text = none := by
  rw [Option.eq_none_iff_forall_ne_some]
  intro version hread
  simp only [alone?, Option.bind_eq_bind, Option.bind_eq_some_iff, Prod.exists] at hread
  obtain ⟨core, rest, hcore, label, hlabel, -⟩ := hread
  rw [occursIn_whole_parts_iff.mpr ⟨core, rest, label, hcore, hlabel⟩] at hoccurs
  cases hoccurs

/-- What the expression matches is read, if its numbers are. -/
theorem alone?_of_occursIn {text : List Char} (hoccurs : (Expr.whole parts).occursIn text = true) :
    ∃ core label, text = core.text (labelText label) ∧ alone? text = ofCore? core label := by
  obtain ⟨core, rest, label, hcore, hlabel⟩ := occursIn_whole_parts_iff.mp hoccurs
  refine ⟨core, label, ?_, by simp [alone?, hcore, hlabel]⟩
  rw [← (wholeLabel?_eq_some_iff.mp hlabel).1]
  exact (core?_eq_some_iff.mp hcore).2.2

/-- In a tag without a match nothing is found. -/
theorem embedded?_of_not_occursIn {tag : List Char}
    (hoccurs : (Expr.seqAll parts).occursIn tag = false) : embedded? tag = none := by
  rw [Option.eq_none_iff_forall_ne_some]
  intro version hfound
  obtain ⟨before, core, after, htag, hmajor, hminor, hpatch⟩ := exists_of_embedded? hfound
  obtain ⟨found, hcore⟩ := exists_core? (Core.runs_of_spells hmajor hminor hpatch) after
  rw [occursIn_parts_iff.mpr ⟨before, _, found, htag, hcore⟩] at hoccurs
  cases hoccurs

/-- Three runs of digits, and no place before them where others begin. -/
structure FirstCore (tag before : List Char) (core : Core) (after : List Char) : Prop where
  divides : tag = before ++ core.text after
  begins : core? (core.text after) = some (core, after)
  first : ∀ early late, late ≠ [] → before = early ++ late → core? (late ++ core.text after) = none

section FirstCore

variable {tag before after : List Char} {core : Core}

theorem firstCore_here (hcore : core? tag = some (core, after)) : FirstCore tag [] core after := by
  obtain rfl := (core?_eq_some_iff.mp hcore).2.2
  exact ⟨rfl, hcore, fun _ _ hne heq => absurd (List.append_eq_nil_iff.mp heq.symm).2 hne⟩

theorem FirstCore.cons {c : Char} (hfirst : FirstCore tag before core after)
    (hnone : core? (c :: tag) = none) : FirstCore (c :: tag) (c :: before) core after := by
  refine ⟨congrArg (c :: ·) hfirst.divides, hfirst.begins, fun early late hne heq => ?_⟩
  cases early with
  | nil =>
    obtain rfl := heq
    rwa [List.cons_append, ← hfirst.divides]
  | cons d early => exact hfirst.first early late hne (List.cons.inj heq).2

theorem exists_firstCore (hoccurs : (Expr.seqAll parts).occursIn tag = true) :
    ∃ before core after, FirstCore tag before core after := by
  obtain ⟨skipped, rest, found, rfl, hfound⟩ := occursIn_parts_iff.mp hoccurs
  clear hoccurs
  induction skipped with
  | nil => exact ⟨[], _, _, firstCore_here hfound⟩
  | cons c skipped ih =>
    cases hcore : core? (c :: (skipped ++ rest)) with
    | some found => exact ⟨[], _, _, firstCore_here hcore⟩
    | none =>
      obtain ⟨before, core, after, hfirst⟩ := ih
      exact ⟨c :: before, core, after, hfirst.cons hcore⟩

/-- The first place decides, whether its numbers are read or refused. -/
theorem FirstCore.embedded? (hfirst : FirstCore tag before core after) :
    embedded? tag = ofCore? core (leadingLabel after) := by
  obtain ⟨rfl, hbegins, hnone⟩ := hfirst
  induction before with
  | nil => exact embedded?_of_core? hbegins
  | cons c before ih =>
    have hhere : core? (c :: (before ++ core.text after)) = none :=
      hnone [] (c :: before) (List.cons_ne_nil _ _) rfl
    rw [List.cons_append, Version.embedded?, hhere]
    exact ih fun early late hne heq => hnone (c :: early) late hne (congrArg (c :: ·) heq)

end FirstCore

end ApiDrift.Version
