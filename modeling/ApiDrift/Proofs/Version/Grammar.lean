import ApiDrift.Proofs.Json.Number
import ApiDrift.Proofs.Text.Classes
import ApiDrift.Version.Reading

/-!
# How versions are written

A written version is three numerals divided by dots, and perhaps a label behind a hyphen. Exactly such texts are read, with blanks around them, and the text of a version is one of them. Runs of digits in other scripts divide a text in the same way, but have no value.
-/

namespace ApiDrift.Version

/-- A numeral of a number, which fits into a word. Zeros may lead. -/
structure Spells (digits : List Char) (number : UInt64) : Prop where
  areDigits : Decimal.AreDigits digits
  value : Nat.ofDigitChars 10 digits 0 = number.toNat

def IsLabel (label : List Char) : Prop := label ≠ [] ∧ ∀ c ∈ label, isLabelChar c = true

/-- What is written behind the numbers. -/
def labelText : Option (List Char) → List Char
  | none => []
  | some label => '-' :: label

/-- The text of three numerals, with anything behind them. -/
def Core.text (core : Core) (rest : List Char) : List Char :=
  core.major ++ '.' :: (core.minor ++ '.' :: (core.patch ++ rest))

/-- The text writes the version. -/
inductive Written : List Char → Version → Prop
  | intro {core : Core} {major minor patch : UInt64} {label : Option (List Char)}
      (hmajor : Spells core.major major) (hminor : Spells core.minor minor)
      (hpatch : Spells core.patch patch) (hlabel : ∀ chars ∈ label, IsLabel chars) :
      Written (core.text (labelText label)) ⟨major, minor, patch, label.map String.ofList⟩

/-! ### Runs of digits -/

/-- Digits of any script, and at least one. -/
def AreDigits (digits : List Char) : Prop := digits ≠ [] ∧ ∀ c ∈ digits, Text.isDigit c = true

theorem areDigits_of_ascii {digits : List Char} (hdigits : Decimal.AreDigits digits) :
    AreDigits digits :=
  ⟨hdigits.1, fun c hc => Text.isDigit_of_ascii (hdigits.2 c hc)⟩

structure Core.Runs (core : Core) : Prop where
  major : AreDigits core.major
  minor : AreDigits core.minor
  patch : AreDigits core.patch

theorem Core.runs_of_spells {core : Core} {major minor patch : UInt64}
    (hmajor : Spells core.major major) (hminor : Spells core.minor minor)
    (hpatch : Spells core.patch patch) : core.Runs :=
  ⟨areDigits_of_ascii hmajor.areDigits, areDigits_of_ascii hminor.areDigits,
    areDigits_of_ascii hpatch.areDigits⟩

/-- No digit stands first. -/
def NoDigitFirst (rest : List Char) : Prop := ∀ c ∈ rest.head?, Text.isDigit c = false

theorem digitRun?_eq_some_iff {text digits rest : List Char} :
    digitRun? text = some (digits, rest) ↔
      AreDigits digits ∧ NoDigitFirst rest ∧ text = digits ++ rest := by
  unfold digitRun?
  constructor
  · intro hrun
    split at hrun
    · cases hrun
    · next hne =>
      obtain ⟨rfl, rfl⟩ := Prod.mk.inj (Option.some.inj hrun)
      exact ⟨⟨hne, fun c hc => List.mem_takeWhile_imp hc⟩, Text.head?_dropWhile _ _,
        List.takeWhile_append_dropWhile.symm⟩
  · rintro ⟨⟨hne, hdigits⟩, hrest, rfl⟩
    rw [Text.takeWhile_append_of_stop hdigits hrest, Text.dropWhile_append_of_stop hdigits hrest]
    split
    · exact absurd rfl hne
    · rfl

theorem afterDot?_eq_some_iff {text rest : List Char} :
    afterDot? text = some rest ↔ text = '.' :: rest := by
  unfold afterDot?
  split <;> simp_all [eq_comm]

theorem noDigitFirst_dot (rest : List Char) : NoDigitFirst ('.' :: rest) := by
  rintro c ⟨⟩
  decide

/-- A text divides into three runs of digits in one way only. -/
theorem core?_eq_some_iff {text rest : List Char} {core : Core} :
    core? text = some (core, rest) ↔
      core.Runs ∧ NoDigitFirst rest ∧ text = core.text rest := by
  simp only [core?, Option.bind_eq_bind, Option.bind_eq_some_iff, Prod.exists,
    digitRun?_eq_some_iff, afterDot?_eq_some_iff]
  constructor
  · rintro ⟨major, _, ⟨hmajor, -, rfl⟩, _, rfl, minor, _, ⟨hminor, -, rfl⟩, _, rfl, patch, rest,
      ⟨hpatch, hrest, rfl⟩, heq⟩
    obtain ⟨rfl, rfl⟩ := Prod.mk.inj (Option.some.inj heq)
    exact ⟨⟨hmajor, hminor, hpatch⟩, hrest, rfl⟩
  · rintro ⟨hruns, hrest, rfl⟩
    exact ⟨_, _, ⟨hruns.major, noDigitFirst_dot _, rfl⟩, _, rfl, _, _,
      ⟨hruns.minor, noDigitFirst_dot _, rfl⟩, _, rfl, _, _, ⟨hruns.patch, hrest, rfl⟩, rfl⟩

/-! ### Numerals and labels -/

theorem number?_eq_some_iff {digits : List Char} {number : UInt64} (hdigits : digits ≠ []) :
    number? digits = some number ↔ Spells digits number := by
  have hspells : Spells digits number ↔ digits.all Char.isDigit = true ∧
      Nat.ofDigitChars 10 digits 0 = number.toNat := by
    rw [List.all_eq_true]
    exact ⟨fun h => ⟨h.areDigits.2, h.value⟩, fun h => ⟨⟨hdigits, h.1⟩, h.2⟩⟩
  rw [hspells, number?]
  split
  · next hall =>
    simp only [hall, true_and]
    split
    · next hfits =>
      rw [Option.some.injEq, ← UInt64.toNat_inj, UInt64.toNat_ofNat_of_lt' hfits]
    · next hfull =>
      have hlt := number.toNat_lt_size
      refine ⟨fun h => (nomatch h), fun h => ?_⟩
      omega
  · next hall => simp [hall]

/-- Three numerals and a label that is known already. -/
theorem ofCore?_eq_some_iff {core : Core} {label : Option (List Char)} {version : Version}
    (hruns : core.Runs) :
    ofCore? core label = some version ↔
      Spells core.major version.major ∧ Spells core.minor version.minor ∧
        Spells core.patch version.patch ∧ version.label = label.map String.ofList := by
  simp only [ofCore?, Option.bind_eq_bind, Option.bind_eq_some_iff,
    number?_eq_some_iff hruns.major.1, number?_eq_some_iff hruns.minor.1,
    number?_eq_some_iff hruns.patch.1, Option.some.injEq]
  constructor
  · rintro ⟨major, hmajor, minor, hminor, patch, hpatch, rfl⟩
    exact ⟨hmajor, hminor, hpatch, rfl⟩
  · rintro ⟨hmajor, hminor, hpatch, hlabel⟩
    exact ⟨_, hmajor, _, hminor, _, hpatch, by rw [← hlabel]⟩

theorem wholeLabel?_eq_some_iff {text : List Char} {label : Option (List Char)} :
    wholeLabel? text = some label ↔ text = labelText label ∧ ∀ chars ∈ label, IsLabel chars := by
  cases text with
  | nil => cases label <;> simp [wholeLabel?, labelText]
  | cons c chars =>
    by_cases hyphen : c = '-'
    · subst hyphen
      cases label with
      | none => simp [wholeLabel?, labelText]
      | some label =>
        have hread : wholeLabel? ('-' :: chars) = some (some label) ↔
            IsLabel chars ∧ chars = label := by
          simp [wholeLabel?, IsLabel]
        simp only [hread, labelText, List.cons.injEq, true_and, Option.mem_some_iff, forall_eq']
        exact ⟨fun ⟨hchars, heq⟩ => ⟨heq, heq ▸ hchars⟩, fun ⟨heq, hlabel⟩ => ⟨heq ▸ hlabel, heq⟩⟩
    · cases label <;> simp [wholeLabel?, labelText, hyphen]

theorem noDigitFirst_labelText (label : Option (List Char)) : NoDigitFirst (labelText label) := by
  cases label with
  | none => exact fun _ hc => nomatch hc
  | some label =>
    rintro c ⟨⟩
    decide

/-- What stands alone is read if it is written. -/
theorem alone?_eq_some_iff {text : List Char} {version : Version} :
    alone? text = some version ↔ Written text version := by
  simp only [alone?, Option.bind_eq_bind, Option.bind_eq_some_iff, Prod.exists, core?_eq_some_iff,
    wholeLabel?_eq_some_iff]
  constructor
  · rintro ⟨core, _, ⟨hruns, -, rfl⟩, label, ⟨rfl, hlabel⟩, hversion⟩
    obtain ⟨hmajor, hminor, hpatch, hlabels⟩ := (ofCore?_eq_some_iff hruns).mp hversion
    obtain ⟨major, minor, patch, _⟩ := version
    obtain rfl := hlabels
    exact .intro hmajor hminor hpatch hlabel
  · rintro ⟨hmajor, hminor, hpatch, hlabel⟩
    have hruns := Core.runs_of_spells hmajor hminor hpatch
    exact ⟨_, _, ⟨hruns, noDigitFirst_labelText _, rfl⟩, _, ⟨rfl, hlabel⟩,
      (ofCore?_eq_some_iff hruns).mpr ⟨hmajor, hminor, hpatch, rfl⟩⟩

/-! ### Blanks around a version -/

/-- The characters of labels are those of ASCII words, the dot and the hyphen. -/
theorem isLabelChar_iff {c : Char} : isLabelChar c = true ↔
    Text.inRanges [(0x2D, 0x2E), (0x30, 0x39), (0x41, 0x5A), (0x61, 0x7A)] c = true := by
  have hupper : c.isUpper = true ↔ 0x41 ≤ c.toNat ∧ c.toNat ≤ 0x5A := decide_eq_true_iff
  have hlower : c.isLower = true ↔ 0x61 ≤ c.toNat ∧ c.toNat ≤ 0x7A :=
    Bool.and_eq_true_iff.trans (and_congr decide_eq_true_iff decide_eq_true_iff)
  have hdigit : c.isDigit = true ↔ 0x30 ≤ c.toNat ∧ c.toNat ≤ 0x39 := Char.isDigit_iff_toNat
  have hdot : c = '.' ↔ c.toNat = 0x2E := Char.toNat_inj.symm
  have hhyphen : c = '-' ↔ c.toNat = 0x2D := Char.toNat_inj.symm
  show (((c.isUpper || c.isLower) || c.isDigit) || c == '.' || c == '-') = true ↔ _
  simp only [Bool.or_eq_true, beq_iff_eq, hupper, hlower, hdigit, hdot, hhyphen, Text.inRanges,
    List.any_cons, List.any_nil, Bool.and_eq_true, decide_eq_true_eq, Bool.false_eq_true, or_false]
  omega

theorem isBlank_of_isLabelChar {c : Char} (hc : isLabelChar c = true) : Text.isBlank c = false :=
  Text.inRanges_eq_false_of_apart (by decide) (isLabelChar_iff.mp hc)

theorem isLabelChar_of_isDigit {c : Char} (hc : c.isDigit = true) : isLabelChar c = true := by
  simp [isLabelChar, Char.isAlphanum, hc]

/-- The characters of a version are the characters of labels. -/
theorem Written.isLabelChar {text : List Char} {version : Version}
    (hwritten : Written text version) :
    ∀ c ∈ text, isLabelChar c = true := by
  obtain @⟨core, _, _, _, label, hmajor, hminor, hpatch, hlabel⟩ := hwritten
  have hdigits {digits : List Char} {number : UInt64} (h : Spells digits number) :
      ∀ c ∈ digits, Version.isLabelChar c = true :=
    fun c hc => isLabelChar_of_isDigit (h.areDigits.2 c hc)
  have hbehind : ∀ c ∈ labelText label, Version.isLabelChar c = true := by
    cases label with
    | none => exact fun _ hc => nomatch hc
    | some label => exact List.forall_mem_cons.mpr ⟨rfl, (hlabel label rfl).2⟩
  simp only [Core.text, List.forall_mem_append, List.forall_mem_cons]
  exact ⟨hdigits hmajor, rfl, hdigits hminor, rfl, hdigits hpatch, hbehind⟩

theorem Written.ne_nil {text : List Char} {version : Version} (hwritten : Written text version) :
    text ≠ [] := by
  obtain ⟨hmajor, -, -, -⟩ := hwritten
  exact List.append_ne_nil_of_left_ne_nil hmajor.areDigits.1 _

/-- What is trimmed away is blank. -/
theorem exists_trim (text : List Char) : ∃ before after, text = before ++ trim text ++ after ∧
    (∀ c ∈ before, Text.isBlank c = true) ∧ ∀ c ∈ after, Text.isBlank c = true := by
  refine ⟨text.takeWhile Text.isBlank,
    ((text.dropWhile Text.isBlank).reverse.takeWhile Text.isBlank).reverse, ?_,
    fun c hc => List.mem_takeWhile_imp hc,
    fun c hc => List.mem_takeWhile_imp (List.mem_reverse.mp hc)⟩
  rw [List.append_assoc, trim, ← List.reverse_append, List.takeWhile_append_dropWhile,
    List.reverse_reverse, List.takeWhile_append_dropWhile]

theorem trim_append {before body after : List Char} (hne : body ≠ [])
    (hbefore : ∀ c ∈ before, Text.isBlank c = true) (hafter : ∀ c ∈ after, Text.isBlank c = true)
    (hbody : ∀ c ∈ body, Text.isBlank c = false) : trim (before ++ body ++ after) = body := by
  have hfirst : ∀ c ∈ (body ++ after).head?, Text.isBlank c = false := fun c hc =>
    hbody c (List.mem_of_mem_head? (List.head?_append_of_ne_nil body hne ▸ hc))
  have hlast : ∀ c ∈ body.reverse.head?, Text.isBlank c = false := fun c hc =>
    hbody c (List.mem_reverse.mp (List.mem_of_mem_head? hc))
  rw [trim, List.append_assoc, Text.dropWhile_append_of_stop hbefore hfirst, List.reverse_append,
    Text.dropWhile_append_of_stop (fun c hc => hafter c (List.mem_reverse.mp hc)) hlast,
    List.reverse_reverse]

/-- A version with blanks around it. -/
def Stands (text : List Char) (version : Version) : Prop :=
  ∃ before body after, text = before ++ body ++ after ∧ (∀ c ∈ before, Text.isBlank c = true) ∧
    (∀ c ∈ after, Text.isBlank c = true) ∧ Written body version

theorem parse_eq_ok_iff {text : String} {version : Version} :
    parse text = .ok version ↔ Stands text.toList version := by
  have hparse : parse text = .ok version ↔ Written (trim text.toList) version := by
    rw [← alone?_eq_some_iff, parse]
    cases alone? (trim text.toList) <;> simp
  rw [hparse]
  constructor
  · intro hwritten
    obtain ⟨before, after, htext, hbefore, hafter⟩ := exists_trim text.toList
    exact ⟨before, _, after, htext, hbefore, hafter, hwritten⟩
  · rintro ⟨before, body, after, htext, hbefore, hafter, hwritten⟩
    rwa [htext, trim_append hwritten.ne_nil hbefore hafter
      fun c hc => isBlank_of_isLabelChar (hwritten.isLabelChar c hc)]

theorem parse_eq_error_iff {text : String} {failure : Failure} :
    parse text = .error failure ↔
      failure = .invalidVersion text ∧ ∀ version, ¬ Stands text.toList version := by
  simp only [← parse_eq_ok_iff]
  unfold parse
  cases alone? (trim text.toList) <;> simp [eq_comm]

/-! ### The text of a version -/

theorem spells_toDigits (number : UInt64) : Spells (Nat.toDigits 10 number.toNat) number :=
  ⟨Decimal.areDigits_toDigits _, Nat.ofDigitChars_toDigits (by decide) (by decide)⟩

/-- The numerals that stand in the text of a version. -/
def numerals (version : Version) : Core :=
  ⟨Nat.toDigits 10 version.major.toNat, Nat.toDigits 10 version.minor.toNat,
    Nat.toDigits 10 version.patch.toNat⟩

theorem toList_text (version : Version) :
    version.text.toList =
      version.numerals.text (labelText (version.label.map String.toList)) := by
  cases hlabel : version.label <;> simp [text, hlabel, Core.text, numerals, labelText]

theorem written_text {version : Version}
    (hlabel : ∀ label ∈ version.label, IsLabel label.toList) :
    Written version.text.toList version := by
  have hchars : ∀ chars ∈ version.label.map String.toList, IsLabel chars := by
    intro chars hmem
    obtain ⟨label, hlabelMem, rfl⟩ := Option.map_eq_some_iff.mp hmem
    exact hlabel label hlabelMem
  have hwritten : Written (version.numerals.text (labelText (version.label.map String.toList))) _ :=
    .intro (spells_toDigits version.major) (spells_toDigits version.minor)
      (spells_toDigits version.patch) hchars
  have hlabels : (version.label.map String.toList).map String.ofList = version.label := by
    cases version.label <;> simp
  rwa [hlabels, ← toList_text] at hwritten

/-- Exactly the written versions are read, with blanks around them, and the text of a version with a proper label is one of them. -/
theorem parse_accepts_written :
    (∀ text version, parse text = .ok version ↔ Stands text.toList version) ∧
    (∀ text, (∀ version, ¬ Stands text.toList version) →
      parse text = .error (.invalidVersion text)) ∧
    ∀ version : Version, (∀ label ∈ version.label, IsLabel label.toList) →
      parse version.text = .ok version := by
  refine ⟨fun text version => parse_eq_ok_iff,
    fun text hnone => parse_eq_error_iff.mpr ⟨rfl, hnone⟩,
    fun version hlabel => parse_eq_ok_iff.mpr ?_⟩
  exact ⟨[], _, [], by simp, fun _ hc => (nomatch hc), fun _ hc => (nomatch hc),
    written_text hlabel⟩

end ApiDrift.Version
