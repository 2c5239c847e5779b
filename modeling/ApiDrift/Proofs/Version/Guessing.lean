import ApiDrift.Proofs.Version.Grammar

/-!
# Versions inside tags

The first version inside a tag is the one that would be read if it stood alone, as long as no digit comes before it and what follows does not go on with it. Blanks neither come in the way nor go on with a version, so whatever can be read alone is found by guessing too.
-/

namespace ApiDrift.Version

variable {version : Version} {text after : List Char}

/-- What follows does not belong to a version with the given label. -/
def Ended : Option String → List Char → Prop
  | some _, after => ∀ c ∈ after.head?, isLabelChar c = false
  | none, after => NoDigitFirst after ∧
      ∀ c rest, after = '-' :: c :: rest → isLabelChar c = false

theorem text_append (core : Core) (rest after : List Char) :
    core.text rest ++ after = core.text (rest ++ after) := by
  simp [Core.text]

theorem noDigitFirst_append {label : Option (List Char)}
    (hended : Ended (label.map String.ofList) after) :
    NoDigitFirst (labelText label ++ after) := by
  cases label with
  | none => exact hended.1
  | some label =>
    rintro c ⟨⟩
    decide

/-- A label is taken as a whole, and nothing more. -/
theorem leadingLabel_append {label : Option (List Char)} (hlabel : ∀ chars ∈ label, IsLabel chars)
    (hended : Ended (label.map String.ofList) after) :
    leadingLabel (labelText label ++ after) = label := by
  cases label with
  | none =>
    unfold leadingLabel labelText
    split
    · next rest hrest =>
      rw [List.nil_append] at hrest
      subst hrest
      cases rest with
      | nil => rfl
      | cons c rest => simp [hended.2 c rest rfl]
    · rfl
  | some label =>
    obtain ⟨hne, hchars⟩ := hlabel label rfl
    rw [labelText, List.cons_append, leadingLabel, Text.takeWhile_append_of_stop hchars hended]
    split
    · exact absurd rfl hne
    · rfl

theorem core?_of_noDigitFirst (htext : NoDigitFirst text) : core? text = none := by
  rw [Option.eq_none_iff_forall_ne_some]
  rintro ⟨core, rest⟩ hcore
  obtain ⟨hruns, -, rfl⟩ := core?_eq_some_iff.mp hcore
  obtain ⟨hne, hdigits⟩ := hruns.major
  obtain ⟨c, digits, hmajor⟩ := List.exists_cons_of_ne_nil hne
  have hfirst : Text.isDigit c = false := htext c (by rw [Core.text, hmajor]; rfl)
  rw [hdigits c (hmajor ▸ List.mem_cons_self)] at hfirst
  cases hfirst

theorem embedded?_of_core? {core : Core} (hcore : core? text = some (core, after)) :
    embedded? text = ofCore? core (leadingLabel after) := by
  cases text with
  | nil => cases hcore
  | cons c rest => rw [embedded?, hcore]

/-- A place where no digit stands is passed over. -/
theorem embedded?_append {before : List Char} (hbefore : ∀ c ∈ before, Text.isDigit c = false) :
    embedded? (before ++ text) = embedded? text := by
  induction before with
  | nil => rfl
  | cons c before ih =>
    obtain ⟨hc, hbefore⟩ := List.forall_mem_cons.mp hbefore
    have hfirst : NoDigitFirst (c :: (before ++ text)) := by
      rintro _ ⟨⟩
      exact hc
    rw [List.cons_append, embedded?, core?_of_noDigitFirst hfirst]
    exact ih hbefore

theorem embedded?_of_written (hwritten : Written text version)
    (hended : Ended version.label after) : embedded? (text ++ after) = some version := by
  obtain @⟨core, _, _, _, label, hmajor, hminor, hpatch, hlabel⟩ := hwritten
  have hruns := Core.runs_of_spells hmajor hminor hpatch
  have hcore : core? (core.text (labelText label) ++ after) =
      some (core, labelText label ++ after) :=
    core?_eq_some_iff.mpr ⟨hruns, noDigitFirst_append hended, text_append _ _ _⟩
  rw [embedded?_of_core? hcore, leadingLabel_append hlabel hended]
  exact (ofCore?_eq_some_iff hruns).mpr ⟨hmajor, hminor, hpatch, rfl⟩

/-- A version that is found is written in digits of ASCII at the place where it is found. -/
theorem exists_of_embedded? (hfound : embedded? text = some version) :
    ∃ before, ∃ core : Core, ∃ after, text = before ++ core.text after ∧
      Spells core.major version.major ∧ Spells core.minor version.minor ∧
        Spells core.patch version.patch := by
  induction text with
  | nil => cases hfound
  | cons c rest ih =>
    rw [embedded?] at hfound
    split at hfound
    · next core after hcore =>
      obtain ⟨hruns, -, htext⟩ := core?_eq_some_iff.mp hcore
      obtain ⟨hmajor, hminor, hpatch, -⟩ := (ofCore?_eq_some_iff hruns).mp hfound
      exact ⟨[], core, after, htext, hmajor, hminor, hpatch⟩
    · obtain ⟨before, core, after, hrest, hspells⟩ := ih hfound
      exact ⟨c :: before, core, after, congrArg (c :: ·) hrest, hspells⟩

theorem guess_eq_ok_iff {tag : String} :
    guess tag = .ok version ↔ embedded? tag.toList = some version := by
  unfold guess
  cases embedded? tag.toList <;> simp

theorem guess_of_embedded?_eq_none {tag : String} (hnone : embedded? tag.toList = none) :
    guess tag = .error (.invalidVersion tag) := by
  rw [guess, hnone]

/-- Blanks do not go on with a version. -/
theorem ended_of_blank (hblank : ∀ c ∈ after, Text.isBlank c = true) (label : Option String) :
    Ended label after := by
  have hfirst : ∀ c ∈ after.head?, Text.isBlank c = true :=
    fun c hc => hblank c (List.mem_of_mem_head? hc)
  cases label with
  | none =>
    refine ⟨fun c hc => Text.isDigit_of_isBlank (hfirst c hc), ?_⟩
    rintro c rest rfl
    exact absurd (hfirst '-' rfl) (by decide)
  | some label =>
    intro c hc
    rw [Bool.eq_false_iff]
    intro hlabel
    have hno := isBlank_of_isLabelChar hlabel
    rw [hfirst c hc] at hno
    cases hno

theorem Stands.embedded? (hstands : Stands text version) : embedded? text = some version := by
  obtain ⟨before, body, after, rfl, hbefore, hafter, hwritten⟩ := hstands
  rw [List.append_assoc,
    embedded?_append fun c hc => Text.isDigit_of_isBlank (hbefore c hc)]
  exact embedded?_of_written hwritten (ended_of_blank hafter _)

/-- Without blanks in a text nothing is trimmed away. -/
theorem Stands.written (hstands : Stands text version)
    (hblank : ∀ c ∈ text, Text.isBlank c = false) : Written text version := by
  obtain ⟨before, body, after, rfl, hbefore, hafter, hwritten⟩ := hstands
  simp only [List.forall_mem_append] at hblank
  have hnil {part : List Char} (hpart : ∀ c ∈ part, Text.isBlank c = true)
      (hno : ∀ c ∈ part, Text.isBlank c = false) : part = [] := by
    rw [List.eq_nil_iff_forall_not_mem]
    intro c hc
    exact absurd ((hpart c hc).symm.trans (hno c hc)) (by decide)
  obtain rfl := hnil hbefore hblank.1.1
  obtain rfl := hnil hafter hblank.2
  simpa using hwritten

/-- A version that can be read alone is found inside a tag too, unless a digit comes before it or what follows goes on with it. Nothing is found in a tag without three numerals divided by dots. -/
theorem guess_agrees_with_parse :
    (∀ (before text after : String) (version : Version),
      (∀ c ∈ before.toList, Text.isDigit c = false) →
      (∀ c ∈ text.toList, Text.isBlank c = false) → parse text = .ok version →
      Ended version.label after.toList → guess (before ++ text ++ after) = .ok version) ∧
    (∀ (text : String) (version : Version), parse text = .ok version → guess text = .ok version) ∧
    ∀ tag : String, (∀ (before : List Char) (core : Core) (after : List Char),
        tag.toList = before ++ core.text after → ¬ (Decimal.AreDigits core.major ∧
          Decimal.AreDigits core.minor ∧ Decimal.AreDigits core.patch)) →
      guess tag = .error (.invalidVersion tag) := by
  refine ⟨fun before text after version hbefore hblank hparse hended => ?_,
    fun text version hparse => ?_, fun tag hnone => ?_⟩
  · have hwritten := (parse_eq_ok_iff.mp hparse).written hblank
    rw [guess_eq_ok_iff, String.toList_append, String.toList_append, List.append_assoc,
      embedded?_append hbefore]
    exact embedded?_of_written hwritten hended
  · exact guess_eq_ok_iff.mpr (parse_eq_ok_iff.mp hparse).embedded?
  · refine guess_of_embedded?_eq_none (Option.eq_none_iff_forall_ne_some.mpr ?_)
    intro version hfound
    obtain ⟨before, core, after, htag, hmajor, hminor, hpatch⟩ := exists_of_embedded? hfound
    exact hnone before core after htag ⟨hmajor.areDigits, hminor.areDigits, hpatch.areDigits⟩

/-- Neither a hyphen alone nor what follows a plus sign belongs to a version. -/
theorem guess_agrees_with_parse_two :
    guess ("release/v" ++ "02.0.7-rc.1" ++ "+1.2.3") = .ok ⟨2, 0, 7, some "rc.1"⟩ ∧
      guess ("v" ++ "1.10.0" ++ "-") = .ok ⟨1, 10, 0, none⟩ := by
  have hnone {isKind : Char → Bool} {text : List Char} (hall : text.all (!isKind ·) = true) :
      ∀ c ∈ text, isKind c = false := by simpa using hall
  have hplus : Ended (some "rc.1") "+1.2.3".toList := by
    rintro c ⟨⟩
    decide
  have hhyphen : Ended none "-".toList := by
    refine ⟨?_, fun c rest heq => absurd (List.cons.inj heq).2 (List.cons_ne_nil c rest).symm⟩
    rintro c ⟨⟩
    decide
  obtain ⟨hinside, -, -⟩ := guess_agrees_with_parse
  exact ⟨hinside _ _ _ _ (hnone (by decide)) (hnone (by decide)) (by decide +kernel) hplus,
    hinside _ _ _ _ (hnone (by decide)) (hnone (by decide)) (by decide +kernel) hhyphen⟩

end ApiDrift.Version
