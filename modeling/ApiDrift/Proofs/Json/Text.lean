import ApiDrift.Json.Text

/-!
# Quoted texts read back

An escape gives back the character it was made for, so what stands between quotes is read as the text it was written from. Nothing in it looks like the closing quote.
-/

namespace ApiDrift.Json

theorem unit?_of_control : ∀ code < 32,
    unit? ['0', '0', hexDigit (code / 16), hexDigit (code % 16)] = some code := by
  decide

variable (characters : List Char) (rest : List Char)

/-- A character that is not special stands for itself. -/
theorem readText_self {c : Char} (hquote : c ≠ '"') (hbackslash : c ≠ '\\') (hcontrol : 32 ≤ c.toNat) :
    readText ⟨characters, none, true⟩ (c :: rest) =
      readText ⟨c :: characters, none, true⟩ rest := by
  have hpush : Draft.push ⟨characters, none, true⟩ c = ⟨c :: characters, none, true⟩ := rfl
  rw [← hpush]
  rw [readText.eq_def]
  split
  case h_7 hsame =>
    cases hsame
    exact if_neg (Nat.not_lt.mpr hcontrol)
  all_goals simp_all

theorem readText_control {c : Char} (hcontrol : c.toNat < 32) :
    readText ⟨characters, none, true⟩
        ('\\' :: 'u' :: '0' :: '0' :: hexDigit (c.toNat / 16) :: hexDigit (c.toNat % 16) :: rest) =
      readText ⟨c :: characters, none, true⟩ rest := by
  have hhigh : isHighSurrogate c.toNat = false := by simp [isHighSurrogate]; omega
  have hlow : isLowSurrogate c.toNat = false := by simp [isLowSurrogate]; omega
  have hpush : Draft.pushUnit ⟨characters, none, true⟩ c.toNat = ⟨c :: characters, none, true⟩ := by
    simp [Draft.pushUnit, hhigh, hlow, Draft.push, Char.ofNat_toNat]
  rw [readText, unit?_of_control c.toNat hcontrol]
  exact congrArg (readText · rest) hpush

theorem readText_escaped (c : Char) :
    readText ⟨characters, none, true⟩ (escaped c ++ rest) =
      readText ⟨c :: characters, none, true⟩ rest := by
  unfold escaped
  split
  case h_8 =>
    split
    · exact readText_control characters rest ‹_›
    · exact readText_self characters rest ‹_› ‹_› (Nat.not_lt.mp ‹_›)
  all_goals simp [readText, shortEscape?, Draft.push]

theorem readText_flatMap (text : List Char) :
    readText ⟨characters, none, true⟩ (text.flatMap escaped ++ '"' :: rest) =
      (.text (String.ofList (characters.reverse ++ text)), rest) := by
  induction text generalizing characters with
  | nil => simp [readText, Draft.close]
  | cons c text ih =>
    rw [List.flatMap_cons, List.append_assoc, readText_escaped, ih, List.reverse_cons,
      List.append_assoc, List.singleton_append]

/-- What stands between the quotes of a text is read back as that text. -/
theorem readText_quoted (text : String) :
    readText {} (text.toList.flatMap escaped ++ '"' :: rest) = (.text text, rest) := by
  rw [readText_flatMap, List.reverse_nil, List.nil_append, String.ofList_toList]

end ApiDrift.Json
