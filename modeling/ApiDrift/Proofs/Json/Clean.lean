import ApiDrift.Proofs.Json.RoundTrip

/-!
# Written trees are clean

The only control character in the text of a whole tree is the line feed, and that one stands only between values: inside quotes every control character is escaped. A line feed behind the text does not change what is read from it.
-/

namespace ApiDrift

namespace Json

/-- No control character but the line feed. -/
def Clean (text : List Char) : Prop := ∀ c ∈ text, c = '\n' ∨ 32 ≤ c.toNat

@[simp] theorem clean_nil : Clean [] := fun _ h => nomatch h

@[simp] theorem clean_cons {c : Char} {rest : List Char} :
    Clean (c :: rest) ↔ (c = '\n' ∨ 32 ≤ c.toNat) ∧ Clean rest := List.forall_mem_cons

@[simp] theorem clean_append {first second : List Char} :
    Clean (first ++ second) ↔ Clean first ∧ Clean second := List.forall_mem_append

theorem clean_of_isDigit {digits : List Char} (hdigits : ∀ c ∈ digits, c.isDigit) :
    Clean digits := by
  intro c hmem
  have hdigit := hdigits c hmem
  simp only [Char.isDigit, Bool.and_eq_true, decide_eq_true_eq] at hdigit
  exact .inr (le_trans (by decide) (UInt32.le_iff_toNat_le.mp hdigit.1))

theorem clean_newLine (depth : Nat) : Clean (newLine depth) := by
  refine clean_cons.mpr ⟨.inl rfl, fun c hmem => .inr ?_⟩
  obtain rfl := List.eq_of_mem_replicate hmem
  decide

theorem clean_escaped (c : Char) : Clean (escaped c) := by
  have hhex : ∀ digit < 16, 32 ≤ (hexDigit digit).toNat := by decide
  unfold escaped
  split
  -- What has no short escape is spelt in hexadecimal digits, or it is no control character.
  case h_8 =>
    split
    · have hhigh := hhex (c.toNat / 16) (by omega)
      have hlow := hhex (c.toNat % 16) (by omega)
      simp [hhigh, hlow]
    · next hself => simpa using .inr (Nat.not_lt.mp hself)
  all_goals simp

theorem clean_quoted (text : String) : Clean (quoted text) := by
  have hinside : Clean (text.toList.flatMap escaped) := by
    intro c hmem
    obtain ⟨source, -, hc⟩ := List.mem_flatMap.mp hmem
    exact clean_escaped source c hc
  simp [quoted, hinside]

theorem clean_number {numeral : Decimal.Numeral} (hproper : numeral.Proper) :
    Clean numeral.text.toList := by
  have hfraction : Clean (fractionChars numeral.fraction) := by
    cases hdigits : numeral.fraction with
    | none => exact clean_nil
    | some digits => simp [fractionChars, clean_of_isDigit (hproper.fraction digits hdigits).2]
  have hpower : Clean (powerChars numeral.power) := by
    cases hwritten : numeral.power with
    | none => exact clean_nil
    | some written =>
      have hdigits := clean_of_isDigit (hproper.power written hwritten).2
      cases hnegative : written.1 <;> simp [powerChars, hnegative, hdigits]
  rw [toList_text]
  cases hnegative : numeral.negative <;>
    simp [clean_of_isDigit hproper.whole.2, hfraction, hpower]

theorem clean_null : Clean "null".toList := by
  have hchars : "null".toList = ['n', 'u', 'l', 'l'] := by decide
  simp [hchars]

theorem clean_bool (value : Bool) : Clean (if value then "true" else "false").toList := by
  have htrue : "true".toList = ['t', 'r', 'u', 'e'] := by decide
  have hfalse : "false".toList = ['f', 'a', 'l', 's', 'e'] := by decide
  cases value <;> simp [htrue, hfalse]

end Json

mutual

theorem Json.clean_prettyChars : (json : Json) → json.Whole → (depth : Nat) →
    Json.Clean (json.prettyChars depth)
  | .null, _, _ => Json.clean_null
  | .bool value, _, _ => Json.clean_bool value
  | .number _, hwhole, _ => Json.clean_number hwhole.1
  | .text value, _, _ => Json.clean_quoted value
  | .array .done, _, _ => by simp [Json.prettyChars, Json.compactChars, Json.Items.compactChars]
  | .array (.cons item later), hwhole, depth => by
    simp [Json.prettyChars, Json.clean_newLine, item.clean_prettyChars hwhole.1 (depth + 1),
      later.clean_prettyChars hwhole.2 depth]
  | .object .done, _, _ => by
    simp [Json.prettyChars, Json.compactChars, Json.Members.compactChars]
  | .object (.cons key value later), hwhole, depth => by
    simp [Json.prettyChars, Json.clean_newLine, Json.clean_quoted key,
      value.clean_prettyChars hwhole.1 (depth + 1), later.clean_prettyChars hwhole.2 depth]

theorem Json.Items.clean_prettyChars : (items : Json.Items) → items.Whole → (depth : Nat) →
    Json.Clean (items.prettyChars depth)
  | .done, _, depth => by simp [Json.Items.prettyChars, Json.clean_newLine]
  | .cons item later, hwhole, depth => by
    simp [Json.Items.prettyChars, Json.clean_newLine, item.clean_prettyChars hwhole.1 (depth + 1),
      later.clean_prettyChars hwhole.2 depth]

theorem Json.Members.clean_prettyChars : (members : Json.Members) → members.Whole →
    (depth : Nat) → Json.Clean (members.prettyChars depth)
  | .done, _, depth => by simp [Json.Members.prettyChars, Json.clean_newLine]
  | .cons key value later, hwhole, depth => by
    simp [Json.Members.prettyChars, Json.clean_newLine, Json.clean_quoted key,
      value.clean_prettyChars hwhole.1 (depth + 1), later.clean_prettyChars hwhole.2 depth]

end

namespace Json

/-- A document is the text of one tree on many lines, with a line feed behind it. -/
structure IsDocument (text : String) (json : Json) : Prop where
  pretty : text = json.pretty ++ "\n"
  clean : Clean text.toList
  reads : read text.toList = ⟨json, false⟩

theorem isDocument_of_whole {json : Json} (hwhole : json.Whole) :
    IsDocument (json.pretty ++ "\n") json := by
  have hchars : (json.pretty ++ "\n").toList = json.prettyChars 0 ++ ['\n'] := by
    simp [pretty]
  refine ⟨rfl, ?_, ?_⟩
  · rw [hchars]
    simp [json.clean_prettyChars hwhole 0]
  · have hend : Token.all ['\n'] = [] := by rw [Token.all_space [] rfl, Token.all]
    have htokens := json.all_prettyChars hwhole 0 ['\n'] (stops_cons _ (by decide))
    rw [hend, List.append_nil] at htokens
    exact read_of_tokens hwhole (by rw [hchars, htokens])

end Json

end ApiDrift
