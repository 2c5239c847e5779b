import ApiDrift.Proofs.Text.Classes
import ApiDrift.Toml.Text
import ApiDrift.Toml.Writing

/-!
# Quoted strings read back

A string is written in one of six forms, and each is read back as the string it was written from. Between writing and reading stands a relation: a spelling spells a text if it consists of the spellings of single characters and of bare quotes, never more bare quotes in a row than the form allows.
-/

namespace ApiDrift.Toml

/-- A spelling is read as one character, whatever stands behind it. -/
def Reads (unit : Reader (List Char)) (spelling : List Char) (c : Char) : Prop :=
  ∀ rest, unit (spelling ++ rest) = some ([c], rest)

/-- A spelling of a text between quotes, right behind so many bare quotes. -/
inductive Spelled (quote : Char) (unit : Reader (List Char)) (limit : Nat) :
    Nat → List Char → List Char → Prop
  | nothing (run : Nat) : Spelled quote unit limit run [] []
  | bare {run : Nat} {spelling text : List Char} (hrun : run < limit)
      (hlater : Spelled quote unit limit (run + 1) spelling text) :
      Spelled quote unit limit run (quote :: spelling) (quote :: text)
  | character {run : Nat} {head c : Char} {tail spelling text : List Char} (hhead : head ≠ quote)
      (hreads : Reads unit (head :: tail) c) (hlater : Spelled quote unit limit 0 spelling text) :
      Spelled quote unit limit run (head :: tail ++ spelling) (c :: text)

variable {quote : Char} {unit : Reader (List Char)} {spelling text rest : List Char}

/-! ### Reading -/

theorem length_lt_of_cons (head : Char) (tail later : List Char) :
    later.length < (head :: (tail ++ later)).length := by
  simp only [List.length_cons, List.length_append]
  omega

theorem shortString?_of_spelled {run : Nat} (hspelled : Spelled quote unit 0 run spelling text)
    (made rest : List Char) :
    shortString? quote unit made (spelling ++ quote :: rest) =
      some (String.ofList (made ++ text), rest) := by
  induction hspelled generalizing made with
  | nothing run => simp [shortString?]
  | bare hrun => cases hrun
  | @character run head c tail spelling text hhead hreads hlater ih =>
    have hunit : unit (head :: (tail ++ (spelling ++ quote :: rest))) =
        some ([c], spelling ++ quote :: rest) := hreads _
    rw [List.cons_append, List.cons_append, List.append_assoc, shortString?,
      if_neg (by simpa using hhead), hunit]
    simp only [if_pos (length_lt_of_cons head tail _), ih]
    simp

section Long

variable {run : Nat} (hrun : run ≤ 2)

include hrun

/-- The last three quotes close the string, if no quote stands behind them. -/
theorem longString?_close (hrest : ∀ c ∈ rest.head?, (c == quote) = false) (made : List Char) :
    longString? quote unit made (List.replicate (run + 3) quote ++ rest) =
      some (String.ofList (made ++ List.replicate run quote), rest) := by
  have hquotes : ∀ c ∈ List.replicate (run + 3) quote, (c == quote) = true := by
    simp [List.mem_replicate]
  rw [longString?]
  simp [Text.takeWhile_append_of_stop hquotes hrest, hrun]

theorem longString?_run (htext : ∀ c ∈ text.head?, (c == quote) = false) (made : List Char) :
    longString? quote unit made (List.replicate run quote ++ text) =
      longString? quote unit (made ++ List.replicate run quote) text := by
  cases run with
  | zero => simp
  | succ run =>
    have hquotes : ∀ c ∈ List.replicate (run + 1) quote, (c == quote) = true := by
      simp [List.mem_replicate]
    have hfew : ¬3 ≤ run + 1 := by omega
    rw [longString?]
    simp [Text.takeWhile_append_of_stop hquotes htext, hfew]

end Long

theorem longString?_character {head c : Char} {tail : List Char} (hhead : head ≠ quote)
    (hreads : Reads unit (head :: tail) c) (made text : List Char) :
    longString? quote unit made (head :: tail ++ text) =
      longString? quote unit (made ++ [c]) text := by
  have hunit : unit (head :: (tail ++ text)) = some ([c], text) := hreads _
  have hrun : (head :: (tail ++ text)).takeWhile (· == quote) = [] := by simp [hhead]
  rw [List.cons_append, longString?, hunit]
  simp only [hrun, if_pos (length_lt_of_cons head tail text)]
  rfl

theorem longString?_of_spelled {run : Nat} (hspelled : Spelled quote unit 2 run spelling text)
    (hrun : run ≤ 2) (hrest : ∀ c ∈ rest.head?, (c == quote) = false) (made : List Char) :
    longString? quote unit made
        (List.replicate run quote ++ (spelling ++ quote :: quote :: quote :: rest)) =
      some (String.ofList (made ++ List.replicate run quote ++ text), rest) := by
  induction hspelled generalizing made with
  | nothing run =>
    have hclosing : List.replicate run quote ++ ([] ++ quote :: quote :: quote :: rest) =
        List.replicate (run + 3) quote ++ rest := by
      rw [← List.replicate_append_replicate, List.append_assoc]
      rfl
    rw [hclosing, longString?_close hrun hrest, List.append_nil]
  | @bare run spelling text hlimit hlater ih =>
    have hbare (later : List Char) : List.replicate run quote ++ quote :: later =
        List.replicate (run + 1) quote ++ later := by
      rw [List.replicate_succ', List.append_assoc]
      rfl
    rw [List.cons_append, hbare, ih hlimit, List.replicate_succ']
    simp
  | character hhead hreads hlater ih =>
    rw [List.append_assoc, longString?_run hrun (by simp [hhead]),
      longString?_character hhead hreads]
    exact (ih (Nat.zero_le 2) _).trans (by simp)

/-! ### Writing -/

/-- The number of a control character is read back from its four digits. -/
theorem numbered?_control {c : Char} (hcontrol : c.toNat < 128) (rest : List Char) :
    numbered? 4 ('0' :: '0' :: (Nat.digitChar (c.toNat / 16)).toUpper ::
      (Nat.digitChar (c.toNat % 16)).toUpper :: rest) = some ([c], rest) := by
  have hdigits : ∀ code < 128,
      ['0', '0', (Nat.digitChar (code / 16)).toUpper, (Nat.digitChar (code % 16)).toUpper].foldlM
        (fun value c => (hexValue? c).map (16 * value + ·)) 0 = some code := by decide
  have hnumber := hdigits c.toNat hcontrol
  have hvalid : c.toNat.isValidChar := .inl (by omega)
  rw [numbered?, if_neg (by simp)]
  simp only [List.take_succ_cons, List.take_zero, hnumber]
  simp [hvalid]

/-- What an escape consists of. -/
structure Escapes (spelling : List Char) (c : Char) (first : Char) (later : List Char) : Prop where
  spelling_eq : spelling = '\\' :: first :: later
  not_space : isSpace first = false
  not_break : first ≠ '\n' ∧ first ≠ '\r'
  reads : Reads escape? (first :: later) c

theorem escapes_of_escape {long : Bool} {c : Char} (hescape : escape long c = some spelling) :
    ∃ first later, Escapes spelling c first later := by
  unfold escape at hescape
  split at hescape
  case h_3 =>
    cases long
    · obtain rfl := Option.some.inj hescape
      exact ⟨'n', [], rfl, by decide, by decide, fun _ => rfl⟩
    · cases hescape
  case h_7 =>
    split at hescape
    · next hcontrol =>
      simp only [Bool.or_eq_true, decide_eq_true_eq] at hcontrol
      obtain rfl := Option.some.inj hescape
      exact ⟨'u', _, rfl, by decide, by decide, numbered?_control (by omega)⟩
    · cases hescape
  all_goals
    obtain rfl := Option.some.inj hescape
    exact ⟨_, [], rfl, by decide, by decide, fun _ => rfl⟩

theorem plain_of_escape_eq_none {long : Bool} {c : Char} (hescape : escape long c = none) :
    c ≠ '\\' ∧ (isPlain c = true ∨ long = true ∧ c = '\n') := by
  unfold escape at hescape
  split at hescape
  case h_3 =>
    cases long
    · cases hescape
    · exact ⟨by decide, .inr ⟨rfl, rfl⟩⟩
  case h_7 hbackslash =>
    split at hescape
    · cases hescape
    · next hcontrol =>
      simp only [Bool.or_eq_true, decide_eq_true_eq] at hcontrol
      refine ⟨hbackslash, .inl ?_⟩
      simp only [isPlain, Bool.or_eq_true, Bool.and_eq_true, decide_eq_true_eq]
      omega
  all_goals cases hescape

/-- A reader of single characters that takes back what escaping does. -/
structure Undoes (unit : Reader (List Char)) (long : Bool) : Prop where
  escaped : ∀ first rest, isSpace first = false → first ≠ '\n' → first ≠ '\r' →
    unit ('\\' :: first :: rest) = escape? (first :: rest)
  plain : ∀ c, c ≠ '\\' → (isPlain c = true ∨ long = true ∧ c = '\n') → Reads unit [c] c

theorem undoes_escapedUnit? : Undoes escapedUnit? false where
  escaped _ _ _ _ _ := rfl
  plain c hbackslash hplain rest := by
    obtain hplain := hplain.resolve_right (by simp)
    unfold escapedUnit?
    split
    case h_1 hsame => exact absurd (List.cons.inj hsame).1 hbackslash
    case h_2 => simp [literalUnit?, hplain]

theorem brokenUnit?_of_plain {c : Char} (hplain : isPlain c = true ∨ c = '\n') :
    Reads (brokenUnit? literalUnit?) [c] c := by
  intro rest
  rcases hplain with hplain | rfl
  · have hfeed : c ≠ '\n' := by
      rintro rfl
      cases hplain
    have hreturn : c ≠ '\r' := by
      rintro rfl
      cases hplain
    simp [brokenUnit?, afterLineBreak?, literalUnit?, hplain, hfeed, hreturn]
  · rfl

theorem undoes_joinedUnit? : Undoes joinedUnit? true where
  escaped first rest hspace hfeed hreturn := by
    simp [joinedUnit?, skipSpaces, hspace, afterLineBreak?, hfeed, hreturn]
  plain c hbackslash hplain rest := by
    unfold joinedUnit?
    split
    case h_1 hsame => exact absurd (List.cons.inj hsame).1 hbackslash
    case h_2 => exact brokenUnit?_of_plain (by simpa using hplain) rest

theorem spelled_escaped {long : Bool} (hunit : Undoes unit long) (limit run : Nat)
    (text : List Char) : Spelled '"' unit limit run (escaped long limit run text) text := by
  induction text generalizing run with
  | nil => exact .nothing run
  | cons c text ih =>
    by_cases hquote : c = '"'
    · subst hquote
      rw [escaped]
      split
      case isTrue hrun => exact .bare hrun (ih (run + 1))
      case isFalse =>
        have hreads : Reads unit ['\\', '"'] '"' :=
          fun rest => hunit.escaped '"' rest (by decide) (by decide) (by decide)
        exact .character (by decide) hreads (ih 0)
    · rw [escaped]
      · cases hescape : escape long c with
        | none =>
          obtain ⟨hbackslash, hplain⟩ := plain_of_escape_eq_none hescape
          exact .character hquote (hunit.plain c hbackslash hplain) (ih 0)
        | some spelling =>
          obtain ⟨first, later, hescapes⟩ := escapes_of_escape hescape
          rw [Option.getD_some, hescapes.spelling_eq]
          refine .character (by decide) (fun rest => ?_) (ih 0)
          exact (hunit.escaped first _ hescapes.not_space hescapes.not_break.1
            hescapes.not_break.2).trans (hescapes.reads rest)
      · exact hquote

theorem spelled_itself {limit run : Nat}
    (hunit : ∀ c ∈ text, c ≠ quote → Reads unit [c] c)
    (hrun : hasRunAbove limit quote run text = false) : Spelled quote unit limit run text text := by
  induction text generalizing run with
  | nil => exact .nothing run
  | cons c text ih =>
    obtain ⟨hc, htext⟩ := List.forall_mem_cons.mp hunit
    by_cases hquote : c = quote
    · subst hquote
      simp only [hasRunAbove, if_true, Bool.or_eq_false_iff, decide_eq_false_iff_not,
        not_lt] at hrun
      exact .bare hrun.1 (ih htext hrun.2)
    · rw [hasRunAbove, if_neg hquote] at hrun
      exact .character hquote (hc hquote) (ih htext hrun)

theorem hasRunAbove_of_notMem {limit run : Nat} (hquote : quote ∉ text) :
    hasRunAbove limit quote run text = false := by
  induction text generalizing run with
  | nil => rfl
  | cons c text ih =>
    rw [List.mem_cons, not_or] at hquote
    simp [hasRunAbove, Ne.symm hquote.1, ih hquote.2]

/-! ### The forms of a string -/

/-- What may stand behind a string: nothing that could go on with its quotes. -/
def Closes (rest : List Char) : Prop := ∀ c ∈ rest.head?, c ≠ '"' ∧ c ≠ '\''

theorem string?_short_double (hspelled : Spelled '"' escapedUnit? 0 0 spelling text)
    (hrest : Closes rest) :
    string? ('"' :: (spelling ++ '"' :: rest)) = some (String.ofList text, rest) := by
  have hline : string? ('"' :: (spelling ++ '"' :: rest)) =
      shortString? '"' escapedUnit? [] (spelling ++ '"' :: rest) := by
    cases hspelled with
    | nothing =>
      cases rest with
      | nil => rfl
      | cons c rest => simp [string?, string?.line?, (hrest c rfl).1]
    | bare hrun => cases hrun
    | character hhead => simp [string?, string?.line?, hhead]
  rw [hline, shortString?_of_spelled hspelled]
  rfl

theorem string?_short_single (hspelled : Spelled '\'' literalUnit? 0 0 spelling text)
    (hrest : Closes rest) :
    string? ('\'' :: (spelling ++ '\'' :: rest)) = some (String.ofList text, rest) := by
  have hline : string? ('\'' :: (spelling ++ '\'' :: rest)) =
      shortString? '\'' literalUnit? [] (spelling ++ '\'' :: rest) := by
    cases hspelled with
    | nothing =>
      cases rest with
      | nil => rfl
      | cons c rest => simp [string?, string?.line?, (hrest c rfl).2]
    | bare hrun => cases hrun
    | character hhead => simp [string?, string?.line?, hhead]
  rw [hline, shortString?_of_spelled hspelled]
  rfl

theorem joinedUnit?_of_afterLineBreak? {later : List Char}
    (hbreak : afterLineBreak? text = some later) :
    joinedUnit? text = some (['\n'], later) := by
  unfold joinedUnit?
  split
  case h_1 => cases hbreak
  case h_2 => simp only [brokenUnit?, hbreak]

/-- Only a text that begins with a line feed has a spelling that begins with a line break. -/
theorem mem_of_afterLineBreak? {limit run : Nat}
    (hunit : ∀ text later, afterLineBreak? text = some later → unit text = some (['\n'], later))
    (hquote : quote ≠ '\n' ∧ quote ≠ '\r') (hspelled : Spelled quote unit limit run spelling text)
    {later : List Char} (hbreak : afterLineBreak? (spelling ++ quote :: rest) = some later) :
    '\n' ∈ text := by
  have hbare (rest : List Char) : afterLineBreak? (quote :: rest) = none := by
    simp [afterLineBreak?, hquote]
  cases hspelled with
  | nothing =>
    rw [List.nil_append, hbare] at hbreak
    cases hbreak
  | bare =>
    rw [List.cons_append, hbare] at hbreak
    cases hbreak
  | character hhead hreads hlater =>
    have hread := hunit _ _ hbreak
    rw [List.append_assoc, hreads] at hread
    cases hread
    exact List.mem_cons_self

/-- A line feed is put before a text that has line feeds, so that none of them is lost. -/
def opening (text : List Char) : List Char := if text.contains '\n' then ['\n'] else []

theorem withoutFirstBreak_opening {limit run : Nat}
    (hunit : ∀ text later, afterLineBreak? text = some later → unit text = some (['\n'], later))
    (hquote : quote ≠ '\n' ∧ quote ≠ '\r')
    (hspelled : Spelled quote unit limit run spelling text) (rest : List Char) :
    withoutFirstBreak (opening text ++ (spelling ++ quote :: rest)) =
      spelling ++ quote :: rest := by
  rw [opening]
  split
  case isTrue => rfl
  case isFalse hfeed =>
    rw [List.nil_append, withoutFirstBreak]
    cases hbreak : afterLineBreak? (spelling ++ quote :: rest) with
    | none => rfl
    | some later =>
      have hmem := mem_of_afterLineBreak? hunit hquote hspelled hbreak
      exact absurd (List.contains_iff_mem.mpr hmem) hfeed

theorem string?_long_double (hspelled : Spelled '"' joinedUnit? 2 0 spelling text)
    (hrest : Closes rest) :
    string? ('"' :: '"' :: '"' :: (opening text ++ (spelling ++ '"' :: '"' :: '"' :: rest))) =
      some (String.ofList text, rest) := by
  rw [string?, withoutFirstBreak_opening (fun _ _ => joinedUnit?_of_afterLineBreak?) (by decide)
    hspelled]
  exact longString?_of_spelled hspelled (Nat.zero_le 2)
    (fun c hc => by simpa using (hrest c hc).1) []

theorem string?_long_single (hspelled : Spelled '\'' (brokenUnit? literalUnit?) 2 0 spelling text)
    (hrest : Closes rest) :
    string? ('\'' :: '\'' :: '\'' ::
        (opening text ++ (spelling ++ '\'' :: '\'' :: '\'' :: rest))) =
      some (String.ofList text, rest) := by
  rw [string?, withoutFirstBreak_opening (fun _ _ hbreak => by simp only [brokenUnit?, hbreak])
    (by decide) hspelled]
  exact longString?_of_spelled hspelled (Nat.zero_le 2)
    (fun c hc => by simpa using (hrest c hc).2) []

theorem plain_of_isControl_eq_false {c : Char} (hcontrol : isControl c = false) :
    isPlain c = true ∨ c = '\n' := by
  simp only [isControl, Bool.and_eq_false_iff, bne_eq_false_iff_eq, Bool.or_eq_false_iff,
    decide_eq_false_iff_not] at hcontrol
  rcases hcontrol with (rfl | rfl) | hcontrol
  · exact .inl rfl
  · exact .inr rfl
  · refine .inl ?_
    simp only [isPlain, Bool.or_eq_true, Bool.and_eq_true, decide_eq_true_eq]
    omega

/-- Whichever form a string is written in, it is read back, and what stands behind it is left. -/
theorem string?_quotedChars (text : List Char) (hrest : Closes rest) :
    string? (quotedChars text ++ rest) = some (String.ofList text, rest) := by
  have hshort := string?_short_double (spelled_escaped undoes_escapedUnit? 0 0 text) hrest
  have hlong := string?_long_double (spelled_escaped undoes_joinedUnit? 2 0 text) hrest
  have hplain (hcontrols : text.any isControl = false) (c : Char) (hc : c ∈ text) :
      isPlain c = true ∨ c = '\n' :=
    plain_of_isControl_eq_false (Bool.eq_false_iff.mpr (List.any_eq_false.mp hcontrols c hc))
  simp only [quotedChars, Bool.and_eq_true, Bool.not_eq_true']
  split
  case isTrue => simpa using hshort
  split
  case isTrue hform =>
    obtain ⟨⟨hcontrols, hquote⟩, hbreaks⟩ := hform
    have hunit : ∀ c ∈ text, c ≠ '\'' → Reads literalUnit? [c] c := by
      intro c hc _ rest
      have hfeed : c ≠ '\n' := by
        rintro rfl
        rw [List.contains_iff_mem.mpr hc] at hbreaks
        cases hbreaks
      simp [literalUnit?, (hplain hcontrols c hc).resolve_right hfeed]
    have hnone : hasRunAbove 0 '\'' 0 text = false := by
      refine hasRunAbove_of_notMem fun hmem => ?_
      rw [List.contains_iff_mem.mpr hmem] at hquote
      cases hquote
    simpa using string?_short_single (spelled_itself hunit hnone) hrest
  split
  case isTrue => simpa [opening] using hlong
  split
  case isTrue hform =>
    have hunit : ∀ c ∈ text, c ≠ '\'' → Reads (brokenUnit? literalUnit?) [c] c :=
      fun c hc _ => brokenUnit?_of_plain (hplain hform.1 c hc)
    simpa [opening] using string?_long_single (spelled_itself hunit hform.2) hrest
  split
  case isTrue hbreaks =>
    rw [opening, if_pos hbreaks] at hlong
    simpa using hlong
  case isFalse => simpa using hshort

end ApiDrift.Toml
