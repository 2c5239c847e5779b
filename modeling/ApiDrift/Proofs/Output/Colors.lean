import ApiDrift.Output.Rendering
import ApiDrift.Proofs.Decimal.Spelling
import ApiDrift.Proofs.Json.Clean

/-!
# Tables with and without colours

Colours only put a sequence before a styled piece and one behind it. Taken out again, they leave the table as it is without them, so that every column begins where it began. Between the rule and the blank line below the changes there is one row for each change, in their order.
-/

namespace ApiDrift

/-! ### Sequences that set styles -/

namespace Page

/-- What may stand between the bracket and the letter of a sequence. -/
def isCode (c : Char) : Bool := c.isDigit || c == ';'

/-- What follows the sequence that a text begins with, if it begins with one. -/
def afterStyle? : List Char → Option (List Char)
  | '\x1b' :: '[' :: rest =>
    match rest.dropWhile isCode with
    | 'm' :: later => some later
    | _ => none
  | _ => none

theorem length_lt_of_afterStyle? {text later : List Char} (hlater : afterStyle? text = some later) :
    later.length < text.length := by
  unfold afterStyle? at hlater
  split at hlater
  case h_1 rest =>
    have hle := (List.dropWhile_sublist isCode (l := rest)).length_le
    split at hlater
    case h_1 hdrop =>
      rw [hdrop, Option.some.inj hlater, List.length_cons] at hle
      simp only [List.length_cons]
      omega
    case h_2 => cases hlater
  case h_2 => cases hlater

/-- A text without the sequences that set styles. -/
def withoutStyles (text : List Char) : List Char :=
  match _hstyle : afterStyle? text with
  | some later => withoutStyles later
  | none =>
    match text with
    | [] => []
    | c :: rest => c :: withoutStyles rest
termination_by text.length
decreasing_by
  · exact length_lt_of_afterStyle? _hstyle
  · exact Nat.lt_succ_self _

theorem withoutStyles_of_afterStyle? {text later : List Char}
    (hstyle : afterStyle? text = some later) : withoutStyles text = withoutStyles later := by
  rw [withoutStyles]
  split
  case h_1 hfound =>
    rw [hstyle] at hfound
    rw [Option.some.inj hfound]
  case h_2 hnone =>
    rw [hstyle] at hnone
    cases hnone

theorem withoutStyles_cons {c : Char} (hc : c ≠ '\x1b') (rest : List Char) :
    withoutStyles (c :: rest) = c :: withoutStyles rest := by
  have hplain : afterStyle? (c :: rest) = none := by
    unfold afterStyle?
    split
    case h_1 hsame => exact absurd (List.cons.inj hsame).1 hc
    case h_2 => rfl
  rw [withoutStyles]
  split
  case h_1 hstyle =>
    rw [hplain] at hstyle
    cases hstyle
  case h_2 => rfl

theorem withoutStyles_append {text : List Char} (htext : '\x1b' ∉ text) (rest : List Char) :
    withoutStyles (text ++ rest) = text ++ withoutStyles rest := by
  induction text with
  | nil => rfl
  | cons c text ih =>
    rw [List.mem_cons, not_or] at htext
    rw [List.cons_append, withoutStyles_cons (Ne.symm htext.1), ih htext.2, List.cons_append]

theorem isCode_of_codes? {style : Style} {codes : String} (hcodes : style.codes? = some codes) :
    codes.toList.all isCode = true := by
  cases style <;> cases hcodes <;> decide

theorem withoutStyles_on {codes : String} (hcodes : codes.toList.all isCode = true)
    (rest : List Char) : withoutStyles (Style.on codes ++ rest) = withoutStyles rest := by
  refine withoutStyles_of_afterStyle? ?_
  have hdrop : (codes.toList ++ 'm' :: rest).dropWhile isCode = 'm' :: rest :=
    Text.dropWhile_append_of_stop (List.all_eq_true.mp hcodes) (by simp [isCode])
  have htext : Style.on codes ++ rest = '\x1b' :: '[' :: (codes.toList ++ 'm' :: rest) := by
    simp [Style.on]
  rw [htext, afterStyle?, hdrop]
  rfl

theorem resume_of_notMem {text : List Char} (htext : '\x1b' ∉ text) (opening : List Char) :
    Style.resume opening text = text := by
  induction text with
  | nil => rfl
  | cons c text ih =>
    rw [List.mem_cons, not_or] at htext
    rw [Style.resume, ih htext.2]
    exact fun _ hsame => absurd hsame.symm htext.1

/-! ### Pages -/

/-- A piece with its style, if colours are used, around a text that sets none itself. -/
def styled (colors : Bool) (style : Style) (text : List Char) : List Char :=
  match colors, style.codes? with
  | true, some codes => Style.on codes ++ text ++ Style.off
  | _, _ => text

theorem styled_plain (colors : Bool) (text : List Char) : styled colors .plain text = text := by
  cases colors <;> rfl

theorem withoutStyles_styled {text : List Char} (htext : '\x1b' ∉ text) (style : Style)
    (rest : List Char) :
    withoutStyles (styled true style text ++ rest) = text ++ withoutStyles rest := by
  cases hcodes : style.codes? with
  | none =>
    simp only [styled, hcodes]
    exact withoutStyles_append htext rest
  | some codes =>
    have hoff : "0".toList.all isCode = true := by decide
    simp only [styled, hcodes, List.append_assoc]
    rw [withoutStyles_on (isCode_of_codes? hcodes), withoutStyles_append htext, Style.off,
      withoutStyles_on hoff]

/-- Nothing on the page sets a style but the page itself. -/
def Bare (page : Page) : Prop := ∀ piece ∈ page, '\x1b' ∉ piece.text.toList

instance (page : Page) : Decidable page.Bare := inferInstanceAs (Decidable (∀ _ ∈ page, _))

@[simp] theorem bare_nil : Bare [] := fun _ h => nomatch h

@[simp] theorem bare_cons {piece : Piece} {page : Page} :
    Bare (piece :: page) ↔ '\x1b' ∉ piece.text.toList ∧ Bare page := List.forall_mem_cons

@[simp] theorem bare_append {first second : Page} :
    Bare (first ++ second) ↔ Bare first ∧ Bare second := List.forall_mem_append

variable {page : Page}

theorem toList_text_false (page : Page) :
    (page.text false).toList = page.flatMap fun piece => piece.text.toList := by
  simp [text]

/-- Where a styled piece sets no styles itself, one sequence stands before it and one behind it. -/
theorem toList_text (hstyled : ∀ piece ∈ page, piece.style ≠ .plain → '\x1b' ∉ piece.text.toList)
    (colors : Bool) :
    (page.text colors).toList =
      page.flatMap fun piece => styled colors piece.style piece.text.toList := by
  rw [text, String.toList_ofList]
  refine List.flatMap_congr fun piece hmem => ?_
  cases colors with
  | false => rfl
  | true =>
    rw [if_pos rfl, Piece.colored]
    cases hcodes : piece.style.codes? with
    | none => simp [styled, hcodes]
    | some codes =>
      have hne : piece.style ≠ .plain := by
        intro hplain
        rw [hplain] at hcodes
        cases hcodes
      simp [styled, hcodes, resume_of_notMem (hstyled piece hmem hne)]

/-- Without its sequences, a page with colours is the page without colours. -/
theorem withoutStyles_text (hbare : page.Bare) :
    withoutStyles (page.text true).toList = (page.text false).toList := by
  rw [toList_text (fun piece hmem _ => hbare piece hmem), toList_text_false]
  induction page with
  | nil =>
    rw [List.flatMap_nil, List.flatMap_nil, withoutStyles]
    rfl
  | cons piece page ih =>
    rw [bare_cons] at hbare
    rw [List.flatMap_cons, List.flatMap_cons, withoutStyles_styled hbare.1, ih hbare.2]

theorem toList_text_append (first second : Page) (colors : Bool) :
    (text (first ++ second) colors).toList =
      (text first colors).toList ++ (text second colors).toList := by
  simp [text]

theorem toList_text_flatMap {α : Type} (items : List α) (part : α → Page) (colors : Bool) :
    (text (items.flatMap part) colors).toList =
      items.flatMap fun item => (text (part item) colors).toList := by
  simp [text, List.flatMap_assoc]

end Page

theorem Piece.style_padded (text : String) (width : Nat) (style : Style) :
    (padded text width style).style = style := rfl

theorem Piece.toList_padded (text : String) (width : Nat) (style : Style) :
    (padded text width style).text.toList = text.toList.rightpad width ' ' := by
  simp [padded, List.rightpad, String.length_toList]

/-! ### Tables -/

namespace Verdict

open Page

/-- What a verdict quotes from elsewhere. -/
def strings (verdict : Verdict) : List String :=
  [verdict.old, verdict.new, verdict.summaryText] ++ verdict.previousVersion.toList ++
    verdict.nextVersion.toList ++
      verdict.changes.flatMap fun record => [record.path, record.description]

/-- The columns of the table and their widths. -/
def headerText (colors : Bool) : List Char :=
  styled colors .bold ("SEVERITY".toList.rightpad 8 ' ') ++ ' ' ::
    (styled colors .bold ("ENTITY".toList.rightpad 40 ' ') ++ ' ' ::
      (styled colors .bold "CHANGE".toList ++ ['\n']))

def ruleText : List Char := List.replicate 80 '-' ++ ['\n']

/-- The row of a change: its severity, its path and its description under the columns of the table. -/
def rowText (colors : Bool) (record : ChangeRecord) : List Char :=
  styled colors (severityStyle record.severity) (record.severity.word.toList.rightpad 8 ' ') ++
    ' ' :: ((if record.path = "" then "(root)" else record.path).toList.rightpad 40 ' ' ++
      ' ' :: (record.description.toList ++ ['\n']))

/-- What stands between the count of the changes and the severity of all of them. -/
def changesText (colors : Bool) (changes : List ChangeRecord) : List Char :=
  if changes = [] then styled colors .dimmed "No API changes detected.".toList ++ ['\n']
  else headerText colors ++ ruleText ++ changes.flatMap (rowText colors)

/-! ### No table sets styles by itself -/

theorem mem_strings_of_mem_changes {verdict : Verdict} {record : ChangeRecord}
    (hrecord : record ∈ verdict.changes) {text : String}
    (htext : text ∈ [record.path, record.description]) : text ∈ verdict.strings :=
  List.mem_append_right _ (List.mem_flatMap.mpr ⟨record, hrecord, htext⟩)

theorem notMem_rightpad {text : List Char} {c : Char} (htext : c ∉ text) (hc : c ≠ ' ')
    (width : Nat) : c ∉ text.rightpad width ' ' := by
  simp [List.rightpad, htext, hc]

theorem notMem_word (bump : Bump) : '\x1b' ∉ bump.word.toList := by
  cases bump <;> decide

theorem bare_severity (bump : Bump) : '\x1b' ∉ (severity bump).text.toList := by
  rw [severity, Piece.toList_padded]
  exact notMem_rightpad (notMem_word bump) (by decide) 8

variable {verdict : Verdict}

theorem bare_heading (hstrings : ∀ text ∈ verdict.strings, '\x1b' ∉ text.toList) :
    verdict.heading.Bare := by
  have hold := hstrings verdict.old (by simp [strings])
  have hnew := hstrings verdict.new (by simp [strings])
  simp only [heading, bare_cons]
  exact ⟨by decide, by decide, hold, by decide, hnew, by decide, bare_nil⟩

theorem notMem_natural (number : Nat) : '\x1b' ∉ (toString number).toList := by
  rw [Nat.toString_eq_repr, Nat.toList_repr]
  intro hmem
  exact absurd ((Decimal.areDigits_toDigits number).2 _ hmem) (by decide)

theorem notMem_numeral {numeral : Decimal.Numeral} (hproper : numeral.Proper) :
    '\x1b' ∉ numeral.text.toList := by
  intro hmem
  rcases Json.clean_number hproper _ hmem with hfeed | hcontrol
  · cases hfeed
  · exact absurd hcontrol (by decide)

theorem bare_count (hstrings : ∀ text ∈ verdict.strings, '\x1b' ∉ text.toList) :
    verdict.count.Bare := by
  have hsummary := hstrings verdict.summaryText (by simp [strings])
  have hduration := notMem_numeral (Decimal.Binary.proper_oneDecimal verdict.duration)
  have hlength := notMem_natural verdict.changes.length
  have hbetween : '\x1b' ∉ " changes (".toList ∧ '\x1b' ∉ ") in ".toList ∧
      '\x1b' ∉ "ms\n\n".toList := by decide
  simp only [count, bare_cons, plain, String.toList_append, List.mem_append, not_or]
  exact ⟨by decide, hlength, ⟨⟨⟨⟨hbetween.1, hsummary⟩, hbetween.2.1⟩, hduration⟩, hbetween.2.2⟩,
    bare_nil⟩

theorem bare_row {record : ChangeRecord} (hpath : '\x1b' ∉ record.path.toList)
    (hdescription : '\x1b' ∉ record.description.toList) : Bare (row record) := by
  have hshown : '\x1b' ∉ (if record.path.isEmpty then "(root)" else record.path).toList := by
    split
    · decide
    · exact hpath
  have hends : '\x1b' ∉ " ".toList ∧ '\x1b' ∉ "\n".toList := by decide
  simp only [row, bare_cons, Piece.toList_padded, plain, String.toList_append, List.mem_append,
    not_or]
  exact ⟨bare_severity _, by decide, notMem_rightpad hshown (by decide) 40,
    ⟨⟨hends.1, hdescription⟩, hends.2⟩, bare_nil⟩

theorem bare_rows (hstrings : ∀ text ∈ verdict.strings, '\x1b' ∉ text.toList) :
    verdict.rows.Bare := by
  have hchanges : Bare (verdict.changes.flatMap row) := by
    intro piece hpiece
    obtain ⟨record, hrecord, hmem⟩ := List.mem_flatMap.mp hpiece
    have hquoted (text : String) (htext : text ∈ [record.path, record.description]) :=
      hstrings text (mem_strings_of_mem_changes hrecord htext)
    exact bare_row (hquoted _ (by simp)) (hquoted _ (by simp)) piece hmem
  rw [rows]
  split
  · rw [bare_cons, bare_cons]
    exact ⟨by decide, by decide, bare_nil⟩
  · rw [bare_append, bare_append]
    refine ⟨⟨?_, hchanges⟩, by simp [newLine, plain]⟩
    decide

theorem bare_conclusion (verdict : Verdict) : verdict.conclusion.Bare := by
  rw [conclusion, bare_append]
  refine ⟨?_, ?_⟩
  · simp only [bare_cons]
    exact ⟨by decide, by decide, bare_severity _, bare_nil⟩
  · split
    · exact bare_nil
    · have hends : '\x1b' ∉ "(released as ".toList ∧ '\x1b' ∉ ")".toList := by decide
      simp only [bare_cons, String.toList_append, List.mem_append, not_or]
      exact ⟨by decide, ⟨⟨hends.1, notMem_word _⟩, hends.2⟩, bare_nil⟩

theorem bare_versions (hstrings : ∀ text ∈ verdict.strings, '\x1b' ∉ text.toList) :
    verdict.versions.Bare := by
  rw [versions]
  split
  · next previous following hprevious hnext =>
    have hold := hstrings previous (by simp [strings, hprevious])
    have hnew := hstrings following (by simp [strings, hnext])
    simp only [bare_cons]
    exact ⟨by decide, by decide, by decide, hold, by decide, hnew, bare_nil⟩
  · exact bare_nil

theorem bare_page (hstrings : ∀ text ∈ verdict.strings, '\x1b' ∉ text.toList) :
    verdict.page.Bare := by
  simp only [page, bare_append]
  exact ⟨⟨⟨⟨bare_heading hstrings, bare_count hstrings⟩, bare_rows hstrings⟩,
    bare_conclusion verdict⟩, bare_versions hstrings⟩

/-! ### Rows -/

theorem toList_text_row (record : ChangeRecord) (colors : Bool) :
    (Page.text (row record) colors).toList = rowText colors record := by
  have hstyled : ∀ piece ∈ row record, piece.style ≠ .plain → '\x1b' ∉ piece.text.toList := by
    simp only [row, List.forall_mem_cons]
    exact ⟨fun _ => bare_severity _, fun h => absurd rfl h, fun h => absurd rfl h,
      fun h => absurd rfl h, fun _ h => nomatch h⟩
  rw [toList_text hstyled]
  simp [row, rowText, severity, Piece.toList_padded, Piece.style_padded, space, plain, styled_plain]

/-- A row breaks the line at its end and nowhere else, unless what it shows does. -/
theorem count_lineFeed_rowText {record : ChangeRecord} (hpath : '\n' ∉ record.path.toList)
    (hdescription : '\n' ∉ record.description.toList) (colors : Bool) :
    (rowText colors record).count '\n' = 1 := by
  have hseverity : '\n' ∉ styled colors (severityStyle record.severity)
      (record.severity.word.toList.rightpad 8 ' ') := by
    cases colors <;> cases record.severity <;> decide
  have hshown : '\n' ∉ (if record.path = "" then "(root)" else record.path).toList := by
    split
    · decide
    · exact hpath
  have hcolumn := notMem_rightpad hshown (by decide) 40
  simp only [rowText, List.count_append, List.count_cons, List.count_nil,
    List.count_eq_zero_of_not_mem hseverity, List.count_eq_zero_of_not_mem hcolumn,
    List.count_eq_zero_of_not_mem hdescription]
  rfl

theorem withoutStyles_rowText {record : ChangeRecord} (hpath : '\x1b' ∉ record.path.toList)
    (hdescription : '\x1b' ∉ record.description.toList) :
    withoutStyles (rowText true record) = rowText false record := by
  rw [← toList_text_row, ← toList_text_row]
  exact withoutStyles_text (bare_row hpath hdescription)

theorem toList_text_rows (verdict : Verdict) (colors : Bool) :
    (Page.text verdict.rows colors).toList = changesText colors verdict.changes ++ ['\n'] := by
  simp only [rows, changesText, List.isEmpty_iff]
  split
  · have hnotice : Page.Bare [⟨"No API changes detected.", .dimmed⟩, plain "\n\n"] := by decide
    rw [toList_text (fun piece hmem _ => hnotice piece hmem)]
    simp [plain, styled_plain]
  · have hheader : Page.Bare [.padded "SEVERITY" 8 .bold, space, .padded "ENTITY" 40 .bold, space,
        ⟨"CHANGE", .bold⟩, newLine, rule] := by decide
    have hend : (Page.text [newLine] colors).toList = ['\n'] := by
      cases colors <;> rfl
    rw [toList_text_append, toList_text_append,
      toList_text (fun piece hmem _ => hheader piece hmem), toList_text_flatMap, hend]
    simp [headerText, ruleText, rule, Piece.toList_padded, Piece.style_padded, space, newLine,
      plain, styled_plain, toList_text_row]

/-- A table with colours is the table without them once its sequences are taken out, and so is every row. With or without them, the changes are shown under header and rule by one row each, in their order. -/
theorem colors_keep_the_table (verdict : Verdict) :
    ((∀ text ∈ verdict.strings, '\x1b' ∉ text.toList) →
      withoutStyles (verdict.render .table true).toList = (verdict.render .table false).toList ∧
        ∀ record ∈ verdict.changes, withoutStyles (rowText true record) = rowText false record) ∧
      ∀ colors,
        (verdict.render .table colors).toList =
          (Page.text (verdict.heading ++ verdict.count) colors).toList ++
            changesText colors verdict.changes ++
              '\n' :: (Page.text (verdict.conclusion ++ verdict.versions) colors).toList ∧
        ∀ record ∈ verdict.changes, '\n' ∉ record.path.toList → '\n' ∉ record.description.toList →
          (rowText colors record).count '\n' = 1 := by
  refine ⟨fun hstrings => ⟨withoutStyles_text (bare_page hstrings), fun record hrecord => ?_⟩,
    fun colors => ⟨?_, fun record _ hpath hdescription =>
      count_lineFeed_rowText hpath hdescription colors⟩⟩
  · have hquoted (text : String) (htext : text ∈ [record.path, record.description]) :=
      hstrings text (mem_strings_of_mem_changes hrecord htext)
    exact withoutStyles_rowText (hquoted _ (by simp)) (hquoted _ (by simp))
  · show (Page.text verdict.page colors).toList = _
    simp only [page, toList_text_append, toList_text_rows, List.append_assoc, List.singleton_append]

/-- A change of a whole codebase and one of an entity, in a release that is lowered. -/
theorem colors_keep_the_table_lowered :
    let removed : ChangeRecord := .of "" .entityWasRemoved
    let widened : ChangeRecord := .of "Widget.größe" .typeChangedToCompatibleType
    let verdict : Verdict :=
      { old := "a.json", new := "b.json", bump := .major, releaseBump := .minor,
        previousVersion := some "0.3.1", nextVersion := some "0.4.0",
        changes := [removed, widened], summary := .empty, summaryText := "1 major, 1 patch",
        duration := .zero }
    (∀ text ∈ verdict.strings, '\x1b' ∉ text.toList) ∧
      withoutStyles (verdict.render .table true).toList = (verdict.render .table false).toList ∧
      withoutStyles (rowText true widened) = rowText false widened ∧
      ('\n' ∉ widened.path.toList ∧ '\n' ∉ widened.description.toList) ∧
      (rowText false widened).count '\n' = 1 := by
  intro removed widened verdict
  have hstrings : ∀ text ∈ verdict.strings, '\x1b' ∉ text.toList := by decide
  have hlines : '\n' ∉ widened.path.toList ∧ '\n' ∉ widened.description.toList := by decide
  have hmem : widened ∈ verdict.changes := List.mem_cons_of_mem _ List.mem_cons_self
  obtain ⟨hplain, hcolors⟩ := colors_keep_the_table verdict
  exact ⟨hstrings, (hplain hstrings).1, (hplain hstrings).2 widened hmem, hlines,
    (hcolors false).2 widened hmem hlines.1 hlines.2⟩

end Verdict

end ApiDrift
