import ApiDrift.Proofs.Toml.Text
import ApiDrift.Toml.Reading
import Mathlib.Data.List.Infix

/-!
# Documents read back

A document in sections, each with a header and with settings one below the other, is read as one table for each section. Every setting is read by itself: its line leaves the lines below it as they are and adds one entry to the last table.
-/

namespace ApiDrift.Toml

/-! ### Layout -/

/-- A text begins with something other than a blank, a comment or a line break. -/
def Begins (text : List Char) : Prop :=
  ∃ c rest, text = c :: rest ∧ isSpace c = false ∧ c ≠ '#' ∧ c ≠ '\n' ∧ c ≠ '\r'

theorem begins_cons {c : Char} {rest : List Char} :
    Begins (c :: rest) ↔ isSpace c = false ∧ c ≠ '#' ∧ c ≠ '\n' ∧ c ≠ '\r' := by
  constructor
  · rintro ⟨_, _, hsame, hc⟩
    cases hsame
    exact hc
  · exact fun hc => ⟨c, rest, rfl, hc⟩

theorem skipSpaces_append {blanks text : List Char} (hblanks : blanks.all isSpace = true)
    (hbegins : Begins text) : skipSpaces (blanks ++ text) = text := by
  obtain ⟨c, rest, rfl, hspace, -⟩ := hbegins
  exact Text.dropWhile_append_of_stop (List.all_eq_true.mp hblanks) (by simpa using hspace)

theorem skipSpaces_of_begins {text : List Char} (hbegins : Begins text) : skipSpaces text = text :=
  skipSpaces_append (List.all_nil : [].all isSpace = true) hbegins

theorem skipLayout_append {blanks text : List Char} (hblanks : blanks.all isSpace = true)
    (hbegins : Begins text) : skipLayout (blanks ++ text) = text := by
  rw [skipLayout, skipSpaces_append hblanks hbegins]
  obtain ⟨c, rest, rfl, -, hcomment, hfeed, hreturn⟩ := hbegins
  simp [skipComment, afterLineBreak?, hcomment, hfeed, hreturn]

theorem skipLayout_of_begins {text : List Char} (hbegins : Begins text) : skipLayout text = text :=
  skipLayout_append (List.all_nil : [].all isSpace = true) hbegins

theorem skipLayout_newLine (text : List Char) : skipLayout ('\n' :: text) = skipLayout text := by
  rw [skipLayout]
  simp [skipSpaces, isSpace, skipComment, afterLineBreak?]

/-! ### Values -/

theorem exists_quotedChars (text : List Char) :
    ∃ quote later, quotedChars text = quote :: later ∧ (quote = '"' ∨ quote = '\'') := by
  simp only [quotedChars]
  repeat' split
  all_goals exact ⟨_, _, rfl, by simp⟩

theorem begins_quotedChars (text rest : List Char) : Begins (quotedChars text ++ rest) := by
  obtain ⟨quote, later, hquoted, hquote⟩ := exists_quotedChars text
  rw [hquoted, List.cons_append, begins_cons]
  rcases hquote with rfl | rfl <;> decide

theorem value?_quotedChars (brackets : Nat) (text : List Char) {rest : List Char}
    (hrest : Closes rest) :
    value? brackets (quotedChars text ++ rest) = some (.text (String.ofList text), rest) := by
  have hread := string?_quotedChars text hrest
  obtain ⟨quote, later, hquoted, hquote⟩ := exists_quotedChars text
  rw [hquoted, List.cons_append] at hread ⊢
  rcases hquote with rfl | rfl
  all_goals
    rw [value?, hread]
    rfl

/-- The words for truth values are read as what they say. -/
theorem value?_bool (brackets : Nat) (value : Bool) {rest : List Char}
    (hrest : ∀ c ∈ rest.head?, isScalarChar c = false) :
    value? brackets ((if value then "true" else "false").toList ++ rest) =
      some (.bool value, rest) := by
  have hscalar (word : List Char) (hword : word.all isScalarChar = true)
      (hdate : isDate word = false) (hbool : ofWord? word = some (.bool value)) :
      scalar? (word ++ rest) = some (.bool value, rest) := by
    have hchars := List.all_eq_true.mp hword
    simp [scalar?, Text.takeWhile_append_of_stop hchars hrest,
      Text.dropWhile_append_of_stop hchars hrest, hdate, hbool]
  cases value with
  | true =>
    have htrue : "true".toList = ['t', 'r', 'u', 'e'] := by decide
    have hread := hscalar ['t', 'r', 'u', 'e'] (by decide) (by decide) rfl
    rw [if_pos rfl, htrue]
    cases brackets <;> simpa [value?] using hread
  | false =>
    have hfalse : "false".toList = ['f', 'a', 'l', 's', 'e'] := by decide
    have hread := hscalar ['f', 'a', 'l', 's', 'e'] (by decide) (by decide) rfl
    rw [if_neg Bool.false_ne_true, hfalse]
    cases brackets <;> simpa [value?] using hread

/-! ### Lists -/

variable {brackets : Nat}

/-- The line of an item in a list that takes more than one line. -/
def itemLine (item : String) : List Char :=
  [' ', ' ', ' ', ' '] ++ quotedChars item.toList ++ [',', '\n']

theorem skipLayout_closing (rest : List Char) : skipLayout (']' :: rest) = ']' :: rest :=
  skipLayout_of_begins (begins_cons.mpr (by decide))

theorem closes_cons {c : Char} (rest : List Char) (hc : c ≠ '"' ∧ c ≠ '\'') :
    Closes (c :: rest) := by
  intro d hd
  obtain rfl := Option.some.inj hd
  exact hc

section Items

variable {item : String} {text rest : List Char} (made : List Value)

theorem items?_close (hlayout : skipLayout text = ']' :: rest) :
    items? (value? brackets) made text = some (.array made, rest) := by
  rw [items?, hlayout]
  rfl

theorem items?_last (hlayout : skipLayout text = quotedChars item.toList ++ ']' :: rest) :
    items? (value? brackets) made text = some (.array (made ++ [.text item]), rest) := by
  have hitem := value?_quotedChars brackets item.toList (closes_cons (c := ']') rest (by decide))
  obtain ⟨quote, later, hquoted, hquote⟩ := exists_quotedChars item.toList
  rw [hquoted, List.cons_append] at hlayout hitem
  rw [items?, hlayout]
  rcases hquote with rfl | rfl <;> simp [hitem, skipLayout_closing]

theorem items?_more (hlayout : skipLayout text = quotedChars item.toList ++ ',' :: rest)
    (hlength : rest.length < text.length) :
    items? (value? brackets) made text = items? (value? brackets) (made ++ [.text item]) rest := by
  have hitem := value?_quotedChars brackets item.toList (closes_cons (c := ',') rest (by decide))
  have hlater : skipLayout (',' :: rest) = ',' :: rest :=
    skipLayout_of_begins (begins_cons.mpr (by decide))
  obtain ⟨quote, later, hquoted, hquote⟩ := exists_quotedChars item.toList
  rw [hquoted, List.cons_append] at hlayout hitem
  rw [items?, hlayout]
  rcases hquote with rfl | rfl <;> simp [hitem, hlater, hlength]

end Items

theorem items?_lines (made : List Value) (items : List String) (rest : List Char) :
    items? (value? brackets) made ('\n' :: (items.flatMap itemLine ++ ']' :: rest)) =
      some (.array (made ++ items.map .text), rest) := by
  induction items generalizing made with
  | nil =>
    have hlayout : skipLayout ('\n' :: ']' :: rest) = ']' :: rest := by
      rw [skipLayout_newLine, skipLayout_closing]
    exact (items?_close made hlayout).trans (by simp)
  | cons item items ih =>
    have hlayout : skipLayout ('\n' :: ((item :: items).flatMap itemLine ++ ']' :: rest)) =
        quotedChars item.toList ++ ',' :: '\n' :: (items.flatMap itemLine ++ ']' :: rest) := by
      rw [skipLayout_newLine, List.flatMap_cons, itemLine]
      simp only [List.append_assoc]
      exact skipLayout_append (by decide) (begins_quotedChars ..)
    rw [items?_more made hlayout (by simp [itemLine]; omega), ih]
    simp

theorem toList_itemLine (item : String) :
    ("    " ++ quoted item ++ ",\n").toList = itemLine item := by
  simp [quoted, itemLine]

theorem value?_listed (brackets : Nat) (items : List String) (rest : List Char) :
    value? (brackets + 1) ((listed items).toList ++ rest) =
      some (.array (items.map .text), rest) := by
  match items with
  | [] => exact items?_close [] (skipLayout_closing rest)
  | [item] =>
    have htext : (listed [item]).toList ++ rest =
        '[' :: (quotedChars item.toList ++ ']' :: rest) := by
      simp [listed, quoted]
    rw [htext, value?]
    exact items?_last [] (skipLayout_of_begins (begins_quotedChars ..))
  | first :: second :: more =>
    have hlines : (String.join ((first :: second :: more).map fun item =>
        "    " ++ quoted item ++ ",\n")).toList = (first :: second :: more).flatMap itemLine := by
      rw [String.toList_join, List.flatMap_map]
      exact List.flatMap_congr fun item _ => toList_itemLine item
    have htext : (listed (first :: second :: more)).toList ++ rest =
        '[' :: '\n' :: ((first :: second :: more).flatMap itemLine ++ ']' :: rest) := by
      simp only [listed, String.toList_append, hlines]
      simp
    rw [htext, value?]
    exact items?_lines [] (first :: second :: more) rest

/-! ### Keys and headers -/

theorem not_isSpace_of_isBare {c : Char} (hbare : isBare c = true) : isSpace c = false := by
  rw [Bool.eq_false_iff]
  intro hspace
  simp only [isSpace, Bool.or_eq_true, beq_iff_eq] at hspace
  rcases hspace with rfl | rfl <;> cases hbare

/-- A name that needs no quotes. -/
def IsBareName (name : String) : Prop := name ≠ "" ∧ name.toList.all isBare = true

instance : DecidablePred IsBareName := fun _ => inferInstanceAs (Decidable (_ ∧ _))

section Names

variable {name : String} (hname : IsBareName name) {rest : List Char}

include hname

theorem isBare_of_bareName : ∀ c ∈ name.toList, isBare c = true := List.all_eq_true.mp hname.2

theorem exists_bareName : ∃ c later, name.toList = c :: later ∧ isBare c = true := by
  cases hchars : name.toList with
  | nil => exact absurd (String.toList_eq_nil_iff.mp hchars) hname.1
  | cons c later => exact ⟨c, later, rfl, isBare_of_bareName hname c (by simp [hchars])⟩

theorem begins_bareName (rest : List Char) : Begins (name.toList ++ rest) := by
  obtain ⟨c, later, hchars, hbare⟩ := exists_bareName hname
  rw [hchars, List.cons_append, begins_cons]
  refine ⟨not_isSpace_of_isBare hbare, ?_, ?_, ?_⟩ <;>
  · rintro rfl
    cases hbare

theorem simpleKey?_bareName {c : Char} (hend : isBare c = false) (rest : List Char) :
    simpleKey? (name.toList ++ c :: rest) = some (name, c :: rest) := by
  have hstop : ∀ d ∈ (c :: rest).head?, isBare d = false := by simpa using hend
  obtain ⟨first, later, hchars, -⟩ := exists_bareName hname
  have hbare := isBare_of_bareName hname
  rw [simpleKey?, Text.takeWhile_append_of_stop hbare hstop,
    Text.dropWhile_append_of_stop hbare hstop, ← String.ofList_toList (s := name), hchars]
  simp

theorem key?_bareName {c : Char} (hend : isBare c = false)
    (hdot : ∀ d ∈ (skipSpaces (c :: rest)).head?, d ≠ '.') :
    key? (name.toList ++ c :: rest) = some ([name], skipSpaces (c :: rest)) := by
  have hpath : path? (name.toList ++ c :: rest) = some ([name], skipSpaces (c :: rest)) := by
    have hspaces := skipSpaces_of_begins (begins_bareName hname (c :: rest))
    rw [path?, hspaces, simpleKey?_bareName hname hend]
    simp only [Option.bind_eq_bind, Option.bind_some]
    split
    case h_1 hsame => exact absurd rfl (hdot '.' (by rw [hsame]; rfl))
    case h_2 => rfl
  simp [key?, hpath, depthLimit]

theorem statement?_header (draft : Draft) (rest : List Char) :
    statement? draft ('[' :: (name.toList ++ ']' :: rest)) =
      (draft.open? [name] false).map (·, rest) := by
  have hkey : key? (name.toList ++ ']' :: rest) = some ([name], ']' :: rest) :=
    key?_bareName hname (by decide) (by simp [skipSpaces, isSpace])
  have hspaces : skipSpaces ('[' :: (name.toList ++ ']' :: rest)) =
      '[' :: (name.toList ++ ']' :: rest) := by
    simp [skipSpaces, isSpace]
  obtain ⟨first, later, hchars, hbare⟩ := exists_bareName hname
  have hone : first ≠ '[' := by
    rintro rfl
    cases hbare
  rw [hchars, List.cons_append] at hkey hspaces ⊢
  have hclosing : skipSpaces (']' :: rest) = ']' :: rest := by simp [skipSpaces, isSpace]
  rw [statement?, hspaces]
  split
  case h_1 hsame => exact absurd (List.cons.inj (List.cons.inj hsame).2).1 hone
  case h_2 hsame =>
    obtain rfl := (List.cons.inj hsame).2
    rw [hkey]
    simp only [hclosing, Option.bind_eq_bind, Option.bind_some]
    cases draft.open? [name] false <;> rfl
  case h_3 hother => exact absurd rfl (hother _)

theorem statement?_pair (draft : Draft) {value : Value} {written : List Char}
    (hvalue : value? (depthLimit - 1) (written ++ rest) = some (value, rest))
    (hbegins : Begins (written ++ rest)) :
    statement? draft (name.toList ++ ' ' :: '=' :: ' ' :: (written ++ rest)) =
      (draft.add? [name] value).map (·, rest) := by
  have hspaces :=
    skipSpaces_of_begins (begins_bareName hname (' ' :: '=' :: ' ' :: (written ++ rest)))
  have hpair : pair? (value? (depthLimit - 1))
      (name.toList ++ ' ' :: '=' :: ' ' :: (written ++ rest)) =
      some (([name], value), rest) := by
    have hsign : skipSpaces ('=' :: ' ' :: (written ++ rest)) =
        '=' :: ' ' :: (written ++ rest) := by
      simp [skipSpaces, isSpace]
    have hblank (text : List Char) : skipSpaces (' ' :: text) = skipSpaces text := by
      simp [skipSpaces, isSpace]
    have hwritten := skipSpaces_of_begins hbegins
    rw [pair?, key?_bareName hname (by decide) (by simp [hblank, hsign]), hblank, hsign]
    simp [hsign, hblank, hwritten, hvalue]
  obtain ⟨first, later, hchars, hbare⟩ := exists_bareName hname
  have hone : first ≠ '[' := by
    rintro rfl
    cases hbare
  rw [hchars, List.cons_append] at hspaces hpair ⊢
  rw [statement?, hspaces]
  split
  case h_1 hsame => exact absurd (List.cons.inj hsame).1 hone
  case h_2 hsame => exact absurd (List.cons.inj hsame).1 hone
  case h_3 =>
    simp only [hpair, Option.bind_eq_bind, Option.bind_some]
    cases draft.add? [name] value <;> rfl

end Names

/-! ### Tables -/

namespace Draft

variable {root before inner : Entries} {current : List String} {name key : String}

theorem find?_eq_none_of_new (hname : ∀ entry ∈ root, entry.1 ≠ name) :
    root.find? (·.1 = name) = none :=
  List.find?_eq_none.mpr fun entry hmem => by simpa using hname entry hmem

theorem any_eq_false_of_new (hname : ∀ entry ∈ root, entry.1 ≠ name) :
    root.any (·.1 = name) = false :=
  List.any_eq_false.mpr fun entry hmem => by simpa using hname entry hmem

/-- A header with a new name opens an empty table at the end. -/
theorem open?_of_new (hname : ∀ entry ∈ root, entry.1 ≠ name) :
    open? ⟨root, current⟩ [name] false = some ⟨root ++ [(name, .table .header [])], [name]⟩ := by
  simp [open?, Entries.changeAt?, Entries.open?, Entries.get?, find?_eq_none_of_new hname,
    Entries.put, any_eq_false_of_new hname]

/-- A setting with a new name stands at the end of the last table. -/
theorem add?_of_new (value : Value) (hname : ∀ entry ∈ before, entry.1 ≠ name)
    (hkey : ∀ entry ∈ inner, entry.1 ≠ key) :
    add? ⟨before ++ [(name, .table .header inner)], [name]⟩ [key] value =
      some ⟨before ++ [(name, .table .header (inner ++ [(key, value)]))], [name]⟩ := by
  have hget : Entries.get? (before ++ [(name, .table .header inner)]) name =
      some (.table .header inner) := by
    simp [Entries.get?, List.find?_append, find?_eq_none_of_new hname]
  have hadd : addPair? inner [key] value = some (inner ++ [(key, value)]) := by
    simp [addPair?, Entries.add?, any_eq_false_of_new hkey]
  have hput (last : Value) : Entries.put (before ++ [(name, .table .header inner)]) name last =
      before ++ [(name, last)] := by
    have hbefore : before.map (fun entry => if entry.1 = name then (name, last) else entry) =
        before := by
      rw [List.map_congr_left fun entry hmem => if_neg (hname entry hmem), List.map_id']
    simp [Entries.put, hbefore]
  simp [add?, Entries.changeAt?, hget, hadd, hput]

end Draft

/-! ### Lines -/

theorem endLine?_newLine (text : List Char) : endLine? ('\n' :: text) = some text := by
  simp [endLine?, skipSpaces, isSpace, skipComment, afterLineBreak?]

/-- One statement, with the end of its line and perhaps an empty line before it. -/
theorem lines?_statement {draft changed : Draft} {lead text rest : List Char}
    (hlead : lead = [] ∨ lead = ['\n']) (hbegins : Begins text)
    (hstatement : statement? draft text = some (changed, '\n' :: rest))
    (hlength : rest.length < text.length) :
    lines? draft (lead ++ text) = lines? changed rest := by
  have hlayout : skipLayout (lead ++ text) = text := by
    rcases hlead with rfl | rfl
    · exact skipLayout_of_begins hbegins
    · exact (skipLayout_newLine text).trans (skipLayout_of_begins hbegins)
  have hshorter : rest.length < (lead ++ text).length := by
    rw [List.length_append]
    omega
  obtain ⟨c, later, rfl, -⟩ := hbegins
  rw [lines?, hlayout]
  simp only [hstatement, endLine?_newLine, if_pos hshorter]

theorem lines?_nil (draft : Draft) : lines? draft [] = some draft.root := by
  rw [lines?]
  simp [skipLayout, skipSpaces, skipComment, afterLineBreak?]

/-! ### Documents -/

/-- A setting as it is written, with the value that it is read as. -/
structure Setting where
  name : String
  written : List Char
  value : Value

structure Section where
  name : String
  settings : List Setting

namespace Setting

def line (setting : Setting) : List Char :=
  setting.name.toList ++ ' ' :: '=' :: ' ' :: (setting.written ++ ['\n'])

def entry (setting : Setting) : String × Value := (setting.name, setting.value)

/-- The name needs no quotes, and what is written is read as the value up to the end of its line. -/
structure Legible (setting : Setting) : Prop where
  name : IsBareName setting.name
  begins (rest : List Char) : Begins (setting.written ++ '\n' :: rest)
  reads (rest : List Char) :
    value? (depthLimit - 1) (setting.written ++ '\n' :: rest) = some (setting.value, '\n' :: rest)

end Setting

namespace Section

def text (part : Section) : List Char :=
  '[' :: (part.name.toList ++ ']' :: '\n' :: part.settings.flatMap Setting.line)

def entry (part : Section) : String × Value :=
  (part.name, .table .header (part.settings.map Setting.entry))

structure Legible (part : Section) : Prop where
  name : IsBareName part.name
  settings : ∀ setting ∈ part.settings, setting.Legible
  nodup : (part.settings.map Setting.name).Nodup

end Section

/-- Sections one below the other, with an empty line between them. -/
def document (parts : List Section) : List Char := ['\n'].intercalate (parts.map Section.text)

theorem ne_of_nodup {entries : Entries} {name : String} {names : List String}
    (hnodup : (entries.map Prod.fst ++ name :: names).Nodup) :
    ∀ entry ∈ entries, entry.1 ≠ name :=
  fun _ hmem => (List.nodup_append.mp hnodup).2.2 _ (List.mem_map_of_mem hmem) _ List.mem_cons_self

theorem lines?_settings {before inner : Entries} {name : String} {settings : List Setting}
    (hname : ∀ entry ∈ before, entry.1 ≠ name)
    (hlegible : ∀ setting ∈ settings, setting.Legible)
    (hnodup : (inner.map Prod.fst ++ settings.map Setting.name).Nodup) (rest : List Char) :
    lines? ⟨before ++ [(name, .table .header inner)], [name]⟩
        (settings.flatMap Setting.line ++ rest) =
      lines? ⟨before ++ [(name, .table .header (inner ++ settings.map Setting.entry))], [name]⟩
        rest := by
  induction settings generalizing inner with
  | nil => simp
  | cons setting settings ih =>
    obtain ⟨hsetting, hsettings⟩ := List.forall_mem_cons.mp hlegible
    let later := settings.flatMap Setting.line ++ rest
    have htext : (setting :: settings).flatMap Setting.line ++ rest =
        setting.name.toList ++ ' ' :: '=' :: ' ' :: (setting.written ++ '\n' :: later) := by
      simp [Setting.line, later]
    have hadd := Draft.add?_of_new setting.value hname (ne_of_nodup hnodup)
    have hstatement := statement?_pair hsetting.name
      ⟨before ++ [(name, .table .header inner)], [name]⟩ (hsetting.reads later)
      (hsetting.begins later)
    rw [hadd, Option.map_some] at hstatement
    rw [htext, ← List.nil_append (setting.name.toList ++ _)]
    refine (lines?_statement (.inl rfl) (begins_bareName hsetting.name _) hstatement ?_).trans ?_
    · simp only [List.length_append, List.length_cons]
      omega
    · rw [ih hsettings (by simpa using hnodup)]
      simp [Setting.entry]

theorem lines?_section {part : Section} (hlegible : part.Legible) {lead : List Char}
    (hlead : lead = [] ∨ lead = ['\n']) {root : Entries} (current : List String)
    (hname : ∀ entry ∈ root, entry.1 ≠ part.name) (rest : List Char) :
    lines? ⟨root, current⟩ (lead ++ (part.text ++ rest)) =
      lines? ⟨root ++ [part.entry], [part.name]⟩ rest := by
  have htext : part.text ++ rest = '[' :: (part.name.toList ++ ']' :: '\n' ::
      (part.settings.flatMap Setting.line ++ rest)) := by
    simp [Section.text]
  have hstatement := statement?_header hlegible.name ⟨root, current⟩
    ('\n' :: (part.settings.flatMap Setting.line ++ rest))
  rw [Draft.open?_of_new hname, Option.map_some] at hstatement
  rw [htext]
  refine (lines?_statement hlead (begins_cons.mpr (by decide)) hstatement ?_).trans ?_
  · simp only [List.length_append, List.length_cons]
    omega
  · exact lines?_settings hname hlegible.settings (by simpa using hlegible.nodup) rest

theorem lines?_document {part : Section} {parts : List Section}
    (hlegible : ∀ other ∈ part :: parts, other.Legible) {lead : List Char}
    (hlead : lead = [] ∨ lead = ['\n']) {root : Entries} (current : List String)
    (hnodup : (root.map Prod.fst ++ (part :: parts).map Section.name).Nodup) :
    lines? ⟨root, current⟩ (lead ++ document (part :: parts)) =
      some (root ++ (part :: parts).map Section.entry) := by
  induction parts generalizing part lead root current with
  | nil =>
    have hpart := hlegible part List.mem_cons_self
    have htext : document [part] = part.text ++ [] := by simp [document, List.intercalate]
    rw [htext, lines?_section hpart hlead current (ne_of_nodup hnodup), lines?_nil]
    rfl
  | cons next parts ih =>
    obtain ⟨hpart, hparts⟩ := List.forall_mem_cons.mp hlegible
    have htext : document (part :: next :: parts) =
        part.text ++ (['\n'] ++ document (next :: parts)) := by
      rw [document, List.map_cons, List.map_cons, List.intercalate_cons_cons, List.append_assoc]
      rfl
    have hrest :
        ((root ++ [part.entry]).map Prod.fst ++ (next :: parts).map Section.name).Nodup := by
      simpa [Section.entry] using hnodup
    rw [htext, lines?_section hpart hlead current (ne_of_nodup hnodup),
      ih hparts (.inr rfl) [part.name] hrest]
    simp

/-- A document is read as the tables of its sections, in their order. -/
theorem read?_document {part : Section} {parts : List Section}
    (hlegible : ∀ other ∈ part :: parts, other.Legible)
    (hnodup : ((part :: parts).map Section.name).Nodup) :
    read? (String.ofList (document (part :: parts))) =
      some ((part :: parts).map Section.entry) := by
  have hmark : withoutMark (document (part :: parts)) = document (part :: parts) := by
    cases parts <;> rfl
  rw [read?, String.toList_ofList, hmark]
  exact lines?_document hlegible (.inl rfl) [] hnodup

end ApiDrift.Toml
