import ApiDrift.Json.Rejection
import ApiDrift.Json.Writing
import ApiDrift.Proofs.Json.Number
import ApiDrift.Proofs.Json.Text

/-!
# Trees read back

A tree is whole if it is a JSON value: it is cut nowhere, every member has a name, and its numbers can be spelt and are not too large. Whichever way a whole tree is written, the text has the tokens of the tree, and these are put together to the same tree again.
-/

namespace ApiDrift

mutual

def Json.Whole : Json → Prop
  | .null | .bool _ | .text _ => True
  | .number numeral => numeral.Proper ∧ Json.isTooLarge numeral = false
  | .array items => items.Whole
  | .object members => members.Whole
  | .unpaired | .cut _ => False

def Json.Items.Whole : Json.Items → Prop
  | .done => True
  | .cut _ => False
  | .cons item rest => item.Whole ∧ rest.Whole

def Json.Members.Whole : Json.Members → Prop
  | .done => True
  | .cut _ | .comma _ | .nameless _ _ => False
  | .cons _ value rest => value.Whole ∧ rest.Whole

end

mutual

/-- The tokens of the text of a tree. -/
def Json.tokens : Json → List Json.Token
  | .array items => .arrayStart :: (items.tokens true ++ [.arrayEnd])
  | .object members => .objectStart :: (members.tokens true ++ [.objectEnd])
  | scalar => [.scalar scalar]

def Json.Items.tokens (first : Bool) : Json.Items → List Json.Token
  | .cons item rest => (if first then [] else [.comma]) ++ item.tokens ++ rest.tokens false
  | _ => []

def Json.Members.tokens (first : Bool) : Json.Members → List Json.Token
  | .cons key value rest =>
    (if first then [] else [.comma]) ++ .scalar (.text key) :: .colon :: value.tokens ++
      rest.tokens false
  | _ => []

end

namespace Json

/-! ### Tokens one by one -/

namespace Token

variable (rest : List Char)

theorem all_space {c : Char} (hspace : isSpace c) : all (c :: rest) = all rest := by
  rw [all, if_pos hspace]

theorem all_token {c : Char} (hspace : isSpace c = false) :
    all (c :: rest) = (read c rest).1 :: all (read c rest).2 := by
  rw [all, hspace]
  rfl

@[simp] theorem all_arrayStart : all ('[' :: rest) = .arrayStart :: all rest := all_token rest rfl

@[simp] theorem all_arrayEnd : all (']' :: rest) = .arrayEnd :: all rest := all_token rest rfl

@[simp] theorem all_objectStart : all ('\x7b' :: rest) = .objectStart :: all rest :=
  all_token rest rfl

@[simp] theorem all_objectEnd : all ('\x7d' :: rest) = .objectEnd :: all rest := all_token rest rfl

@[simp] theorem all_comma : all (',' :: rest) = .comma :: all rest := all_token rest rfl

@[simp] theorem all_colon : all (':' :: rest) = .colon :: all rest := all_token rest rfl

@[simp] theorem all_blank : all (' ' :: rest) = all rest := all_space rest rfl

@[simp] theorem all_newLine (depth : Nat) : all (newLine depth ++ rest) = all rest := by
  have hblanks : ∀ count, all (List.replicate count ' ' ++ rest) = all rest := by
    intro count
    induction count with
    | zero => rfl
    | succ count ih => rw [List.replicate_succ, List.cons_append, all_blank, ih]
  rw [newLine, List.cons_append, all_space _ rfl, hblanks]

@[simp] theorem all_quoted (text : String) :
    all (quoted text ++ rest) = .scalar (.text text) :: all rest := by
  have hread : read '"' (text.toList.flatMap escaped ++ '"' :: rest) =
      (.scalar (.text text), rest) := by
    change (scalar (readText {} _).1, (readText {} _).2) = _
    rw [readText_quoted]
  rw [quoted, List.cons_append, List.append_assoc, all_token _ rfl, List.singleton_append, hread]

@[simp] theorem all_null : all ("null".toList ++ rest) = .scalar .null :: all rest := by
  have hchars : "null".toList = ['n', 'u', 'l', 'l'] := by decide
  rw [hchars]
  exact all_token _ rfl

@[simp] theorem all_bool (value : Bool) :
    all ((if value then "true" else "false").toList ++ rest) = .scalar (.bool value) :: all rest := by
  have htrue : "true".toList = ['t', 'r', 'u', 'e'] := by decide
  have hfalse : "false".toList = ['f', 'a', 'l', 's', 'e'] := by decide
  cases value with
  | true =>
    rw [if_pos rfl, htrue]
    exact all_token _ rfl
  | false =>
    rw [if_neg Bool.false_ne_true, hfalse]
    exact all_token _ rfl

variable {rest}

theorem read_of_isDigit {c : Char} (hdigit : c.isDigit) (rest : List Char) :
    read c rest = (scalar (numberOrCut (readNumber false (c :: rest))).1,
      (numberOrCut (readNumber false (c :: rest))).2) := by
  have hscalar : readScalar c rest = numberOrCut (readNumber false (c :: rest)) := by
    unfold readScalar
    split
    case h_6 => exact if_pos hdigit
    all_goals exact absurd hdigit (by decide)
  unfold read
  split
  case h_7 => rw [hscalar]
  all_goals exact absurd hdigit (by decide)

theorem isSpace_of_isDigit {c : Char} (hdigit : c.isDigit) : isSpace c = false := by
  have hne : ∀ space : Char, space.isDigit = false → (c == space) = false := by
    intro space hspace
    rw [beq_eq_false_iff_ne]
    rintro rfl
    rw [hspace] at hdigit
    cases hdigit
  rw [isSpace, hne ' ' rfl, hne '\n' rfl, hne '\t' rfl, hne '\r' rfl]
  rfl

theorem all_number {numeral : Decimal.Numeral} (hproper : numeral.Proper) (hrest : Stops rest) :
    all (numeral.text.toList ++ rest) = .scalar (.number numeral) :: all rest := by
  have hread := readNumber_append hproper hrest
  obtain ⟨negative, whole, fraction, power⟩ := numeral
  rw [toList_text]
  cases negative with
  | true =>
    have htoken : ∀ later, read '-' later = (scalar (numberOrCut (readNumber true later)).1,
        (numberOrCut (readNumber true later)).2) := fun _ => rfl
    rw [if_pos rfl, List.append_assoc, List.singleton_append, all_token _ rfl, htoken, hread]
    rfl
  | false =>
    obtain ⟨c, digits, rfl⟩ := List.exists_cons_of_ne_nil hproper.whole.1
    have hdigit : c.isDigit := hproper.whole.2 c List.mem_cons_self
    rw [List.cons_append, List.cons_append] at hread
    rw [if_neg Bool.false_ne_true, List.nil_append, List.cons_append, List.cons_append,
      all_token _ (isSpace_of_isDigit hdigit), read_of_isDigit hdigit, hread]
    rfl

end Token

/-! ### The tokens of a written tree -/

theorem stops_cons {c : Char} (rest : List Char)
    (hc : c.isDigit = false ∧ c ≠ '.' ∧ c ≠ 'e' ∧ c ≠ 'E') : Stops (c :: rest) := by
  intro other hother
  obtain rfl := Option.some.inj hother
  exact hc

theorem Items.stops_compactChars (items : Items) {rest : List Char} (hrest : Stops rest) :
    Stops (items.compactChars false ++ rest) := by
  cases items with
  | done | cut => exact hrest
  | cons item later => exact stops_cons _ (by decide)

theorem Members.stops_compactChars {members : Members} (hwhole : members.Whole)
    {rest : List Char} (hrest : Stops rest) : Stops (members.compactChars false ++ rest) := by
  cases members with
  | done => exact hrest
  | cons key value later => exact stops_cons _ (by decide)
  | cut | comma | nameless => exact hwhole.elim

theorem Items.stops_prettyChars {items : Items} (hwhole : items.Whole) (depth : Nat)
    (rest : List Char) : Stops (items.prettyChars depth ++ rest) := by
  cases items with
  | done | cons => exact stops_cons _ (by decide)
  | cut => exact hwhole.elim

theorem Members.stops_prettyChars {members : Members} (hwhole : members.Whole) (depth : Nat)
    (rest : List Char) : Stops (members.prettyChars depth ++ rest) := by
  cases members with
  | done | cons => exact stops_cons _ (by decide)
  | cut | comma | nameless => exact hwhole.elim

end Json

mutual

theorem Json.all_compactChars : (json : Json) → json.Whole → (rest : List Char) →
    Json.Stops rest →
    Json.Token.all (json.compactChars ++ rest) = json.tokens ++ Json.Token.all rest
  | .null, _, rest, _ => Json.Token.all_null rest
  | .bool value, _, rest, _ => Json.Token.all_bool rest value
  | .number numeral, hwhole, rest, hrest => Json.Token.all_number hwhole.1 hrest
  | .text value, _, rest, _ => Json.Token.all_quoted rest value
  | .array items, hwhole, rest, _ => by
    have hitems := items.all_compactChars hwhole true (']' :: rest) (Json.stops_cons _ (by decide))
    simp [Json.compactChars, Json.tokens, hitems]
  | .object members, hwhole, rest, _ => by
    have hmembers := members.all_compactChars hwhole true ('\x7d' :: rest)
      (Json.stops_cons _ (by decide))
    simp [Json.compactChars, Json.tokens, hmembers]

theorem Json.Items.all_compactChars : (items : Json.Items) → items.Whole → (first : Bool) →
    (rest : List Char) → Json.Stops rest →
    Json.Token.all (items.compactChars first ++ rest) = items.tokens first ++ Json.Token.all rest
  | .done, _, _, _, _ => rfl
  | .cons item later, hwhole, first, rest, hrest => by
    have hlater := later.all_compactChars hwhole.2 false rest hrest
    have hitem := item.all_compactChars hwhole.1 (later.compactChars false ++ rest)
      (later.stops_compactChars hrest)
    cases first <;> simp [Json.Items.compactChars, Json.Items.tokens, hitem, hlater]

theorem Json.Members.all_compactChars : (members : Json.Members) → members.Whole →
    (first : Bool) → (rest : List Char) → Json.Stops rest →
    Json.Token.all (members.compactChars first ++ rest) =
      members.tokens first ++ Json.Token.all rest
  | .done, _, _, _, _ => rfl
  | .cons key value later, hwhole, first, rest, hrest => by
    have hlater := later.all_compactChars hwhole.2 false rest hrest
    have hvalue := value.all_compactChars hwhole.1 (later.compactChars false ++ rest)
      (Json.Members.stops_compactChars hwhole.2 hrest)
    cases first <;> simp [Json.Members.compactChars, Json.Members.tokens, hvalue, hlater]

end

mutual

theorem Json.all_prettyChars : (json : Json) → json.Whole → (depth : Nat) → (rest : List Char) →
    Json.Stops rest →
    Json.Token.all (json.prettyChars depth ++ rest) = json.tokens ++ Json.Token.all rest
  | .null, hwhole, depth, rest, hrest => Json.all_compactChars .null hwhole rest hrest
  | .bool value, hwhole, depth, rest, hrest => Json.all_compactChars (.bool value) hwhole rest hrest
  | .number numeral, hwhole, depth, rest, hrest =>
    Json.all_compactChars (.number numeral) hwhole rest hrest
  | .text value, hwhole, depth, rest, hrest => Json.all_compactChars (.text value) hwhole rest hrest
  | .array .done, hwhole, depth, rest, hrest =>
    Json.all_compactChars (.array .done) hwhole rest hrest
  | .array (.cons item later), hwhole, depth, rest, _ => by
    have hlater := later.all_prettyChars hwhole.2 depth rest
    have hitem := item.all_prettyChars hwhole.1 (depth + 1) (later.prettyChars depth ++ rest)
      (Json.Items.stops_prettyChars hwhole.2 depth rest)
    simp [Json.prettyChars, Json.tokens, Json.Items.tokens, hitem, hlater]
  | .object .done, hwhole, depth, rest, hrest =>
    Json.all_compactChars (.object .done) hwhole rest hrest
  | .object (.cons key value later), hwhole, depth, rest, _ => by
    have hlater := later.all_prettyChars hwhole.2 depth rest
    have hvalue := value.all_prettyChars hwhole.1 (depth + 1) (later.prettyChars depth ++ rest)
      (Json.Members.stops_prettyChars hwhole.2 depth rest)
    simp [Json.prettyChars, Json.tokens, Json.Members.tokens, hvalue, hlater]

/-- Further items are written with the bracket that closes them. -/
theorem Json.Items.all_prettyChars : (items : Json.Items) → items.Whole → (depth : Nat) →
    (rest : List Char) →
    Json.Token.all (items.prettyChars depth ++ rest) =
      items.tokens false ++ .arrayEnd :: Json.Token.all rest
  | .done, _, depth, rest => by simp [Json.Items.prettyChars, Json.Items.tokens]
  | .cons item later, hwhole, depth, rest => by
    have hlater := later.all_prettyChars hwhole.2 depth rest
    have hitem := item.all_prettyChars hwhole.1 (depth + 1) (later.prettyChars depth ++ rest)
      (Json.Items.stops_prettyChars hwhole.2 depth rest)
    simp [Json.Items.prettyChars, Json.Items.tokens, hitem, hlater]

theorem Json.Members.all_prettyChars : (members : Json.Members) → members.Whole → (depth : Nat) →
    (rest : List Char) →
    Json.Token.all (members.prettyChars depth ++ rest) =
      members.tokens false ++ .objectEnd :: Json.Token.all rest
  | .done, _, depth, rest => by simp [Json.Members.prettyChars, Json.Members.tokens]
  | .cons key value later, hwhole, depth, rest => by
    have hlater := later.all_prettyChars hwhole.2 depth rest
    have hvalue := value.all_prettyChars hwhole.1 (depth + 1) (later.prettyChars depth ++ rest)
      (Json.Members.stops_prettyChars hwhole.2 depth rest)
    simp [Json.Members.prettyChars, Json.Members.tokens, hvalue, hlater]

end

/-! ### Putting the tokens together -/

/-- An array that is not empty begins with a value. -/
theorem Json.assemble_firstItem (item : Json) (stack : List Json.Frame) (later : List Json.Token) :
    Json.assemble .firstItem stack (item.tokens ++ later) =
      Json.assemble .value (.item [] :: stack) (item.tokens ++ later) := by
  cases item <;> rfl

mutual

theorem Json.assemble_tokens : (json : Json) → json.Whole → (stack : List Json.Frame) →
    (later : List Json.Token) →
    Json.assemble .value stack (json.tokens ++ later) = Json.assemble (.after json) stack later
  | .null, _, _, _ => rfl
  | .bool _, _, _, _ => rfl
  | .number _, _, _, _ => rfl
  | .text _, _, _, _ => rfl
  | .array .done, _, _, _ => rfl
  | .array (.cons item rest), hwhole, stack, later => by
    -- The bracket is taken, and what comes next may be the first item or the end.
    change Json.assemble .firstItem stack
      (([] ++ item.tokens ++ rest.tokens false ++ [.arrayEnd]) ++ later) = _
    rw [List.nil_append, List.append_assoc, List.append_assoc, Json.assemble_firstItem,
      item.assemble_tokens hwhole.1]
    exact rest.assemble_tokens hwhole.2 item [] stack later
  | .object .done, _, _, _ => rfl
  | .object (.cons key value rest), hwhole, stack, later => by
    change Json.assemble .value (.member [] (some key) :: stack)
      ((value.tokens ++ rest.tokens false ++ [.objectEnd]) ++ later) = _
    rw [List.append_assoc, List.append_assoc, value.assemble_tokens hwhole.1]
    exact rest.assemble_tokens hwhole.2 key value [] stack later

/-- What follows the first item goes behind the items read so far. -/
theorem Json.Items.assemble_tokens : (items : Json.Items) → items.Whole → (value : Json) →
    (before : List Json) → (stack : List Json.Frame) → (later : List Json.Token) →
    Json.assemble (.after value) (.item before :: stack)
        (items.tokens false ++ .arrayEnd :: later) =
      Json.assemble (.after (.array (.ofList (value :: before).reverse items))) stack later
  | .done, _, _, _, _, _ => rfl
  | .cons item rest, hwhole, value, before, stack, later => by
    change Json.assemble .value (.item (value :: before) :: stack)
      ((item.tokens ++ rest.tokens false) ++ .arrayEnd :: later) = _
    rw [List.append_assoc, item.assemble_tokens hwhole.1,
      rest.assemble_tokens hwhole.2 item (value :: before) stack later, List.reverse_cons]
    simp [Json.Items.ofList]

theorem Json.Members.assemble_tokens : (members : Json.Members) → members.Whole →
    (key : String) → (value : Json) → (before : List (Option String × Json)) →
    (stack : List Json.Frame) → (later : List Json.Token) →
    Json.assemble (.after value) (.member before (some key) :: stack)
        (members.tokens false ++ .objectEnd :: later) =
      Json.assemble (.after (.object (.behind ((some key, value) :: before) members))) stack later
  | .done, _, _, _, _, _, _ => rfl
  | .cons next found rest, hwhole, key, value, before, stack, later => by
    change Json.assemble .value (.member ((some key, value) :: before) (some next) :: stack)
      ((found.tokens ++ rest.tokens false) ++ .objectEnd :: later) = _
    rw [List.append_assoc, found.assemble_tokens hwhole.1]
    exact rest.assemble_tokens hwhole.2 next found ((some key, value) :: before) stack later

end

namespace Json

theorem read_of_tokens {json : Json} (hwhole : json.Whole) {text : List Char}
    (htokens : Token.all text = json.tokens) : read text = ⟨json, false⟩ := by
  rw [read, htokens, ← List.append_nil json.tokens, json.assemble_tokens hwhole]
  rfl

/-- Written on one line, a whole tree is read back. -/
theorem read_compact {json : Json} (hwhole : json.Whole) :
    read json.compact.toList = ⟨json, false⟩ := by
  have htokens := json.all_compactChars hwhole [] (fun _ h => nomatch h)
  rw [List.append_nil, Token.all, List.append_nil] at htokens
  exact read_of_tokens hwhole (by rw [compact, String.toList_ofList, htokens])

/-- Written on many lines, it is read back as well. -/
theorem read_pretty {json : Json} (hwhole : json.Whole) :
    read json.pretty.toList = ⟨json, false⟩ := by
  have htokens := json.all_prettyChars hwhole 0 [] (fun _ h => nomatch h)
  rw [List.append_nil, Token.all, List.append_nil] at htokens
  exact read_of_tokens hwhole (by rw [pretty, String.toList_ofList, htokens])

end Json

end ApiDrift
