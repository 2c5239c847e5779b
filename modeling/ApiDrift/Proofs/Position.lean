import ApiDrift.Comparison
import ApiDrift.Proofs.Keyed.Lookup
import ApiDrift.Proofs.Text.ByteOrder
import Mathlib.Data.List.Lex

/-!
# Positions and what stands there

A position is a place in a codebase: a key at the top, and then turns, each to a shelf and a key on it. Positions know nothing of names; paths are made of names. What a comparison sees at a position is a site: the entities that stand there on either side, and the path of the unit they stand in, which is made of the names on the new side.

A position is live when the comparison goes in everywhere above it. It goes into a pair of units unless the ignore policy leaves them out.
-/

namespace ApiDrift

/-- From an entity down to one of its children. -/
structure Turn where
  shelf : Shelf
  key : String
  deriving DecidableEq

structure Position where
  key : String
  turns : List Turn
  deriving DecidableEq

namespace Entity

def child? (entity : Entity) (turn : Turn) : Option Entity :=
  (entity.children? turn.shelf).bind (·.get? turn.key)

def below? (entity : Entity) : List Turn → Option Entity
  | [] => some entity
  | turn :: turns => (entity.child? turn).bind (·.below? turns)

theorem kind_of_child? {entity child : Entity} {turn : Turn}
    (hchild : entity.child? turn = some child) : entity.kind = .unit := by
  obtain ⟨shelf, key⟩ := turn
  cases entity with
  | unit => rfl
  | field | function => cases shelf <;> cases hchild

end Entity

/-- The entity at a position, if there is one. -/
def Codebase.at? (codebase : Codebase) (position : Position) : Option Entity :=
  (codebase.get? position.key).bind (·.below? position.turns)

/-! ### Order -/

def Shelf.rank : Shelf → Nat
  | fields => 0
  | functions => 1
  | units => 2

/-- By shelf, and on one shelf by the bytes of the key. -/
def Turn.Before (first second : Turn) : Prop :=
  first.shelf.rank < second.shelf.rank ∨
    first.shelf = second.shelf ∧ Text.bytes first.key < Text.bytes second.key

/-- By the bytes of the key and then turn by turn; an entity stands before what is below it. -/
def Position.Before (first second : Position) : Prop :=
  Text.bytes first.key < Text.bytes second.key ∨
    first.key = second.key ∧ List.Lex Turn.Before first.turns second.turns

instance : Std.Asymm Turn.Before where
  asymm first second := by
    rintro (hrank | ⟨hshelf, hkey⟩) (hback | ⟨hshelfBack, hkeyBack⟩)
    · exact absurd hrank hback.asymm
    · exact absurd hrank (hshelfBack ▸ lt_irrefl _)
    · exact absurd hback (hshelf ▸ lt_irrefl _)
    · rw [Text.bytes_lt_bytes_iff] at hkey hkeyBack
      exact absurd hkey hkeyBack.asymm

instance : Std.Asymm Position.Before where
  asymm first second := by
    rintro (hkey | ⟨hsame, hturns⟩) (hback | ⟨hsameBack, hturnsBack⟩)
    · rw [Text.bytes_lt_bytes_iff] at hkey hback
      exact absurd hkey hback.asymm
    · rw [hsameBack, Text.bytes_lt_bytes_iff] at hkey
      exact absurd hkey (lt_irrefl _)
    · rw [hsame, Text.bytes_lt_bytes_iff] at hback
      exact absurd hback (lt_irrefl _)
    · exact absurd hturnsBack (Std.Asymm.asymm _ _ hturns)

/-! ### Sites -/

/-- What a comparison sees at a position. -/
structure Site where
  parentPath : String
  key : String
  old? : Option Entity
  new? : Option Entity

namespace Site

def top (path : String) (old new : Codebase) (key : String) : Site :=
  ⟨path, key, old.get? key, new.get? key⟩

/-- A pair is found at the name of the new entity, an entity on one side only at its key. -/
def path (site : Site) : String :=
  match site.old?, site.new? with
  | some _, some new => Path.join site.parentPath new.name
  | _, _ => Path.join site.parentPath site.key

def child (site : Site) (turn : Turn) : Site :=
  ⟨site.path, turn.key, site.old?.bind (·.child? turn), site.new?.bind (·.child? turn)⟩

def below (site : Site) : List Turn → Site
  | [] => site
  | turn :: turns => (site.child turn).below turns

/-- Something stands there on one side at least. -/
def Present (site : Site) : Prop := site.old?.isSome ∨ site.new?.isSome

theorem present_of_child {site : Site} {turn : Turn} (hchild : (site.child turn).Present) :
    site.Present :=
  hchild.imp Option.isSome_of_isSome_bind Option.isSome_of_isSome_bind

/-- Something stands above whatever is present. -/
theorem present_of_below {site : Site} {turns : List Turn} (hbelow : (site.below turns).Present) :
    site.Present := by
  induction turns generalizing site with
  | nil => exact hbelow
  | cons turn turns ih => exact present_of_child (ih hbelow)

theorem old?_below (site : Site) (turns : List Turn) :
    (site.below turns).old? = site.old?.bind (·.below? turns) := by
  induction turns generalizing site with
  | nil => exact (Option.bind_fun_some site.old?).symm
  | cons turn turns ih =>
    rw [below, ih, child, Option.bind_assoc]
    rfl

theorem new?_below (site : Site) (turns : List Turn) :
    (site.below turns).new? = site.new?.bind (·.below? turns) := by
  induction turns generalizing site with
  | nil => exact (Option.bind_fun_some site.new?).symm
  | cons turn turns ih =>
    rw [below, ih, child, Option.bind_assoc]
    rfl

/-- A pair of units the comparison goes into. A unit without a name cannot be ignored. -/
def Opened (policy : Policy) (site : Site) : Prop :=
  ∃ old new, site.old? = some old ∧ site.new? = some new ∧ old.kind = .unit ∧ new.kind = .unit ∧
    (new.name = "" ∨ policy site.path = .ok false)

/-- The comparison goes in everywhere on the way. -/
def Reached (policy : Policy) (site : Site) (turns : List Turn) : Prop :=
  ∀ way, way <+: turns → way ≠ turns → (site.below way).Opened policy

theorem reached_nil (policy : Policy) (site : Site) : site.Reached policy [] := by
  intro way hprefix hne
  exact absurd (List.prefix_nil.mp hprefix) hne

theorem reached_cons {policy : Policy} {site : Site} {turn : Turn} {turns : List Turn} :
    site.Reached policy (turn :: turns) ↔
      site.Opened policy ∧ (site.child turn).Reached policy turns := by
  constructor
  · intro h
    refine ⟨h [] List.nil_prefix (by simp), fun way hprefix hne => ?_⟩
    exact h (turn :: way) ((List.prefix_cons_inj turn).mpr hprefix) (by simpa using hne)
  · rintro ⟨hopened, hreached⟩ way hprefix hne
    cases way with
    | nil => exact hopened
    | cons first rest =>
      obtain ⟨rfl, hrest⟩ := List.cons_prefix_cons.mp hprefix
      exact hreached rest hrest (by simpa using hne)

theorem below_concat (site : Site) (turns : List Turn) (last : Turn) :
    site.below (turns ++ [last]) = (site.below turns).child last := by
  induction turns generalizing site with
  | nil => rfl
  | cons turn turns ih => exact ih (site.child turn)

theorem reached_concat {policy : Policy} {site : Site} {turns : List Turn} {last : Turn} :
    site.Reached policy (turns ++ [last]) ↔
      site.Reached policy turns ∧ (site.below turns).Opened policy := by
  constructor
  · intro h
    have hlast : turns ≠ turns ++ [last] := by simp
    refine ⟨fun way hbegins hne => ?_, h turns (List.prefix_append _ _) hlast⟩
    refine h way (hbegins.trans (List.prefix_append _ _)) ?_
    rintro rfl
    exact absurd hbegins.length_le (by simp)
  · rintro ⟨hreached, hopened⟩ way hbegins hne
    by_cases hway : way = turns
    · exact hway ▸ hopened
    · exact hreached way ((List.prefix_concat_iff.mp hbegins).resolve_left hne) hway

end Site

/-! ### Live positions -/

/-- What stands at a position of two codebases. -/
def Codebase.site (old new : Codebase) (position : Position) : Site :=
  (Site.top "" old new position.key).below position.turns

theorem Codebase.old?_site (old new : Codebase) (position : Position) :
    (Codebase.site old new position).old? = old.at? position := Site.old?_below _ _

theorem Codebase.new?_site (old new : Codebase) (position : Position) :
    (Codebase.site old new position).new? = new.at? position := Site.new?_below _ _

namespace Position

/-- A proper beginning of a position. -/
def Above (above position : Position) : Prop :=
  above.key = position.key ∧ above.turns <+: position.turns ∧ above ≠ position

/-- The comparison of two codebases goes in everywhere above the position. -/
def Live (policy : Policy) (old new : Codebase) (position : Position) : Prop :=
  ∀ above : Position, above.Above position → (Codebase.site old new above).Opened policy

theorem live_iff_reached {policy : Policy} {old new : Codebase} {position : Position} :
    position.Live policy old new ↔
      (Site.top "" old new position.key).Reached policy position.turns := by
  obtain ⟨key, turns⟩ := position
  constructor
  · intro h way hprefix hne
    exact h ⟨key, way⟩ ⟨rfl, hprefix, by simpa using hne⟩
  · rintro h ⟨_, way⟩ ⟨rfl, hprefix, hne⟩
    exact h way hprefix (by simpa using hne)

theorem live_concat {policy : Policy} {old new : Codebase} {key : String} {turns : List Turn}
    {last : Turn} :
    Live policy old new ⟨key, turns ++ [last]⟩ ↔
      Live policy old new ⟨key, turns⟩ ∧ (Codebase.site old new ⟨key, turns⟩).Opened policy := by
  rw [live_iff_reached, live_iff_reached]
  exact Site.reached_concat

end Position

end ApiDrift
