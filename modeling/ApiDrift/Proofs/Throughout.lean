import ApiDrift.Proofs.Position

/-!
# Codebases related entity by entity

Two codebases are of one form when something stands in the one wherever something stands in the other. A relation between entities then holds throughout if it holds at every position. Put the other way, it holds of the entities under each key, and throughout the shelves they have.
-/

namespace ApiDrift

theorem optionRel_iff {α β : Type} {related : α → β → Prop} {a? : Option α} {b? : Option β} :
    Option.Rel related a? b? ↔ a? = none ∧ b? = none ∨
      ∃ a b, a? = some a ∧ b? = some b ∧ related a b := by
  constructor
  · rintro (hrelated | -)
    · exact Or.inr ⟨_, _, rfl, rfl, hrelated⟩
    · exact Or.inl ⟨rfl, rfl⟩
  · rintro (⟨rfl, rfl⟩ | ⟨a, b, rfl, rfl, hrelated⟩)
    · exact .none
    · exact .some hrelated

theorem isSome_eq_of_optionRel {α β : Type} {related : α → β → Prop} {a? : Option α}
    {b? : Option β} (hrelated : Option.Rel related a? b?) : a?.isSome = b?.isSome := by
  cases hrelated <;> rfl

theorem optionRel_bind {α β γ δ : Type} {related : α → β → Prop} {related' : γ → δ → Prop}
    {a? : Option α} {b? : Option β} {next : α → Option γ} {next' : β → Option δ}
    (hrelated : Option.Rel related a? b?)
    (hnext : ∀ a b, related a b → Option.Rel related' (next a) (next' b)) :
    Option.Rel related' (a?.bind next) (b?.bind next') := by
  cases hrelated with
  | none => exact .none
  | some hab => exact hnext _ _ hab

/-- What a unit has on a shelf, and nothing for other entities. -/
def Entity.shelf (entity : Entity) (shelf : Shelf) : Codebase := (entity.children? shelf).getD .nil

namespace Codebase

/-- At every position there stands nothing on either side, or there stand two entities that are related. -/
def Throughout (related : Entity → Entity → Prop) (first second : Codebase) : Prop :=
  ∀ position, Option.Rel related (first.at? position) (second.at? position)

end Codebase

/-- Two entities are related, and so is everything on their shelves. -/
def Entity.Throughout (related : Entity → Entity → Prop) (a b : Entity) : Prop :=
  related a b ∧ ∀ shelf, Codebase.Throughout related (a.shelf shelf) (b.shelf shelf)

namespace Codebase

variable {related : Entity → Entity → Prop} {first second : Codebase}

theorem at?_top (codebase : Codebase) (key : String) : codebase.at? ⟨key, []⟩ = codebase.get? key :=
  Option.bind_fun_some _

theorem at?_cons (codebase : Codebase) (key : String) (turn : Turn) (turns : List Turn) :
    codebase.at? ⟨key, turn :: turns⟩ =
      (codebase.get? key).bind fun entity => (entity.shelf turn.shelf).at? ⟨turn.key, turns⟩ := by
  refine congrArg (codebase.get? key).bind (funext fun entity => ?_)
  rw [Entity.below?, Entity.child?, Entity.shelf, at?]
  cases entity.children? turn.shelf <;> rfl

theorem throughout_iff : Throughout related first second ↔
    ∀ key, Option.Rel (Entity.Throughout related) (first.get? key) (second.get? key) := by
  constructor
  · intro h key
    have htop := h ⟨key, []⟩
    rw [at?_top, at?_top] at htop
    rcases optionRel_iff.mp htop with ⟨hfirst, hsecond⟩ | ⟨a, b, hfirst, hsecond, hrelated⟩
    · rw [hfirst, hsecond]
      exact .none
    · rw [hfirst, hsecond]
      refine .some ⟨hrelated, fun shelf position => ?_⟩
      have hbelow := h ⟨key, ⟨shelf, position.key⟩ :: position.turns⟩
      rwa [at?_cons, at?_cons, hfirst, hsecond] at hbelow
  · rintro h ⟨key, turns⟩
    rcases optionRel_iff.mp (h key) with ⟨hfirst, hsecond⟩ | ⟨a, b, hfirst, hsecond, hboth⟩
    · rw [at?, at?, hfirst, hsecond]
      exact .none
    · cases turns with
      | nil =>
        rw [at?_top, at?_top, hfirst, hsecond]
        exact .some hboth.1
      | cons turn turns =>
        rw [at?_cons, at?_cons, hfirst, hsecond]
        exact hboth.2 turn.shelf ⟨turn.key, turns⟩

theorem throughout_nil : Throughout related .nil .nil := fun _ => .none

theorem throughout_single {key : String} {a b : Entity} (hrelated : related a b)
    (hshelves : ∀ shelf, Throughout related (a.shelf shelf) (b.shelf shelf)) :
    Throughout related (.cons key trivial a .nil) (.cons key trivial b .nil) := by
  rw [throughout_iff]
  intro other
  change Option.Rel _ (if other = key then some a else none) (if other = key then some b else none)
  split
  · exact .some ⟨hrelated, hshelves⟩
  · exact .none

end Codebase

theorem Entity.child?_eq_get? (entity : Entity) (turn : Turn) :
    entity.child? turn = (entity.shelf turn.shelf).get? turn.key := by
  rw [child?, shelf]
  cases entity.children? turn.shelf <;> rfl

theorem Entity.Throughout.child? {related : Entity → Entity → Prop} {a b : Entity}
    (hrelated : a.Throughout related b) (turn : Turn) :
    Option.Rel (Entity.Throughout related) (a.child? turn) (b.child? turn) := by
  rw [child?_eq_get?, child?_eq_get?]
  exact Codebase.throughout_iff.mp (hrelated.2 turn.shelf) turn.key

end ApiDrift
