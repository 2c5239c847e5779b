import ApiDrift.Proofs.Position

/-!
# Tours

A tour goes from a site to everything a comparison reaches below it, an entity before what it holds. It is where the walk of two trees and the list of live positions meet: the tour lists the turns to the live positions, each once and in order, and it recurses as the walk does.
-/

namespace ApiDrift

theorem Keyed.sizeOf_get? {low : Option String} (entries : Keyed Entity low) {key : String}
    {entity : Entity} (hget : entries.get? key = some entity) : sizeOf entity < sizeOf entries := by
  induction entries with
  | nil => cases hget
  | cons first above value rest ih =>
    rw [Keyed.cons.sizeOf_spec]
    rw [Keyed.get?] at hget
    split at hget
    · cases hget
      omega
    · have := ih hget
      omega

theorem Entity.sizeOf_child? {entity child : Entity} {turn : Turn}
    (hchild : entity.child? turn = some child) : sizeOf child < sizeOf entity := by
  obtain ⟨shelf, key⟩ := turn
  cases entity with
  | field | function => cases shelf <;> cases hchild
  | unit name fields functions units =>
    rw [Entity.unit.sizeOf_spec]
    cases shelf with
    | fields => have := Keyed.sizeOf_get? fields hchild; omega
    | functions => have := Keyed.sizeOf_get? functions hchild; omega
    | units => have := Keyed.sizeOf_get? units hchild; omega

namespace Site

instance decidableOpened (policy : Policy) : (site : Site) → Decidable (site.Opened policy)
  | ⟨parentPath, key, some old, some new⟩ =>
    decidable_of_iff (old.kind = .unit ∧ new.kind = .unit ∧
      (new.name = "" ∨ policy (Site.path ⟨parentPath, key, some old, some new⟩) = .ok false))
      ⟨fun h => ⟨old, new, rfl, rfl, h⟩, by rintro ⟨_, _, ⟨rfl⟩, ⟨rfl⟩, h⟩; exact h⟩
  | ⟨_, _, none, _⟩ => isFalse (by rintro ⟨_, _, h, _⟩; cases h)
  | ⟨_, _, some _, none⟩ => isFalse (by rintro ⟨_, _, _, h, _⟩; cases h)

/-- The keys on a shelf of either side. -/
def keys (site : Site) (shelf : Shelf) : List String :=
  jointKeys (((site.old?.bind (·.children? shelf)).map Keyed.keys).getD [])
    (((site.new?.bind (·.children? shelf)).map Keyed.keys).getD [])

theorem mem_keys_iff (site : Site) (turn : Turn) :
    turn.key ∈ site.keys turn.shelf ↔ (site.child turn).Present := by
  have side : ∀ entity? : Option Entity,
      turn.key ∈ ((entity?.bind (·.children? turn.shelf)).map Keyed.keys).getD [] ↔
        (entity?.bind (·.child? turn)).isSome := by
    intro entity?
    cases entity? with
    | none => simp
    | some entity =>
      rw [Option.bind_some, Option.bind_some, Entity.child?]
      cases entity.children? turn.shelf with
      | none => simp
      | some children => exact children.mem_keys_iff turn.key
  rw [keys, mem_jointKeys, side, side]
  rfl

theorem sizeOf_child_lt {policy : Policy} {site : Site} (hopened : site.Opened policy)
    (turn : Turn) : sizeOf (site.child turn).old? < sizeOf site.old? := by
  obtain ⟨old, new, hold, _⟩ := hopened
  rw [child, hold, Option.bind_some, Option.some.sizeOf_spec]
  cases hchild : old.child? turn with
  | none =>
    rw [Option.none.sizeOf_spec]
    cases old <;> simp
  | some entity =>
    have := Entity.sizeOf_child? hchild
    rw [Option.some.sizeOf_spec]
    omega

/-- The turns from a site to everything that is reached below it, and first of all to itself. -/
def tour (policy : Policy) (site : Site) : List (List Turn) :=
  if _ : site.Opened policy then
    [] :: Shelf.all.flatMap fun shelf => (site.keys shelf).flatMap fun key =>
      ((site.child ⟨shelf, key⟩).tour policy).map (⟨shelf, key⟩ :: ·)
  else [[]]
termination_by sizeOf site.old?
decreasing_by exact sizeOf_child_lt ‹_› _

theorem tour_of_opened {policy : Policy} {site : Site} (hopened : site.Opened policy) :
    site.tour policy = [] :: Shelf.all.flatMap fun shelf => (site.keys shelf).flatMap fun key =>
      ((site.child ⟨shelf, key⟩).tour policy).map (⟨shelf, key⟩ :: ·) := by
  rw [tour, dif_pos hopened]

theorem tour_of_not_opened {policy : Policy} {site : Site} (hclosed : ¬ site.Opened policy) :
    site.tour policy = [[]] := by
  rw [tour, dif_neg hclosed]

/-- What holds of a site once it holds of its children, if the comparison goes into it, holds of every site. -/
theorem induction_opened (policy : Policy) {motive : Site → Prop}
    (closed : ∀ site, ¬ site.Opened policy → motive site)
    (opened : ∀ site, site.Opened policy → (∀ turn, motive (site.child turn)) → motive site)
    (site : Site) : motive site := by
  by_cases h : site.Opened policy
  · exact opened site h fun turn => induction_opened policy closed opened (site.child turn)
  · exact closed site h
termination_by sizeOf site.old?
decreasing_by exact sizeOf_child_lt h turn

theorem nil_mem_tour (policy : Policy) (site : Site) : [] ∈ site.tour policy := by
  by_cases h : site.Opened policy
  · rw [tour_of_opened h]
    exact List.mem_cons_self
  · rw [tour_of_not_opened h]
    exact List.mem_cons_self

theorem cons_mem_tour_iff {policy : Policy} {site : Site} {turn : Turn} {turns : List Turn} :
    turn :: turns ∈ site.tour policy ↔ site.Opened policy ∧ (site.child turn).Present ∧
      turns ∈ (site.child turn).tour policy := by
  by_cases h : site.Opened policy
  · rw [tour_of_opened h, ← mem_keys_iff]
    simp only [List.mem_cons, reduceCtorEq, false_or, List.mem_flatMap, List.mem_map,
      List.cons.injEq, exists_eq_right_right, h, true_and]
    constructor
    · rintro ⟨shelf, _, key, hkey, hturns, rfl⟩
      exact ⟨hkey, hturns⟩
    · rintro ⟨hkey, hturns⟩
      exact ⟨turn.shelf, by cases turn.shelf <;> decide, turn.key, hkey, hturns, rfl⟩
  · rw [tour_of_not_opened h]
    simp [h]

/-- A tour from a site where something stands goes to exactly the sites that are reached and where something stands. -/
theorem mem_tour_iff {policy : Policy} {site : Site} (hpresent : site.Present)
    {turns : List Turn} :
    turns ∈ site.tour policy ↔ site.Reached policy turns ∧ (site.below turns).Present := by
  induction turns generalizing site with
  | nil => exact iff_of_true (nil_mem_tour policy site) ⟨reached_nil policy site, hpresent⟩
  | cons turn turns ih =>
    rw [cons_mem_tour_iff, reached_cons, below, and_assoc]
    refine and_congr_right fun hopened => ?_
    constructor
    · rintro ⟨hchild, hturns⟩
      exact (ih hchild).mp hturns
    · rintro ⟨hreached, hbelow⟩
      have hchild : (site.child turn).Present := present_of_below hbelow
      exact ⟨hchild, (ih hchild).mpr ⟨hreached, hbelow⟩⟩

/-- A tour goes in order. -/
theorem pairwise_tour (policy : Policy) (site : Site) :
    (site.tour policy).Pairwise (List.Lex Turn.Before) := by
  induction site using induction_opened policy with
  | closed site h =>
    rw [tour_of_not_opened h]
    exact List.pairwise_singleton _ _
  | opened site h ih =>
    rw [tour_of_opened h, List.pairwise_cons, List.pairwise_flatMap]
    refine ⟨?_, fun shelf _ => ?_, ?_⟩
    · simp only [List.mem_flatMap, List.mem_map]
      rintro _ ⟨_, _, _, _, _, _, rfl⟩
      exact List.Lex.nil
    · rw [List.pairwise_flatMap]
      refine ⟨fun key _ => ?_, (sorted_jointKeys _ _).pairwise.imp fun {key next} hlt => ?_⟩
      · exact List.pairwise_map.mpr ((ih ⟨shelf, key⟩).imp List.Lex.cons)
      · simp only [List.mem_map]
        rintro _ ⟨_, _, rfl⟩ _ ⟨_, _, rfl⟩
        exact List.Lex.rel (Or.inr ⟨rfl, Text.bytes_lt_bytes hlt⟩)
    · have hshelves : Shelf.all.Pairwise (·.rank < ·.rank) := by decide
      refine hshelves.imp fun {shelf next} hlt => ?_
      simp only [List.mem_flatMap, List.mem_map]
      rintro _ ⟨_, _, _, _, rfl⟩ _ ⟨_, _, _, _, rfl⟩
      exact List.Lex.rel (Or.inl hlt)

end Site

end ApiDrift
