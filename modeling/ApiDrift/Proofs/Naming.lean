import ApiDrift.Proofs.Path.Spelling
import ApiDrift.Proofs.Position

/-!
# Entities that stand under their own names

Keys and names are independent of each other, and both are any texts. In most codebases every entity stands under its own name and names are segments of paths. Then the path of what stands at a position is made of the keys on the way, whichever side it stands on.
-/

namespace ApiDrift

/-! ### Every level of a codebase -/

mutual

/-- What holds of every child, of the children below it, and so on. -/
def Entity.everywhere (holds : String → Entity → Bool) : Entity → Bool
  | .field .. => true
  | .function .. => true
  | .unit _ fields functions units =>
    Entity.everywhereIn holds fields && Entity.everywhereIn holds functions &&
      Entity.everywhereIn holds units

/-- What holds of every entry of a collection, with its key, and of everything below. -/
def Entity.everywhereIn (holds : String → Entity → Bool) {low : Option String} :
    Keyed Entity low → Bool
  | .nil => true
  | .cons key _ entity rest =>
    holds key entity && entity.everywhere holds && Entity.everywhereIn holds rest

end

/-- The key under which something stands there. -/
def Position.lastKey (position : Position) : String :=
  (position.turns.getLast?.map Turn.key).getD position.key

theorem Position.lastKey_cons (key : String) (turn : Turn) (turns : List Turn) :
    lastKey ⟨key, turn :: turns⟩ = lastKey ⟨turn.key, turns⟩ := by
  cases turns with
  | nil => rfl
  | cons next rest => rw [lastKey, lastKey, List.getLast?_cons_cons]; rfl

theorem Position.lastKey_concat (key : String) (turns : List Turn) (last : Turn) :
    lastKey ⟨key, turns ++ [last]⟩ = last.key := by
  rw [lastKey, List.getLast?_concat]
  rfl

/-- The keys on the way to a position. -/
def Position.keys (position : Position) : List String :=
  position.key :: position.turns.map Turn.key

theorem Position.keys_concat (key : String) (turns : List Turn) (last : Turn) :
    keys ⟨key, turns ++ [last]⟩ = keys ⟨key, turns⟩ ++ [last.key] := by
  rw [keys, List.map_append]
  rfl

namespace Entity

variable {holds : String → Entity → Bool}

theorem everywhere_of_get? {low : Option String} {entries : Keyed Entity low} {key : String}
    {entity : Entity} (hall : everywhereIn holds entries = true)
    (hget : entries.get? key = some entity) :
    holds key entity = true ∧ entity.everywhere holds = true := by
  induction entries with
  | nil => cases hget
  | cons first above value rest ih =>
    rw [everywhereIn, Bool.and_eq_true, Bool.and_eq_true] at hall
    rw [Keyed.get?] at hget
    split at hget
    case isTrue hkey =>
      cases hget
      exact hkey ▸ hall.1
    case isFalse => exact ih hall.2 hget

theorem everywhere_of_child? {entity child : Entity} {turn : Turn}
    (hall : entity.everywhere holds = true) (hchild : entity.child? turn = some child) :
    holds turn.key child = true ∧ child.everywhere holds = true := by
  obtain ⟨shelf, key⟩ := turn
  cases entity with
  | field | function => cases shelf <;> cases hchild
  | unit name fields functions units =>
    rw [everywhere, Bool.and_eq_true, Bool.and_eq_true] at hall
    cases shelf with
    | fields => exact everywhere_of_get? hall.1.1 hchild
    | functions => exact everywhere_of_get? hall.1.2 hchild
    | units => exact everywhere_of_get? hall.2 hchild

theorem everywhere_of_below? {entity found : Entity} {key : String} {turns : List Turn}
    (hkey : holds key entity = true) (hall : entity.everywhere holds = true)
    (hbelow : entity.below? turns = some found) :
    holds (Position.lastKey ⟨key, turns⟩) found = true := by
  induction turns generalizing entity key with
  | nil =>
    cases hbelow
    exact hkey
  | cons turn turns ih =>
    obtain ⟨child, hchild, hbelow⟩ := Option.bind_eq_some_iff.mp hbelow
    obtain ⟨hchildKey, hchildAll⟩ := everywhere_of_child? hall hchild
    rw [Position.lastKey_cons]
    exact ih hchildKey hchildAll hbelow

end Entity

/-! ### Names and keys -/

namespace Codebase

/-- At every level, every entity stands under its own name. -/
def NamedByKeys (codebase : Codebase) : Prop :=
  Entity.everywhereIn (fun key entity => entity.name == key) codebase = true

/-- At every level, every key is a segment of a path. -/
def Segmented (codebase : Codebase) : Prop :=
  Entity.everywhereIn (fun key _ => decide (Path.IsSegment key)) codebase = true

instance (codebase : Codebase) : Decidable codebase.NamedByKeys :=
  inferInstanceAs (Decidable (_ = true))

instance (codebase : Codebase) : Decidable codebase.Segmented :=
  inferInstanceAs (Decidable (_ = true))

theorem holds_of_at? {holds : String → Entity → Bool} {codebase : Codebase} {position : Position}
    {entity : Entity} (hall : Entity.everywhereIn holds codebase = true)
    (hat : codebase.at? position = some entity) : holds position.lastKey entity = true := by
  obtain ⟨top, htop, hbelow⟩ := Option.bind_eq_some_iff.mp hat
  obtain ⟨hkey, htopAll⟩ := Entity.everywhere_of_get? hall htop
  exact Entity.everywhere_of_below? hkey htopAll hbelow

theorem NamedByKeys.name_eq {codebase : Codebase} (hnamed : codebase.NamedByKeys)
    {position : Position} {entity : Entity} (hat : codebase.at? position = some entity) :
    entity.name = position.lastKey :=
  beq_iff_eq.mp (holds_of_at? hnamed hat)

theorem Segmented.isSegment {codebase : Codebase} (hsegmented : codebase.Segmented)
    {position : Position} (hsome : (codebase.at? position).isSome) :
    Path.IsSegment position.lastKey := by
  obtain ⟨entity, hat⟩ := Option.isSome_iff_exists.mp hsome
  exact of_decide_eq_true (holds_of_at? hsegmented hat)

/-! ### Paths made of keys -/

theorem key_site (old new : Codebase) (position : Position) :
    (site old new position).key = position.lastKey := by
  obtain ⟨key, turns⟩ := position
  cases turns using List.reverseRecOn with
  | nil => rfl
  | append_singleton turns last =>
    rw [Position.lastKey_concat, site, Site.below_concat]
    rfl

variable {old new : Codebase}

/-- A pair and a single entity are found at the same path then. -/
theorem path_site (hnew : new.NamedByKeys) (position : Position) :
    (site old new position).path =
      Path.join (site old new position).parentPath position.lastKey := by
  rw [Site.path, key_site]
  split
  case h_1 entity _ hpair => rw [hnew.name_eq ((new?_site old new position).symm.trans hpair)]
  case h_2 => rfl

/-- One more turn goes on from the path of the position above. -/
theorem path_site_concat (hnew : new.NamedByKeys) (key : String) (turns : List Turn) (last : Turn) :
    (site old new ⟨key, turns ++ [last]⟩).path =
      Path.join (site old new ⟨key, turns⟩).path last.key := by
  rw [path_site hnew, Position.lastKey_concat, site, Site.below_concat]
  rfl

/-- So a path spells the keys on the way. -/
theorem path_site_eq_ofSegments (hnew : new.NamedByKeys) (position : Position) :
    (site old new position).path = Path.ofSegments position.keys := by
  obtain ⟨key, turns⟩ := position
  induction turns using List.reverseRecOn with
  | nil => exact path_site hnew ⟨key, []⟩
  | append_singleton turns last ih =>
    rw [path_site_concat hnew, ih, Position.keys_concat, Path.ofSegments_concat]

theorem isSegment_of_present (hold : old.Segmented) (hnew : new.Segmented) {position : Position}
    (hpresent : (site old new position).Present) : Path.IsSegment position.lastKey := by
  rw [Site.Present, old?_site, new?_site] at hpresent
  exact hpresent.elim hold.isSegment hnew.isSegment

/-- Where something stands, something stands at every position above. -/
theorem isSegment_of_mem_keys (hold : old.Segmented) (hnew : new.Segmented) {position : Position}
    (hpresent : (site old new position).Present) :
    ∀ key ∈ position.keys, Path.IsSegment key := by
  obtain ⟨first, turns⟩ := position
  induction turns using List.reverseRecOn with
  | nil => exact List.forall_mem_singleton.mpr (isSegment_of_present hold hnew hpresent)
  | append_singleton turns last ih =>
    have hlast := isSegment_of_present hold hnew hpresent
    rw [Position.lastKey_concat] at hlast
    rw [site, Site.below_concat] at hpresent
    rw [Position.keys_concat, List.forall_mem_append]
    exact ⟨ih (Site.present_of_child hpresent), List.forall_mem_singleton.mpr hlast⟩

theorem path_site_ne_empty (hnamed : new.NamedByKeys) (hold : old.Segmented) (hnew : new.Segmented)
    {position : Position} (hpresent : (site old new position).Present) :
    (site old new position).path ≠ "" := by
  rw [path_site hnamed]
  exact Path.join_ne_empty _ (isSegment_of_present hold hnew hpresent).1

theorem name_ne_empty (hnamed : new.NamedByKeys) (hnew : new.Segmented) {position : Position}
    {entity : Entity} (hentity : (site old new position).new? = some entity) :
    entity.name ≠ "" := by
  rw [new?_site] at hentity
  rw [hnamed.name_eq hentity]
  exact (hnew.isSegment (Option.isSome_of_eq_some hentity)).1

end Codebase

end ApiDrift
