import ApiDrift.Proofs.Tour
import ApiDrift.Proofs.Visit

/-!
# The walk of two trees is a sequence of visits

A comparison recurses over two trees at once. Here it is unrolled: comparing two collections is comparing what stands under each of their joint keys, and comparing what stands at a site is visiting every site of its tour, one after the other. Everything that is said of comparisons elsewhere follows from the visits and from the tour; no other proof opens the recursion.
-/

namespace ApiDrift

open Comparison

/-- The comparison of what stands at a site, with all that lies below. -/
def Site.comparison (policy : Policy) (site : Site) : Comparison Bump :=
  match site.old?, site.new? with
  | some old, some new => Entity.compare policy site.parentPath old new
  | _, _ => site.visit policy

/-! ### Collections -/

namespace Comparison

/-- Changes can be found one by one. -/
theorem found_eq_inTurn {ι : Type} (path : ι → String) (change : ι → Change) (parts : List ι) :
    ⟨parts.map fun i => .found (path i) (change i),
        .ok (Bump.worst .patch (parts.map fun i => (change i).severity))⟩ =
      inTurn (parts.map fun i => foundAt (path i) [change i]) := by
  induction parts with
  | nil => rfl
  | cons i rest ih =>
    rw [List.map_cons, List.map_cons, List.map_cons, inTurn, ← ih, both_of_ok rfl rfl,
      ← Bump.worst_append]
    rfl

theorem oneSided_eq_inTurn (path : String) (change : Change) (keys : List String) :
    oneSided path change keys =
      inTurn (keys.map fun key => foundAt (Path.join path key) [change]) :=
  found_eq_inTurn (Path.join path) (fun _ => change) keys

theorem foundAt_eq_inTurn (path : String) (changes : List Change) :
    foundAt path changes = inTurn (changes.map fun change => foundAt path [change]) :=
  found_eq_inTurn (fun _ => path) id changes

end Comparison

namespace Entity

variable {policy : Policy} {path : String}

/-- Comparing from a key on: what is new below it, what stands under it, and what is beyond. -/
theorem compareEntries_cons {low : Option String} {key : String} {above : Above low key}
    {old : Entity} {rest : Keyed Entity (some key)} {new : List (String × Entity)}
    (hnew : new.Pairwise (·.1 < ·.1)) :
    compareEntries policy path (.cons key above old rest) new =
      both (both (oneSided path .entityWasIntroduced ((new.filter (·.1 < key)).map (·.1)))
          (Site.comparison policy ⟨path, key, some old, new.lookup key⟩))
        (compareEntries policy path rest (new.filter (key < ·.1))) := by
  have hbeyond : ∀ entry ∈ new.filter (key < ·.1), entry.1 ≠ key := by
    intro entry hentry
    have hlt : key < entry.1 := by simpa using List.of_mem_filter hentry
    exact hlt.ne'
  rw [compareEntries, takeWhile_lt_eq_filter hnew, dropWhile_lt_eq_append hnew]
  cases new.lookup key with
  | some entity =>
    simp only [Option.map_some, Option.toList_some, List.singleton_append, if_true, both,
      bind_assoc, pure_bind, Site.comparison]
  | none =>
    revert hbeyond
    cases new.filter (key < ·.1) with
    | nil =>
      intro _
      simp only [Option.map_none, Option.toList_none, List.nil_append, both, bind_assoc, pure_bind]
      rfl
    | cons entry others =>
      intro hbeyond
      have hne : entry.1 ≠ key := hbeyond entry List.mem_cons_self
      simp only [Option.map_none, Option.toList_none, List.nil_append, both, bind_assoc, pure_bind,
        if_neg hne]
      rfl

theorem oneSided_new {old? : String → Option Entity} {new entries : List (String × Entity)}
    (hentries : entries ⊆ new) (hold : ∀ entry ∈ entries, old? entry.1 = none) :
    oneSided path .entityWasIntroduced (entries.map (·.1)) =
      inTurn ((entries.map (·.1)).map fun key =>
        Site.comparison policy ⟨path, key, old? key, new.lookup key⟩) := by
  rw [oneSided_eq_inTurn]
  refine congrArg inTurn (List.map_congr_left fun key hkey => ?_)
  obtain ⟨entry, hentry, rfl⟩ := List.mem_map.mp hkey
  have hlookup : (new.lookup entry.1).isSome :=
    List.lookup_isSome_iff.mpr ⟨entry, hentries hentry, by simp⟩
  obtain ⟨entity, hentity⟩ := Option.isSome_iff_exists.mp hlookup
  rw [hentity, hold entry hentry]
  rfl

/-- Two collections are compared key by key, along their joint keys. -/
theorem compareEntries_eq_inTurn {low : Option String} (old : Keyed Entity low)
    {new : List (String × Entity)} (hnew : new.Pairwise (·.1 < ·.1)) :
    compareEntries policy path old new =
      inTurn ((jointKeys old.keys (new.map (·.1))).map fun key =>
        Site.comparison policy ⟨path, key, old.get? key, new.lookup key⟩) := by
  induction old generalizing new with
  | nil =>
    rw [compareEntries, Keyed.keys_nil, jointKeys_nil (List.pairwise_map.mpr hnew)]
    exact oneSided_new (List.Subset.refl new) fun _ _ => rfl
  | cons key above entity rest ih =>
    have hkeys : (key :: rest.keys).Pairwise (· < ·) :=
      (Keyed.cons key above entity rest).pairwise_keys
    have hfilter : ∀ p : String → Bool,
        (new.map (·.1)).filter p = (new.filter fun entry => p entry.1).map (·.1) :=
      fun p => List.filter_map
    rw [compareEntries_cons hnew, both_assoc, ih (hnew.sublist List.filter_sublist),
      Keyed.keys_cons, jointKeys_cons hkeys (List.pairwise_map.mpr hnew), hfilter, hfilter, List.map_append,
      List.map_cons, inTurn_append, inTurn, Keyed.get?_cons_self]
    congr 1
    · refine oneSided_new (List.filter_subset_self _) fun entry hentry => ?_
      have hlt : entry.1 < key := by simpa using List.of_mem_filter hentry
      exact Keyed.get?_cons_eq_none_of_lt above entity rest hlt
    · refine congrArg (both _) (congrArg inTurn (List.map_congr_left fun other hother => ?_))
      have hlt : key < other := by
        rcases mem_jointKeys.mp hother with hrest | hbeyond
        · exact rest.above_of_mem_keys hrest
        · obtain ⟨entry, hentry, rfl⟩ := List.mem_map.mp hbeyond
          simpa using List.of_mem_filter hentry
      rw [Keyed.get?_cons_of_lt above entity rest hlt, lookup_filter_lt hlt]

end Entity

theorem Codebase.compareAt_eq_inTurn (policy : Policy) (path : String) (old new : Codebase) :
    Codebase.compareAt policy path old new =
      inTurn ((jointKeys old.keys new.keys).map fun key =>
        (Site.top path old new key).comparison policy) := by
  rw [compareAt, Entity.compareEntries_eq_inTurn old new.pairwise_toList]
  refine congrArg inTurn (List.map_congr_left fun key _ => ?_)
  rw [← Keyed.get?_eq_lookup]
  rfl

/-! ### Pairs -/

theorem Comparison.both_both (first second third : Comparison Bump) :
    both first (both second third) = (do
      let ofFirst ← first
      let ofSecond ← second
      let ofThird ← third
      return max (max ofFirst ofSecond) ofThird) := by
  rw [← both_assoc]
  simp only [both, bind_assoc, pure_bind]

theorem Entity.compare_of_kinds_ne (policy : Policy) (path : String) {old new : Entity}
    (hkinds : old.kind ≠ new.kind) :
    Entity.compare policy path old new = (do
      if ← ignores policy (Path.join path new.name) new.name then
        note [.ignored (Path.join path new.name)]
        return .patch
      else fail (.shapeMismatch (Path.join path new.name) old.kind new.kind)) := by
  cases old <;> cases new <;> first | exact absurd rfl hkinds | rfl

namespace Site

variable {policy : Policy} {site : Site} {old new : Entity}

/-- The comparison of everything on the shelves of a site. -/
def inside (policy : Policy) (site : Site) : Comparison Bump :=
  inTurn (Shelf.all.map fun shelf =>
    inTurn ((site.keys shelf).map fun key => (site.child ⟨shelf, key⟩).comparison policy))

/-- What follows a pair that is not ignored may as well follow the question whether it is. -/
theorem unlessIgnored_both_of_kept (hkept : new.name = "" ∨ policy site.path = .ok false)
    (first second : Comparison Bump) :
    site.unlessIgnored policy new (both first second) =
      both (site.unlessIgnored policy new first) second := by
  have hnote : ∀ rest : Comparison Bump, site.unlessIgnored policy new rest = (do
      note (if new.name = "" then [] else [.asked site.path])
      rest) := fun rest => unlessIgnored_of_kept hkept rest
  rw [hnote, hnote, both, both, bind_assoc]

theorem floored_compared (site : Site) (old new : Entity) : Floored (site.compared old new) := by
  intro bump hok
  rw [outcome_compared] at hok
  split at hok
  · cases hok
    exact Bump.floor_le_worst _ _
  · cases hok

variable (hold : site.old? = some old) (hnew : site.new? = some new)

include hold hnew

theorem path_of_pair : site.path = Path.join site.parentPath new.name := by
  rw [path, hold, hnew]

theorem comparison_of_pair :
    site.comparison policy = Entity.compare policy site.parentPath old new := by
  rw [Site.comparison, hold, hnew]

theorem keys_of_not_units (holdKind : old.kind ≠ .unit) (hnewKind : new.kind ≠ .unit)
    (shelf : Shelf) : site.keys shelf = [] := by
  have hchildren : ∀ entity : Entity, entity.kind ≠ .unit → entity.children? shelf = none := by
    intro entity hkind
    cases entity with
    | field | function => cases shelf <;> rfl
    | unit => exact absurd rfl hkind
  rw [keys, hold, hnew, Option.bind_some, Option.bind_some, hchildren old holdKind,
    hchildren new hnewKind]
  exact jointKeys_nil List.Pairwise.nil

/-- Unless both are units, a pair has nothing to go into. -/
theorem compared_both_inside (hunits : ¬ (old.kind = .unit ∧ new.kind = .unit)) :
    both (site.compared old new) (site.inside policy) = site.compared old new := by
  by_cases hkinds : old.kind = new.kind
  · have holdKind : old.kind ≠ .unit := fun h => hunits ⟨h, hkinds ▸ h⟩
    have hnewKind : new.kind ≠ .unit := hkinds ▸ holdKind
    have hinside : site.inside policy = pure .patch := by
      simp only [inside, keys_of_not_units hold hnew holdKind hnewKind]
      rfl
    rw [hinside]
    exact both_pure_patch (floored_compared site old new)
  · rw [compared, if_neg hkinds]
    rfl

theorem shelf_eq_compareEntries (policy : Policy) (shelf : Shelf) {oldShelf newShelf : Codebase}
    (holdShelf : old.children? shelf = some oldShelf)
    (hnewShelf : new.children? shelf = some newShelf) :
    inTurn ((site.keys shelf).map fun key => (site.child ⟨shelf, key⟩).comparison policy) =
      Entity.compareEntries policy site.path oldShelf newShelf.toList := by
  rw [keys, hold, hnew, Option.bind_some, Option.bind_some, holdShelf, hnewShelf]
  refine Eq.trans ?_ (Codebase.compareAt_eq_inTurn policy site.path oldShelf newShelf).symm
  refine congrArg inTurn (List.map_congr_left fun key _ => ?_)
  rw [child, hold, hnew, Option.bind_some, Option.bind_some, Entity.child?, Entity.child?,
    holdShelf, hnewShelf]
  rfl

/-- The shelves of two units are compared in their order, one after the other. -/
theorem comparison_of_units (holdKind : old.kind = .unit) (hnewKind : new.kind = .unit) :
    site.comparison policy =
      site.unlessIgnored policy new (both (site.compared old new) (site.inside policy)) := by
  cases old with
  | field | function => cases holdKind
  | unit oldName oldFields oldFunctions oldUnits =>
    cases new with
    | field | function => cases hnewKind
    | unit name fields functions units =>
      have hpath : Path.join site.parentPath name = site.path := (path_of_pair hold hnew).symm
      have hfields := shelf_eq_compareEntries hold hnew policy .fields rfl rfl
      have hfunctions := shelf_eq_compareEntries hold hnew policy .functions rfl rfl
      have hunits := shelf_eq_compareEntries hold hnew policy .units rfl rfl
      have hfloored : Floored (Entity.compareEntries policy site.path oldUnits units.toList) := by
        rw [← hunits]
        exact floored_inTurn _
      have hinside : site.inside policy =
          both (Entity.compareEntries policy site.path oldFields fields.toList)
            (both (Entity.compareEntries policy site.path oldFunctions functions.toList)
              (Entity.compareEntries policy site.path oldUnits units.toList)) := by
        rw [inside, Shelf.all, List.map_cons, List.map_cons, List.map_cons, List.map_nil, hfields,
          hfunctions, hunits, inTurn, inTurn, inTurn_singleton hfloored]
      -- Nothing changes on a pair of units itself; it is only told that they were looked at.
      have hcompared : site.compared (.unit oldName oldFields oldFunctions oldUnits)
          (.unit name fields functions units) = (do
            note [.visited site.path .unit]
            pure .patch) := rfl
      have hrest : both (site.compared (.unit oldName oldFields oldFunctions oldUnits)
          (.unit name fields functions units)) (site.inside policy) = (do
            note [.visited site.path .unit]
            site.inside policy) := by
        rw [hcompared, both, bind_assoc]
        refine bind_congr fun _ => ?_
        exact pure_patch_both (floored_inTurn _)
      rw [hrest, hinside, both_both, comparison_of_pair hold hnew, Entity.compare,
        ← path_of_pair hold hnew, hpath]
      rfl

theorem comparison_of_not_units (hunits : ¬ (old.kind = .unit ∧ new.kind = .unit)) :
    site.comparison policy = site.unlessIgnored policy new (site.compared old new) := by
  rw [comparison_of_pair hold hnew]
  by_cases hkinds : old.kind = new.kind
  · have hcompared : site.compared old new = (do
        note [.visited site.path new.kind]
        ofPair site.path old new) := if_pos hkinds
    rw [hcompared]
    cases old with
    | field oldName oldType =>
      cases new with
      | function | unit => cases hkinds
      | field name newType =>
        have hpath : Path.join site.parentPath name = site.path := (path_of_pair hold hnew).symm
        have hpair : ofPair site.path (.field oldName oldType) (.field name newType) =
            foundAt site.path (oldType.change? newType).toList :=
          both_pure_patch (floored_of_ok (Bump.floor_le_worst _ _))
        rw [Entity.compare, ← path_of_pair hold hnew, hpath, hpair]
        rfl
    | function oldName oldType oldSignatures =>
      cases new with
      | field | unit => cases hkinds
      | function name newType newSignatures =>
        have hpath : Path.join site.parentPath name = site.path := (path_of_pair hold hnew).symm
        rw [Entity.compare, ← path_of_pair hold hnew, hpath]
        rfl
    | unit => exact absurd ⟨rfl, hkinds.symm⟩ hunits
  · rw [Entity.compare_of_kinds_ne policy _ hkinds, compared, if_neg hkinds,
      ← path_of_pair hold hnew]
    rfl

/-- Whether a pair is ignored is asked first; then the pair itself is compared, and then what it holds. -/
theorem comparison_eq_unlessIgnored :
    site.comparison policy =
      site.unlessIgnored policy new (both (site.compared old new) (site.inside policy)) := by
  by_cases hunits : old.kind = .unit ∧ new.kind = .unit
  · exact comparison_of_units hold hnew hunits.1 hunits.2
  · rw [compared_both_inside hold hnew hunits]
    exact comparison_of_not_units hold hnew hunits

omit hold hnew

/-- The comparison goes from a pair of units to what stands on their shelves. -/
theorem comparison_of_opened (hopened : site.Opened policy) :
    site.comparison policy = both (site.visit policy) (site.inside policy) := by
  obtain ⟨old, new, hold, hnew, -, -, hkept⟩ := hopened
  rw [comparison_eq_unlessIgnored hold hnew, unlessIgnored_both_of_kept hkept,
    visit_of_pair hold hnew]

theorem comparison_of_not_opened (hclosed : ¬ site.Opened policy) :
    site.comparison policy = site.visit policy := by
  cases hold : site.old? with
  | none => cases hnew : site.new? <;> rw [Site.comparison, hold, hnew]
  | some old =>
    cases hnew : site.new? with
    | none => rw [Site.comparison, hold, hnew]
    | some new =>
      rw [comparison_eq_unlessIgnored hold hnew, visit_of_pair hold hnew]
      rcases pair_cases policy site new with hignored | hkept | ⟨hname, failure, hfailure⟩
      · rw [unlessIgnored_of_ignored hignored, unlessIgnored_of_ignored hignored]
      · have hunits : ¬ (old.kind = .unit ∧ new.kind = .unit) :=
          fun hkinds => hclosed ⟨old, new, hold, hnew, hkinds.1, hkinds.2, hkept⟩
        rw [compared_both_inside hold hnew hunits]
      · obtain ⟨asked, hask⟩ := Policy.exists_ask_of_error hfailure
        rw [unlessIgnored_of_policy_error hname hask, unlessIgnored_of_policy_error hname hask]

/-! ### Tours -/

/-- Comparing what stands at a site is visiting every site of its tour. -/
theorem comparison_eq_inTurn (policy : Policy) (site : Site) :
    site.comparison policy =
      inTurn ((site.tour policy).map fun turns => (site.below turns).visit policy) := by
  induction site using induction_opened policy with
  | closed site hclosed =>
    rw [comparison_of_not_opened hclosed, tour_of_not_opened hclosed]
    exact (inTurn_singleton (floored_visit policy site)).symm
  | opened site hopened ih =>
    rw [comparison_of_opened hopened, tour_of_opened hopened, List.map_cons, inTurn,
      List.map_flatMap, inTurn_flatMap, inside]
    refine congrArg (both _) (congrArg inTurn (List.map_congr_left fun shelf _ => ?_))
    rw [List.map_flatMap, inTurn_flatMap]
    refine congrArg inTurn (List.map_congr_left fun key _ => ?_)
    rw [ih ⟨shelf, key⟩, List.map_map]
    rfl

end Site

/-! ### Codebases -/

namespace Codebase

/-- The live positions of two codebases at which something stands, in order. -/
def livePositions (policy : Policy) (old new : Codebase) : List Position :=
  (jointKeys old.keys new.keys).flatMap fun key =>
    ((Site.top "" old new key).tour policy).map (Position.mk key)

theorem present_top_iff (old new : Codebase) (path key : String) :
    (Site.top path old new key).Present ↔ key ∈ jointKeys old.keys new.keys := by
  rw [mem_jointKeys, Keyed.mem_keys_iff, Keyed.mem_keys_iff]
  rfl

theorem mem_livePositions_iff {policy : Policy} {old new : Codebase} {position : Position} :
    position ∈ livePositions policy old new ↔
      position.Live policy old new ∧ (site old new position).Present := by
  obtain ⟨key, turns⟩ := position
  rw [Position.live_iff_reached, livePositions, List.mem_flatMap]
  simp only [List.mem_map, Position.mk.injEq, exists_eq_right_right]
  constructor
  · rintro ⟨hkey, hturns⟩
    exact (Site.mem_tour_iff ((present_top_iff old new "" key).mpr hkey)).mp hturns
  · rintro ⟨hreached, hpresent⟩
    have htop : (Site.top "" old new key).Present := Site.present_of_below hpresent
    exact ⟨(present_top_iff old new "" key).mp htop,
      (Site.mem_tour_iff htop).mpr ⟨hreached, hpresent⟩⟩

theorem pairwise_livePositions (policy : Policy) (old new : Codebase) :
    (livePositions policy old new).Pairwise Position.Before := by
  rw [livePositions, List.pairwise_flatMap]
  refine ⟨fun key _ => ?_, (sorted_jointKeys _ _).pairwise.imp fun {key next} hlt => ?_⟩
  · exact List.pairwise_map.mpr
      ((Site.pairwise_tour policy _).imp fun hbefore => Or.inr ⟨rfl, hbefore⟩)
  · simp only [List.mem_map]
    rintro _ ⟨_, _, rfl⟩ _ ⟨_, _, rfl⟩
    exact Or.inl (Text.bytes_lt_bytes hlt)

/-- Comparing two codebases is visiting their live positions in order. -/
theorem compare_eq_inTurn (policy : Policy) (old new : Codebase) :
    Codebase.compare policy old new =
      inTurn ((livePositions policy old new).map fun position =>
        (site old new position).visit policy) := by
  rw [compare, compareAt_eq_inTurn, livePositions, List.map_flatMap, inTurn_flatMap]
  refine congrArg inTurn (List.map_congr_left fun key _ => ?_)
  rw [Site.comparison_eq_inTurn, List.map_map]
  rfl

/-- A comparison that succeeds has succeeded at every live position, and no visit is more severe than the whole. -/
theorem visit_of_compare_ok {policy : Policy} {old new : Codebase} {bump : Bump}
    (hok : (compare policy old new).outcome = .ok bump) {position : Position}
    (hmem : position ∈ livePositions policy old new) :
    ∃ part, ((site old new position).visit policy).outcome = .ok part ∧ part ≤ bump := by
  rw [compare_eq_inTurn] at hok
  exact part_of_inTurn_ok hok _ (List.mem_map_of_mem hmem)

/-- Visits that succeed leave the records of their sites. -/
theorem records_visits {policy : Policy} {old new : Codebase} {positions : List Position}
    (hall : ∀ position ∈ positions, Succeeds ((site old new position).visit policy))
    (outcome : Except Failure Bump) :
    Comparison.records
      ⟨positions.flatMap fun position => ((site old new position).visit policy).steps, outcome⟩ =
        positions.flatMap fun position => (site old new position).records policy := by
  rw [records_flatMap]
  refine List.flatMap_congr fun position hmem => ?_
  obtain ⟨bump, hok⟩ := hall position hmem
  exact Site.records_visit hok

end Codebase

end ApiDrift
