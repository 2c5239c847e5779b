import ApiDrift.Proofs.Throughout
import ApiDrift.Proofs.Walk

/-!
# Comparisons in lockstep

Two comparisons go in lockstep when their sites are related in such a way that the one goes into a site exactly if the other goes into the related one. They then make the same tour. Whatever relates each visit of the one to the visit of the other relates the two comparisons as a whole, provided that it is kept when comparisons are put in sequence. The recursion over the two trees is done here once for all such relations.

The simplest of them relates sites at the same place, with related entities on either side, all the way down. Where the entities agree in their kinds, and on the new side in their names, it keeps two comparisons in lockstep.
-/

namespace ApiDrift

/-! ### Relations kept in sequence -/

namespace Comparison

/-- A relation of comparisons that is kept when more of them follow on either side. -/
structure Sequential (related : Comparison Bump → Comparison Bump → Prop) : Prop where
  nothing : related (pure .patch) (pure .patch)
  both : ∀ {first second first' second' : Comparison Bump}, related first second →
    related first' second' → related (both first first') (both second second')

theorem sequential_eq : Sequential Eq := by
  constructor
  · rfl
  · intro first second first' second' hfirst hsecond
    rw [hfirst, hsecond]

theorem Sequential.inTurn {related : Comparison Bump → Comparison Bump → Prop}
    (hsequential : Sequential related) {ι : Type} {first second : ι → Comparison Bump}
    (hall : ∀ part, related (first part) (second part)) (parts : List ι) :
    related (inTurn (parts.map first)) (inTurn (parts.map second)) := by
  induction parts with
  | nil => exact hsequential.nothing
  | cons part rest ih => exact hsequential.both (hall part) ih

end Comparison

open Comparison

/-! ### Sites opened together -/

namespace Site

/-- Related sites are opened together, each under its own policy, and what stands below them is related too. -/
structure Lockstep (policy other : Policy) (related : Site → Site → Prop) : Prop where
  present_iff : ∀ {first second}, related first second → (first.Present ↔ second.Present)
  opened_iff : ∀ {first second}, related first second →
    (first.Opened policy ↔ second.Opened other)
  child : ∀ {first second}, related first second → ∀ turn,
    related (first.child turn) (second.child turn)

namespace Lockstep

variable {policy other : Policy} {related : Site → Site → Prop}
  (hlockstep : Lockstep policy other related)

include hlockstep

theorem below {first second : Site} (hrelated : related first second) (turns : List Turn) :
    related (first.below turns) (second.below turns) := by
  induction turns generalizing first second with
  | nil => exact hrelated
  | cons turn turns ih => exact ih (hlockstep.child hrelated turn)

theorem keys_eq {first second : Site} (hrelated : related first second) (shelf : Shelf) :
    first.keys shelf = second.keys shelf := by
  apply (sorted_jointKeys _ _).eq_of_mem_iff (sorted_jointKeys _ _)
  intro key
  have hchild : related (first.child ⟨shelf, key⟩) (second.child ⟨shelf, key⟩) :=
    hlockstep.child hrelated ⟨shelf, key⟩
  have hfirst := first.mem_keys_iff ⟨shelf, key⟩
  have hsecond := second.mem_keys_iff ⟨shelf, key⟩
  exact hfirst.trans ((hlockstep.present_iff hchild).trans hsecond.symm)

theorem tour_eq {first second : Site} (hrelated : related first second) :
    first.tour policy = second.tour other := by
  induction first using induction_opened policy generalizing second with
  | closed first hclosed =>
    have hother : ¬ second.Opened other := mt (hlockstep.opened_iff hrelated).mpr hclosed
    rw [tour_of_not_opened hclosed, tour_of_not_opened hother]
  | opened first hopened ih =>
    have hother : second.Opened other := (hlockstep.opened_iff hrelated).mp hopened
    rw [tour_of_opened hopened, tour_of_opened hother]
    apply congrArg (List.cons [])
    apply List.flatMap_congr
    intro shelf _
    rw [hlockstep.keys_eq hrelated shelf]
    apply List.flatMap_congr
    intro key _
    rw [ih ⟨shelf, key⟩ (hlockstep.child hrelated ⟨shelf, key⟩)]

/-! ### From visits to whole comparisons -/

variable {alike : Comparison Bump → Comparison Bump → Prop} (hsequential : Sequential alike)
  (hvisit : ∀ {first second}, related first second →
    alike (first.visit policy) (second.visit other))

include hsequential hvisit

/-- If all visits are alike, then so is the comparison of everything from a site on. -/
theorem comparison {first second : Site} (hrelated : related first second) :
    alike (first.comparison policy) (second.comparison other) := by
  rw [comparison_eq_inTurn, comparison_eq_inTurn, ← hlockstep.tour_eq hrelated]
  apply hsequential.inTurn
  intro turns
  exact hvisit (hlockstep.below hrelated turns)

/-- If all visits are alike, then so is the comparison of two collections. -/
theorem compareAt {path path' : String} {old new old' new' : Codebase}
    (htop : ∀ key, related (top path old new key) (top path' old' new' key)) :
    alike (Codebase.compareAt policy path old new) (Codebase.compareAt other path' old' new') := by
  have hkeys : jointKeys old.keys new.keys = jointKeys old'.keys new'.keys := by
    apply (sorted_jointKeys _ _).eq_of_mem_iff (sorted_jointKeys _ _)
    intro key
    rw [← Codebase.present_top_iff old new path, ← Codebase.present_top_iff old' new' path']
    exact hlockstep.present_iff (htop key)
  rw [Codebase.compareAt_eq_inTurn, Codebase.compareAt_eq_inTurn, ← hkeys]
  apply hsequential.inTurn
  intro key
  exact hlockstep.comparison hsequential hvisit (htop key)

end Lockstep

/-! ### Sites where related entities stand -/

/-- The same place, with related entities on either side of it. -/
structure Related (oldRelated newRelated : Entity → Entity → Prop) (first second : Site) :
    Prop where
  parentPath_eq : first.parentPath = second.parentPath
  key_eq : first.key = second.key
  old? : Option.Rel oldRelated first.old? second.old?
  new? : Option.Rel newRelated first.new? second.new?

section Related

variable {oldRelated newRelated : Entity → Entity → Prop} {first second : Site}

theorem Related.present_iff (hrelated : first.Related oldRelated newRelated second) :
    first.Present ↔ second.Present := by
  have hold : first.old?.isSome = second.old?.isSome := isSome_eq_of_optionRel hrelated.old?
  have hnew : first.new?.isSome = second.new?.isSome := isSome_eq_of_optionRel hrelated.new?
  rw [Present, Present, hold, hnew]

variable (hname : ∀ a b, newRelated a b → a.name = b.name)

include hname

theorem Related.path_eq (hrelated : first.Related oldRelated newRelated second) :
    first.path = second.path := by
  rw [path, path, hrelated.parentPath_eq, hrelated.key_eq]
  rcases optionRel_iff.mp hrelated.old? with ⟨hnone, hnone'⟩ | ⟨old, old', hsome, hsome', -⟩
  · rw [hnone, hnone']
  · rw [hsome, hsome']
    rcases optionRel_iff.mp hrelated.new? with ⟨hnone, hnone'⟩ | ⟨new, new', hsome, hsome', hnew⟩
    · rw [hnone, hnone']
    · rw [hsome, hsome']
      exact congrArg (Path.join second.parentPath) (hname new new' hnew)

variable (holdKind : ∀ a b, oldRelated a b → a.kind = b.kind)
  (hnewKind : ∀ a b, newRelated a b → a.kind = b.kind)

include holdKind hnewKind

theorem Related.opened_iff (policy : Policy)
    (hrelated : first.Related oldRelated newRelated second) :
    first.Opened policy ↔ second.Opened policy := by
  rw [Opened, Opened, hrelated.path_eq hname]
  rcases optionRel_iff.mp hrelated.old? with ⟨hnone, hnone'⟩ | ⟨old, old', hold, hold', holds⟩
  · simp [hnone, hnone']
  · rcases optionRel_iff.mp hrelated.new? with ⟨hnone, hnone'⟩ | ⟨new, new', hnew, hnew', hnews⟩
    · simp [hnone, hnone']
    · simp [hold, hold', hnew, hnew', holdKind old old' holds, hnewKind new new' hnews,
        hname new new' hnews]

/-- If entities are related throughout, under the same names and with the same kinds, then the comparisons go in lockstep. -/
theorem lockstep_throughout (policy : Policy) : Lockstep policy policy
    (Related (Entity.Throughout oldRelated) (Entity.Throughout newRelated)) := by
  have hnames : ∀ a b, Entity.Throughout newRelated a b → a.name = b.name :=
    fun a b hrelated => hname a b hrelated.1
  constructor
  · exact Related.present_iff
  · intro first second hrelated
    apply hrelated.opened_iff hnames
    · intro a b hrelated
      exact holdKind a b hrelated.1
    · intro a b hrelated
      exact hnewKind a b hrelated.1
  · intro first second hrelated turn
    refine ⟨hrelated.path_eq hnames, rfl, ?_, ?_⟩
    · exact optionRel_bind hrelated.old? fun _ _ hold => hold.child? turn
    · exact optionRel_bind hrelated.new? fun _ _ hnew => hnew.child? turn

end Related

end Site

end ApiDrift
