import ApiDrift.Proofs.Comparison.Differ
import ApiDrift.Proofs.Comparison.Success

/-!
# Sessions

One differ can be called many times, and all its calls write into one journal. What was written before does not touch a call, and neither does having a changelog or not: a call in a session ends as it does on its own, asks the same, and puts what it finds behind what is there. This holds of calls that fail as well.
-/

namespace ApiDrift

open Comparison

/-- A comparison leaves its questions and its records behind what a journal holds. -/
def Journal.add {α : Type} (journal : Journal) (comparison : Comparison α) : Journal :=
  ⟨journal.asked ++ comparison.asked, journal.changelog?.map (· ++ comparison.records)⟩

theorem Differ.replay_eq {α : Type} (comparison : Comparison α) (journal : Journal) :
    replay comparison journal = (comparison.outcome, journal.add comparison) := by
  obtain ⟨steps, outcome⟩ := comparison
  refine congrArg (Prod.mk outcome) ?_
  induction steps generalizing journal with
  | nil => simp [Journal.add, Comparison.asked, Comparison.records]
  | cons step rest ih =>
    rw [List.foldl_cons, ih]
    cases step <;> simp [Journal.take, Journal.add, Journal.ask, Journal.enter, Comparison.asked,
      Comparison.records, Function.comp_def]

inductive Call
  | entities (path : String) (old new : Entity)
  | collections (path : String) (old new : Codebase)

namespace Call

/-- How a call ends, and the journal it leaves, whichever way it ends. -/
def made (policy : Policy) (journal : Journal) : Call → Except Failure Bump × Journal
  | entities path old new => Differ.compareEntities policy path old new journal
  | collections path old new => Differ.compareCollections policy path old new journal

def comparison (policy : Policy) : Call → Comparison Bump
  | entities path old new => Entity.compare policy path old new
  | collections path old new => Codebase.compareAt policy path old new

theorem made_eq (policy : Policy) (journal : Journal) (call : Call) :
    call.made policy journal =
      ((call.comparison policy).outcome, journal.add (call.comparison policy)) := by
  cases call with
  | entities path old new =>
    rw [made, Differ.compareEntities_eq_replay]
    exact Differ.replay_eq _ journal
  | collections path old new =>
    rw [made, Differ.compareCollections_eq_replay]
    exact Differ.replay_eq _ journal

/-- A call ends and asks as it does without a changelog and on a journal of its own. What it appends is what it writes into an empty changelog. -/
structure Undisturbed (policy : Policy) (journal : Journal) (call : Call) : Prop where
  outcome_eq : (call.made policy journal).1 = (call.made policy ⟨[], none⟩).1
  asked_eq : (call.made policy journal).2.asked =
    journal.asked ++ (call.made policy ⟨[], none⟩).2.asked
  changelog?_eq : ∃ found, (call.made policy ⟨[], some []⟩).2.changelog? = some found ∧
    (call.made policy journal).2.changelog? = journal.changelog?.map (· ++ found)

theorem undisturbed (policy : Policy) (journal : Journal) (call : Call) :
    call.Undisturbed policy journal := by
  constructor
  · rw [made_eq, made_eq]
  · rw [made_eq, made_eq]
    rfl
  · refine ⟨(call.comparison policy).records, ?_, ?_⟩
    · rw [made_eq]
      rfl
    · rw [made_eq]
      rfl

end Call

/-- The journal after some calls, one after the other. -/
def Journal.after (policy : Policy) (journal : Journal) (calls : List Call) : Journal :=
  calls.foldl (fun journal call => (call.made policy journal).2) journal

theorem Journal.after_eq (policy : Policy) (journal : Journal) (calls : List Call) :
    journal.after policy calls =
      ⟨journal.asked ++ calls.flatMap fun call => (call.comparison policy).asked,
        journal.changelog?.map (· ++ calls.flatMap fun call => (call.comparison policy).records)⟩ := by
  induction calls generalizing journal with
  | nil => simp [after]
  | cons call rest ih =>
    have hafter : journal.after policy (call :: rest) =
        (call.made policy journal).2.after policy rest := rfl
    rw [hafter, ih, Call.made_eq]
    simp [add, Function.comp_def]

/-- Whatever calls were made before, the next one goes undisturbed and ends as its comparison does. The calls together leave what their comparisons find, in order. -/
theorem session_undisturbed (policy : Policy) (journal : Journal) (before : List Call)
    (call : Call) :
    call.Undisturbed policy (journal.after policy before) ∧
      call.made policy (journal.after policy before) =
        ((call.comparison policy).outcome, journal.after policy (before ++ [call])) ∧
      journal.after policy (before ++ [call]) =
        ⟨journal.asked ++ (before ++ [call]).flatMap fun call => (call.comparison policy).asked,
          journal.changelog?.map
            (· ++ (before ++ [call]).flatMap fun call => (call.comparison policy).records)⟩ := by
  refine ⟨call.undisturbed policy _, ?_, journal.after_eq policy _⟩
  rw [Journal.after, Journal.after, List.foldl_append, List.foldl_cons, List.foldl_nil, Call.made_eq]

end ApiDrift
