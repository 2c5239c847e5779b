import ApiDrift.Proofs.Comparison.Filtering
import ApiDrift.Proofs.Comparison.Moves
import ApiDrift.Proofs.Comparison.Severity
import ApiDrift.Proofs.Path.Within

/-!
# What a report says below a name

A report can be narrowed to one path and what lies below it. Where every entity stands under its own name and names are segments, narrowing it to the name of a top-level entity leaves what comparing that entity alone finds. The report is made of such parts, name by name in the order of their bytes, so nothing is told about one entity that comes from another.
-/

namespace ApiDrift

open Comparison

/-- Of parts that keys choose, one key chooses one. -/
theorem flatMap_ite_eq {α κ : Type} [DecidableEq κ] {keys : List κ} (hnodup : keys.Nodup)
    (part : κ → List α) (key : κ) :
    (keys.flatMap fun other => if other = key then part other else []) =
      if key ∈ keys then part key else [] := by
  have hfilter := flatMap_filter keys (· == key) part
  simp only [beq_iff_eq] at hfilter
  rw [← hfilter, List.filter_beq, List.Nodup.count hnodup]
  split
  · exact List.flatMap_singleton ..
  · rfl

namespace Codebase

/-- What comparing by one key alone finds. -/
def recordsUnder (policy : Policy) (old new : Codebase) (key : String) : List ChangeRecord :=
  match old.get? key, new.get? key with
  | none, none => []
  | none, some _ => [.of key .entityWasIntroduced]
  | some _, none => [.of key .entityWasRemoved]
  | some before, some after => (Entity.compare policy "" before after).records

variable {policy : Policy} {old new : Codebase} {key : String}

theorem records_comparison_top (policy : Policy) (old new : Codebase) (key : String) :
    ((Site.top "" old new key).comparison policy).records = recordsUnder policy old new key := by
  rw [recordsUnder, Site.comparison, Site.visit, Site.path, Site.top]
  cases old.get? key <;> cases new.get? key <;> simp only [Path.join_empty_left] <;> rfl

theorem recordsUnder_of_not_mem (hkey : key ∉ jointKeys old.keys new.keys) :
    recordsUnder policy old new key = [] := by
  rw [mem_jointKeys, Keyed.mem_keys_iff, Keyed.mem_keys_iff, not_or, Option.not_isSome_iff_eq_none,
    Option.not_isSome_iff_eq_none] at hkey
  rw [recordsUnder, hkey.1, hkey.2]

/-- A comparison that succeeds has compared what stands under each key, key by key. -/
theorem records_eq_flatMap_recordsUnder (hsucceeds : Succeeds (compare policy old new)) :
    (compare policy old new).records =
      (jointKeys old.keys new.keys).flatMap (recordsUnder policy old new) := by
  rw [compare, compareAt_eq_inTurn] at hsucceeds ⊢
  rw [records_inTurn hsucceeds, List.flatMap_map]
  exact List.flatMap_congr fun key _ => records_comparison_top policy old new key

theorem succeeds_comparison_top (hsucceeds : Succeeds (compare policy old new))
    (hkey : key ∈ jointKeys old.keys new.keys) :
    Succeeds ((Site.top "" old new key).comparison policy) := by
  rw [compare, compareAt_eq_inTurn] at hsucceeds
  exact succeeds_inTurn_iff.mp hsucceeds _ (List.mem_map_of_mem hkey)

theorem succeeds_compare_of_pair (hsucceeds : Succeeds (compare policy old new))
    {before after : Entity} (hbefore : old.get? key = some before)
    (hafter : new.get? key = some after) : Succeeds (Entity.compare policy "" before after) := by
  have hkey : key ∈ jointKeys old.keys new.keys :=
    mem_jointKeys.mpr (Or.inl ((old.mem_keys_iff key).mpr (Option.isSome_of_eq_some hbefore)))
  have hpair : (Site.top "" old new key).comparison policy =
      Entity.compare policy "" before after := Site.comparison_of_pair hbefore hafter
  rw [← hpair]
  exact succeeds_comparison_top hsucceeds hkey

/-- What is found under a key has a path whose first segment is the key. -/
theorem path_of_mem_recordsUnder (hnamed : new.NamedByKeys) (hold : old.Segmented)
    (hnew : new.Segmented) (hsucceeds : Succeeds (compare policy old new))
    {record : ChangeRecord} (hmem : record ∈ recordsUnder policy old new key) :
    ∃ rest, (∀ segment ∈ key :: rest, Path.IsSegment segment) ∧
      record.path = Path.ofSegments (key :: rest) := by
  have hkey : key ∈ jointKeys old.keys new.keys := by
    by_contra hkey
    rw [recordsUnder_of_not_mem hkey] at hmem
    cases hmem
  have htop := succeeds_comparison_top hsucceeds hkey
  rw [Site.comparison_eq_inTurn] at htop
  rw [← records_comparison_top, Site.comparison_eq_inTurn, records_inTurn htop,
    List.flatMap_map] at hmem
  obtain ⟨turns, hturns, hmem⟩ := List.mem_flatMap.mp hmem
  obtain ⟨bump, hok⟩ := succeeds_inTurn_iff.mp htop _ (List.mem_map_of_mem hturns)
  rw [Site.records_visit hok] at hmem
  have hpresent : (site old new ⟨key, turns⟩).Present := Site.present_of_mem_records hmem
  have hsegments := isSegment_of_mem_keys hold hnew hpresent
  refine ⟨turns.map Turn.key, hsegments, ?_⟩
  exact (Site.path_of_mem_records hmem).trans (path_site_eq_ofSegments hnamed ⟨key, turns⟩)

/-- Of what is found under a key, all lies within it and nothing within another name. -/
theorem filter_recordsUnder (hnamed : new.NamedByKeys) (hold : old.Segmented)
    (hnew : new.Segmented) (hsucceeds : Succeeds (compare policy old new)) {name : String}
    (hname : '.' ∉ name.toList) :
    (recordsUnder policy old new key).filter (fun record => Path.within name record.path) =
      if key = name then recordsUnder policy old new key else [] := by
  have hwithin : ∀ record ∈ recordsUnder policy old new key,
      (Path.within name record.path = true ↔ key = name) := by
    intro record hmem
    obtain ⟨rest, hsegments, hpath⟩ := path_of_mem_recordsUnder hnamed hold hnew hsucceeds hmem
    rw [hpath]
    exact Path.within_name_iff hname hsegments
  split
  case isTrue hsame =>
    exact List.filter_eq_self.mpr fun record hmem => (hwithin record hmem).mpr hsame
  case isFalse hother =>
    exact List.filter_eq_nil_iff.mpr fun record hmem => mt (hwithin record hmem).mp hother

theorem below_eq_recordsUnder (hnamed : new.NamedByKeys) (hold : old.Segmented)
    (hnew : new.Segmented) {report : Report}
    (hreport : Codebase.report policy old new = .ok report) {name : String}
    (hname : '.' ∉ name.toList) : report.below name = recordsUnder policy old new name := by
  obtain ⟨bump, hok, rfl⟩ := report_eq_ok_iff.mp hreport
  have hsucceeds : Succeeds (compare policy old new) := ⟨bump, hok⟩
  have hnodup : (jointKeys old.keys new.keys).Nodup := (sorted_jointKeys _ _).pairwise.nodup
  rw [Report.below, Report.of, records_eq_flatMap_recordsUnder hsucceeds, List.filter_flatMap]
  simp only [filter_recordsUnder hnamed hold hnew hsucceeds hname]
  rw [flatMap_ite_eq hnodup]
  split
  case isTrue hkey => rfl
  case isFalse hkey => exact (recordsUnder_of_not_mem hkey).symm

end Codebase

/-- Narrowed to a name, a report tells what comparing the entities of that name alone finds, and that comparison succeeds too. All its changes are these parts, name by name in the order of their bytes. -/
theorem Report.parted_by_names {policy : Policy} {old new : Codebase} {report : Report}
    (hnamed : new.NamedByKeys) (hold : old.Segmented) (hnew : new.Segmented)
    (hreport : Codebase.report policy old new = .ok report) :
    (∀ key, '.' ∉ key.toList → report.below key = Codebase.recordsUnder policy old new key) ∧
    (∀ key before after, old.get? key = some before → new.get? key = some after →
      Succeeds (Entity.compare policy "" before after)) ∧
    ∃ keys : List String, keys.Pairwise (fun key next => Text.bytes key < Text.bytes next) ∧
      (∀ key, key ∈ keys ↔ key ∈ old.keys ∨ key ∈ new.keys) ∧
      report.changes = keys.flatMap (Codebase.recordsUnder policy old new) := by
  refine ⟨fun key hkey => Codebase.below_eq_recordsUnder hnamed hold hnew hreport hkey, ?_⟩
  obtain ⟨bump, hok, rfl⟩ := Codebase.report_eq_ok_iff.mp hreport
  have hsucceeds : Succeeds (Codebase.compare policy old new) := ⟨bump, hok⟩
  have hsorted := (sorted_jointKeys old.keys new.keys).pairwise
  have hrecords := Codebase.records_eq_flatMap_recordsUnder hsucceeds
  exact ⟨fun key before after => Codebase.succeeds_compare_of_pair hsucceeds,
    jointKeys old.keys new.keys, hsorted.imp Text.bytes_lt_bytes, fun key => mem_jointKeys,
    hrecords⟩

/-- The one name begins with the other: a field of the first unit gets another type, the second unit loses a function, and a third unit is new. -/
theorem Report.parted_by_names_widget :
    ∃ old new : Codebase, ∃ report : Report,
      new.NamedByKeys ∧ old.Segmented ∧ new.Segmented ∧
        Codebase.report (.ofBool fun _ => false) old new = .ok report ∧
        report.changes = [.of "Gadget" .entityWasIntroduced,
          .of "Widget.size" .typeChangedToIncompatibleType,
          .of "WidgetFactory.make" .entityWasRemoved] ∧
        report.below "Widget" = [.of "Widget.size" .typeChangedToIncompatibleType] ∧
        report.below "Wid" = [] ∧
        ∀ before after, old.get? "Widget" = some before → new.get? "Widget" = some after →
          Succeeds (Entity.compare (.ofBool fun _ => false) "" before after) := by
  let old : Codebase :=
    .cons "Widget" trivial
      (.unit "Widget" (.cons "size" trivial (.field "size" ⟨"int", 0, []⟩) .nil) .nil .nil)
      (.cons "WidgetFactory" (by decide)
        (.unit "WidgetFactory" .nil
          (.cons "make" trivial (.function "make" ⟨"Widget", 0, []⟩ []) .nil) .nil) .nil)
  let new : Codebase :=
    .cons "Gadget" trivial (.unit "Gadget" .nil .nil .nil)
      (.cons "Widget" (by decide)
        (.unit "Widget" (.cons "size" trivial (.field "size" ⟨"text", 0, []⟩) .nil) .nil .nil)
        (.cons "WidgetFactory" (by decide) (.unit "WidgetFactory" .nil .nil .nil) .nil))
  have hok : (Codebase.compare (.ofBool fun _ => false) old new).outcome = .ok .major := by decide
  have hrecords : (Codebase.compare (.ofBool fun _ => false) old new).records =
      [.of "Gadget" .entityWasIntroduced, .of "Widget.size" .typeChangedToIncompatibleType,
        .of "WidgetFactory.make" .entityWasRemoved] := by decide
  have hreport := Codebase.report_eq_ok_iff.mpr ⟨.major, hok, rfl⟩
  have hnamed : new.NamedByKeys := by decide
  have hold : old.Segmented := by decide
  have hnew : new.Segmented := by decide
  obtain ⟨hbelow, hpairs, -⟩ := Report.parted_by_names hnamed hold hnew hreport
  exact ⟨old, new, _, hnamed, hold, hnew, hreport, hrecords, hbelow "Widget" (by decide),
    hbelow "Wid" (by decide), hpairs "Widget"⟩

end ApiDrift
