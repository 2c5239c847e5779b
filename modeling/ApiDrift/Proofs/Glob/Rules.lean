import ApiDrift.Proofs.Comparison.Ignoring
import ApiDrift.Proofs.Glob.Matching
import ApiDrift.Proofs.Glob.Room

/-!
# Globs as ignore rules

Every pattern without the mark of a regular expression is a rule, unless it is so long that it takes too much room. A list of such patterns ignores the paths that one of them matches.
-/

namespace ApiDrift

open Pattern

/-- The mark that a pattern is a regular expression. -/
def IgnoreRule.mark : List Char := ['r', 'e', ':']

namespace IgnoreRule

variable {pattern : String}

theorem source_of_not_marked (hglob : ¬ mark <+: pattern.toList) :
    source pattern = Glob.source pattern.toList := by
  unfold source
  split
  · next source heq =>
    rw [heq] at hglob
    exact absurd (List.prefix_append mark source) hglob
  · rfl

theorem ofPattern_of_not_marked (hglob : ¬ mark <+: pattern.toList) :
    ofPattern pattern =
      if Glob.fits pattern.toList then .ok ⟨pattern, (Glob.part pattern.toList).expr⟩
      else .error (refused pattern) := by
  rw [ofPattern, source_of_not_marked hglob, Glob.read?_source]
  split <;> simp_all

end IgnoreRule

namespace IgnoreRules

/-- Patterns that are globs ignore exactly the paths that one of them matches. -/
theorem globs_ignore_what_they_match (patterns : List String)
    (hglobs : ∀ pattern ∈ patterns, ¬ IgnoreRule.mark <+: pattern.toList)
    (hroom : ∀ pattern ∈ patterns, Glob.fits pattern.toList = true) :
    ∃ rules, ofPatterns patterns = .ok rules ∧ ∀ path, rules.ignores path = true ↔
      ∃ pattern ∈ patterns, Glob.Matches pattern.toList path.toList := by
  have hrule : ∀ pattern ∈ patterns, IgnoreRule.ofPattern pattern =
      .ok ⟨pattern, (Glob.part pattern.toList).expr⟩ := fun pattern hmem => by
    rw [IgnoreRule.ofPattern_of_not_marked (hglobs pattern hmem), if_pos (hroom pattern hmem)]
  obtain ⟨rules, hrules⟩ := exists_ofPatterns fun pattern hmem => ⟨_, hrule pattern hmem⟩
  refine ⟨rules, hrules, fun path => ?_⟩
  rw [ignores, List.any_eq_true]
  constructor
  · rintro ⟨rule, hmem, hignores⟩
    obtain ⟨pattern, hpattern, heq⟩ := (mem_ofPatterns_iff hrules).mp hmem
    obtain rfl := Except.ok.inj ((hrule pattern hpattern).symm.trans heq)
    exact ⟨pattern, hpattern, Glob.matches_of_takeAll (Glob.occursIn_part_iff.mp hignores)⟩
  · rintro ⟨pattern, hpattern, hmatches⟩
    exact ⟨_, (mem_ofPatterns_iff hrules).mpr ⟨pattern, hpattern, hrule pattern hpattern⟩,
      Glob.occursIn_part_iff.mpr (Glob.takeAll_of_matches hmatches)⟩

/-- One star does not go beyond a dot, two stars do, and a plus sign is only a plus sign. -/
theorem globs_ignore_what_they_match_two :
    (∀ pattern ∈ ["a.*", "**+?"], ¬ IgnoreRule.mark <+: pattern.toList) ∧
      (∀ pattern ∈ ["a.*", "**+?"], Glob.fits pattern.toList = true) ∧
      ∃ rules, ofPatterns ["a.*", "**+?"] = .ok rules ∧ rules.ignores "a.b" = true ∧
        rules.ignores "x.y+z" = true ∧ rules.ignores "a.b.c" = false := by
  have hglobs : ∀ pattern ∈ ["a.*", "**+?"], ¬ IgnoreRule.mark <+: pattern.toList := by
    decide
  have hroom : ∀ pattern ∈ ["a.*", "**+?"], Glob.fits pattern.toList = true := by
    intro pattern hmem
    refine Glob.fits_of_length_le ?_
    revert pattern
    decide
  obtain ⟨rules, hrules, hignores⟩ := globs_ignore_what_they_match _ hglobs hroom
  have hstar : Glob.Matches ['*'] (['b'] ++ []) := .oneStar (by decide) (by simp) .nil
  have hmark : Glob.Matches ['*', '*', '+', '?'] (['x', '.', 'y'] ++ ['+', 'z']) :=
    .twoStars (by simp) (.itself (by decide) (by decide) (.questionMark (by decide) .nil))
  refine ⟨hglobs, hroom, rules, hrules, ?_, ?_, ?_⟩
  · exact (hignores "a.b").mpr ⟨"a.*", by decide,
      .itself (by decide) (by decide) (.itself (by decide) (by decide) hstar)⟩
  · exact (hignores "x.y+z").mpr ⟨"**+?", by decide, hmark⟩
  · rw [Bool.eq_false_iff]
    intro hignored
    obtain ⟨pattern, hmem, hmatches⟩ := (hignores "a.b.c").mp hignored
    simp only [List.mem_cons, List.not_mem_nil, or_false] at hmem
    rcases hmem with rfl | rfl
    · have htake : Glob.TakeAll [.exactly 'a', .exactly '.', .anySegment]
        ['a', '.', 'b', '.', 'c'] := Glob.takeAll_of_matches hmatches
      obtain ⟨_, _, htext, rfl, _, _, rfl, rfl, run, _, rfl, hrun, rfl⟩ := htake
      have hrest : ['b', '.', 'c'] = run ++ [] := (List.cons.inj (List.cons.inj htext).2).2
      exact hrun '.' (by rw [← List.append_nil run, ← hrest]; decide) rfl
    · have htake : Glob.TakeAll [.anyPath, .exactly '+', .anyOne]
        ['a', '.', 'b', '.', 'c'] := Glob.takeAll_of_matches hmatches
      obtain ⟨run, _, htext, -, _, _, rfl, rfl, -⟩ := htake
      have hplus : '+' ∈ ['a', '.', 'b', '.', 'c'] := by rw [htext]; simp
      exact absurd hplus (by decide)

end IgnoreRules

end ApiDrift
