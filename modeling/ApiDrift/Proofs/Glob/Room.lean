import ApiDrift.Proofs.Glob.Source
import Mathlib.Algebra.GroupWithZero.Nat
import Mathlib.Algebra.Order.BigOperators.Group.List
import Mathlib.Algebra.Order.Group.Nat

/-!
# The room that globs take

Each piece of a glob takes a bounded room, and what stands in a row takes no more than its parts do. So only very long globs are refused.
-/

namespace ApiDrift.Pattern

namespace Room

/-- The room in the wider one of both automata, or that of the word if the expression is one. -/
def most (room : Room) : Nat :=
  max (max room.forward room.backward)
    ((room.letters?.map fun letters => state * (bytes letters).length).getD 0)

theorem forward_le_most (room : Room) : room.forward ≤ room.most :=
  Nat.le_trans (Nat.le_max_left _ _) (Nat.le_max_left _ _)

theorem backward_le_most (room : Room) : room.backward ≤ room.most :=
  Nat.le_trans (Nat.le_max_right _ _) (Nat.le_max_left _ _)

theorem word_le_most {room : Room} {letters : List Char} (hword : room.letters? = some letters) :
    state * (bytes letters).length ≤ room.most := by
  rw [most, hword]
  exact Nat.le_max_right _ _

theorem most_ofWord (letters : List Char) :
    (ofWord letters).most = state * (bytes letters).length := by
  simp [most, ofWord, letters?]

theorem total_le {side : Room → Nat} (hside : ∀ room, side room ≤ most room) (rooms : List Room) :
    total rooms side ≤ (rooms.map most).sum := by
  have hfold (start : Nat) :
      rooms.foldl (fun sum one => sum + side one) start ≤ start + (rooms.map most).sum := by
    induction rooms generalizing start with
    | nil => simp
    | cons room rooms ih =>
      have := hside room
      have := ih (start + side room)
      simp only [List.foldl_cons, List.map_cons, List.sum_cons]
      omega
  simpa [total] using hfold 0

theorem words_le {rooms : List Room} {words : List (List Char)}
    (hwords : rooms.mapM letters? = some words) :
    state * (bytes words.flatten).length ≤ (rooms.map most).sum := by
  induction rooms generalizing words with
  | nil =>
    obtain rfl := Option.some.inj hwords
    simp [bytes]
  | cons room rooms ih =>
    rw [List.mapM_cons] at hwords
    obtain ⟨word, hword, hrest⟩ := Option.bind_eq_some_iff.mp hwords
    obtain ⟨others, hothers, heq⟩ := Option.bind_eq_some_iff.mp hrest
    obtain rfl := Option.some.inj heq
    have hfirst := word_le_most hword
    have hrest := ih hothers
    simp only [bytes, List.flatten_cons, List.flatMap_append, List.length_append, List.map_cons,
      List.sum_cons, Nat.mul_add] at hfirst hrest ⊢
    omega

/-- A row takes no more room than its parts, but a state if all of them are empty. -/
theorem most_inRow_le (rooms : List Room) :
    (inRow rooms).most ≤ state + (rooms.map most).sum := by
  have hfilter : ((rooms.filter fun room => !room.isNothing).map most).sum ≤ (rooms.map most).sum :=
    (List.filter_sublist.map most).sum_le_sum fun _ _ => Nat.zero_le _
  unfold inRow
  split
  · exact Nat.le_add_right state _
  · next room hroom =>
    rw [hroom] at hfilter
    simp at hfilter
    omega
  · split
    · next words hwords =>
      have := words_le hwords
      rw [most_ofWord]
      omega
    · have hforward := total_le forward_le_most (rooms.filter fun room => !room.isNothing)
      have hbackward := total_le backward_le_most (rooms.filter fun room => !room.isNothing)
      simp only [most, letters?, Option.map_none, Option.getD_none]
      omega

end Room

namespace Glob

theorem length_pieces_le (glob : List Char) : (pieces glob).length ≤ glob.length := by
  induction glob using pieces.induct with
  | case1 rest ih | case2 rest hother ih | case3 rest ih | case4 c rest _ hstar hmark ih =>
    simp only [pieces, List.length_cons]
    omega
  | case5 => exact Nat.le_refl 0

/-- Brackets around one character list the same code points as the character alone. -/
theorem ofSet_inSegment : Room.ofSet inSegment = Room.ofSet (.complement (.single '.')) := by
  have hcodes : inSegment.codes = (CharSet.complement (.single '.')).codes := by
    simp [inSegment, CharSet.codes, CharSet.single, CodeRange.inOrder, CodeRange.joinBefore]
  rw [Room.ofSet, hcodes]
  rfl

theorem most_ofSet_single_le (c : Char) : (Room.ofSet (.single c)).most ≤ 1040 := by
  have hcodes : (CharSet.single c).codes = [(c.toNat, c.toNat)] := by
    simp [CharSet.codes, CharSet.single]
  have hbytes : (Room.bytes [Char.ofNat c.toNat]).length ≤ 4 := by
    simp [Room.bytes, Char.utf8Size_le_four]
  rw [Room.ofSet, hcodes]
  unfold Room.ofCodes
  dsimp only
  split
  · simp [Room.most, Room.letters?, Room.state, Room.wideState]
  · next heq _ =>
    obtain ⟨rfl, rfl⟩ := Prod.mk.inj (List.singleton_inj.mp heq)
    rw [if_pos rfl, Room.most_ofWord, Room.state]
    omega
  · next hother _ => exact absurd rfl (hother _ _)

theorem Piece.most_le (piece : Piece) : piece.part.room.most ≤ 1040 := by
  cases piece with
  | anyPath => decide +kernel
  | anySegment =>
    show ((Room.ofSet inSegment).repeated 0 none).most ≤ 1040
    rw [ofSet_inSegment]
    decide +kernel
  | anyOne =>
    show (Room.ofSet inSegment).most ≤ 1040
    rw [ofSet_inSegment]
    decide +kernel
  | exactly c => exact most_ofSet_single_le c

/-- The row of the pieces of a glob, whether it is a row or just one part. -/
theorem most_row_le (parts : List Part) :
    (Part.inRow (parts.map some)).room.most ≤
      Room.state + (parts.map fun part => part.room.most).sum := by
  match parts with
  | [] => exact Nat.le_refl _
  | [part] => simp [Part.inRow]
  | first :: second :: others =>
    have hrow := Room.most_inRow_le ((first :: second :: others).map Part.room)
    simpa [Part.inRow, Function.comp_def] using hrow

theorem most_part_le (glob : List Char) : (part glob).room.most ≤ 128 + 1040 * glob.length := by
  have hpieces : (((pieces glob).map Piece.part).map fun part => part.room.most).sum ≤
      (pieces glob).length * 1040 := by
    refine (List.sum_le_card_nsmul _ 1040 ?_).trans_eq (by simp)
    simpa using fun piece _ => piece.most_le
  have hrow := most_row_le ((pieces glob).map Piece.part)
  rw [List.map_map] at hrow
  have hends := Room.most_inRow_le [.ofAnchor .textStart,
    (Part.inRow ((pieces glob).map (some ∘ Piece.part))).room, .ofAnchor .textEnd]
  have hanchor (condition : Anchor) : (Room.ofAnchor condition).most = 32 := rfl
  have hlength := length_pieces_le glob
  simp only [List.map_cons, List.map_nil, List.sum_cons, List.sum_nil, hanchor, Room.state]
    at hends hrow
  have hpart : (part glob).room = Room.inRow [.ofAnchor .textStart,
    (Part.inRow ((pieces glob).map (some ∘ Piece.part))).room, .ofAnchor .textEnd] := rfl
  rw [hpart]
  omega

/-- Only globs of more than ten thousand characters may take too much room. -/
theorem fits_of_length_le {glob : List Char} (hlength : glob.length ≤ 10000) :
    fits glob = true := by
  have hmost := most_part_le glob
  have hforward := (part glob).room.forward_le_most
  have hbackward := (part glob).room.backward_le_most
  have hlead (anchored : Bool) : Room.lead anchored ≤ 112 := by cases anchored <;> decide
  have hstart := hlead (part glob).room.fromStart
  have hend := hlead (part glob).room.toEnd
  rw [fits, Room.fits, Bool.and_eq_true, decide_eq_true_iff, decide_eq_true_iff]
  simp only [Room.kept, Room.state, Room.limit]
  omega

end Glob

end ApiDrift.Pattern
