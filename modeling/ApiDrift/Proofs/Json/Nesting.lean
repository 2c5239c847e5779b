import ApiDrift.Proofs.Json.RoundTrip

/-!
# How deeply a tree is nested

The depth of a tree is the largest number of brackets that are open at once in its text. A whole tree can be held back exactly if that is not more than allowed.
-/

namespace ApiDrift

mutual

def Json.depth : Json → Nat
  | .array items => items.depth + 1
  | .object members => members.depth + 1
  | _ => 0

def Json.Items.depth : Json.Items → Nat
  | .cons item rest => max item.depth rest.depth
  | _ => 0

def Json.Members.depth : Json.Members → Nat
  | .cons _ value rest => max value.depth rest.depth
  | .nameless value rest => max value.depth rest.depth
  | _ => 0

end

theorem Json.held_iff {first second : Except Json.Rejection Unit} {brackets depth other : Nat}
    (hfirst : first = .ok () ↔ depth ≤ brackets) (hsecond : second = .ok () ↔ other ≤ brackets) :
    (do first; second) = .ok () ↔ max depth other ≤ brackets := by
  rw [Nat.max_le, ← hfirst, ← hsecond]
  cases first with
  | error rejection => exact ⟨fun h => (nomatch h), fun h => (nomatch h.1)⟩
  | ok => exact ⟨fun h => ⟨rfl, h⟩, fun h => h.2⟩

mutual

theorem Json.hold_eq_ok_iff : (json : Json) → json.Whole → (brackets : Nat) →
    (json.hold brackets = .ok () ↔ json.depth ≤ brackets)
  | .null, _, brackets => iff_of_true rfl brackets.zero_le
  | .bool _, _, brackets => iff_of_true rfl brackets.zero_le
  | .text _, _, brackets => iff_of_true rfl brackets.zero_le
  | .number numeral, hwhole, brackets => by
    rw [Json.hold, hwhole.2]
    exact iff_of_true rfl brackets.zero_le
  | .array items, _, 0 => ⟨fun h => (nomatch h), fun h => (nomatch h)⟩
  | .array items, hwhole, inner + 1 => by
    rw [Json.depth, Nat.succ_le_succ_iff]
    exact items.hold_eq_ok_iff hwhole inner
  | .object members, _, 0 => ⟨fun h => (nomatch h), fun h => (nomatch h)⟩
  | .object members, hwhole, inner + 1 => by
    rw [Json.depth, Nat.succ_le_succ_iff]
    exact members.hold_eq_ok_iff hwhole inner

theorem Json.Items.hold_eq_ok_iff : (items : Json.Items) → items.Whole → (brackets : Nat) →
    (items.hold brackets = .ok () ↔ items.depth ≤ brackets)
  | .done, _, brackets => iff_of_true rfl brackets.zero_le
  | .cons item rest, hwhole, brackets =>
    Json.held_iff (item.hold_eq_ok_iff hwhole.1 brackets) (rest.hold_eq_ok_iff hwhole.2 brackets)

theorem Json.Members.hold_eq_ok_iff : (members : Json.Members) → members.Whole →
    (brackets : Nat) → (members.hold brackets = .ok () ↔ members.depth ≤ brackets)
  | .done, _, brackets => iff_of_true rfl brackets.zero_le
  | .cons _ value rest, hwhole, brackets =>
    Json.held_iff (value.hold_eq_ok_iff hwhole.1 brackets) (rest.hold_eq_ok_iff hwhole.2 brackets)

end

end ApiDrift
