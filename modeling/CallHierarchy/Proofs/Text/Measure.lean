import CallHierarchy.Text.Basic
import Mathlib.Algebra.Group.Nat.Defs
import Mathlib.Data.List.Basic

/-!
Cutting a text at the end of one of its beginnings. An offset into `before ++ behind` that counts
the bytes of `before` is a place to cut, and the units of a text add up over its parts.
-/

namespace CallHierarchy.Text

theorem slice?_append
    (before middle behind : Text) :
    slice? (before ++ (middle ++ behind)) (byteLength before)
        (byteLength before + byteLength middle) =
      some middle := by
  have middleLength :
      byteLength before + byteLength middle - byteLength before = byteLength middle := by
    omega
  rw [slice?, if_pos (Nat.le_add_right _ _), splitAtByte?_append, middleLength]
  dsimp only [Option.bind_eq_bind, Option.bind_some]
  rw [splitAtByte?_append]
  rfl

theorem floorBoundary_append
    (before behind : Text) :
    floorBoundary (before ++ behind) (byteLength before) = byteLength before := by
  induction before with
  | nil =>
      cases behind with
      | nil => rfl
      | cons first rest =>
          have positive : 0 < first.utf8Size := Char.utf8Size_pos first
          rw [List.nil_append, byteLength_nil, floorBoundary, if_neg (by omega)]
  | cons first rest inductionHypothesis =>
      have restLength :
          first.utf8Size + byteLength rest - first.utf8Size = byteLength rest := by
        omega
      rw [List.cons_append, byteLength_cons, floorBoundary, if_pos (Nat.le_add_right _ _),
        restLength, inductionHypothesis]

@[simp] theorem unitLength_nil : unitLength [] = 0 :=
  rfl

@[simp] theorem unitLength_cons
    (first : Char) (rest : Text) :
    unitLength (first :: rest) = unitCount first + unitLength rest :=
  rfl

@[simp] theorem unitLength_append
    (left right : Text) :
    unitLength (left ++ right) = unitLength left + unitLength right := by
  induction left with
  | nil => rw [List.nil_append, unitLength_nil, Nat.zero_add]
  | cons first rest inductionHypothesis =>
      rw [List.cons_append, unitLength_cons, unitLength_cons, inductionHypothesis, Nat.add_assoc]

theorem unitCount_pos (character : Char) : 0 < unitCount character := by
  unfold unitCount
  split
  · exact Nat.one_pos
  · exact Nat.two_pos

theorem unitLength_pos
    {text : Text} (nonempty : text ≠ []) :
    0 < unitLength text := by
  cases text with
  | nil => exact absurd rfl nonempty
  | cons first rest =>
      have positive := unitCount_pos first
      rw [unitLength_cons]
      omega

/-- Fewer than `2 ^ 32` lines and units, so that no line or column sticks at the limit. -/
structure FitsPositions (text : Text) : Prop where
  lines : text.count '\n' + 1 < 2 ^ 32
  units : unitLength text < 2 ^ 32

instance (text : Text) : Decidable (FitsPositions text) :=
  decidable_of_iff (text.count '\n' + 1 < 2 ^ 32 ∧ unitLength text < 2 ^ 32)
    ⟨fun counts => ⟨counts.1, counts.2⟩, fun fits => ⟨fits.lines, fits.units⟩⟩

theorem saturate_of_lt
    {count : Nat} (small : count < 2 ^ 32) :
    saturate count = count := by
  unfold saturate countLimit
  omega

theorem FitsPositions.of_append
    {before behind : Text} (fits : FitsPositions (before ++ behind)) :
    FitsPositions before := by
  obtain ⟨lines, units⟩ := fits
  rw [List.count_append] at lines
  rw [unitLength_append] at units
  exact ⟨by omega, by omega⟩

end CallHierarchy.Text
