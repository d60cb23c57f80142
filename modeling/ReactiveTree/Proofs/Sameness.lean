import ReactiveTree.Scalar
import Mathlib

/-!
# Sameness and equality

Two values are the same if they are equal or both NaN. There is one NaN, so sameness is equality
but for the two zeros: two values that are the same and neither of them negative zero are equal.
JSON has no number that is not finite; NaN stands for it when it is read again.

Key definitions: `Scalar.negativeZero`, `Scalar.settled`.
Key theorems: `Scalar.same_number`, `Scalar.same_refl`, `Scalar.same_of_same`, `Scalar.eq_of_same`,
`Scalar.kind_coerce?`.
-/
namespace ReactiveTree.Scalar

/-- The value that equals zero and is another. -/
def negativeZero : Scalar := .number (-0.0)

/-- Floats are the same if they are equal or zeros of different signs. -/
theorem same_number {x y : Float} : (Scalar.number x).same (.number y) = true ↔
    x = y ∨ x = 0 ∧ y = -0 ∨ x = -0 ∧ y = 0 := by
  have hpos : (0 : Float) ≠ Float.nan := by decide +kernel
  have hneg : (-0 : Float) ≠ Float.nan := by decide +kernel
  rw [same, Bool.or_eq_true, Bool.and_eq_true, Float.isNaN_eq_decide_eq_nan,
    Float.isNaN_eq_decide_eq_nan, decide_eq_true_eq, decide_eq_true_eq, Float.beq_iff_ne_nan_and_eq]
  constructor
  · rintro (⟨rfl, rfl⟩ | ⟨-, -, h⟩)
    · exact .inl rfl
    · exact h
  · rintro (rfl | ⟨rfl, rfl⟩ | ⟨rfl, rfl⟩)
    · by_cases hx : x = Float.nan
      · exact .inl ⟨hx, hx⟩
      · exact .inr ⟨hx, hx, .inl rfl⟩
    · exact .inr ⟨hpos, hneg, .inr (.inl ⟨rfl, rfl⟩)⟩
    · exact .inr ⟨hneg, hpos, .inr (.inr ⟨rfl, rfl⟩)⟩

theorem same_refl (v : Scalar) : v.same v = true := by
  cases v with
  | string s => exact beq_self_eq_true s
  | boolean b => exact beq_self_eq_true b
  | number x => exact same_number.mpr (.inl rfl)

/-- **Values that are the same are equal, but for the sign of zero.** -/
theorem eq_of_same : ∀ {v w : Scalar}, v.same w = true → v ≠ negativeZero → w ≠ negativeZero →
    v = w
  | .string s, .string s', h, _, _ => by rw [same, beq_iff_eq] at h; rw [h]
  | .boolean b, .boolean b', h, _, _ => by rw [same, beq_iff_eq] at h; rw [h]
  | .number x, .number y, h, hv, hw => by
    have hzero : (-0 : Float) = -0.0 := by decide +kernel
    rcases same_number.mp h with rfl | ⟨-, rfl⟩ | ⟨rfl, -⟩
    · rfl
    · exact absurd (congrArg number hzero) hw
    · exact absurd (congrArg number hzero) hv

/-- Values that are the same as a third one are the same. -/
theorem same_of_same : ∀ {u v w : Scalar}, u.same w = true → v.same w = true → u.same v = true
  | .string s, .string s', .string s'', h, h' => by
    rw [same, beq_iff_eq] at h h' ⊢
    exact h.trans h'.symm
  | .boolean b, .boolean b', .boolean b'', h, h' => by
    rw [same, beq_iff_eq] at h h' ⊢
    exact h.trans h'.symm
  | .number x, .number y, .number z, h, h' => by
    rw [same_number] at h h' ⊢
    rcases h with rfl | ⟨rfl, rfl⟩ | ⟨rfl, rfl⟩ <;> tauto

/-- A converted value has the kind that it was converted to. -/
theorem kind_coerce? {v w : Scalar} {k : Kind} (h : v.coerce? k = some w) : w.kind = k := by
  cases k with
  | object => cases h
  | array => cases h
  | string =>
    cases h
    rfl
  | boolean =>
    cases h
    rfl
  | number =>
    obtain ⟨x, -, rfl⟩ := Option.map_eq_some_iff.mp h
    rfl

/-- The value as far as JSON can say it: a number that is not finite is NaN. -/
def settled : Scalar → Scalar
  | .number x => .number (if x.isFinite then x else Decimal.nan)
  | v => v

@[simp] theorem kind_settled (v : Scalar) : v.settled.kind = v.kind := by cases v <;> rfl

end ReactiveTree.Scalar
