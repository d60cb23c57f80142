import ReactiveTree.Scalar
import ReactiveTree.Proofs.Decimal.Nearest

/-!
# Whole numbers as doubles

A double is equal to a whole number if their exact values are equal (`wholeNumber?_eq_some_iff`).
Converting that number gives the double back, except that both zeros become the positive one
(`ofInt_of_wholeNumber?`), and whole numbers of magnitude up to `2 ^ 53` are found again in their
double (`wholeNumber?_ofInt`).

Key definitions: `Dyadic.signedValue`.
Key theorems: `wholeNumber?_eq_some_iff`, `ofInt_of_wholeNumber?`, `wholeNumber?_ofInt`.
-/
namespace ReactiveTree

open Decimal Float.Model.UnpackedFloat

namespace Decimal

variable {d : Dyadic} {x : Float} {n : ℤ}

/-- The exact value. -/
def Dyadic.signedValue (d : Dyadic) : ℚ := if d.negative then -d.value else d.value

namespace Dyadic

theorem value_nonneg (d : Dyadic) : 0 ≤ d.value := by
  unfold value
  positivity

theorem value_eq_zero : d.value = 0 ↔ d.m = 0 := by
  have hp : (2 : ℚ) ^ d.q ≠ 0 := by positivity
  rw [value, mul_eq_zero, or_iff_left hp, Nat.cast_eq_zero]

/-- The value of a whole number is what stands before the point. -/
theorem value_of_isWhole (h : d.isWhole = true) : d.value = d.truncatedAbs := by
  unfold isWhole at h
  unfold value truncatedAbs twoTo at *
  split
  · rename_i hq
    obtain ⟨k, hk⟩ := Int.eq_ofNat_of_zero_le hq
    rw [hk]
    simp
  · rename_i hq
    obtain ⟨k, hk⟩ : ∃ k : ℕ, d.q = -k := ⟨(-d.q).toNat, by omega⟩
    rw [decide_eq_false hq, Bool.false_or, beq_iff_eq, hk, neg_neg, Int.toNat_natCast] at h
    have hdvd : Nat.pow 2 k ∣ d.m := Nat.dvd_of_mod_eq_zero h
    have hp : ((Nat.pow 2 k : ℕ) : ℚ) ≠ 0 := by exact_mod_cast (Nat.two_pow_pos k).ne'
    rw [hk, neg_neg, Int.toNat_natCast, Nat.cast_div hdvd hp, zpow_neg, zpow_natCast,
      div_eq_mul_inv]
    norm_cast

/-- A value that is a natural number is whole. -/
theorem isWhole_of_value {k : ℕ} (h : d.value = k) : d.isWhole = true := by
  unfold isWhole twoTo
  by_cases hq : 0 ≤ d.q
  · rw [decide_eq_true hq, Bool.true_or]
  · obtain ⟨j, hj⟩ : ∃ j : ℕ, d.q = -j := ⟨(-d.q).toNat, by omega⟩
    have hp : (2 : ℚ) ^ j ≠ 0 := by positivity
    rw [value, hj, zpow_neg, zpow_natCast, ← div_eq_mul_inv, div_eq_iff hp] at h
    have hm : d.m = k * 2 ^ j := by exact_mod_cast h
    rw [hj, neg_neg, Int.toNat_natCast, hm]
    simp

theorem cast_signed (d : Dyadic) (k : ℕ) :
    ((d.signed k : ℤ) : ℚ) = if d.negative then -(k : ℚ) else k := by
  unfold signed
  split <;> simp

end Dyadic

/-- **A double is equal to a whole number just if their exact values are.** -/
theorem wholeNumber?_eq_some_iff : wholeNumber? x = some n ↔
    ∃ d, Dyadic.ofFloat? x = some d ∧ d.signedValue = n := by
  unfold wholeNumber?
  constructor
  · intro h
    obtain ⟨d, hd, h⟩ := Option.bind_eq_some_iff.mp h
    refine ⟨d, hd, ?_⟩
    split at h
    · rename_i hw
      rw [← Option.some.inj h, Dyadic.cast_signed, Dyadic.signedValue,
        Dyadic.value_of_isWhole hw]
    · cases h
  · rintro ⟨d, hd, hn⟩
    have hvalue : d.value = n.natAbs := by
      have hnn := d.value_nonneg
      unfold Dyadic.signedValue at hn
      rw [Nat.cast_natAbs, Int.cast_abs, ← hn]
      split <;> simp [abs_of_nonneg hnn]
    have hw := Dyadic.isWhole_of_value hvalue
    rw [hd]
    change (if d.isWhole = true then some (d.signed d.truncatedAbs) else none) = some n
    rw [if_pos hw]
    congr 1
    have hcast : ((d.signed d.truncatedAbs : ℤ) : ℚ) = n := by
      rw [Dyadic.cast_signed, ← Dyadic.value_of_isWhole hw, ← hn, Dyadic.signedValue]
    exact_mod_cast hcast

namespace Dyadic

/-- The conversion of a natural number that is the value of a double. -/
theorem ofNat_of_value {k : ℕ} (hd : d.IsDouble) (hm : d.m ≠ 0) (h : d.value = k) :
    Float.ofNat k = Dyadic.toFloat { d with negative := false } := by
  have hk : k ≠ 0 := by
    rintro rfl
    exact hm (value_eq_zero.mp (by rw [h, Nat.cast_zero]))
  refine ofScientific_of_near hk (s := false) (f := 0) (by omega) (hd.withSign false) hm rfl ?_
  have hvalue : Dyadic.value { d with negative := false } = k := h
  rw [if_neg (by decide), Nat.cast_zero, zpow_zero, mul_one, ← hvalue]
  exact near_value _

/-- The conversion of an integer that is the value of a double. -/
theorem ofInt_of_value (hd : d.IsDouble) (hm : d.m ≠ 0) (h : d.signedValue = n) :
    Scalar.ofInt n = d.toFloat := by
  have hpos : 0 < d.value := lt_of_le_of_ne d.value_nonneg fun he => hm (value_eq_zero.mp he.symm)
  unfold signedValue at h
  unfold Scalar.ofInt
  split at h
  · rename_i hs
    have hn : n < 0 := by
      have : (n : ℚ) < 0 := by linarith
      exact_mod_cast this
    have habs : d.value = n.natAbs := by
      rw [Nat.cast_natAbs, Int.cast_abs, ← h, abs_neg, abs_of_pos hpos]
    rw [if_pos hn, ofNat_of_value hd hm habs, neg_toFloat (hd.withSign false)]
    congr
    exact hs.symm
  · rename_i hs
    have hn : ¬ n < 0 := by
      have : (0 : ℚ) < n := by linarith
      have : (0 : ℤ) < n := by exact_mod_cast this
      omega
    have habs : d.value = n.natAbs := by
      rw [Nat.cast_natAbs, Int.cast_abs, ← h, abs_of_pos hpos]
    rw [if_neg hn, ofNat_of_value hd hm habs]
    congr
    exact (Bool.eq_false_of_not_eq_true hs).symm

/-- A natural number up to `2 ^ 53` is the value of a double. -/
theorem exists_value_eq {k : ℕ} (hk : k ≤ 2 ^ 53) (h0 : k ≠ 0) :
    ∃ d : Dyadic, d.IsDouble ∧ d.m ≠ 0 ∧ d.negative = false ∧ d.value = k := by
  obtain hlt | rfl := Nat.lt_or_eq_of_le hk
  · exact ⟨ofWhole k, isDouble_ofWhole h0 hlt, ofWhole_ne_zero h0, rfl, value_ofWhole hlt⟩
  · refine ⟨⟨false, 2 ^ 52, 1, true⟩, ⟨by decide, by decide, by decide, .inl (by decide), rfl⟩,
      by decide, rfl, ?_⟩
    unfold value
    norm_num

end Dyadic

/-- **A double that is equal to a whole number is its conversion**, but for the sign of zero. -/
theorem ofInt_of_wholeNumber? (h : wholeNumber? x = some n) (h0 : n ≠ 0) : Scalar.ofInt n = x := by
  obtain ⟨d, hd, hn⟩ := wholeNumber?_eq_some_iff.mp h
  have hm : d.m ≠ 0 := fun hm => by
    have hvalue := Dyadic.value_eq_zero.mpr hm
    unfold Dyadic.signedValue at hn
    rw [hvalue, neg_zero, ite_self] at hn
    exact h0 (by exact_mod_cast hn.symm)
  rw [Dyadic.ofInt_of_value (Dyadic.isDouble_of_ofFloat? hd) hm hn, Dyadic.toFloat_of_ofFloat? hd]

/-- **A whole number up to `2 ^ 53` is found again in its double.** -/
theorem wholeNumber?_ofInt (h : n.natAbs ≤ 2 ^ 53) : wholeNumber? (Scalar.ofInt n) = some n := by
  by_cases h0 : n = 0
  · subst h0
    decide +kernel
  · obtain ⟨d, hd, hm, hs, hvalue⟩ := Dyadic.exists_value_eq h (by omega)
    obtain ⟨b, hb⟩ : ∃ b, Dyadic.signedValue { d with negative := b } = n := by
      have hcases := Int.natAbs_eq n
      have hvalue' : ∀ b, Dyadic.value { d with negative := b } = n.natAbs := fun _ => hvalue
      obtain hn | hn := hcases
      · exact ⟨false, by rw [Dyadic.signedValue, if_neg (by simp), hvalue', hn]; simp⟩
      · exact ⟨true, by rw [Dyadic.signedValue, if_pos rfl, hvalue', hn]; simp⟩
    rw [Dyadic.ofInt_of_value (hd.withSign b) hm hb]
    exact wholeNumber?_eq_some_iff.mpr ⟨_, Dyadic.ofFloat?_toFloat (hd.withSign b), hb⟩

end Decimal
end ReactiveTree
