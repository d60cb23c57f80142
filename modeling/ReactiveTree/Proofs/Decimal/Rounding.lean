import ReactiveTree.Proofs.Decimal.Doubles

/-!
# Rounding to the nearest double

A number is near to a double if it lies among the reals that are nearer to it than to any other
double, or halfway if the significand is even (`Dyadic.Near`). Arithmetic cuts an exact result to
a significand with a round and a sticky bit, which say on which side of the halfway point it lies
(`Marks`), and rounds it; what it gives is the double that the exact result is near to
(`roundWithAccuracy_of_near`). So products, quotients and numbers with a binary exponent give the
double that the exact value is near to.

Key definitions: `Dyadic.Near`, `Marks`.
Key theorems: `roundWithAccuracy_of_near`, `mul_of_near`, `div_of_near`, `round_of_near`.
-/
namespace ReactiveTree.Decimal

open Float.Model Float.Model.UnpackedFloat

/-! ### Marks -/

/-- The halves that are counted by a significand and its round bit. -/
def halves (em : ExtendedMantissa) : ℕ := 2 * em.mantissa + em.roundBit.toNat

/-- A significand with its two bits says where a number lies: the halves up to it are counted, and
the sticky bit is set if something remains. -/
structure Marks (em : ExtendedMantissa) (v : ℚ) : Prop where
  le : (halves em : ℚ) ≤ 2 * v
  lt : 2 * v < halves em + 1
  sticky : em.stickyBit = true ↔ (halves em : ℚ) ≠ 2 * v

namespace Marks

variable {em : ExtendedMantissa} {v : ℚ}

theorem exact (m : ℕ) : Marks (.ofMantissaAndAccuracy m .exact) m := by
  have hh : halves (.ofMantissaAndAccuracy m .exact) = 2 * m := rfl
  refine ⟨?_, ?_, ?_⟩ <;> rw [hh] <;> push_cast
  · exact le_rfl
  · exact lt_add_one _
  · simp [ExtendedMantissa.ofMantissaAndAccuracy]

theorem low {w : ℕ} (hlow : 2 * (w : ℚ) < 2 * v) (hhigh : 2 * v < 2 * w + 1) :
    Marks ⟨w, false, true⟩ v := by
  have hh : (halves ⟨w, false, true⟩ : ℚ) = 2 * w := by simp [halves]
  exact ⟨hh ▸ hlow.le, hh ▸ hhigh, fun _ => hh ▸ hlow.ne, fun _ => rfl⟩

theorem half {w : ℕ} (h : 2 * v = 2 * w + 1) : Marks ⟨w, true, false⟩ v := by
  have hh : (halves ⟨w, true, false⟩ : ℚ) = 2 * v := by simp [halves, h]
  exact ⟨hh.le, by rw [hh]; exact lt_add_one _, nofun, fun hne => absurd hh hne⟩

theorem high {w : ℕ} (hlow : 2 * (w : ℚ) + 1 < 2 * v) (hhigh : 2 * v < 2 * w + 2) :
    Marks ⟨w, true, true⟩ v := by
  have hh : (halves ⟨w, true, true⟩ : ℚ) = 2 * w + 1 := by simp [halves]
  exact ⟨hh ▸ hlow.le, by rw [hh]; linarith, fun _ => hh ▸ hlow.ne, fun _ => rfl⟩

/-- The mark of a quotient is made of the whole quotient and the remainder. -/
theorem fraction (n : ℕ) {d : ℕ} (hd : 0 < d) :
    Marks (.ofMantissaAndAccuracy (n / d) (accuracyOfFraction (n % d) d)) ((n : ℚ) / d) := by
  have hq : (0 : ℚ) < d := by exact_mod_cast hd
  have hn : 2 * ((n : ℚ) / d) = 2 * (n / d : ℕ) + (2 * (n % d) : ℕ) / d := by
    have : (n : ℚ) = d * (n / d : ℕ) + (n % d : ℕ) := by exact_mod_cast (Nat.div_add_mod n d).symm
    push_cast
    field_simp
    linarith
  have hlt : n % d < d := Nat.mod_lt n hd
  generalize n / d = w at *
  generalize n % d = r at *
  generalize (n : ℚ) / d = v at *
  have hright : ((2 * r : ℕ) : ℚ) / d < 2 := by
    rw [div_lt_iff₀ hq]
    exact_mod_cast Nat.mul_lt_mul_of_pos_left hlt two_pos
  unfold accuracyOfFraction
  split
  · rename_i h
    subst h
    have : v = w := by simpa using hn
    exact this ▸ exact w
  · rename_i h
    have hleft : 0 < ((2 * r : ℕ) : ℚ) / d := by positivity
    rcases lt_trichotomy (2 * r) d with hc | hc | hc
    · have hhalf : ((2 * r : ℕ) : ℚ) / d < 1 := (div_lt_one hq).mpr (by exact_mod_cast hc)
      rw [Nat.compare_eq_lt.mpr hc]
      exact low (by linarith) (by linarith)
    · have hhalf : ((2 * r : ℕ) : ℚ) / d = 1 := by rw [hc, div_self hq.ne']
      rw [Nat.compare_eq_eq.mpr hc]
      exact half (by linarith)
    · have hhalf : 1 < ((2 * r : ℕ) : ℚ) / d := (one_lt_div hq).mpr (by exact_mod_cast hc)
      rw [Nat.compare_eq_gt.mpr hc]
      exact high (by linarith) (by linarith)

/-- The significand is the whole part of the number. -/
theorem floor (h : Marks em v) : (em.mantissa : ℚ) ≤ v ∧ v < em.mantissa + 1 := by
  have hh : (halves em : ℚ) = 2 * em.mantissa + em.roundBit.toNat := by simp [halves]
  have hb : (em.roundBit.toNat : ℚ) ≤ 1 := by exact_mod_cast Bool.toNat_le em.roundBit
  have hb' : (0 : ℚ) ≤ em.roundBit.toNat := by positivity
  have hle := h.le
  have hlt := h.lt
  rw [hh] at hle hlt
  constructor <;> linarith

theorem shiftRightOne (h : Marks em v) : Marks em.shiftRightOne (v / 2) := by
  obtain ⟨m, r, s⟩ := em
  obtain ⟨hle, hlt, hs⟩ := h
  have hh : halves (ExtendedMantissa.shiftRightOne ⟨m, r, s⟩) = m := by
    change 2 * (m / 2) + (m % 2 != 0).toNat = m
    rcases Nat.mod_two_eq_zero_or_one m with h | h <;> simp [h] <;> omega
  have hbit : (halves ⟨m, r, s⟩ : ℚ) = 2 * m + r.toNat := by simp [halves]
  have hr : (r.toNat : ℚ) ≤ 1 := by exact_mod_cast Bool.toNat_le r
  rw [hbit] at hle hlt hs
  refine ⟨?_, ?_, ?_⟩
  · rw [hh]
    have : (0 : ℚ) ≤ r.toNat := by positivity
    linarith
  · rw [hh]
    linarith
  · rw [hh]
    change (r || s) = true ↔ _
    cases r with
    | false =>
      simp only [Bool.toNat_false, Nat.cast_zero, add_zero, Bool.false_or] at hs ⊢
      rw [hs]
      constructor <;> intro h he <;> apply h <;> linarith
    | true =>
      simp only [Bool.toNat_true, Nat.cast_one, Bool.true_or, true_iff] at hle ⊢
      intro he
      linarith

theorem shiftRight (h : Marks em v) : ∀ n : ℕ, Marks (em >>> n) (v / 2 ^ n)
  | 0 => by
    rw [pow_zero, div_one]
    exact h
  | n + 1 => by
    have ih := (shiftRight h n).shiftRightOne
    rwa [div_div, ← pow_succ] at ih

/-- **A number is rounded to the whole number that it is near to.** -/
theorem roundedMantissa_eq (h : Marks em v) {r : ℕ} (hlo : 2 * (r : ℚ) ≤ 2 * v + 1)
    (hhi : 2 * v ≤ 2 * r + 1)
    (htie : r % 2 = 0 ∨ 2 * (r : ℚ) < 2 * v + 1 ∧ 2 * v < 2 * r + 1) :
    em.roundedMantissa = r := by
  obtain ⟨m, b, s⟩ := em
  obtain ⟨hle, hlt, hs⟩ := h
  have hbit : (halves ⟨m, b, s⟩ : ℚ) = 2 * m + b.toNat := by simp [halves]
  rw [hbit] at hle hlt hs
  have hround : ∀ k : ℕ, 2 * (k : ℚ) < 2 * v + 1 → 2 * v < 2 * k + 1 → k = r := fun k hk hk' => by
    have h1 : 2 * (k : ℚ) < 2 * r + 2 := by linarith
    have h2 : 2 * (r : ℚ) < 2 * k + 2 := by linarith
    have h1' : 2 * k < 2 * r + 2 := by exact_mod_cast h1
    have h2' : 2 * r < 2 * k + 2 := by exact_mod_cast h2
    omega
  cases b with
  | false =>
    rw [Bool.toNat_false, Nat.cast_zero, add_zero] at hle hlt hs
    cases s with
    | false => exact hround m (by linarith) hlt
    | true => exact hround m (by linarith) hlt
  | true =>
    rw [Bool.toNat_true, Nat.cast_one] at hle hlt hs
    cases s with
    | true =>
      have hne : (2 * m + 1 : ℚ) < 2 * v := lt_of_le_of_ne hle (hs.mp rfl)
      refine hround (m + 1) ?_ ?_ <;> push_cast <;> linarith
    | false =>
      -- halfway: the even one of the two neighbours
      have heq : (2 * m + 1 : ℚ) = 2 * v := by
        by_contra hne
        cases hs.mpr hne
      have heven : r % 2 = 0 := htie.resolve_right fun h => by
        have h1 : (r : ℚ) < m + 1 := by linarith
        have h2 : (m : ℚ) < r := by linarith
        have h1' : r < m + 1 := by exact_mod_cast h1
        have h2' : m < r := by exact_mod_cast h2
        omega
      have h1 : (r : ℚ) ≤ m + 1 := by linarith
      have h2 : (m : ℚ) ≤ r := by linarith
      have h1' : r ≤ m + 1 := by exact_mod_cast h1
      have h2' : m ≤ r := by exact_mod_cast h2
      change m + m % 2 = r
      omega

end Marks

/-! ### Powers of two -/

theorem two_zpow_le_iff {a b : ℤ} : (2 : ℚ) ^ a ≤ 2 ^ b ↔ a ≤ b :=
  zpow_le_zpow_iff_right₀ one_lt_two

theorem two_zpow_lt_iff {a b : ℤ} : (2 : ℚ) ^ a < 2 ^ b ↔ a < b :=
  zpow_lt_zpow_iff_right₀ one_lt_two

theorem two_zpow_add (a b : ℤ) : (2 : ℚ) ^ (a + b) = 2 ^ a * 2 ^ b := zpow_add₀ two_ne_zero a b

theorem two_zpow_natCast_add (k : ℕ) (q : ℤ) : (2 : ℚ) ^ ((k : ℤ) + q) = 2 ^ k * 2 ^ q := by
  rw [two_zpow_add, zpow_natCast]

/-! ### Numbers that are near to a double -/

namespace Dyadic

variable {d : Dyadic} {x : ℚ}

/-- The value without its sign. -/
def value (d : Dyadic) : ℚ := d.m * 2 ^ d.q

/-- How far the numbers below a double reach that are near to it, in quarters of its last place. -/
def below (d : Dyadic) : ℕ := if d.narrowBelow then 1 else 2

/-- A number is nearer to a double, in value, than to any other, or halfway and the significand
is even. -/
def Near (d : Dyadic) (x : ℚ) : Prop :=
  if d.m % 2 = 0 then
    (4 * d.m - d.below : ℚ) * 2 ^ d.q ≤ 4 * x ∧ 4 * x ≤ (4 * d.m + 2) * 2 ^ d.q
  else
    (4 * d.m - d.below : ℚ) * 2 ^ d.q < 4 * x ∧ 4 * x < (4 * d.m + 2) * 2 ^ d.q

theorem below_pos (d : Dyadic) : 0 < d.below := by
  unfold below
  split <;> decide

theorem below_le (d : Dyadic) : d.below ≤ 2 := by
  unfold below
  split <;> decide

theorem near_value (d : Dyadic) : d.Near d.value := by
  have hp : (0 : ℚ) < 2 ^ d.q := by positivity
  have hb : (0 : ℚ) < d.below := by exact_mod_cast d.below_pos
  have h1 : (4 * d.m - d.below : ℚ) * 2 ^ d.q < 4 * d.value := by
    rw [value, ← mul_assoc]
    exact mul_lt_mul_of_pos_right (by linarith) hp
  have h2 : 4 * d.value < (4 * d.m + 2 : ℚ) * 2 ^ d.q := by
    rw [value, ← mul_assoc]
    exact mul_lt_mul_of_pos_right (by linarith) hp
  unfold Near
  split
  · exact ⟨h1.le, h2.le⟩
  · exact ⟨h1, h2⟩

namespace Near

theorem le (h : d.Near x) : (4 * d.m - d.below : ℚ) * 2 ^ d.q ≤ 4 * x := by
  unfold Near at h
  split at h
  · exact h.1
  · exact h.1.le

theorem ge (h : d.Near x) : 4 * x ≤ (4 * d.m + 2 : ℚ) * 2 ^ d.q := by
  unfold Near at h
  split at h
  · exact h.2
  · exact h.2.le

theorem even_or (h : d.Near x) : d.m % 2 = 0 ∨
    (4 * d.m - d.below : ℚ) * 2 ^ d.q < 4 * x ∧ 4 * x < (4 * d.m + 2 : ℚ) * 2 ^ d.q := by
  unfold Near at h
  split at h
  · rename_i he
    exact .inl he
  · exact .inr h

/-- What is near to a double does not reach the next power of two. -/
theorem lt (h : d.Near x) (hd : d.IsDouble) : x < 2 ^ (53 + d.q) := by
  have hp : (0 : ℚ) < 2 ^ d.q := by positivity
  have hm : (d.m : ℚ) + 1 ≤ 2 ^ 53 := by exact_mod_cast hd.m_lt
  have hlt : (4 * d.m + 2 : ℚ) * 2 ^ d.q < 4 * 2 ^ 53 * 2 ^ d.q :=
    mul_lt_mul_of_pos_right (by linarith) hp
  have hpow : (2 : ℚ) ^ (53 + d.q) = 2 ^ 53 * 2 ^ d.q := two_zpow_natCast_add 53 d.q
  rw [hpow]
  linarith [h.ge]

/-- What is near to a double of full length has at most one bit less. -/
theorem full_le (h : d.Near x) (hm : 2 ^ 52 ≤ d.m) : 2 ^ (51 + d.q) ≤ x := by
  have hp : (0 : ℚ) < 2 ^ d.q := by positivity
  have hm' : (2 : ℚ) ^ 52 ≤ d.m := by exact_mod_cast hm
  have hb : (d.below : ℚ) ≤ 2 := by exact_mod_cast d.below_le
  have hle : 4 * 2 ^ 51 * (2 : ℚ) ^ d.q ≤ (4 * d.m - d.below : ℚ) * 2 ^ d.q :=
    mul_le_mul_of_nonneg_right (by linarith) hp.le
  have hpow : (2 : ℚ) ^ (51 + d.q) = 2 ^ 51 * 2 ^ d.q := two_zpow_natCast_add 51 d.q
  rw [hpow]
  linarith [h.le]

/-- Only a power of two is near to a number of one bit less. -/
theorem full_le_of_ne (h : d.Near x) (hm : 2 ^ 52 ≤ d.m) (hne : d.m ≠ 2 ^ 52) :
    2 ^ (52 + d.q) ≤ x := by
  have hp : (0 : ℚ) < 2 ^ d.q := by positivity
  have hm' : (2 : ℚ) ^ 52 + 1 ≤ d.m := by exact_mod_cast lt_of_le_of_ne hm hne.symm
  have hb : (d.below : ℚ) ≤ 2 := by exact_mod_cast d.below_le
  have hle : 4 * 2 ^ 52 * (2 : ℚ) ^ d.q ≤ (4 * d.m - d.below : ℚ) * 2 ^ d.q :=
    mul_le_mul_of_nonneg_right (by linarith) hp.le
  have hpow : (2 : ℚ) ^ (52 + d.q) = 2 ^ 52 * 2 ^ d.q := two_zpow_natCast_add 52 d.q
  rw [hpow]
  linarith [h.le]

/-- What is near to a double that is not zero is more than half of the least double. -/
theorem gt (h : d.Near x) (hd : d.IsDouble) (hm : d.m ≠ 0) : (2 : ℚ) ^ (-1076 : ℤ) < x := by
  have hp : (2 : ℚ) ^ (-1074 : ℤ) ≤ 2 ^ d.q := zpow_le_zpow_right₀ one_le_two hd.q_ge
  have hp' : (0 : ℚ) < 2 ^ d.q := by positivity
  have hm' : (1 : ℚ) ≤ d.m := by exact_mod_cast Nat.one_le_iff_ne_zero.mpr hm
  have hb : (d.below : ℚ) ≤ 2 := by exact_mod_cast d.below_le
  have hle : 2 * (2 : ℚ) ^ d.q ≤ (4 * d.m - d.below : ℚ) * 2 ^ d.q :=
    mul_le_mul_of_nonneg_right (by linarith) hp'.le
  have hpow : (2 : ℚ) ^ (-1074 : ℤ) = 4 * 2 ^ (-1076 : ℤ) := by
    rw [show (-1074 : ℤ) = 2 + -1076 by norm_num, zpow_add₀ two_ne_zero]
    norm_num
  have : (0 : ℚ) < 2 ^ (-1076 : ℤ) := by positivity
  linarith [h.le]

end Near
end Dyadic

/-! ### Rounding a marked significand -/

theorem targetExponent_binary64 (t : ℤ) :
    Format.binary64.targetExponent t = max (t - 53) (-1074) := rfl

theorem targetExponent_eq (M : ℕ) (E : ℤ) :
    Format.binary64.targetExponent (totalExponent M E) = max ((M.log2 : ℤ) + E - 52) (-1074) := by
  rw [targetExponent_binary64, totalExponent]
  congr 1
  ring

theorem shiftToTargetExponent_eq (M : ℕ) (E : ℤ) (acc : Accuracy) {k : ℕ}
    (hk : (max ((M.log2 : ℤ) + E - 52) (-1074) - E).toNat = k) :
    shiftToTargetExponent Format.binary64 M E acc =
      (ExtendedMantissa.ofMantissaAndAccuracy M acc >>> k, E + k) := by
  subst hk
  unfold shiftToTargetExponent shiftToExponent
  rw [targetExponent_eq]

/-- A significand that fits its exponent is left as it is. -/
theorem shift_of_fits {M : ℕ} {E : ℤ} (hM : M < 2 ^ 53) (hM0 : M ≠ 0) (hE : -1074 ≤ E) :
    shiftToTargetExponent Format.binary64 M E .exact = (⟨M, false, false⟩, E) := by
  have hlog : M.log2 < 53 := (Nat.log2_lt hM0).mpr hM
  rw [shiftToTargetExponent_eq M E .exact (k := 0) (by omega)]
  rw [Nat.cast_zero, add_zero]
  rfl

/-- A significand that is rounded up to the next power of two is halved. -/
theorem shift_of_carry {E : ℤ} (hE : -1074 ≤ E) :
    shiftToTargetExponent Format.binary64 (2 ^ 53) E .exact =
      (⟨2 ^ 52, false, false⟩, E + 1) := by
  rw [shiftToTargetExponent_eq _ E .exact (k := 1) (by rw [Nat.log2_two_pow]; omega)]
  rfl

variable {d : Dyadic} {x v : ℚ} {M : ℕ} {E : ℤ} {acc : Accuracy}

theorem mantissa_ofMantissaAndAccuracy (M : ℕ) : ∀ acc : Accuracy,
    (ExtendedMantissa.ofMantissaAndAccuracy M acc).mantissa = M
  | .exact => rfl
  | .inexact o => by cases o <;> rfl

/-- A mark that has a significand lies in the binade of it. -/
theorem Marks.binade (h : Marks (.ofMantissaAndAccuracy M acc) v) (hM : M ≠ 0) (E : ℤ) :
    (2 : ℚ) ^ ((M.log2 : ℤ) + E) ≤ v * 2 ^ E ∧ v * 2 ^ E < 2 ^ ((M.log2 : ℤ) + 1 + E) := by
  have hp : (0 : ℚ) < 2 ^ E := by positivity
  obtain ⟨hfloor, hceil⟩ := h.floor
  rw [mantissa_ofMantissaAndAccuracy] at hfloor hceil
  have hlow : (2 : ℚ) ^ M.log2 ≤ M := by exact_mod_cast Nat.log2_self_le hM
  have hhigh : (M : ℚ) + 1 ≤ 2 ^ (M.log2 + 1) := by exact_mod_cast Nat.lt_log2_self
  rw [two_zpow_add, two_zpow_add _ E, zpow_natCast]
  constructor
  · exact mul_le_mul_of_nonneg_right (hlow.trans hfloor) hp.le
  · refine mul_lt_mul_of_pos_right (hceil.trans_le ?_) hp
    exact_mod_cast hhigh

/-- The exponent to which a number is brought that is near to a double: its own, or the one below
if the number lies below a power of two. -/
theorem targetExponent_of_near (hmark : Marks (.ofMantissaAndAccuracy M acc) v)
    (hkept : 52 ≤ M.log2 ∨ E ≤ -1074) (hd : d.IsDouble) (hx : v * 2 ^ E = x) (hnear : d.Near x) :
    max ((M.log2 : ℤ) + E - 52) (-1074) = d.q ∨
      max ((M.log2 : ℤ) + E - 52) (-1074) = d.q - 1 ∧ d.m = 2 ^ 52 ∧ d.below = 1 ∧
        x < 2 ^ (52 + d.q) := by
  have hq := hd.q_ge
  have htop : M ≠ 0 → (M.log2 : ℤ) + E < 53 + d.q := fun hM => by
    have hlow := (hmark.binade hM E).1
    rw [hx] at hlow
    exact two_zpow_lt_iff.mp (hlow.trans_lt (hnear.lt hd))
  by_cases hleast : d.q = -1074
  · left
    by_cases hM : M = 0
    · rw [hM, Nat.log2_zero] at hkept ⊢
      omega
    · have := htop hM
      omega
  · have hfull : 2 ^ 52 ≤ d.m := hd.full.resolve_right hleast
    have hM : M ≠ 0 := by
      rintro rfl
      have hE : E ≤ -1074 := hkept.resolve_left (by simp)
      have hone := hmark.floor.2
      rw [mantissa_ofMantissaAndAccuracy, Nat.cast_zero, zero_add] at hone
      have hlt : x < 2 ^ E := by
        rw [← hx]
        exact mul_lt_of_lt_one_left (by positivity) hone
      have := two_zpow_lt_iff.mp ((hnear.full_le hfull).trans_lt hlt)
      omega
    have htop := htop hM
    have hhigh := (hmark.binade hM E).2
    rw [hx] at hhigh
    have hbottom := two_zpow_lt_iff.mp ((hnear.full_le hfull).trans_lt hhigh)
    by_cases hexp : (M.log2 : ℤ) + E = 52 + d.q
    · left
      omega
    · right
      have hlt : x < 2 ^ (52 + d.q) := by
        rwa [show (M.log2 : ℤ) + 1 + E = 52 + d.q by omega] at hhigh
      have hm : d.m = 2 ^ 52 := by
        by_contra hne
        exact absurd hlt (not_lt.mpr (hnear.full_le_of_ne hfull hne))
      have hb : d.below = 1 := by
        rw [Dyadic.below, hd.narrow, hm]
        simp [hleast]
      exact ⟨by omega, hm, hb, hlt⟩

/-- The bounds of the numbers near to a double, counted in its last place. -/
theorem Dyadic.Near.quarters (h : d.Near x) {u : ℚ} (hu : x = u * 2 ^ d.q) :
    (4 * d.m - d.below : ℚ) ≤ 4 * u ∧ 4 * u ≤ 4 * d.m + 2 ∧
      (d.m % 2 = 0 ∨ (4 * d.m - d.below : ℚ) < 4 * u ∧ 4 * u < 4 * d.m + 2) := by
  have hp : (0 : ℚ) < 2 ^ d.q := by positivity
  have hle := h.le
  have hge := h.ge
  have htie := h.even_or
  rw [hu, ← mul_assoc] at hle hge htie
  exact ⟨le_of_mul_le_mul_right hle hp, le_of_mul_le_mul_right hge hp,
    htie.imp_right fun ht => ⟨lt_of_mul_lt_mul_right ht.1 hp.le,
      lt_of_mul_lt_mul_right ht.2 hp.le⟩⟩

/-- **What is near to a double is rounded to it**, if enough of it is kept in the significand. -/
theorem roundWithAccuracy_of_near (hmark : Marks (.ofMantissaAndAccuracy M acc) v)
    (hkept : 52 ≤ M.log2 ∨ E ≤ -1074) (hd : d.IsDouble) (hm : d.m ≠ 0) (hx : v * 2 ^ E = x)
    (hnear : d.Near x) (s : Sign) :
    roundWithAccuracy Format.binary64 s M E acc = .finite s d.m d.q (Nat.pos_of_ne_zero hm) := by
  obtain ⟨k, hk⟩ : ∃ k : ℕ, (k : ℤ) = max ((M.log2 : ℤ) + E - 52) (-1074) - E :=
    ⟨_, Int.toNat_of_nonneg (by omega)⟩
  have hfirst := shiftToTargetExponent_eq M E acc (k := k) (by omega)
  have hshift := hmark.shiftRight k
  have hvalue : x = v / 2 ^ k * 2 ^ (E + k) := by
    rw [← hx, two_zpow_add, zpow_natCast]
    field_simp
  have hb : (d.below : ℚ) ≤ 2 := by exact_mod_cast d.below_le
  unfold roundWithAccuracy
  rw [hfirst]
  dsimp only
  obtain htarget | ⟨htarget, hm52, hone, hlt⟩ := targetExponent_of_near hmark hkept hd hx hnear
  · have hE : E + (k : ℤ) = d.q := by omega
    rw [hE] at hvalue
    obtain ⟨hle, hge, htie⟩ := hnear.quarters hvalue
    rw [hshift.roundedMantissa_eq (r := d.m) (by linarith) (by linarith)
      (htie.imp_right fun ht => ⟨by linarith, by linarith⟩), hE]
    rw [shift_of_fits hd.m_lt hm hd.q_ge]
    exact dif_neg hm
  · -- the number lies below a power of two, in steps half as wide
    have hE : E + (k : ℤ) = d.q - 1 := by omega
    have hq : -1074 ≤ d.q - 1 := by omega
    have hhalf : x = v / 2 ^ k / 2 * 2 ^ d.q := by
      rw [hvalue, hE, zpow_sub_one₀ two_ne_zero]
      ring
    obtain ⟨hle, -, -⟩ := hnear.quarters hhalf
    have hp : (0 : ℚ) < 2 ^ d.q := by positivity
    have hlt' : v / 2 ^ k / 2 < 2 ^ 52 := by
      rw [hhalf, two_zpow_add] at hlt
      exact_mod_cast lt_of_mul_lt_mul_right hlt hp.le
    rw [hm52, hone] at hle
    push_cast at hle
    rw [hshift.roundedMantissa_eq (r := 2 ^ 53) (by push_cast; linarith) (by push_cast; linarith)
      (.inl (by norm_num)), hE]
    rw [shift_of_carry hq]
    dsimp only
    rw [dif_neg (by norm_num)]
    exact Dyadic.finite_congr hm52.symm (by omega)

/-! ### Products, quotients and whole numbers -/

/-- A product with enough digits is the double that it is near to. -/
theorem mul_of_near {s₁ s₂ : Sign} {m₁ m₂ : ℕ} {e₁ e₂ : ℤ} {h₁ : 0 < m₁} {h₂ : 0 < m₂}
    (hkept : 52 ≤ (m₁ * m₂).log2) (hd : d.IsDouble) (hm : d.m ≠ 0)
    (hx : (m₁ * 2 ^ e₁ : ℚ) * (m₂ * 2 ^ e₂) = x) (hnear : d.Near x) :
    UnpackedFloat.mul Format.binary64 (.finite s₁ m₁ e₁ h₁) (.finite s₂ m₂ e₂ h₂) =
      .finite (s₁ * s₂) d.m d.q (Nat.pos_of_ne_zero hm) := by
  refine roundWithAccuracy_of_near (Marks.exact (m₁ * m₂)) (.inl hkept) hd hm ?_ hnear _
  rw [← hx, two_zpow_add]
  push_cast
  ring

/-- The quotient of two significands is taken with enough digits. -/
theorem log2_div_of_lt {m₁ m₂ k : ℕ} (h₁ : m₁ ≠ 0) (h₂ : 0 < m₂)
    (hk : 53 + m₂.log2 ≤ m₁.log2 + k) : 52 ≤ (m₁ <<< k / m₂).log2 := by
  have hlow : 2 ^ m₁.log2 ≤ m₁ := Nat.log2_self_le h₁
  have hhigh : m₂ ≤ 2 ^ (m₂.log2 + 1) := Nat.lt_log2_self.le
  have hquot : 2 ^ 52 ≤ m₁ <<< k / m₂ := by
    rw [Nat.le_div_iff_mul_le h₂, Nat.shiftLeft_eq]
    calc 2 ^ 52 * m₂ ≤ 2 ^ 52 * 2 ^ (m₂.log2 + 1) := Nat.mul_le_mul_left _ hhigh
      _ = 2 ^ (53 + m₂.log2) := by rw [← pow_add]; congr 1; omega
      _ ≤ 2 ^ (m₁.log2 + k) := Nat.pow_le_pow_right two_pos hk
      _ = 2 ^ m₁.log2 * 2 ^ k := pow_add 2 _ _
      _ ≤ m₁ * 2 ^ k := Nat.mul_le_mul_right _ hlow
  exact (Nat.le_log2 (by omega)).mpr hquot

/-- A quotient is the double that it is near to. -/
theorem div_of_near {s₁ s₂ : Sign} {m₁ m₂ : ℕ} {e₁ e₂ : ℤ} {h₁ : 0 < m₁} {h₂ : 0 < m₂}
    (hd : d.IsDouble) (hm : d.m ≠ 0)
    (hx : (m₁ * 2 ^ e₁ : ℚ) / (m₂ * 2 ^ e₂) = x) (hnear : d.Near x) :
    UnpackedFloat.div Format.binary64 (.finite s₁ m₁ e₁ h₁) (.finite s₂ m₂ e₂ h₂) =
      .finite (s₁ / s₂) d.m d.q (Nat.pos_of_ne_zero hm) := by
  have htarget : Format.binary64.targetExponent (totalExponent m₁ e₁ - totalExponent m₂ e₂) =
      max ((m₁.log2 : ℤ) + e₁ - (m₂.log2 + e₂) - 53) (-1074) := by
    rw [targetExponent_binary64, totalExponent, totalExponent]
    congr 1
    ring
  unfold UnpackedFloat.div divCore
  dsimp only
  rw [htarget]
  obtain ⟨t, ht⟩ : ∃ t, t = min (e₁ - e₂)
      (max ((m₁.log2 : ℤ) + e₁ - (m₂.log2 + e₂) - 53) (-1074)) := ⟨_, rfl⟩
  obtain ⟨k, hk⟩ : ∃ k : ℕ, (k : ℤ) = e₁ - e₂ - t := ⟨_, Int.toNat_of_nonneg (by omega)⟩
  rw [← ht, show (e₁ - e₂ - t).toNat = k by omega]
  refine roundWithAccuracy_of_near (Marks.fraction (m₁ <<< k) h₂) ?_ hd hm ?_ hnear _
  · rw [or_iff_not_imp_right]
    exact fun ht' => log2_div_of_lt h₁.ne' h₂ (by omega)
  · have hp : (2 : ℚ) ^ e₁ = 2 ^ k * 2 ^ e₂ * 2 ^ t := by
      rw [← zpow_natCast, ← two_zpow_add, ← two_zpow_add]
      congr 1
      omega
    rw [← hx, Nat.shiftLeft_eq, hp]
    push_cast
    field_simp

theorem log2_shiftLeft {m : ℕ} (h : m ≠ 0) (k : ℕ) : (m <<< k).log2 = m.log2 + k := by
  have hp : 0 < 2 ^ k := Nat.two_pow_pos k
  rw [Nat.shiftLeft_eq, Nat.log2_eq_iff (Nat.mul_ne_zero h hp.ne'), pow_add]
  refine ⟨Nat.mul_le_mul_right _ (Nat.log2_self_le h), ?_⟩
  rw [show m.log2 + k + 1 = m.log2 + 1 + k by omega, pow_add]
  exact Nat.mul_lt_mul_of_pos_right Nat.lt_log2_self hp

/-- A number with a binary exponent is rounded to the double that it is near to. -/
theorem round_of_near {s : Sign} {m : ℕ} {e : ℤ} (h : m ≠ 0) (hd : d.IsDouble) (hm : d.m ≠ 0)
    (hx : (m * 2 ^ e : ℚ) = x) (hnear : d.Near x) :
    UnpackedFloat.round Format.binary64 s m e =
      .finite s d.m d.q (Nat.pos_of_ne_zero hm) := by
  unfold UnpackedFloat.round decreaseExponent
  rw [targetExponent_eq]
  dsimp only
  obtain ⟨k, hk⟩ : ∃ k, k = (e - max ((m.log2 : ℤ) + e - 52) (-1074)).toNat := ⟨_, rfl⟩
  rw [← hk]
  refine roundWithAccuracy_of_near (Marks.exact (m <<< k)) ?_ hd hm ?_ hnear _
  · rw [log2_shiftLeft h]
    omega
  · rw [← hx, Nat.shiftLeft_eq, sub_eq_add_neg, two_zpow_add, zpow_neg, zpow_natCast]
    push_cast
    field_simp

end ReactiveTree.Decimal
