import ReactiveTree.Decimal.Shortest
import ReactiveTree.Proofs.Decimal.Nearest

/-!
# The fewest digits identify their double

A decimal is taken for a double only if it is near to it (`identifies_iff`), and where no grid has
one, the exact decimal stands; trailing zeros are moved into the exponent and change nothing. So
the fewest digits of a double are near to it (`shortest_near`), and reading them as a decimal
gives the double again (`nearest_shortest`).

Key theorems: `identifies_iff`, `shortest_near`, `nearest_shortest`.
-/
namespace ReactiveTree.Decimal

variable {x : Dyadic} {d : Digits} {n : ℕ} {g : ℤ} {tie : Tie}

/-- The number that is written by digits. -/
def Digits.value (d : Digits) : ℚ := d.digits * 10 ^ d.exponent

/-! ### The grid -/

theorem ten_zpow_eq (g : ℤ) : (10 : ℚ) ^ g = (tenTo g : ℕ) / (tenTo (-g) : ℕ) :=
  natCast_zpow_eq 10 g

theorem tenTo_pos (g : ℤ) : 0 < tenTo g := Nat.pow_pos (by decide)

/-- A number and the value of a double are compared on the grid of a power of ten. -/
theorem mul_gridScale_cast (a b : ℕ) (q g : ℤ) : ∃ c : ℚ, 0 < c ∧
    ((a * (gridScale q g).1 : ℕ) : ℚ) = a * 2 ^ q * c ∧
      ((b * (gridScale q g).2 : ℕ) : ℚ) = b * 10 ^ g * c := by
  have h₁ : (0 : ℚ) < (twoTo (-q) : ℕ) := by exact_mod_cast twoTo_pos _
  have h₂ : (0 : ℚ) < (tenTo (-g) : ℕ) := by exact_mod_cast tenTo_pos _
  refine ⟨(twoTo (-q) : ℕ) * (tenTo (-g) : ℕ), mul_pos h₁ h₂, ?_, ?_⟩
  · rw [two_zpow_eq, gridScale]
    push_cast
    field_simp
  · rw [ten_zpow_eq, gridScale]
    push_cast
    field_simp

variable {a b : ℕ} {q : ℤ}

theorem gridScale_le_iff :
    a * (gridScale q g).1 ≤ b * (gridScale q g).2 ↔ (a * 2 ^ q : ℚ) ≤ b * 10 ^ g := by
  obtain ⟨c, hc, ha, hb⟩ := mul_gridScale_cast a b q g
  rw [← Nat.cast_le (α := ℚ), ha, hb, mul_le_mul_iff_left₀ hc]

theorem gridScale_ge_iff :
    b * (gridScale q g).2 ≤ a * (gridScale q g).1 ↔ (b * 10 ^ g : ℚ) ≤ a * 2 ^ q := by
  obtain ⟨c, hc, ha, hb⟩ := mul_gridScale_cast a b q g
  rw [← Nat.cast_le (α := ℚ), ha, hb, mul_le_mul_iff_left₀ hc]

/-- The multiple of a power of ten is taken for a double just if it is near to it. -/
theorem identifies_iff (hm : x.m ≠ 0) : identifies x n g = true ↔ x.Near (n * 10 ^ g) := by
  have hlow : (((if x.narrowBelow then 4 * x.m - 1 else 4 * x.m - 2) : ℕ) : ℚ) =
      4 * x.m - x.below := by
    unfold Dyadic.below
    split <;> rw [Nat.cast_sub (by omega)] <;> push_cast <;> rfl
  have hhere : (((4 * n : ℕ) : ℚ) * 10 ^ g) = 4 * (n * 10 ^ g) := by push_cast; ring
  have hhigh : ((4 * x.m + 2 : ℕ) : ℚ) = 4 * x.m + 2 := by push_cast; rfl
  unfold identifies Dyadic.Near
  dsimp only
  split
  · rw [Bool.and_eq_true, decide_eq_true_eq, decide_eq_true_eq, gridScale_le_iff,
      gridScale_ge_iff, hlow, hhere, hhigh]
  · rw [Bool.and_eq_true, decide_eq_true_eq, decide_eq_true_eq, ← not_le, ← not_le,
      gridScale_le_iff, gridScale_ge_iff, hlow, hhere, hhigh, not_le, not_le]

/-- What is found on a grid is near to the double, and not zero. -/
theorem near_of_onGrid (hm : x.m ≠ 0) (h : onGrid x tie g = some d) :
    x.Near d.value ∧ d.digits ≠ 0 ∧ d.exponent = g := by
  have hfound : ∀ k, identifies x k g = true → k ≠ 0 → ∀ {d : Digits}, some ⟨k, g⟩ = some d →
      x.Near d.value ∧ d.digits ≠ 0 ∧ d.exponent = g := fun k hk hk0 d hd => by
    cases hd
    exact ⟨(identifies_iff hm).mp hk, hk0, rfl⟩
  unfold onGrid at h
  dsimp only at h
  generalize x.m * (gridScale x.q g).1 / (gridScale x.q g).2 = below at h
  have habove := hfound (below + 1)
  have hbelow : (identifies x below g && below != 0) = true → ∀ {d : Digits},
      some ⟨below, g⟩ = some d → x.Near d.value ∧ d.digits ≠ 0 ∧ d.exponent = g := fun hb => by
    rw [Bool.and_eq_true, bne_iff_ne] at hb
    exact hfound below hb.1 hb.2
  split at h
  · cases h
  · rename_i hb _
    exact hbelow hb h
  · rename_i _ ha
    exact habove ha (by omega) h
  · rename_i hb ha
    split at h
    · exact hbelow hb h
    · split at h
      · exact habove ha (by omega) h
      · cases tie with
        | away => exact habove ha (by omega) h
        | toEven =>
          dsimp only at h
          split at h
          · exact hbelow hb h
          · exact habove ha (by omega) h

/-! ### Trailing zeros -/

/-- Digits without their trailing zeros are the same number. -/
theorem strip_spec : ∀ (fuel : ℕ) (d : Digits), d.digits ≠ 0 →
    (d.strip fuel).value = d.value ∧ (d.strip fuel).digits ≠ 0 ∧
      d.exponent ≤ (d.strip fuel).exponent
  | 0, _, h => ⟨rfl, h, le_rfl⟩
  | fuel + 1, d, h => by
    rw [Digits.strip]
    split
    · rename_i hzero
      have htenth : d.digits / 10 ≠ 0 := by omega
      obtain ⟨hvalue, hne, hle⟩ := strip_spec fuel ⟨d.digits / 10, d.exponent + 1⟩ htenth
      refine ⟨hvalue.trans ?_, hne, by dsimp only at hle; omega⟩
      have hcast : (d.digits : ℚ) = (d.digits / 10 : ℕ) * 10 := by
        exact_mod_cast (Nat.div_mul_cancel (Nat.dvd_of_mod_eq_zero hzero.2)).symm
      rw [Digits.value, Digits.value, zpow_add_one₀ (by norm_num), hcast]
      ring
    · exact ⟨rfl, h, le_rfl⟩

/-! ### The fewest digits -/

/-- The value of a double as an exact decimal. -/
theorem exact_value (x : Dyadic) : Digits.value (if 0 ≤ x.q then ⟨x.m * twoTo x.q, 0⟩
    else ⟨x.m * Nat.pow 5 (-x.q).toNat, x.q⟩) = x.value := by
  unfold Digits.value Dyadic.value
  split
  · rename_i hq
    obtain ⟨n, hn⟩ := Int.eq_ofNat_of_zero_le hq
    rw [hn, twoTo]
    simp
  · rename_i hq
    obtain ⟨n, hn⟩ : ∃ n : ℕ, x.q = -n := ⟨(-x.q).toNat, by omega⟩
    have hten : (10 : ℚ) ^ n = 2 ^ n * 5 ^ n := by rw [← mul_pow]; norm_num
    rw [hn, neg_neg, Int.toNat_natCast, zpow_neg, zpow_neg, zpow_natCast, zpow_natCast, hten]
    change ((x.m * 5 ^ n : ℕ) : ℚ) * _ = _
    push_cast
    field_simp

/-- The magnitude of a double is looked for from a first guess on. -/
theorem magnitude_ge (m : ℕ) (q : ℤ) : ((m.log2 : ℤ) + q) * 30103 / 100000 ≤ magnitude m q := by
  unfold magnitude
  dsimp only
  split
  · omega
  · split <;> omega

/-- **The fewest digits of a double are near to it.** -/
theorem shortest_near (hd : x.IsDouble) (hm : x.m ≠ 0) (tie : Tie) :
    x.Near (shortest x tie).value ∧ (shortest x tie).digits ≠ 0 ∧
      -2000 ≤ (shortest x tie).exponent := by
  have hq := hd.q_ge
  have hguess := magnitude_ge x.m x.q
  unfold shortest
  dsimp only
  split
  · rename_i d h
    obtain ⟨i, hi, hgrid⟩ := List.exists_of_findSome?_eq_some h
    rw [List.mem_range] at hi
    obtain ⟨hnear, hne, hexp⟩ := near_of_onGrid hm hgrid
    obtain ⟨hvalue, hne', hle⟩ := strip_spec 17 d hne
    refine ⟨hvalue ▸ hnear, hne', ?_⟩
    omega
  · refine ⟨(exact_value x).symm ▸ x.near_value, ?_, ?_⟩
    · split
      · exact Nat.mul_ne_zero hm (twoTo_pos _).ne'
      · exact Nat.mul_ne_zero hm (Nat.pow_pos (by decide)).ne'
    · split
      · change (-2000 : ℤ) ≤ 0
        decide
      · dsimp only
        omega

/-- **Reading digits that write the fewest digits of a double gives the double.** -/
theorem nearest_shortest (hd : x.IsDouble) (hm : x.m ≠ 0) (hs : x.negative = false) (tie : Tie)
    {M : ℕ} {e : ℤ} (he : -2000 ≤ e) (hvalue : (M * 10 ^ e : ℚ) = (shortest x tie).value) :
    nearest M e = x.toFloat := by
  obtain ⟨hnear, hne, -⟩ := shortest_near hd hm tie
  refine nearest_of_near ?_ he hd hm hs (hvalue ▸ hnear)
  rintro rfl
  have hpos : 0 < (shortest x tie).value := by
    have : 0 < (shortest x tie).digits := Nat.pos_of_ne_zero hne
    unfold Digits.value
    positivity
  rw [← hvalue, Nat.cast_zero, zero_mul] at hpos
  exact hpos.false

end ReactiveTree.Decimal
