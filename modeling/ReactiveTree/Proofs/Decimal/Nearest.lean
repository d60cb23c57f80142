import ReactiveTree.Decimal.Reading
import ReactiveTree.Proofs.Decimal.Rounding

/-!
# The double nearest to a decimal

A decimal that is near to a double is read as that double, whatever its number of digits
(`nearest_of_near`): products and quotients by the powers of ten that are doubles, and the exact
fractions for all others, are rounded to the double that the decimal is near to. Whole numbers of
up to fifty-three bits are doubles (`ofWhole`), so they are what their double says.

Key definitions: `Dyadic.ofWhole`.
Key theorems: `ofScientific_of_near`, `nearest_of_near`, `neg_toFloat`.
-/
namespace ReactiveTree.Decimal

open Float.Model Float.Model.UnpackedFloat

variable {d : Dyadic} {M : ℕ} {e : ℤ} {x : ℚ}

/-! ### Whole numbers -/

/-- The form of a positive whole number of at most fifty-three bits. -/
def Dyadic.ofWhole (n : ℕ) : Dyadic :=
  ⟨false, n <<< (52 - n.log2), (n.log2 : ℤ) - 52, decide (n <<< (52 - n.log2) = 2 ^ 52)⟩

namespace Dyadic

variable {n : ℕ}

theorem isDouble_ofWhole (hn : n ≠ 0) (hlt : n < 2 ^ 53) : (ofWhole n).IsDouble := by
  have hlog : n.log2 < 53 := (Nat.log2_lt hn).mpr hlt
  have hshift : (n <<< (52 - n.log2)).log2 = 52 := by rw [log2_shiftLeft hn]; omega
  obtain ⟨hlow, hhigh⟩ := (Nat.log2_eq_iff (by rw [Nat.shiftLeft_eq]; positivity)).mp hshift
  refine ⟨hhigh, ?_, ?_, .inl hlow, ?_⟩ <;> unfold ofWhole <;> dsimp only
  · omega
  · omega
  · rw [decide_eq_true (p := (n.log2 : ℤ) - 52 ≠ -1074) (by omega), Bool.and_true]

theorem ofWhole_ne_zero (hn : n ≠ 0) : (ofWhole n).m ≠ 0 := by
  change n <<< _ ≠ 0
  rw [Nat.shiftLeft_eq]
  positivity

theorem value_ofWhole (hlt : n < 2 ^ 53) : (ofWhole n).value = n := by
  have hlog : n.log2 ≤ 52 := by
    by_cases hn : n = 0
    · rw [hn, Nat.log2_zero]
      omega
    · have := (Nat.log2_lt hn).mpr hlt
      omega
  have hp : (2 : ℚ) ^ ((n.log2 : ℤ) - 52) = ((2 : ℚ) ^ (52 - n.log2))⁻¹ := by
    rw [← zpow_natCast, ← zpow_neg]
    congr 1
    omega
  change ((n <<< (52 - n.log2) : ℕ) : ℚ) * 2 ^ ((n.log2 : ℤ) - 52) = _
  rw [hp, Nat.shiftLeft_eq]
  push_cast
  field_simp

end Dyadic

/-- A whole number that is near to a double is converted to it. -/
theorem toFloat_of_near {n : ℕ} (hn : n ≠ 0) (hlt : n < 2 ^ 64) (hd : d.IsDouble) (hm : d.m ≠ 0)
    (hs : d.negative = false) (hnear : d.Near n) : n.toUInt64.toFloat = d.toFloat := by
  have hnat : n.toUInt64.toNat = n := Nat.mod_eq_of_lt hlt
  have hround : UnpackedFloat.ofNat Format.binary64 n = d.unpacked := by
    have hpos : compare (n : ℤ) 0 = .gt := compare_gt_iff_gt.mpr (by omega)
    unfold UnpackedFloat.ofNat UnpackedFloat.ofInt UnpackedFloat.normalize
    rw [hpos]
    dsimp only
    rw [Int.toNat_natCast, round_of_near hn hd hm (by rw [zpow_zero, mul_one]) hnear,
      Dyadic.unpacked, dif_neg hm, hs]
    rfl
  unfold UInt64.toFloat Dyadic.toFloat
  rw [← hround]
  change Float.ofModel (.pack (.ofNat Format.binary64 n.toUInt64.toNat)) = _
  rw [hnat]

/-! ### Products and quotients -/

namespace Dyadic

variable {a b : Dyadic}

theorem unpacked_of_positive (hm : d.m ≠ 0) (hs : d.negative = false) :
    d.unpacked = .finite .positive d.m d.q (Nat.pos_of_ne_zero hm) := by
  rw [unpacked, dif_neg hm, hs]
  rfl

theorem mul_toFloat (ha : a.IsDouble) (hb : b.IsDouble) (ham : a.m ≠ 0) (hbm : 2 ^ 52 ≤ b.m)
    (has : a.negative = false) (hbs : b.negative = false) (hd : d.IsDouble) (hm : d.m ≠ 0)
    (hs : d.negative = false) (hnear : d.Near (a.value * b.value)) :
    a.toFloat * b.toFloat = d.toFloat := by
  have hbm' : b.m ≠ 0 := by omega
  have hkept : 52 ≤ (a.m * b.m).log2 := by
    rw [Nat.le_log2 (Nat.mul_ne_zero ham hbm')]
    calc 2 ^ 52 ≤ 1 * b.m := by omega
      _ ≤ a.m * b.m := Nat.mul_le_mul_right _ (Nat.pos_of_ne_zero ham)
  change Float.ofModel (.pack (.mul Format.binary64 (Float.Model.pack a.unpacked).unpack
    (Float.Model.pack b.unpacked).unpack)) = _
  rw [unpack_pack ha, unpack_pack hb, unpacked_of_positive ham has,
    unpacked_of_positive hbm' hbs, mul_of_near hkept hd hm rfl hnear, toFloat,
    unpacked_of_positive hm hs]
  rfl

theorem div_toFloat (ha : a.IsDouble) (hb : b.IsDouble) (ham : a.m ≠ 0) (hbm : b.m ≠ 0)
    (has : a.negative = false) (hbs : b.negative = false) (hd : d.IsDouble) (hm : d.m ≠ 0)
    (hs : d.negative = false) (hnear : d.Near (a.value / b.value)) :
    a.toFloat / b.toFloat = d.toFloat := by
  change Float.ofModel (.pack (.div Format.binary64 (Float.Model.pack a.unpacked).unpack
    (Float.Model.pack b.unpacked).unpack)) = _
  rw [unpack_pack ha, unpack_pack hb, unpacked_of_positive ham has,
    unpacked_of_positive hbm hbs, div_of_near hd hm rfl hnear, toFloat,
    unpacked_of_positive hm hs]
  rfl

/-- A double with the other sign. -/
theorem neg_toFloat (hd : d.IsDouble) :
    -d.toFloat = Dyadic.toFloat { d with negative := !d.negative } := by
  change Float.ofModel (.pack (.neg (Float.Model.pack d.unpacked).unpack)) = _
  have hneg : ∀ b, -signOf b = signOf (!b) := fun b => by cases b <;> rfl
  rw [unpack_pack hd, toFloat]
  unfold unpacked
  split
  · rw [UnpackedFloat.neg, hneg]
  · rw [UnpackedFloat.neg, hneg]

end Dyadic

/-! ### Powers of ten -/

/-- A power of a whole number, as a fraction of whole numbers. -/
theorem natCast_zpow_eq (b : ℕ) (q : ℤ) :
    (b : ℚ) ^ q = (b ^ q.toNat : ℕ) / (b ^ (-q).toNat : ℕ) := by
  obtain ⟨n, rfl | rfl⟩ := q.eq_nat_or_neg
  · simp
  · simp

theorem two_zpow_eq (q : ℤ) : (2 : ℚ) ^ q = (twoTo q : ℕ) / (twoTo (-q) : ℕ) :=
  natCast_zpow_eq 2 q

theorem twoTo_pos (q : ℤ) : 0 < twoTo q := Nat.two_pow_pos _

/-- A power of ten from the table of those that doubles hold. -/
def powerOfTen (i : Fin 23) : Float :=
  have hi : i.val < Float.exactlyRepresentablePowersOfTen.size := i.isLt
  Float.exactlyRepresentablePowersOfTen[i.val]

theorem powerOfTen_any : ∀ i : Fin 23,
    (Dyadic.ofFloat? (powerOfTen i)).any (fun d =>
      !d.negative && d.m * twoTo d.q == 10 ^ (i : ℕ) * twoTo (-d.q)) = true := by
  decide +kernel

/-- The table of powers of ten holds them. -/
theorem ofFloat?_powerOfTen (i : Fin 23) :
    ∃ d, Dyadic.ofFloat? (powerOfTen i) = some d ∧ d.negative = false ∧
      d.value = 10 ^ (i : ℕ) := by
  obtain ⟨d, hd, h⟩ := Option.any_eq_true _ _ |>.mp (powerOfTen_any i)
  simp only [Bool.and_eq_true, Bool.not_eq_true', beq_iff_eq] at h
  obtain ⟨hneg, hvalue⟩ := h
  have hp : ((twoTo (-d.q) : ℕ) : ℚ) ≠ 0 := by exact_mod_cast (twoTo_pos _).ne'
  refine ⟨d, hd, hneg, ?_⟩
  rw [Dyadic.value, two_zpow_eq, ← mul_div_assoc, div_eq_iff hp]
  exact_mod_cast hvalue

/-- A double that is at least one has a significand of full length. -/
theorem Dyadic.IsDouble.full_of_one_le (hd : d.IsDouble) (h : 1 ≤ d.value) : 2 ^ 52 ≤ d.m := by
  refine hd.full.resolve_right fun hq => ?_
  have hm : (d.m : ℚ) < 2 ^ 53 := by exact_mod_cast hd.m_lt
  have hlt : d.value < 2 ^ (53 : ℕ) * 2 ^ (-1074 : ℤ) := by
    rw [value, hq]
    exact mul_lt_mul_of_pos_right hm (by positivity)
  rw [← zpow_natCast, ← two_zpow_add] at hlt
  have h0 : (2 : ℚ) ^ (0 : ℤ) < 2 ^ (((53 : ℕ) : ℤ) + -1074) := by
    rw [zpow_zero]
    exact h.trans_lt hlt
  exact absurd (two_zpow_lt_iff.mp h0) (by norm_num)

/-! ### Decimals -/

/-- A decimal from exact factors is the double that it is near to. -/
theorem ofScientific_short (hM : M ≠ 0) {s : Bool} {f : ℕ} (hshort : M < 2 ^ 53 ∧ f ≤ 22)
    (hd : d.IsDouble) (hm : d.m ≠ 0) (hs : d.negative = false)
    (hnear : d.Near (M * 10 ^ (if s then -(f : ℤ) else f))) :
    Float.ofScientific M s f = d.toFloat := by
  obtain ⟨b, hb, hbneg, hbvalue⟩ := ofFloat?_powerOfTen ⟨f, by omega⟩
  have hwhole := Dyadic.isDouble_ofWhole hM hshort.1
  have hwhole0 := Dyadic.ofWhole_ne_zero hM
  have hvalue := Dyadic.value_ofWhole hshort.1
  have hten := Dyadic.isDouble_of_ofFloat? hb
  have htenFull : 2 ^ 52 ≤ b.m := by
    refine hten.full_of_one_le ?_
    rw [hbvalue]
    exact one_le_pow₀ (by norm_num)
  have hleft : M.toUInt64.toFloat = (Dyadic.ofWhole M).toFloat := by
    refine toFloat_of_near hM (by omega) hwhole hwhole0 rfl ?_
    rw [← hvalue]
    exact Dyadic.near_value _
  have hf : f < Float.exactlyRepresentablePowersOfTen.size := by
    rw [show Float.exactlyRepresentablePowersOfTen.size = 23 from rfl]
    omega
  have hright : Float.exactlyRepresentablePowersOfTen[f] = b.toFloat :=
    (Dyadic.toFloat_of_ofFloat? hb).symm
  unfold Float.ofScientific
  rw [dif_pos hshort, hleft]
  dsimp only
  rw [hright]
  cases s with
  | true =>
    refine Dyadic.div_toFloat hwhole hten hwhole0 (by omega) rfl hbneg hd hm hs ?_
    rw [hvalue, hbvalue]
    simpa [zpow_neg, div_eq_mul_inv] using hnear
  | false =>
    refine Dyadic.mul_toFloat hwhole hten hwhole0 htenFull rfl hbneg hd hm hs ?_
    rw [hvalue, hbvalue]
    simpa using hnear

/-- A decimal as an exact product or quotient is rounded to the double that it is near to. -/
theorem ofScientific_long (hM : M ≠ 0) (he : -2048 ≤ e) (he' : e ≤ 2048) (hd : d.IsDouble)
    (hm : d.m ≠ 0) (hnear : d.Near (M * 10 ^ e)) :
    UnpackedFloat.ofScientific Format.binary64 M e =
      .finite .positive d.m d.q (Nat.pos_of_ne_zero hm) := by
  have hbits : (2 : ℤ) ^ Format.binary64.exponentBits = 2048 := rfl
  unfold UnpackedFloat.ofScientific
  rw [dif_neg hM, hbits, if_neg (by omega), if_neg (by omega)]
  by_cases hsign : 0 ≤ e
  · have hten : (10 : ℚ) ^ e = (10 ^ e.toNat : ℕ) := by
      rw [Nat.cast_pow, ← zpow_natCast, Int.toNat_of_nonneg hsign]
      rfl
    rw [if_pos hsign]
    refine mul_of_near ?_ hd hm ?_ hnear
    · have hpow : 1 ≤ 10 ^ e.toNat := Nat.one_le_pow _ _ (by norm_num)
      rw [Nat.le_log2 (by rw [Nat.shiftLeft_eq]; positivity), Nat.shiftLeft_eq]
      calc 2 ^ 52 ≤ 1 * 2 ^ Format.binary64.mantissaBits * 1 := by decide
        _ ≤ M * 2 ^ Format.binary64.mantissaBits * 10 ^ e.toNat :=
          Nat.mul_le_mul (Nat.mul_le_mul_right _ (Nat.pos_of_ne_zero hM)) hpow
    · rw [hten, Nat.shiftLeft_eq, zpow_neg, zpow_natCast]
      push_cast
      field_simp
  · have hten : (10 : ℚ) ^ e = ((10 ^ (-e).toNat : ℕ) : ℚ)⁻¹ := by
      rw [Nat.cast_pow, ← zpow_natCast, Int.toNat_of_nonneg (by omega), zpow_neg, inv_inv]
      rfl
    rw [if_neg hsign]
    refine div_of_near hd hm ?_ hnear
    rw [hten, zpow_zero, mul_one, mul_one, div_eq_mul_inv]

/-- **A decimal is the double that it is near to.** -/
theorem ofScientific_of_near (hM : M ≠ 0) {s : Bool} {f : ℕ} (hf : f ≤ 2048) (hd : d.IsDouble)
    (hm : d.m ≠ 0) (hs : d.negative = false)
    (hnear : d.Near (M * 10 ^ (if s then -(f : ℤ) else f))) :
    Float.ofScientific M s f = d.toFloat := by
  by_cases hshort : M < 2 ^ 53 ∧ f ≤ 22
  · exact ofScientific_short hM hshort hd hm hs hnear
  · have he : (if s then Int.negOfNat f else Int.ofNat f) = if s then -(f : ℤ) else f := by
      rw [Int.negOfNat_eq]
      rfl
    unfold Float.ofScientific
    rw [dif_neg hshort, he]
    dsimp only
    unfold Dyadic.toFloat Float.Model.ofScientific
    rw [Dyadic.unpacked_of_positive hm hs,
      ofScientific_long hM (by split <;> omega) (by split <;> omega) hd hm hnear]

/-! ### Sizes of decimals -/

theorem ten_pow_le_two_pow : 10 ^ 100 ≤ 2 ^ 333 := by
  have hfive : 5 ^ 100 ≤ 2 ^ 233 := by decide
  calc 10 ^ 100 = 2 ^ 100 * 5 ^ 100 := mul_pow 2 5 100
    _ ≤ 2 ^ 100 * 2 ^ 233 := Nat.mul_le_mul_left _ hfive
    _ = 2 ^ 333 := by rw [← pow_add]

theorem two_pow_le_ten_pow : 2 ^ 166 ≤ 10 ^ 50 := by decide

/-- A digit is at most `3.33` bits. -/
theorem bits_lt_of_lt {l c f : ℕ} (h : 2 ^ l < 2 ^ c * 10 ^ f) : 100 * l < 100 * c + 333 * f := by
  refine (Nat.pow_lt_pow_iff_right (a := 2) one_lt_two).mp ?_
  calc 2 ^ (100 * l) = (2 ^ l) ^ 100 := by rw [← pow_mul, mul_comm]
    _ < (2 ^ c * 10 ^ f) ^ 100 := Nat.pow_lt_pow_left h (by omega)
    _ = 2 ^ (100 * c) * (10 ^ 100) ^ f := by
      rw [mul_pow, ← pow_mul, ← pow_mul, ← pow_mul, mul_comm c, mul_comm f]
    _ ≤ 2 ^ (100 * c) * (2 ^ 333) ^ f :=
      Nat.mul_le_mul_left _ (Nat.pow_le_pow_left ten_pow_le_two_pow f)
    _ = 2 ^ (100 * c + 333 * f) := by rw [← pow_mul, ← pow_add]

/-- A digit is at least `3.32` bits. -/
theorem digits_lt_of_lt {f l c : ℕ} (h : 10 ^ f * 2 ^ l < 2 ^ c) : 166 * f + 50 * l < 50 * c := by
  refine (Nat.pow_lt_pow_iff_right (a := 2) one_lt_two).mp ?_
  calc 2 ^ (166 * f + 50 * l) = (2 ^ 166) ^ f * 2 ^ (50 * l) := by rw [← pow_mul, ← pow_add]
    _ ≤ (10 ^ 50) ^ f * 2 ^ (50 * l) :=
      Nat.mul_le_mul_right _ (Nat.pow_le_pow_left two_pow_le_ten_pow f)
    _ = (10 ^ f * 2 ^ l) ^ 50 := by
      rw [mul_pow, ← pow_mul, ← pow_mul, ← pow_mul, mul_comm f, mul_comm l]
    _ < (2 ^ c) ^ 50 := Nat.pow_lt_pow_left h (by omega)
    _ = 2 ^ (50 * c) := by rw [← pow_mul, mul_comm]

/-- A decimal in the range of the doubles is not taken for infinite or zero by its size. -/
theorem size_bounds (hM : M ≠ 0) (he : -2000 ≤ e) (hlow : (2 : ℚ) ^ (-1076 : ℤ) < M * 10 ^ e)
    (hhigh : (M * 10 ^ e : ℚ) < 2 ^ (1024 : ℤ)) :
    -360 ≤ ((M.log2 : ℤ) * 30103) / 100000 + e ∧
      ((M.log2 : ℤ) * 30103) / 100000 + e ≤ 320 := by
  have hleast : 2 ^ M.log2 ≤ M := Nat.log2_self_le hM
  have hmost : M < 2 ^ (M.log2 + 1) := Nat.lt_log2_self
  by_cases hsign : 0 ≤ e
  · obtain ⟨f, rfl⟩ := Int.eq_ofNat_of_zero_le hsign
    have hprod : M * 10 ^ f < 2 ^ 1024 := by exact_mod_cast hhigh
    have hbits : 10 ^ f * 2 ^ M.log2 < 2 ^ 1024 :=
      (Nat.mul_le_mul_left _ hleast).trans_lt (by rwa [mul_comm])
    have := digits_lt_of_lt hbits
    omega
  · obtain ⟨f, rfl⟩ : ∃ f : ℕ, e = -f := ⟨(-e).toNat, by omega⟩
    have hten : (0 : ℚ) < 10 ^ f := by positivity
    rw [zpow_neg 10, zpow_natCast, ← div_eq_mul_inv] at hlow hhigh
    rw [div_lt_iff₀ hten] at hhigh
    rw [lt_div_iff₀ hten, zpow_neg, inv_mul_lt_iff₀ (by positivity)] at hlow
    have hupper : M < 2 ^ 1024 * 10 ^ f := by exact_mod_cast hhigh
    have hlower : 10 ^ f < 2 ^ 1076 * M := by exact_mod_cast hlow
    have hbits := bits_lt_of_lt (hleast.trans_lt hupper)
    have hdigits : 10 ^ f * 2 ^ 0 < 2 ^ (1076 + (M.log2 + 1)) := by
      rw [pow_zero, mul_one, pow_add]
      exact hlower.trans (Nat.mul_lt_mul_of_pos_left hmost (by positivity))
    have := digits_lt_of_lt hdigits
    omega

/-- **The double nearest to a decimal is the one that it is near to.** -/
theorem nearest_of_near (hM : M ≠ 0) (he : -2000 ≤ e) (hd : d.IsDouble) (hm : d.m ≠ 0)
    (hs : d.negative = false) (hnear : d.Near (M * 10 ^ e)) : nearest M e = d.toFloat := by
  have hhigh : (M * 10 ^ e : ℚ) < 2 ^ (1024 : ℤ) :=
    (hnear.lt hd).trans_le (two_zpow_le_iff.mpr (by have := hd.q_le; omega))
  obtain ⟨hsize, hsize'⟩ := size_bounds hM he (hnear.gt hd hm) hhigh
  unfold nearest
  rw [if_neg hM]
  dsimp only
  rw [if_neg (by omega), if_neg (by omega)]
  refine ofScientific_of_near hM (by omega) hd hm hs ?_
  have hexp : (if decide (e < 0) = true then -(e.natAbs : ℤ) else e.natAbs) = e := by
    split <;> rename_i h <;> simp only [decide_eq_true_eq] at h <;> omega
  rwa [hexp]

end ReactiveTree.Decimal
