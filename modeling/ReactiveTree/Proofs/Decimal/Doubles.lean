import ReactiveTree.Decimal.Dyadic
import Mathlib

/-!
# Doubles as dyadic numbers

A finite double is a sign and a number `m * 2 ^ q`, with `m` below `2 ^ 53` and of full length
unless `q` is the least exponent (`Dyadic.IsDouble`). Its bits are read into that form by
`Dyadic.ofFloat?` and written from it by `Dyadic.toFloat`, and neither way loses anything
(`toFloat_of_ofFloat?`, `ofFloat?_toFloat`). So whatever is proved of the form is proved of the
double.

Key definitions: `Dyadic.IsDouble`, `Dyadic.unpacked`, `Dyadic.toFloat`.
Key theorems: `Dyadic.isDouble_of_ofFloat?`, `Dyadic.toFloat_of_ofFloat?`,
`Dyadic.ofFloat?_toFloat`, `Dyadic.isFinite_iff`.
-/
namespace ReactiveTree.Decimal

open Float.Model Float.Model.UnpackedFloat

/-! ### The fields of a word -/

section Fields

variable (x : Float)

theorem toNat_exponent : ((x.toBits >>> 52) &&& 0x7ff).toNat =
    (@unpackExponent Format.binary64 x.toBits.toBitVec).toNat := by
  have h : (0x7ff : UInt64).toNat = 2 ^ 11 - 1 := rfl
  rw [unpackExponent_def, BitVec.extractLsb'_toNat, UInt64.toNat_and, UInt64.toNat_shiftRight, h,
    Nat.and_two_pow_sub_one_eq_mod]
  rfl

theorem toNat_fraction : (x.toBits &&& 0xfffffffffffff).toNat =
    (@unpackMantissa Format.binary64 x.toBits.toBitVec).toNat := by
  have h : (0xfffffffffffff : UInt64).toNat = 2 ^ 52 - 1 := rfl
  rw [unpackMantissa_def, BitVec.extractLsb'_toNat, UInt64.toNat_and, h,
    Nat.and_two_pow_sub_one_eq_mod]
  rfl

/-- The sign of a Boolean that is true for a minus. -/
def signOf (negative : Bool) : Sign := if negative then .negative else .positive

theorem signOf_isNegative : signOf (isNegative x) =
    Sign.ofBitVec (@unpackSign Format.binary64 x.toBits.toBitVec) := by
  have hx : (x.toBits >>> 63).toNat = x.toBits.toNat / 2 ^ 63 := by
    rw [UInt64.toNat_shiftRight, Nat.shiftRight_eq_div_pow]
    rfl
  have hlt : x.toBits.toNat / 2 ^ 63 < 2 := by have := x.toBits.toNat_lt; omega
  have hs : (@unpackSign Format.binary64 x.toBits.toBitVec).toNat =
      x.toBits.toNat / 2 ^ 63 := by
    rw [unpackSign_def, BitVec.extractLsb'_toNat, Nat.shiftRight_eq_div_pow]
    exact Nat.mod_eq_of_lt hlt
  have hneg : isNegative x = decide (x.toBits.toNat / 2 ^ 63 = 1) := by
    rw [isNegative, Bool.eq_iff_iff, beq_iff_eq, ← UInt64.toNat_inj, hx, decide_eq_true_eq]
    rfl
  have hzero : @unpackSign Format.binary64 x.toBits.toBitVec = 0#1 ↔
      x.toBits.toNat / 2 ^ 63 = 0 := by
    rw [← BitVec.toNat_inj, hs]
    rfl
  rw [hneg, Sign.ofBitVec, signOf]
  by_cases h : x.toBits.toNat / 2 ^ 63 = 0
  · rw [if_pos (hzero.mpr h), h]
    rfl
  · rw [if_neg fun he => h (hzero.mp he), if_pos (decide_eq_true (by omega))]

end Fields

theorem mantissaBits_binary64 : Format.binary64.mantissaBits = 53 := rfl

theorem exponentBias_binary64 : Format.binary64.exponentBias = 1023 := rfl

theorem log2_eq_52 {m : ℕ} (hm : m < 2 ^ 53) (hm' : 2 ^ 52 ≤ m) : m.log2 = 52 :=
  (Nat.log2_eq_iff (by omega)).mpr ⟨hm', hm⟩

namespace Dyadic

/-- The form of a finite double. -/
structure IsDouble (d : Dyadic) : Prop where
  m_lt : d.m < 2 ^ 53
  q_ge : -1074 ≤ d.q
  q_le : d.q ≤ 971
  /-- The significand has its full length, unless the exponent is the least one. -/
  full : 2 ^ 52 ≤ d.m ∨ d.q = -1074
  narrow : d.narrowBelow = (decide (d.m = 2 ^ 52) && decide (d.q ≠ -1074))

theorem IsDouble.withSign {d : Dyadic} (h : d.IsDouble) (b : Bool) :
    IsDouble { d with negative := b } :=
  ⟨h.m_lt, h.q_ge, h.q_le, h.full, h.narrow⟩

/-- The sign, the significand and the exponent of a double. -/
def unpacked (d : Dyadic) : UnpackedFloat :=
  if h : d.m = 0 then .zero (signOf d.negative)
  else .finite (signOf d.negative) d.m d.q (Nat.pos_of_ne_zero h)

/-- The double of a dyadic number. -/
def toFloat (d : Dyadic) : Float := .ofModel (.pack d.unpacked)

variable {x : Float} {d : Dyadic}

theorem unpack_eq (x : Float) : x.toModel.unpack =
    UnpackedFloat.unpack Format.binary64 x.toBits.toBitVec := rfl

theorem finite_congr {s : Sign} {m m' : ℕ} {e e' : ℤ} {h : 0 < m} (hm : m = m') (he : e = e') :
    UnpackedFloat.finite s m e h = .finite s m' e' (hm ▸ h) := by
  subst hm he
  rfl

/-- The exponent and the fraction of a word say what is read and what is unpacked. -/
theorem ofFloat?_cases (x : Float) :
    (ofFloat? x = none ∧ x.toModel.unpack.isFinite = false) ∨
      ∃ d, ofFloat? x = some d ∧ d.IsDouble ∧ x.toModel.unpack = d.unpacked := by
  have hflt : (@unpackMantissa Format.binary64 x.toBits.toBitVec).toNat < 2 ^ 52 :=
    BitVec.isLt _
  have helt : (@unpackExponent Format.binary64 x.toBits.toBitVec).toNat < 2 ^ 11 :=
    BitVec.isLt _
  have happend : (1#1 ++ @unpackMantissa Format.binary64 x.toBits.toBitVec).toNat =
      2 ^ 52 + (@unpackMantissa Format.binary64 x.toBits.toBitVec).toNat := by
    rw [BitVec.toNat_append, ← Nat.shiftLeft_add_eq_or_of_lt hflt]
    rfl
  have hones : @unpackExponent Format.binary64 x.toBits.toBitVec = -1#_ ↔
      (@unpackExponent Format.binary64 x.toBits.toBitVec).toNat = 0x7ff := by
    rw [← BitVec.toNat_inj]
    rfl
  have hnought : @unpackExponent Format.binary64 x.toBits.toBitVec = 0#_ ↔
      (@unpackExponent Format.binary64 x.toBits.toBitVec).toNat = 0 := by
    rw [← BitVec.toNat_inj]
    rfl
  have hfraction : @unpackMantissa Format.binary64 x.toBits.toBitVec = 0#_ ↔
      (@unpackMantissa Format.binary64 x.toBits.toBitVec).toNat = 0 := by
    rw [← BitVec.toNat_inj]
    rfl
  unfold ofFloat?
  rw [unpack_eq, UnpackedFloat.unpack, ← signOf_isNegative]
  dsimp only
  rw [toNat_exponent, toNat_fraction]
  by_cases hmax : (@unpackExponent Format.binary64 x.toBits.toBitVec).toNat = 0x7ff
  · refine .inl ⟨if_pos hmax, ?_⟩
    rw [if_pos (hones.mpr hmax)]
    split <;> rfl
  · refine .inr ?_
    rw [if_neg hmax, if_neg (mt hones.mp hmax)]
    by_cases hmin : (@unpackExponent Format.binary64 x.toBits.toBitVec).toNat = 0
    · rw [if_pos hmin, if_pos (hnought.mpr hmin)]
      refine ⟨_, rfl, ⟨hflt.trans (by decide), le_rfl, by simp, .inr rfl, by simp⟩, ?_⟩
      rw [unpacked]
      by_cases hz : (@unpackMantissa Format.binary64 x.toBits.toBitVec).toNat = 0
      · rw [dif_pos (hfraction.mpr hz), dif_pos hz]
      · rw [dif_neg (mt hfraction.mp hz), dif_neg hz]
        exact finite_congr rfl (by rw [hmin]; rfl)
    · rw [if_neg hmin, if_neg (mt hnought.mp hmin)]
      generalize (@unpackExponent Format.binary64 x.toBits.toBitVec).toNat = e at *
      generalize hf : (@unpackMantissa Format.binary64 x.toBits.toBitVec).toNat = f at *
      have hnarrow : (f == 0 && decide (e > 1)) = (decide (0x10000000000000 + f = 2 ^ 52) &&
          decide ((e : ℤ) - 1075 ≠ -1074)) := by
        rw [Bool.eq_iff_iff]
        simp only [Bool.and_eq_true, beq_iff_eq, decide_eq_true_eq]
        omega
      refine ⟨_, rfl, ⟨?_, ?_, ?_, .inl ?_, hnarrow⟩, ?_⟩
      · change 0x10000000000000 + f < 2 ^ 53
        omega
      · change -1074 ≤ (e : ℤ) - 1075
        omega
      · change (e : ℤ) - 1075 ≤ 971
        omega
      · exact Nat.le_add_right _ _
      · rw [unpacked, dif_neg (by simp)]
        exact finite_congr happend rfl

theorem isDouble_of_ofFloat? (h : ofFloat? x = some d) : d.IsDouble := by
  obtain ⟨hn, -⟩ | ⟨d', hd, hi, -⟩ := ofFloat?_cases x
  · rw [hn] at h; cases h
  · rw [hd] at h
    exact Option.some.inj h ▸ hi

theorem unpack_of_ofFloat? (h : ofFloat? x = some d) : x.toModel.unpack = d.unpacked := by
  obtain ⟨hn, -⟩ | ⟨d', hd, -, hu⟩ := ofFloat?_cases x
  · rw [hn] at h; cases h
  · rw [hd] at h
    exact Option.some.inj h ▸ hu

theorem isFinite_unpacked (d : Dyadic) : d.unpacked.isFinite = true := by
  unfold unpacked
  split <;> rfl

/-- The finite doubles are those that have the form. -/
theorem isFinite_iff : x.isFinite = true ↔ ∃ d, ofFloat? x = some d := by
  change x.toModel.unpack.isFinite = true ↔ _
  obtain ⟨hn, hf⟩ | ⟨d, hd, -, hu⟩ := ofFloat?_cases x
  · simp [hn, hf]
  · simp [hd, hu, isFinite_unpacked]

/-- **A double is the one of its form.** -/
theorem toFloat_of_ofFloat? (h : ofFloat? x = some d) : d.toFloat = x := by
  rw [toFloat, ← unpack_of_ofFloat? h]
  exact Float.ofBits_toBits x

theorem signOf_injective {a b : Bool} (h : signOf a = signOf b) : a = b := by
  cases a <;> cases b <;> first | rfl | cases h

/-- Doubles of one unpacked form are one. -/
theorem eq_of_unpacked {d d' : Dyadic} (h : d.IsDouble) (h' : d'.IsDouble)
    (hu : d.unpacked = d'.unpacked) : d = d' := by
  have hnarrow := h.narrow
  have hnarrow' := h'.narrow
  have hfull := h.full
  have hfull' := h'.full
  unfold unpacked at hu
  obtain ⟨s, m, q, b⟩ := d
  obtain ⟨s', m', q', b'⟩ := d'
  dsimp only at *
  split at hu <;> split at hu
  · rename_i hm hm'
    obtain rfl := signOf_injective (UnpackedFloat.zero.inj hu)
    obtain rfl : q = q' := by omega
    rw [hnarrow, hnarrow', hm, hm']
  · cases hu
  · cases hu
  · obtain ⟨hs, rfl, rfl⟩ := UnpackedFloat.finite.inj hu
    obtain rfl := signOf_injective hs
    rw [hnarrow, hnarrow']

/-! ### Packing -/

theorem unpack_full (s : Sign) {e m : ℕ} (he : e ≠ 0) (he' : e < 2047) (hm : 2 ^ 52 ≤ m)
    (hm' : m < 2 ^ 53) : UnpackedFloat.unpack Format.binary64
      (packComponents Format.binary64 s (BitVec.ofNat 11 e) (BitVec.ofNat 52 m)) =
        .finite s m ((e : ℤ) - 1075) (by omega) := by
  have hE : (BitVec.ofNat 11 e).toNat = e := Nat.mod_eq_of_lt (by omega)
  have hF : (BitVec.ofNat 52 m).toNat = m - 2 ^ 52 := by
    rw [BitVec.toNat_ofNat]
    omega
  have hones : BitVec.ofNat 11 e ≠ -1#_ := fun h => by
    rw [← BitVec.toNat_inj, hE] at h
    exact absurd h he'.ne
  have hnought : BitVec.ofNat 11 e ≠ 0#_ := fun h => by
    rw [← BitVec.toNat_inj, hE] at h
    exact he h
  have happend : (1#1 ++ BitVec.ofNat 52 m).toNat = m := by
    rw [BitVec.toNat_append, ← Nat.shiftLeft_add_eq_or_of_lt (by omega), hF]
    exact Nat.add_sub_cancel' hm
  unfold UnpackedFloat.unpack
  simp only [unpackExponent_packComponents, unpackMantissa_packComponents,
    unpackSign_packComponents, Sign.ofBitVec_toBitVec, hones, hnought, if_false]
  exact finite_congr happend (by rw [hE]; rfl)

theorem unpack_short (s : Sign) {f : ℕ} (hf : f < 2 ^ 52) (hz : f ≠ 0) :
    UnpackedFloat.unpack Format.binary64
      (packComponents Format.binary64 s 0#_ (BitVec.ofNat 52 f)) =
        .finite s f (-1074) (Nat.pos_of_ne_zero hz) := by
  have hF : (BitVec.ofNat 52 f).toNat = f := Nat.mod_eq_of_lt hf
  have hfraction : BitVec.ofNat 52 f ≠ 0#_ := fun h => by
    rw [← BitVec.toNat_inj, hF] at h
    exact hz h
  have hones : (0#11 : BitVec 11) ≠ -1#_ := by decide
  unfold UnpackedFloat.unpack
  simp only [unpackExponent_packComponents, unpackMantissa_packComponents,
    unpackSign_packComponents, Sign.ofBitVec_toBitVec, hones, hfraction, if_false, if_true,
    dite_false]
  exact finite_congr hF rfl

/-- What is packed is unpacked again. -/
theorem unpack_pack (h : d.IsDouble) : (Float.Model.pack d.unpacked).unpack = d.unpacked := by
  change UnpackedFloat.unpack Format.binary64 (UnpackedFloat.pack Format.binary64 d.unpacked) = _
  unfold unpacked
  split
  · exact unpack_packedZero
  · rename_i hz
    have hm := h.m_lt
    have hq := h.q_ge
    have hq' := h.q_le
    obtain ⟨e, he⟩ : ∃ e : ℕ, (e : ℤ) = d.q + 1075 := ⟨(d.q + 1075).toNat, by omega⟩
    have hbiased : (d.q + (Format.binary64.exponentBias : ℤ) + (52 : ℕ)).toNat = e := by
      rw [exponentBias_binary64]
      omega
    unfold UnpackedFloat.pack
    dsimp only
    rw [hbiased, mantissaBits_binary64, if_neg (by omega)]
    by_cases hfull : 2 ^ 52 ≤ d.m
    · rw [if_pos (by rw [log2_eq_52 hm hfull]), unpack_full _ (by omega) (by omega) hfull hm]
      exact finite_congr rfl (by omega)
    · have hlog : d.m.log2 < 52 := (Nat.log2_lt hz).mpr (by omega)
      rw [if_neg (by omega), unpack_short _ (by omega) hz]
      exact finite_congr rfl (h.full.resolve_left hfull).symm

/-- **The form of a double is read back from it.** -/
theorem ofFloat?_toFloat (h : d.IsDouble) : ofFloat? d.toFloat = some d := by
  have hu : d.toFloat.toModel.unpack = d.unpacked := unpack_pack h
  obtain ⟨hn, hf⟩ | ⟨d', hd, hi, hu'⟩ := ofFloat?_cases d.toFloat
  · rw [hu, isFinite_unpacked] at hf
    cases hf
  · rw [hd, eq_of_unpacked hi h (hu'.symm.trans hu)]

end Dyadic
end ReactiveTree.Decimal
