import ReactiveTree.Json.Reading
import ReactiveTree.Json.Writing
import ReactiveTree.Proofs.Decimal.Shortest

/-!
# Numerals in JSON

A numeral has a whole part, a fraction and an exponent (`numeral`). Doubles are written as
numerals of the fewest digits (`writes_writePositive`), integers as their digits, and the scanner
takes a numeral apart into the parts that it was made of, whatever may follow a value behind it
(`scanNumber_numeral`). So a finite double is read back bit for bit (`numeral_writeDouble`), and
an integer in the range that texts can hold as itself (`numeral_writeInt`).

Key definitions: `Follows`, `IsNumeral`, `numeral`, `Writes`, `Numeral`.
Key theorems: `scanNumber_numeral`, `writes_writePositive`, `numeral_writeDouble`,
`numeral_writeInt`.
-/
namespace ReactiveTree.Json

open Text (isAsciiDigit)
open Decimal (ofDigits digitChars exponentText shortest)

/-! ### What follows a value -/

/-- A character that can stand behind a value. -/
def isDelimiter (c : Char) : Bool := c == ',' || c == ']' || c == '\x7d' || isSpace c

/-- A text that can stand behind a value. -/
def Follows (rest : List Char) : Prop := ∀ c ∈ rest.head?, isDelimiter c = true

theorem follows_nil : Follows [] := nofun

theorem follows_cons {c : Char} (h : isDelimiter c = true) (rest : List Char) :
    Follows (c :: rest) := fun _ hc => (Option.some.inj hc) ▸ h

/-- A delimiter is no character of a numeral. -/
theorem of_isDelimiter {c : Char} (h : isDelimiter c = true) :
    isAsciiDigit c = false ∧ c ≠ '.' ∧ c ≠ 'e' ∧ c ≠ 'E' := by
  unfold isDelimiter isSpace at h
  simp only [Bool.or_eq_true, beq_iff_eq] at h
  rcases h with ((rfl | rfl) | rfl) | ((rfl | rfl) | rfl) | rfl <;> decide

/-! ### Digits -/

theorem ofDigits_eq (ds : List Char) : ofDigits ds = Nat.ofDigitChars 10 ds 0 := rfl

theorem ofDigits_digitChars (n : ℕ) : ofDigits (digitChars n) = n :=
  Nat.ofDigitChars_ten_toDigits

theorem isAsciiDigit_of_mem {n : ℕ} {c : Char} (h : c ∈ digitChars n) : isAsciiDigit c = true :=
  Nat.isDigit_of_mem_toDigits (by decide) (by decide) h

theorem digitChars_ne_nil (n : ℕ) : digitChars n ≠ [] := Nat.toDigits_ne_nil

/-- The digits of a positive number do not start with a zero. -/
theorem head?_digitChars {n : ℕ} (h : n ≠ 0) : (digitChars n).head? ≠ some '0' := by
  induction n using Nat.strong_induction_on with
  | _ n ih =>
    unfold digitChars at ih ⊢
    by_cases hlt : n < 10
    · rw [Nat.toDigits_of_lt_base hlt, List.head?_cons]
      interval_cases n <;> first | exact absurd rfl h | decide
    · rw [Nat.toDigits_of_base_le (by decide) (by omega),
        List.head?_append_of_ne_nil _ Nat.toDigits_ne_nil]
      exact ih (n / 10) (by omega) (by omega)

theorem span_digits {ds rest : List Char} (hds : ∀ c ∈ ds, isAsciiDigit c = true)
    (hrest : ∀ c ∈ rest.head?, isAsciiDigit c = false) :
    (ds ++ rest).span isAsciiDigit = (ds, rest) := by
  have hnone : rest.takeWhile isAsciiDigit = [] ∧ rest.dropWhile isAsciiDigit = rest := by
    cases rest with
    | nil => exact ⟨rfl, rfl⟩
    | cons c cs =>
      have hc := hrest c rfl
      simp [hc]
  rw [List.span_eq_takeWhile_dropWhile, List.takeWhile_append_of_pos hds,
    List.dropWhile_append_of_pos hds, hnone.1, hnone.2, List.append_nil]

/-! ### Numerals -/

/-- The parts of a numeral are digits, and a whole part that starts with a zero is no more. -/
structure IsNumeral (whole fraction : List Char) : Prop where
  digits : ∀ c ∈ whole, isAsciiDigit c = true
  ne_nil : whole ≠ []
  zero : whole.head? = some '0' → whole = ['0']
  fractionDigits : ∀ c ∈ fraction, isAsciiDigit c = true

/-- The exponent part of a numeral. -/
def exponentPart : Option ℤ → List Char
  | none => []
  | some e => 'e' :: exponentText true e

/-- The fraction part of a numeral. -/
def fractionPart (fraction : List Char) : List Char :=
  if fraction = [] then [] else '.' :: fraction

/-- A numeral of these parts. -/
def numeral (whole fraction : List Char) (exponent : Option ℤ) : List Char :=
  whole ++ (fractionPart fraction ++ exponentPart exponent)

variable {whole fraction rest : List Char} {exponent : Option ℤ}

theorem head?_exponentPart (hrest : Follows rest) : ∀ c ∈ (exponentPart exponent ++ rest).head?,
    isAsciiDigit c = false ∧ c ≠ '.' := by
  cases exponent with
  | none =>
    intro c hc
    obtain ⟨hd, hp, -⟩ := of_isDelimiter (hrest c hc)
    exact ⟨hd, hp⟩
  | some e =>
    intro c hc
    obtain rfl : 'e' = c := Option.some.inj hc
    decide

theorem head?_fractionPart (hrest : Follows rest) :
    ∀ c ∈ (fractionPart fraction ++ (exponentPart exponent ++ rest)).head?,
      isAsciiDigit c = false := by
  unfold fractionPart
  split
  · exact fun c hc => (head?_exponentPart hrest c hc).1
  · intro c hc
    obtain rfl : '.' = c := Option.some.inj hc
    decide

theorem scanWhole_append (h : IsNumeral whole fraction)
    (hrest : ∀ c ∈ rest.head?, isAsciiDigit c = false) :
    scanWhole (whole ++ rest) = some (whole, rest) := by
  have hspan := span_digits h.digits hrest
  obtain ⟨c, cs, rfl⟩ := List.exists_cons_of_ne_nil h.ne_nil
  by_cases hc : c = '0'
  · subst hc
    obtain rfl : cs = [] := by simpa using h.zero rfl
    have hhead : (rest.head?.map isAsciiDigit).getD false = false := by
      cases hr : rest.head? with
      | none => rfl
      | some c => exact hrest c hr
    unfold scanWhole
    simp [hhead]
  · unfold scanWhole
    rw [List.cons_append]
    split
    · rename_i heq
      exact absurd (List.cons.inj heq).1 hc
    · rw [← List.cons_append, hspan]
      rfl

theorem scanFraction_append (h : ∀ c ∈ fraction, isAsciiDigit c = true)
    (hrest : ∀ c ∈ rest.head?, isAsciiDigit c = false ∧ c ≠ '.') :
    scanFraction (fractionPart fraction ++ rest) = some (fraction, rest) := by
  unfold fractionPart
  split
  · rename_i hf
    subst hf
    cases rest with
    | nil => rfl
    | cons c cs =>
      rw [List.nil_append]
      unfold scanFraction
      split
      · rename_i heq
        exact absurd (List.cons.inj heq).1 (hrest c rfl).2
      · rfl
  · rename_i hf
    rw [List.cons_append, scanFraction, span_digits h fun c hc => (hrest c hc).1]
    exact if_neg (by simpa using hf)

theorem takeSign_exponentText (e : ℤ) (rest : List Char) :
    Decimal.takeSign (exponentText true e ++ rest) =
      (decide (e < 0), digitChars e.natAbs ++ rest) := by
  unfold exponentText
  split
  · rename_i he
    rw [decide_eq_true he]
    rfl
  · rename_i he
    rw [decide_eq_false he]
    rfl

theorem scanExponent_append (hrest : Follows rest) :
    scanExponent (exponentPart exponent ++ rest) = some (exponent, rest) := by
  cases exponent with
  | none =>
    unfold exponentPart
    rw [List.nil_append]
    cases rest with
    | nil => rfl
    | cons c cs =>
      obtain ⟨-, -, he, hE⟩ := of_isDelimiter (hrest c rfl)
      rw [scanExponent, if_neg (by simp [he, hE])]
  | some e =>
    have hspan := span_digits (fun c hc => isAsciiDigit_of_mem (n := e.natAbs) hc)
      fun c hc => (of_isDelimiter (hrest c hc)).1
    have hne : (digitChars e.natAbs).isEmpty = false := by
      simpa using digitChars_ne_nil e.natAbs
    have hvalue : (if decide (e < 0) = true then -(e.natAbs : ℤ) else e.natAbs) = e := by
      split <;> rename_i he <;> simp only [decide_eq_true_eq] at he <;> omega
    unfold exponentPart
    rw [List.cons_append, scanExponent, if_pos (.inl rfl), takeSign_exponentText]
    dsimp only
    rw [hspan]
    dsimp only
    rw [hne, ofDigits_digitChars, hvalue]
    rfl

/-- **A numeral is taken apart into its parts.** -/
theorem scanNumber_numeral (h : IsNumeral whole fraction) (hrest : Follows rest)
    (negative : Bool) : scanNumber negative (numeral whole fraction exponent ++ rest) =
      ⟨numberValue negative whole fraction exponent, some rest⟩ := by
  unfold numeral
  rw [List.append_assoc, List.append_assoc, scanNumber,
    scanWhole_append h (head?_fractionPart hrest)]
  simp only [Option.bind_eq_bind, Option.bind_some,
    scanFraction_append h.fractionDigits (head?_exponentPart hrest), scanExponent_append hrest,
    Option.pure_def]

/-! ### Written digits -/

/-- The number that a numeral writes. -/
def numeralValue (whole fraction : List Char) (exponent : Option ℤ) : ℚ :=
  ofDigits (whole ++ fraction) * 10 ^ (exponent.getD 0 - fraction.length)

theorem ofDigits_append_zeros (ds : List Char) (k : ℕ) :
    ofDigits (ds ++ List.replicate k '0') = ofDigits ds * 10 ^ k := by
  rw [ofDigits_eq, ofDigits_eq, Nat.ofDigitChars_append, Nat.ofDigitChars_replicate_zero, mul_comm]

theorem ofDigits_zeros_append (ds : List Char) (k : ℕ) :
    ofDigits (List.replicate k '0' ++ ds) = ofDigits ds := by
  rw [ofDigits_eq, ofDigits_eq, Nat.ofDigitChars_append, Nat.ofDigitChars_replicate_zero, mul_zero]

/-- A text is a numeral with a point or an exponent, whose value and last place are these. -/
def Writes (text : List Char) (value : ℚ) : Prop :=
  ∃ whole fraction exponent, text = numeral whole fraction exponent ∧ IsNumeral whole fraction ∧
    (fraction ≠ [] ∨ exponent ≠ none) ∧ numeralValue whole fraction exponent = value ∧
      -2000 ≤ exponent.getD 0 - fraction.length

theorem isAsciiDigit_of_mem_zeros {k : ℕ} {c : Char} (h : c ∈ List.replicate k '0') :
    isAsciiDigit c = true := by
  rw [List.eq_of_mem_replicate h]
  rfl

variable {n : ℕ} {e : ℤ}

/-- Zeros and digits behind the point. -/
theorem writes_leadingZeros (n k : ℕ) (hk : (digitChars n).length + k ≤ 2000) :
    Writes ('0' :: '.' :: List.replicate k '0' ++ digitChars n)
      (n * 10 ^ (-((digitChars n).length + k) : ℤ)) := by
  have hdigits : ∀ c ∈ List.replicate k '0' ++ digitChars n, isAsciiDigit c = true := fun c hc =>
    (List.mem_append.mp hc).elim isAsciiDigit_of_mem_zeros isAsciiDigit_of_mem
  have hvalue : ofDigits (['0'] ++ (List.replicate k '0' ++ digitChars n)) = n := by
    rw [← List.append_assoc, ← List.replicate_one, List.replicate_append_replicate,
      ofDigits_zeros_append, ofDigits_digitChars]
  refine ⟨['0'], List.replicate k '0' ++ digitChars n, none, ?_,
    ⟨fun c hc => isAsciiDigit_of_mem_zeros (k := 1) hc, List.cons_ne_nil _ _, fun _ => rfl,
      hdigits⟩, .inl (by simp [digitChars_ne_nil]), ?_, ?_⟩
  · simp [numeral, fractionPart, exponentPart, digitChars_ne_nil]
  · rw [numeralValue, hvalue, List.length_append, List.length_replicate]
    congr 2
    simp
    ring
  · simp
    omega

/-- Digits and zeros before the point, and a zero behind it. -/
theorem writes_trailingZeros (hn : n ≠ 0) (k : ℕ) :
    Writes (digitChars n ++ List.replicate k '0' ++ ['.', '0']) (n * 10 ^ (k : ℤ)) := by
  have hdigits : ∀ c ∈ digitChars n ++ List.replicate k '0', isAsciiDigit c = true := fun c hc =>
    (List.mem_append.mp hc).elim isAsciiDigit_of_mem isAsciiDigit_of_mem_zeros
  have hvalue : ofDigits (digitChars n ++ List.replicate k '0' ++ ['0']) = n * 10 ^ (k + 1) := by
    rw [List.append_assoc, ← List.replicate_one, List.replicate_append_replicate,
      ofDigits_append_zeros, ofDigits_digitChars]
  refine ⟨digitChars n ++ List.replicate k '0', ['0'], none, ?_,
    ⟨hdigits, by simp [digitChars_ne_nil], fun h => absurd h ?_,
      fun c hc => isAsciiDigit_of_mem_zeros (k := 1) hc⟩,
    .inl (List.cons_ne_nil _ _), ?_, by decide⟩
  · simp [numeral, fractionPart, exponentPart]
  · rw [List.head?_append_of_ne_nil _ (digitChars_ne_nil n)]
    exact head?_digitChars hn
  · have hplace : (none : Option ℤ).getD 0 - (['0'].length : ℕ) = -1 := rfl
    rw [numeralValue, hvalue, hplace, zpow_neg_one, zpow_natCast, pow_succ]
    push_cast
    field_simp

/-- Digits with the point after the first `k` of them. -/
theorem writes_split {ds : List Char} (hn : n ≠ 0) (hds : ds = digitChars n) {k : ℕ} (hk : 0 < k)
    (exponent : Option ℤ) (hform : k < ds.length ∨ exponent ≠ none)
    (hplace : -2000 ≤ exponent.getD 0 - (ds.length - k : ℕ)) :
    Writes (numeral (ds.take k) (ds.drop k) exponent)
      (n * 10 ^ (exponent.getD 0 - (ds.length - k : ℕ))) := by
  have hdigits : ∀ c ∈ ds, isAsciiDigit c = true := fun c hc => isAsciiDigit_of_mem (hds ▸ hc)
  have hne : ds ≠ [] := hds ▸ digitChars_ne_nil n
  refine ⟨ds.take k, ds.drop k, exponent, rfl, ⟨fun c hc => hdigits c (List.mem_of_mem_take hc),
    by simp [hne, hk.ne'], fun h => absurd h ?_, fun c hc => hdigits c (List.mem_of_mem_drop hc)⟩,
    hform.imp_left fun h => by simpa using h, ?_, ?_⟩
  · rw [List.head?_take, if_neg hk.ne', hds]
    exact head?_digitChars hn
  · rw [numeralValue, List.take_append_drop, List.length_drop, hds, ofDigits_digitChars]
  · rwa [List.length_drop]

/-- Digits with the point after the first `e + 1` of them. -/
theorem writes_positional (hn : n ≠ 0) (he : -2000 ≤ e + 1 - (digitChars n).length) :
    Writes (Decimal.positional true (digitChars n) e)
      (n * 10 ^ (e + 1 - (digitChars n).length)) := by
  unfold Decimal.positional
  dsimp only
  split
  · rename_i hneg
    have hzeros := writes_leadingZeros n (-e - 1).toNat (by omega)
    have hplace : -((digitChars n).length + (-e - 1) : ℤ) = e + 1 - (digitChars n).length := by ring
    rwa [Int.toNat_of_nonneg (by omega), hplace] at hzeros
  · split
    · rename_i hlong
      have hzeros := writes_trailingZeros hn (e + 1 - (digitChars n).length).toNat
      rwa [Int.toNat_of_nonneg (by omega)] at hzeros
    · rename_i hneg hlong
      have hlt : (e + 1).toNat < (digitChars n).length := by omega
      have hplace : (none : Option ℤ).getD 0 - ((digitChars n).length - (e + 1).toNat : ℕ) =
          e + 1 - (digitChars n).length := by
        rw [Option.getD_none]
        omega
      have hsplit := writes_split hn rfl (k := (e + 1).toNat) (by omega) none (.inl hlt)
        (hplace ▸ he)
      rw [hplace] at hsplit
      have htext : numeral ((digitChars n).take (e + 1).toNat) ((digitChars n).drop (e + 1).toNat)
          none = (digitChars n).take (e + 1).toNat ++ '.' :: (digitChars n).drop (e + 1).toNat := by
        simp [numeral, fractionPart, exponentPart, List.drop_eq_nil_iff, hlt]
      rwa [htext] at hsplit

/-- Digits with the point after the first of them, and an exponent. -/
theorem writes_scientific (hn : n ≠ 0) (he : -2000 ≤ e + 1 - (digitChars n).length) :
    Writes (Decimal.scientific true (digitChars n) e)
      (n * 10 ^ (e + 1 - (digitChars n).length)) := by
  have hlen : 0 < (digitChars n).length := List.length_pos_of_ne_nil (digitChars_ne_nil n)
  have hplace : (some e).getD 0 - ((digitChars n).length - 1 : ℕ) =
      e + 1 - (digitChars n).length := by
    rw [Option.getD_some]
    omega
  have hsplit := writes_split hn rfl one_pos (some e) (.inr (Option.some_ne_none e)) (hplace ▸ he)
  rw [hplace] at hsplit
  have htext : numeral ((digitChars n).take 1) ((digitChars n).drop 1) (some e) =
      Decimal.scientific true (digitChars n) e := by
    obtain ⟨c, cs, hcs⟩ := List.exists_cons_of_ne_nil (digitChars_ne_nil n)
    rw [hcs]
    cases cs <;> simp [numeral, fractionPart, exponentPart, Decimal.scientific]
  rwa [htext] at hsplit

/-- **A positive value is written as a numeral of its fewest digits.** -/
theorem writes_writePositive {d : Decimal.Dyadic} (hd : d.IsDouble) (hm : d.m ≠ 0)
    {l : Decimal.Layout} (hpoint : l.pointZero = true) (hplus : l.exponentPlus = true) :
    Writes (l.writePositive d) (shortest d l.tie).value := by
  obtain ⟨-, hn, hexp⟩ := Decimal.shortest_near hd hm l.tie
  unfold Decimal.Layout.writePositive Decimal.Digits.value
  dsimp only
  generalize (shortest d l.tie).digits = n at hn ⊢
  generalize (shortest d l.tie).exponent = g at hexp ⊢
  have hplace : g + (digitChars n).length - 1 + 1 - (digitChars n).length = g := by omega
  have hpositional := writes_positional hn (hplace.symm ▸ hexp)
  have hscientific := writes_scientific hn (hplace.symm ▸ hexp)
  rw [hplace] at hpositional hscientific
  rw [hpoint, hplus]
  split
  · exact hpositional
  · exact hscientific

/-! ### Numbers read back -/

/-- The double that a numeral with a point or an exponent writes. -/
theorem numberValue_of_ne (h : fraction ≠ [] ∨ exponent ≠ none) (negative : Bool) :
    numberValue negative whole fraction exponent =
      if (Decimal.ofParts whole fraction (exponent.getD 0)).isInf then .unusable
      else .double (if negative then -(Decimal.ofParts whole fraction (exponent.getD 0))
        else Decimal.ofParts whole fraction (exponent.getD 0)) := by
  unfold numberValue
  dsimp only
  split
  · simp at h
  · rfl

theorem isInf_toFloat {d : Decimal.Dyadic} (hd : d.IsDouble) : d.toFloat.isInf = false := by
  change (Float.Model.pack d.unpacked).unpack.isInf = false
  rw [Decimal.Dyadic.unpack_pack hd]
  unfold Decimal.Dyadic.unpacked
  split <;> rfl

theorem toFloat_of_zero {d : Decimal.Dyadic} (hm : d.m = 0) (hs : d.negative = false) :
    d.toFloat = 0.0 := by
  unfold Decimal.Dyadic.toFloat Decimal.Dyadic.unpacked
  rw [dif_pos hm, hs]
  decide +kernel

/-- A minus sign. -/
def signPart (negative : Bool) : List Char := if negative then ['-'] else []

/-- A text is a numeral, with a minus sign or without, of this value. -/
def Numeral (text : List Char) (j : Json) : Prop :=
  ∃ negative whole fraction exponent, text = signPart negative ++ numeral whole fraction exponent ∧
    IsNumeral whole fraction ∧ numberValue negative whole fraction exponent = j

/-- The parts of the text of a double are read as the double. -/
theorem numberValue_of_parts {d : Decimal.Dyadic} (hd : d.IsDouble)
    (hform : fraction ≠ [] ∨ exponent ≠ none)
    (hparts : Decimal.ofParts whole fraction (exponent.getD 0) =
      Decimal.Dyadic.toFloat { d with negative := false }) :
    numberValue d.negative whole fraction exponent = .double d.toFloat := by
  rw [numberValue_of_ne hform, hparts, isInf_toFloat (hd.withSign false),
    if_neg Bool.false_ne_true]
  cases hs : d.negative with
  | true =>
    rw [if_pos rfl, Decimal.Dyadic.neg_toFloat (hd.withSign false)]
    congr
    exact hs.symm
  | false =>
    rw [if_neg Bool.false_ne_true]
    congr
    exact hs.symm

/-- **A finite double is written as a numeral of itself.** -/
theorem numeral_writeDouble {x : Float} (hx : x.isFinite = true) :
    Numeral (writeDouble x) (.double x) := by
  obtain ⟨d, hxd⟩ := Decimal.Dyadic.isFinite_iff.mp hx
  have hd := Decimal.Dyadic.isDouble_of_ofFloat? hxd
  have htext : writeDouble x = signPart d.negative ++
      (if d.m = 0 then ['0', '.', '0'] else layout.writePositive d) := by
    unfold writeDouble Decimal.Layout.write
    have hsign : (d.negative && (d.m != 0 || layout.signedZero)) = d.negative := by
      rw [show layout.signedZero = true from rfl, Bool.or_true, Bool.and_true]
    rw [if_pos hx, hxd]
    dsimp only
    rw [String.toList_ofList, hsign]
    rfl
  rw [htext, ← Decimal.Dyadic.toFloat_of_ofFloat? hxd]
  by_cases hm : d.m = 0
  · rw [if_pos hm]
    refine ⟨d.negative, ['0'], ['0'], none, rfl, ⟨fun c hc => isAsciiDigit_of_mem_zeros (k := 1) hc,
      List.cons_ne_nil _ _, fun _ => rfl, fun c hc => isAsciiDigit_of_mem_zeros (k := 1) hc⟩,
      numberValue_of_parts hd (.inl (List.cons_ne_nil _ _)) ?_⟩
    rw [toFloat_of_zero (d := { d with negative := false }) hm rfl]
    rfl
  · rw [if_neg hm]
    obtain ⟨whole, fraction, exponent, htext, hnum, hform, hvalue, hplace⟩ :=
      writes_writePositive hd hm (l := layout) rfl rfl
    refine ⟨d.negative, whole, fraction, exponent, by rw [htext], hnum,
      numberValue_of_parts hd hform ?_⟩
    exact Decimal.nearest_shortest (hd.withSign false) hm rfl layout.tie hplace hvalue

/-- The digits of a natural number are a whole part. -/
theorem isNumeral_digitChars (n : ℕ) : IsNumeral (digitChars n) [] where
  digits _ := isAsciiDigit_of_mem
  ne_nil := digitChars_ne_nil n
  zero h := by
    by_cases hn : n = 0
    · rw [hn]
      rfl
    · exact absurd h (head?_digitChars hn)
  fractionDigits _ hc := absurd hc List.not_mem_nil

/-- **An integer that a text can hold is written as a numeral of itself.** -/
theorem numeral_writeInt {n : ℤ} (h : Word64.minInt ≤ n) (h' : n < Word64.count) :
    Numeral (writeInt n) (.int n) := by
  have htext : writeInt n = signPart (decide (n < 0)) ++ numeral (digitChars n.natAbs) [] none := by
    unfold writeInt signPart numeral fractionPart exponentPart
    by_cases hn : n < 0 <;> simp [hn]
  refine ⟨decide (n < 0), digitChars n.natAbs, [], none, htext, isNumeral_digitChars _, ?_⟩
  unfold numberValue
  dsimp only
  rw [ofDigits_digitChars]
  by_cases hn : n < 0
  · have hrange : Word64.inRange (-(n.natAbs : ℤ)) = true := by
      unfold Word64.inRange Word64.minInt Word64.maxInt at *
      rw [Bool.and_eq_true, decide_eq_true_eq, decide_eq_true_eq]
      omega
    rw [if_pos (decide_eq_true hn), if_neg (by omega), if_pos hrange]
    congr 1
    omega
  · rw [if_neg (by simpa using hn), if_pos (by omega)]
    congr 1
    omega

end ReactiveTree.Json
