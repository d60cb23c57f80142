import ReactiveTree.Json.Reading
import ReactiveTree.Json.Writing
import Mathlib.Data.List.Basic

/-!
# Strings in JSON

Each character of a string is written as itself or as one escape, and the scanner takes exactly
that much to give the character back (`scanString_escapeChar`); so a quoted string is read as it
was (`scanStringValue_quoted`).

Key theorems: `scanString_escapeChar`, `scanStringValue_quoted`.
-/
namespace ReactiveTree.Json

open Text (ofHexDigits?)

/-! ### Controls -/

/-- The four hexadecimal digits of a control. -/
theorem ofHexDigits?_control : ∀ n < 0x20,
    ofHexDigits? ['0', '0', hexDigitChar (n / 16), hexDigitChar (n % 16)] = some n := by
  decide

theorem scanUnicode_control {c : Char} (h : c.toNat < 0x20) (rest : List Char) :
    scanUnicode ('0' :: '0' :: hexDigitChar (c.toNat / 16) :: hexDigitChar (c.toNat % 16) :: rest) =
      some (some c, rest) := by
  have hhex : scanHex4 ('0' :: '0' :: hexDigitChar (c.toNat / 16) ::
      hexDigitChar (c.toNat % 16) :: rest) = some (c.toNat, rest) := by
    rw [scanHex4, ofHexDigits?_control c.toNat h, Option.map_some]
  unfold scanUnicode
  rw [hhex]
  simp only [Option.bind_eq_bind, Option.bind_some]
  rw [if_neg (by omega), if_neg (by omega), Char.ofNat_toNat]
  rfl

/-- One step of the scanner, where something is left to read. -/
theorem scanString_cons (fuel : ℕ) (usable : Bool) (acc : List Char) (c : Char)
    (rest : List Char) : scanString (fuel + 1) usable acc (c :: rest) =
      if c = '"' then some (usable, acc.reverse, rest)
      else if c = '\\' then
        match rest with
        | 'u' :: more =>
          match scanUnicode more with
          | none => none
          | some (some ch, rest) => scanString fuel usable (ch :: acc) rest
          | some (none, rest) => scanString fuel false acc rest
        | e :: more =>
          match simpleEscape? e with
          | some ch => scanString fuel usable (ch :: acc) more
          | none => none
        | [] => none
      else if c.toNat < 0x20 then none
      else scanString fuel usable (c :: acc) rest :=
  scanString.eq_def (fuel + 1) usable acc (c :: rest)

/-! ### Characters -/

/-- **What is written for a character is read as the character.** -/
theorem scanString_escapeChar (fuel : ℕ) (usable : Bool) (acc : List Char) (c : Char)
    (rest : List Char) : scanString (fuel + 1) usable acc (escapeChar c ++ rest) =
      scanString fuel usable (c :: acc) rest := by
  unfold escapeChar
  -- the escapes of one letter
  iterate 7
    split
    · rename_i h
      rw [h]
      rfl
  split
  · rename_i hc
    rw [List.cons_append, scanString_cons, if_neg (by decide), if_pos rfl]
    simp only [List.cons_append, List.nil_append, scanUnicode_control hc]
  · rename_i hquote hslash _ _ _ _ _ hc
    rw [List.cons_append, List.nil_append, scanString_cons, if_neg hquote, if_neg hslash, if_neg hc]

/-- The characters of a string up to the closing quote. -/
theorem scanString_flatMap (usable : Bool) : ∀ (s : List Char) (fuel : ℕ) (acc rest : List Char),
    s.length < fuel → scanString fuel usable acc (s.flatMap escapeChar ++ '"' :: rest) =
      some (usable, acc.reverse ++ s, rest)
  | [], fuel + 1, acc, rest, _ => by
    rw [List.flatMap_nil, List.nil_append, scanString_cons, if_pos rfl, List.append_nil]
  | c :: cs, fuel + 1, acc, rest, h => by
    rw [List.flatMap_cons, List.append_assoc, scanString_escapeChar,
      scanString_flatMap usable cs fuel (c :: acc) rest (Nat.lt_of_succ_lt_succ h),
      List.reverse_cons, List.append_assoc, List.singleton_append]

theorem length_le_flatMap_escapeChar : ∀ s : List Char, s.length ≤ (s.flatMap escapeChar).length
  | [] => Nat.le_refl _
  | c :: cs => by
    have hc : 1 ≤ (escapeChar c).length := by
      unfold escapeChar
      repeat' split
      all_goals simp
    have ih := length_le_flatMap_escapeChar cs
    rw [List.flatMap_cons, List.length_append, List.length_cons]
    omega

/-- **A quoted string is read as it was.** -/
theorem scanStringValue_quoted (s : String) (rest : List Char) :
    scanStringValue (s.toList.flatMap escapeChar ++ '"' :: rest) = ⟨.str s, some rest⟩ := by
  have hlen := length_le_flatMap_escapeChar s.toList
  unfold scanStringValue
  rw [scanString_flatMap true s.toList _ [] rest (by rw [List.length_append]; omega)]
  dsimp only
  rw [List.reverse_nil, List.nil_append, String.ofList_toList]

end ReactiveTree.Json
