import Mathlib.Data.List.TakeDrop
import Mathlib.Data.List.TakeWhile
import ReactiveTree.Snippet.Token

/-!
# Numerals of snippets

What a numeral takes from the text and whether it is a number are decided apart from each other:
a sign is taken after an exponent letter whatever follows, and the text is refused later if these
are no digits. So a sign in a numeral that is a number stands before its last digits
(`signsLast_of_number`), and a digit is what the numeral goes on with (`exists_digit_of_numeral`).

Key definitions: `Token.SignsLast`.
Key theorems: `Token.reverse_prefix_numeral`, `Token.exists_digit_of_numeral`,
`Token.made_of_number`, `Token.signsLast_of_number`.
-/
namespace ReactiveTree.Snippet.Token

open Text (isAsciiDigit hexDigit?)

variable {isDigit : Char → Bool} {acc cs written rest : List Char} {c : Char}

def isSign (c : Char) : Bool := c == '+' || c == '-'

/-- Behind a sign stand digits only, and at least one. -/
def SignsLast (cs : List Char) : Prop :=
  ∀ before sign after, isSign sign = true → cs = before ++ sign :: after →
    after ≠ [] ∧ ∀ c ∈ after, isAsciiDigit c = true

/-! ### What a numeral takes -/

theorem reverse_prefix_of_cons (h : (c :: acc).reverse <+: written) : acc.reverse <+: written := by
  rw [List.reverse_cons] at h
  exact (List.prefix_append _ _).trans h

/-- A numeral starts with the characters before. -/
theorem reverse_prefix_numeral (isDigit : Char → Bool) (acc cs : List Char) :
    acc.reverse <+: (numeral isDigit acc cs).1 := by
  fun_induction numeral isDigit acc cs
  all_goals first
    | exact List.prefix_rfl
    | exact reverse_prefix_of_cons (reverse_prefix_of_cons List.prefix_rfl)
    | assumption
    | exact reverse_prefix_of_cons ‹_›
    | exact reverse_prefix_of_cons (reverse_prefix_of_cons ‹_›)

theorem numeral_underscore (isDigit : Char → Bool) (acc cs : List Char) :
    numeral isDigit acc ('_' :: cs) = numeral isDigit acc cs := by
  rw [numeral.eq_def]
  exact if_pos rfl

/-- The first character behind those before is the first one of the text, or no digit. -/
theorem numeral_cons (isDigit : Char → Bool) (acc : List Char) (hc : c ≠ '_') (cs : List Char) :
    (numeral isDigit acc (c :: cs)).1 = acc.reverse ∨
      ∃ d, (d = c ∨ isAsciiDigit d = false) ∧
        (d :: acc).reverse <+: (numeral isDigit acc (c :: cs)).1 := by
  have hpoint : isAsciiDigit '.' = false := by decide
  have hletter : isAsciiDigit 'e' = false := by decide
  rw [numeral.eq_def]
  dsimp only
  rw [if_neg hc]
  split
  · exact .inr ⟨c, .inl rfl, reverse_prefix_numeral isDigit (c :: acc) cs⟩
  split
  · split
    · exact .inr ⟨'.', .inr hpoint, reverse_prefix_of_cons List.prefix_rfl⟩
    · split
      · exact .inr ⟨'.', .inr hpoint, reverse_prefix_numeral isDigit ('.' :: acc) cs⟩
      split
      · exact .inl rfl
      · have hzero := reverse_prefix_numeral isDigit ('0' :: '.' :: acc) cs
        exact .inr ⟨'.', .inr hpoint, reverse_prefix_of_cons hzero⟩
  split
  · split
    · exact .inr ⟨'e', .inr hletter, reverse_prefix_numeral isDigit ('e' :: acc) cs⟩
    split
    · rename_i rest _
      have hsign := reverse_prefix_numeral isDigit ('+' :: 'e' :: acc) rest
      exact .inr ⟨'e', .inr hletter, reverse_prefix_of_cons hsign⟩
    · rename_i rest _
      have hsign := reverse_prefix_numeral isDigit ('-' :: 'e' :: acc) rest
      exact .inr ⟨'e', .inr hletter, reverse_prefix_of_cons hsign⟩
    · exact .inl rfl
  split
  · split
    · exact .inr ⟨c, .inl rfl, reverse_prefix_numeral _ (c :: acc) cs⟩
    · exact .inr ⟨c, .inl rfl, reverse_prefix_numeral _ (c :: acc) cs⟩
    · exact .inl rfl
  · exact .inl rfl

/-- Where only digits come behind the characters before, the text goes on with a digit. -/
theorem exists_digit_of_numeral {after : List Char}
    (h : (numeral isDigit acc cs).1 = acc.reverse ++ after) (hne : after ≠ [])
    (hdigits : ∀ c ∈ after, isAsciiDigit c = true) :
    ∃ d rest, cs.dropWhile (· == '_') = d :: rest ∧ isAsciiDigit d = true := by
  induction cs with
  | nil =>
    rw [numeral] at h
    exact absurd (List.append_cancel_left ((List.append_nil _).trans h)).symm hne
  | cons c cs ih =>
    by_cases hc : c = '_'
    · subst hc
      rw [numeral_underscore] at h
      rw [List.dropWhile_cons_of_pos rfl]
      exact ih h
    · rw [List.dropWhile_cons_of_neg (by simpa using hc)]
      refine ⟨c, cs, rfl, ?_⟩
      rcases numeral_cons isDigit acc hc cs with hstop | ⟨d, hd, hstart⟩
      · rw [hstop] at h
        exact absurd (List.append_cancel_left ((List.append_nil _).trans h)).symm hne
      · rw [h, List.reverse_cons, List.prefix_append_right_inj] at hstart
        have hdigit := hdigits d (hstart.subset List.mem_cons_self)
        rcases hd with rfl | hno
        · exact hdigit
        · rw [hno] at hdigit
          cases hdigit

/-! ### Signs in numbers -/

theorem signsLast_of_forall (h : ∀ c ∈ cs, isSign c = false) : SignsLast cs := by
  rintro before sign after hsign rfl
  have hno := h sign (List.mem_append_right _ List.mem_cons_self)
  rw [hsign] at hno
  cases hno

theorem SignsLast.cons (hc : isSign c = false) (h : SignsLast cs) : SignsLast (c :: cs) := by
  intro before sign after hsign heq
  cases before with
  | nil =>
    rw [(List.cons.inj heq).1, hsign] at hc
    cases hc
  | cons b before => exact h before sign after hsign (List.cons.inj heq).2

theorem SignsLast.append (hcs : ∀ c ∈ cs, isSign c = false) (h : SignsLast rest) :
    SignsLast (cs ++ rest) := by
  induction cs with
  | nil => exact h
  | cons c cs ih =>
    exact .cons (hcs c List.mem_cons_self) (ih fun c hc => hcs c (List.mem_cons_of_mem _ hc))

theorem isSign_eq_false (h : isAsciiDigit c = true) : isSign c = false := by
  by_contra hsign
  rw [Bool.not_eq_false, isSign, Bool.or_eq_true, beq_iff_eq, beq_iff_eq] at hsign
  rcases hsign with rfl | rfl <;> cases h

theorem isSign_eq_false_of_mem_takeWhile (h : c ∈ cs.takeWhile isAsciiDigit) : isSign c = false :=
  isSign_eq_false (List.mem_takeWhile_imp h)

/-- A sign of digits stands before all of them. -/
theorem signsLast_of_takeSign (hne : (Decimal.takeSign cs).2 ≠ [])
    (hdigits : (Decimal.takeSign cs).2.all isAsciiDigit = true) : SignsLast cs := by
  have hsigned : ∀ {sign : Char} {ds : List Char}, ds ≠ [] → ds.all isAsciiDigit = true →
      SignsLast (sign :: ds) := by
    intro sign ds hds hall before s after hs heq
    rw [List.all_eq_true] at hall
    cases before with
    | nil =>
      rw [← (List.cons.inj heq).2]
      exact ⟨hds, hall⟩
    | cons b before =>
      have hplain : SignsLast ds := signsLast_of_forall fun c hc => isSign_eq_false (hall c hc)
      exact hplain before s after hs (List.cons.inj heq).2
  unfold Decimal.takeSign at hne hdigits
  split at hne
  · exact hsigned hne hdigits
  · exact hsigned hne hdigits
  · rename_i hminus hplus
    have hall : cs.all isAsciiDigit = true := by
      revert hdigits
      split
      · rename_i more
        exact absurd rfl (hminus more)
      · rename_i more
        exact absurd rfl (hplus more)
      · exact id
    exact signsLast_of_forall fun c hc => isSign_eq_false (List.all_eq_true.mp hall c hc)

theorem signsLast_of_readExponent {e : Int} (h : Decimal.readExponent? cs = some e) :
    SignsLast cs := by
  unfold Decimal.readExponent? at h
  split at h
  · exact signsLast_of_forall fun c hc => absurd hc List.not_mem_nil
  · split at h
    · rename_i c cs hletter
      dsimp only at h
      split at h
      · rename_i hds
        refine .cons ?_ (signsLast_of_takeSign hds.1 hds.2)
        rcases hletter with rfl | rfl <;> rfl
      · cases h
    · cases h

theorem signsLast_of_readUnsigned {x : Float} (h : Decimal.readUnsigned? cs = some x) :
    SignsLast cs := by
  have hdigits : ∀ {cs : List Char}, SignsLast (cs.dropWhile isAsciiDigit) → SignsLast cs := by
    intro cs h
    rw [← List.takeWhile_append_dropWhile (p := isAsciiDigit) (l := cs)]
    exact h.append fun c hc => isSign_eq_false_of_mem_takeWhile hc
  have hexponent : ∀ {whole fraction rest : List Char},
      (do return Decimal.ofParts whole fraction (← Decimal.readExponent? rest)) = some x →
      SignsLast rest := by
    intro whole fraction rest h
    cases hread : Decimal.readExponent? rest with
    | none =>
      rw [hread] at h
      cases h
    | some e => exact signsLast_of_readExponent hread
  rw [Decimal.readUnsigned?, List.span_eq_takeWhile_dropWhile] at h
  dsimp only at h
  refine hdigits ?_
  split at h
  · rename_i more hrest
    rw [List.span_eq_takeWhile_dropWhile] at h
    split at h
    · cases h
    · rw [hrest]
      exact .cons rfl (hdigits (hexponent h))
  · split at h
    · cases h
    · exact hexponent h

theorem isSign_eq_false_of_base {base : Nat} (h : base? c = some base) : isSign c = false := by
  by_contra hsign
  rw [Bool.not_eq_false, isSign, Bool.or_eq_true, beq_iff_eq, beq_iff_eq] at hsign
  rcases hsign with rfl | rfl <;> cases h

theorem isSign_eq_false_of_digitIn {base d : Nat} (h : digitIn? base c = some d) :
    isSign c = false := by
  by_contra hsign
  rw [Bool.not_eq_false, isSign, Bool.or_eq_true, beq_iff_eq, beq_iff_eq] at hsign
  rcases hsign with rfl | rfl <;> cases h

theorem signsLast_of_decimal {negative : Bool} {token : Token}
    (h : ofDecimal? negative cs = some token) : SignsLast cs := by
  by_cases hwhole : cs.all isAsciiDigit = true
  · exact signsLast_of_forall fun c hc => isSign_eq_false (List.all_eq_true.mp hwhole c hc)
  · simp only [ofDecimal?, hwhole, Bool.false_and, Bool.false_eq_true, if_false] at h
    obtain ⟨x, hread, -⟩ := Option.map_eq_some_iff.mp h
    exact signsLast_of_readUnsigned hread

theorem isSome_of_mapM {α β : Type} {f : α → Option β} {xs : List α} {ys : List β}
    (h : xs.mapM f = some ys) : ∀ x ∈ xs, (f x).isSome = true := by
  induction xs generalizing ys with
  | nil =>
    intro x hx
    cases hx
  | cons x xs ih =>
    rw [List.mapM_cons] at h
    obtain ⟨y, hy, hrest⟩ := Option.bind_eq_some_iff.mp h
    obtain ⟨ys, hys, -⟩ := Option.bind_eq_some_iff.mp hrest
    exact List.forall_mem_cons.mpr ⟨by rw [hy]; rfl, ih hys⟩

theorem signsLast_of_based {base : Nat} {token : Token} (h : ofBased? base cs = some token) :
    SignsLast cs := by
  rw [ofBased?] at h
  obtain ⟨values, hvalues, -⟩ := Option.bind_eq_some_iff.mp h
  refine signsLast_of_forall fun c hc => ?_
  obtain ⟨d, hd⟩ := Option.isSome_iff_exists.mp (isSome_of_mapM hvalues c hc)
  exact isSign_eq_false_of_digitIn hd

/-- A number is made of its numeral: in decimals, or in the base that its second letter gives. -/
theorem made_of_number {negative : Bool} {token : Token}
    (h : number? negative cs = some (token, rest)) :
    (numeral isAsciiDigit [] cs).2 = rest ∧
      (ofDecimal? negative (numeral isAsciiDigit [] cs).1 = some token ∨
        ∃ c base digits, (numeral isAsciiDigit [] cs).1 = '0' :: c :: digits ∧
          base? c = some base ∧ ofBased? base digits = some token) := by
  have hpair : ∀ {made : Option Token} {more : List Char},
      made.map (·, more) = some (token, rest) → more = rest ∧ made = some token := by
    intro made more hmade
    obtain ⟨t, rfl, heq⟩ := Option.map_eq_some_iff.mp hmade
    obtain ⟨rfl, rfl⟩ := Prod.mk.inj heq
    exact ⟨rfl, rfl⟩
  rw [number?] at h
  split at h
  rename_i written more hnumeral
  rw [hnumeral]
  split at h
  · rename_i c digits
    split at h
    · rename_i base hbase
      split at h
      · cases h
      · obtain ⟨hrest, hmade⟩ := hpair h
        exact ⟨hrest, .inr ⟨c, base, digits, rfl, hbase, hmade⟩⟩
    · obtain ⟨hrest, hmade⟩ := hpair h
      exact ⟨hrest, .inl hmade⟩
  · obtain ⟨hrest, hmade⟩ := hpair h
    exact ⟨hrest, .inl hmade⟩

/-- **A sign in a number stands before its last digits.** -/
theorem signsLast_of_number {negative : Bool} {token : Token}
    (h : number? negative cs = some (token, rest)) :
    SignsLast (numeral isAsciiDigit [] cs).1 := by
  obtain ⟨-, hdecimal | ⟨c, base, digits, hwritten, hbase, hbased⟩⟩ := made_of_number h
  · exact signsLast_of_decimal hdecimal
  · rw [hwritten]
    exact .cons rfl (.cons (isSign_eq_false_of_base hbase) (signsLast_of_based hbased))

end ReactiveTree.Snippet.Token
