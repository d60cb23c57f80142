import ReactiveTree.Proofs.Snippet.Numerals
import ReactiveTree.Proofs.Snippet.Skipping

/-!
# Tokens of clear texts

Each kind of token leaves a text clear of a word (`Token.Clear`), and a name is not the word. So the
scan of a clear text finds no token that is the word (`identifier_of_scan`).

Key definitions: `Token.identifier?`, `Token.Harmless`.
Key theorems: `Token.clear_of_numeral`, `Token.clear_of_symbol`, `Token.harmless_of_next`,
`Token.identifier_of_scan`.
-/
namespace ReactiveTree.Snippet.Token

open Source
open Text (isAsciiLetter isAsciiDigit hexDigit?)

variable {w cs rest : List Char} {c : Char}

/-! ### Numbers -/

theorem not_isAsciiLetter_digit (h : isAsciiDigit c = true) : isAsciiLetter c = false := by
  rw [isAsciiDigit, Bool.and_eq_true, decide_eq_true_eq, decide_eq_true_eq] at h
  by_contra hletter
  simp only [Bool.not_eq_false, isAsciiLetter, Bool.or_eq_true, Bool.and_eq_true,
    decide_eq_true_eq] at hletter
  have hnine : c.toNat ≤ 57 := h.2
  rcases hletter with ⟨ha, -⟩ | ⟨ha, -⟩
  · have hsmall : 97 ≤ c.toNat := ha
    omega
  · have hbig : 65 ≤ c.toNat := ha
    omega

theorem dropWhile_underscore (h : isAsciiDigit c = true) (cs : List Char) :
    (c :: cs).dropWhile (· == '_') = c :: cs := by
  refine List.dropWhile_cons_of_neg fun hunderscore => ?_
  rw [beq_iff_eq.mp hunderscore] at h
  cases h

/-- A run in which a digit stands before any letter is no name. -/
theorem Clear.within_of_digit {d : Char} (h : Clear w cs)
    (hcs : cs.dropWhile (· == '_') = d :: rest) (hd : isAsciiDigit d = true) :
    ClearWithin w cs := by
  have hunderscore : ∀ c : Char, (c == '_') = true → isIdentifierChar c = true := by
    intro c hc
    rw [beq_iff_eq] at hc
    rw [hc]
    rfl
  have hrun : (headRun cs).dropWhile (· == '_') = d :: headRun rest := by
    rw [← headRun_dropWhile hunderscore, hcs,
      headRun_cons_of_pos (isIdentifierChar_of_isAsciiDigit hd)]
  refine h.within ?_
  rw [isNameWord, hrun]
  simp [not_isAsciiLetter_digit hd]

theorem isAsciiLetter_or_isAsciiDigit_of_hexDigit (h : (hexDigit? c).isSome = true) :
    isAsciiLetter c = true ∨ isAsciiDigit c = true := by
  rw [hexDigit?] at h
  split at h
  · rename_i hdigit
    exact .inr (by simp [isAsciiDigit, hdigit])
  split at h
  · rename_i hlower
    have hz : c ≤ 'z' := Char.le_trans hlower.2 (by decide)
    exact .inl (by simp [isAsciiLetter, hlower.1, hz])
  split at h
  · rename_i hupper
    have hz : c ≤ 'Z' := Char.le_trans hupper.2 (by decide)
    exact .inl (by simp [isAsciiLetter, hupper.1, hz])
  · cases h

theorem isIdentifierChar_of_hexDigit (h : (hexDigit? c).isSome = true) :
    isIdentifierChar c = true := by
  rcases isAsciiLetter_or_isAsciiDigit_of_hexDigit h with hletter | hdigit
  · exact isIdentifierChar_of_isAsciiLetter hletter
  · exact isIdentifierChar_of_isAsciiDigit hdigit

theorem isIdentifierChar_of_base {base : Nat} (h : base? c = some base) :
    isIdentifierChar c = true := by
  simp only [base?] at h
  split at h
  · rename_i hc
    rcases hc with rfl | rfl <;> rfl
  split at h
  · rename_i hc
    rcases hc with rfl | rfl <;> rfl
  split at h
  · rename_i hc
    rcases hc with rfl | rfl <;> rfl
  · cases h

/-- Behind an exponent and its sign comes a digit, so what follows starts no name. -/
theorem ClearWithin.exponent {isDigit : Char → Bool} {acc : List Char} {sign : Char}
    (h : ClearWithin w (c :: sign :: cs)) (hc : isIdentifierChar c = true)
    (hsign : isSign sign = true)
    (hlast : SignsLast (numeral isDigit (sign :: 'e' :: acc) cs).1) : ClearWithin w cs := by
  have hstays : Stays .code sign cs := by
    rw [isSign, Bool.or_eq_true, beq_iff_eq, beq_iff_eq] at hsign
    rcases hsign with rfl | rfl
    · exact stays_of_not_slash rfl (by decide) cs
    · exact stays_of_not_slash rfl (by decide) cs
  have hclear : Clear w cs := (h.identifier hc).tail hstays
  obtain ⟨after, hafter⟩ := reverse_prefix_numeral isDigit (sign :: 'e' :: acc) cs
  have hwritten : (numeral isDigit (sign :: 'e' :: acc) cs).1 =
      (acc.reverse ++ ['e']) ++ sign :: after := by
    rw [← hafter]
    simp
  obtain ⟨hne, hdigits⟩ := hlast _ sign after hsign hwritten
  obtain ⟨d, rest, hcs, hd⟩ := exists_digit_of_numeral hafter.symm hne hdigits
  exact hclear.within_of_digit hcs hd

/-- **A numeral leaves a text clear.** -/
theorem clear_of_numeral (hw : w ≠ []) {isDigit : Char → Bool} {acc : List Char}
    (hdigit : ∀ c, isDigit c = true → isIdentifierChar c = true) (h : ClearWithin w cs)
    (hlast : SignsLast (numeral isDigit acc cs).1) : Clear w (numeral isDigit acc cs).2 := by
  have hpoint : ∀ cs, Stays .code '.' cs := stays_of_not_slash rfl (by decide)
  have hexp : ∀ {c : Char}, c = 'e' ∨ c = 'E' → isIdentifierChar c = true := by
    rintro c (rfl | rfl) <;> rfl
  revert hlast
  fun_induction numeral isDigit acc cs with
  | case1 isDigit acc => exact fun _ => clear_nil hw
  | case2 isDigit acc cs ih => exact ih hdigit (h.identifier rfl)
  | case3 isDigit acc c cs _ hc ih => exact ih hdigit (h.identifier (hdigit c hc))
  | case4 isDigit acc cs _ _ _ => exact fun _ => clear_nil hw
  | case5 isDigit acc cs d hd hdigits _ _ ih =>
    obtain ⟨rest, rfl⟩ := eq_cons_of_head? hd
    have hclear := h.tail (hpoint _)
    exact ih hdigit (hclear.within_of_digit (dropWhile_underscore hdigits rest) hdigits)
  | case6 isDigit acc cs d _ _ _ _ _ => exact fun _ => h.clear
  | case7 isDigit acc cs d hd hnotDigit hother _ _ ih =>
    -- A point belongs to the numeral here, and what follows it starts no name.
    obtain ⟨rest, rfl⟩ := eq_cons_of_head? hd
    rw [not_or, not_or] at hother
    refine ih hdigit ((h.tail (hpoint _)).within_of_not_name ?_)
    simp [isNameChar, hnotDigit, hother]
  | case8 isDigit acc c cs _ _ _ hc _ ih => exact ih hdigit (h.identifier (hexp hc))
  | case9 isDigit acc c _ _ _ hc rest _ ih =>
    intro hlast
    exact ih hdigit (h.exponent (hexp hc) rfl hlast) hlast
  | case10 isDigit acc c _ _ _ hc rest _ ih =>
    intro hlast
    exact ih hdigit (h.exponent (hexp hc) rfl hlast) hlast
  | case11 => exact fun _ => h.clear
  | case12 isDigit c cs _ _ _ _ hc ih =>
    have hrest := h.identifier (isIdentifierChar_of_base hc)
    exact ih (fun _ => isIdentifierChar_of_hexDigit) hrest
  | case13 isDigit c cs _ _ _ _ base _ hc ih =>
    have hrest := h.identifier (isIdentifierChar_of_base hc)
    exact ih (fun _ => isIdentifierChar_of_isAsciiDigit) hrest
  | case14 => exact fun _ => h.clear
  | case15 => exact fun _ => h.clear

/-! ### Symbols -/

/-- A character that stands in no name, and inert ones behind it. -/
def startsInert : List Char → Bool
  | [] => false
  | c :: cs => !isNameChar c && cs.all isInert

theorem longSymbols_inert {s : String} (h : s ∈ longSymbols) :
    ∃ c front, s.toList = c :: front ∧ isNameChar c = false ∧ ∀ d ∈ front, isInert d = true := by
  have hall : longSymbols.all fun s => startsInert s.toList := by decide +kernel
  have hsymbol : startsInert s.toList = true := List.all_eq_true.mp hall s h
  cases hchars : s.toList with
  | nil =>
    rw [hchars] at hsymbol
    cases hsymbol
  | cons c front =>
    rw [hchars, startsInert, Bool.and_eq_true, Bool.not_eq_true'] at hsymbol
    exact ⟨c, front, rfl, hsymbol.1, List.all_eq_true.mp hsymbol.2⟩

theorem shortSymbols_not_name (h : c ∈ shortSymbols) : isNameChar c = false := by
  have hall : shortSymbols.all fun c => !isNameChar c := by decide +kernel
  rw [← Bool.not_eq_true']
  exact List.all_eq_true.mp hall c h

/-- **A symbol leaves a text clear.** -/
theorem clear_of_symbol (hw : w ≠ []) {text : String} (h : Clear w cs) (hopens : opens? cs = none)
    (hsymbol : symbol? cs = some (text, rest)) : Clear w rest := by
  unfold symbol? at hsymbol
  split at hsymbol
  · rename_i more
    have hin : Clear w ('i' :: 'n' :: more) := h.of_inert (by decide)
    split at hsymbol
    · obtain ⟨-, rfl⟩ := Prod.mk.inj (Option.some.inj hsymbol)
      exact hin
    · rename_i hhead
      obtain ⟨-, rfl⟩ := Prod.mk.inj (Option.some.inj hsymbol)
      have hdrop : ('i' :: 'n' :: more).dropWhile isNameChar = more := by
        rw [List.dropWhile_cons_of_pos (by decide), List.dropWhile_cons_of_pos (by decide)]
        cases more with
        | nil => rfl
        | cons d more => exact List.dropWhile_cons_of_neg hhead
      rw [← hdrop]
      exact hin.dropName hw
  · rename_i c more _
    split at hsymbol
    · rename_i s hfind
      obtain ⟨-, rfl⟩ := Prod.mk.inj (Option.some.inj hsymbol)
      obtain ⟨d, front, hs, hname, hinert⟩ := longSymbols_inert (List.mem_of_find?_eq_some hfind)
      have hstart : s.toList.isPrefixOf (c :: more) = true := by simpa using List.find?_some hfind
      obtain ⟨more', hmore⟩ := List.isPrefixOf_iff_prefix.mp hstart
      rw [← hmore, ← String.length_toList, List.drop_left]
      rw [hs] at hmore
      obtain ⟨rfl, rfl⟩ := List.cons.inj hmore
      exact (h.of_cons hopens hname).of_append hinert
    · split at hsymbol
      · rename_i hshort
        obtain ⟨-, rfl⟩ := Prod.mk.inj (Option.some.inj hsymbol)
        exact h.of_cons hopens (shortSymbols_not_name (List.contains_iff_mem.mp hshort))
      · cases hsymbol
  · cases hsymbol

/-! ### Tokens -/

/-- The name or the fixed word that a token is. -/
def identifier? : Token → Option String
  | .name s => some s
  | .word s => some s
  | _ => none

/-- A token that is not the word, with clear code behind it and no block left open. -/
structure Harmless (w : List Char) (token : Token) (st : ScanState) (rest : List Char) : Prop where
  identifier : token.identifier? ≠ some (String.ofList w)
  braces : st.braces = []
  clear : Clear w rest

variable {token : Token} {st st' : ScanState} {scanner : Scanner}

theorem identifier_of_number {negative : Bool}
    (h : number? negative cs = some (token, rest)) : token.identifier? = none := by
  obtain ⟨-, hdecimal | ⟨c, base, digits, -, -, hbased⟩⟩ := made_of_number h
  · rw [ofDecimal?] at hdecimal
    generalize (if negative then -_ else _ : Int) = n at hdecimal
    split at hdecimal
    · obtain rfl := Option.some.inj hdecimal
      rfl
    · obtain ⟨x, -, rfl⟩ := Option.map_eq_some_iff.mp hdecimal
      rfl
  · rw [ofBased?] at hbased
    obtain ⟨values, -, hmade⟩ := Option.bind_eq_some_iff.mp hbased
    dsimp only at hmade
    split at hmade
    · cases hmade
    · obtain rfl := Option.some.inj hmade
      rfl

/-- **A number leaves a text clear.** -/
theorem clear_of_number (hw : w ≠ []) {negative : Bool} (h : Clear w (c :: cs))
    (hc : isAsciiDigit c = true) (hnumber : number? negative (c :: cs) = some (token, rest)) :
    Clear w rest := by
  have hwithin := h.within_of_digit (dropWhile_underscore hc cs) hc
  rw [← (made_of_number hnumber).1]
  exact clear_of_numeral hw (fun _ => isIdentifierChar_of_isAsciiDigit) hwithin
    (signsLast_of_number hnumber)

theorem identifier_of_word {run : List Char} (h : ofWord? run = some token) :
    ∀ s ∈ token.identifier?, s = String.ofList run := by
  rw [ofWord?] at h
  intro s hs
  split at h
  · obtain rfl := Option.some.inj h
    exact (Option.some.inj hs).symm
  split at h
  · obtain rfl := Option.some.inj h
    cases hs
  split at h
  · obtain rfl := Option.some.inj h
    exact (Option.some.inj hs).symm
  · cases h

theorem identifier_of_text {limit : Nat} {make : String → Token} {text : List Char}
    (hmake : ∀ s, (make s).identifier? = none) (h : ofText? limit make text = some token) :
    token.identifier? = none := by
  rw [ofText?] at h
  split at h
  · obtain rfl := Option.some.inj h
    exact hmake _
  · cases h

theorem harmless_of_piece (hbraces : st.braces = []) (hin : InPiece w cs)
    (h : piece scanner st cs = some (token, st', rest)) : Harmless w token st' rest := by
  rw [piece] at h
  obtain ⟨⟨text, code, behind, more⟩, hpiece, hmade⟩ := Option.bind_eq_some_iff.mp h
  obtain ⟨rfl, hclear⟩ := clear_of_piece hin hpiece
  dsimp only at hmade
  obtain ⟨made, htext, heq⟩ := Option.bind_eq_some_iff.mp hmade
  obtain ⟨rfl, hrest⟩ := Prod.mk.inj (Option.some.inj heq)
  obtain ⟨rfl, rfl⟩ := Prod.mk.inj hrest
  have hidentifier := identifier_of_text (fun _ => rfl) htext
  exact ⟨by rw [hidentifier]; exact nofun, hbraces, hclear⟩

theorem InPiece.of_clear (h : Clear w (backtick :: cs)) : InPiece w cs := by
  have hopening : Clear w (Region.backtick.opening ++ cs) := h
  exact (hopening.opening nofun).inPiece

theorem harmless_of_firstPiece (hbraces : st.braces = []) (hin : InPiece w cs)
    (h : firstPiece scanner st cs = some (token, st', rest)) : Harmless w token st' rest := by
  have hreturn : ∀ {c : Char} {cs : List Char}, c = '\r' ∨ c = '\n' → InPiece w (c :: cs) →
      InPiece w cs := by
    intro c cs hc hin
    refine hin.tail ?_ ?_
    · rcases hc with rfl | rfl <;> decide
    · rintro ⟨rfl, -⟩
      rcases hc with hc | hc <;> exact absurd hc (by decide)
  unfold firstPiece at h
  split at h
  · exact harmless_of_piece hbraces (hreturn (.inr rfl) (hreturn (.inl rfl) hin)) h
  · refine harmless_of_piece ?_ (hreturn (.inl rfl) hin) h
    exact hbraces
  · exact harmless_of_piece hbraces (hreturn (.inr rfl) hin) h
  · exact harmless_of_piece hbraces hin h

/-- Number signs do not stand before a literal. -/
theorem Clear.not_fenced (h : Clear w ('#' :: cs))
    (hquote : ('#' :: cs).dropWhile (· == '#') = '"' :: rest) : False := by
  have hstays : ∀ cs, Stays .code '#' cs := stays_of_not_slash rfl (by decide)
  rw [List.dropWhile_cons_of_pos rfl] at hquote
  induction cs with
  | nil => cases hquote
  | cons c cs ih =>
    by_cases hc : c = '#'
    · subst hc
      rw [List.dropWhile_cons_of_pos rfl] at hquote
      exact ih (h.of_inert (by decide)) hquote
    · rw [List.dropWhile_cons_of_neg (by simpa using hc)] at hquote
      obtain ⟨rfl, rfl⟩ := List.cons.inj hquote
      obtain ⟨body, closed, more, hcut⟩ := exists_cut .double cs
      have happart := h.apart
      rw [cut_of_stays (hstays _), cut_quote (r := .double) rfl, hcut] at happart
      exact (List.isChain_cons_cons.mp happart).1 rfl rfl rfl

theorem Harmless.of_none (hbraces : st.braces = []) (hid : token.identifier? = none)
    (hclear : Clear w rest) : Harmless w token st rest :=
  ⟨by rw [hid]; exact nofun, hbraces, hclear⟩

theorem harmless_of_number (hw : w ≠ []) (hbraces : st.braces = []) (h : Clear w (c :: cs))
    (hc : isAsciiDigit c = true) {negative : Bool}
    (hnumber : (number? negative (c :: cs)).map (fun (t, rest) => (t, st, rest)) =
      some (token, st', rest)) : Harmless w token st' rest := by
  obtain ⟨⟨made, left⟩, hmade, heq⟩ := Option.map_eq_some_iff.mp hnumber
  simp only [Prod.mk.injEq] at heq
  obtain ⟨rfl, rfl, rfl⟩ := heq
  exact .of_none hbraces (identifier_of_number hmade) (clear_of_number hw h hc hmade)

theorem harmless_of_word (hw : w ≠ []) (hbraces : st.braces = []) (h : Clear w cs)
    (hword : (ofWord? (cs.takeWhile isNameChar)).map (fun t => (t, st, cs.dropWhile isNameChar)) =
      some (token, st', rest)) : Harmless w token st' rest := by
  obtain ⟨made, hmade, heq⟩ := Option.map_eq_some_iff.mp hword
  simp only [Prod.mk.injEq] at heq
  obtain ⟨rfl, rfl, rfl⟩ := heq
  refine ⟨fun hid => ?_, hbraces, h.dropName hw⟩
  have heq := identifier_of_word hmade _ hid
  exact h.name_ne (String.ofList_injective heq.symm)

/-- What is neither a quote nor the start of a comment opens nothing. -/
theorem opens?_of_ne (hdouble : c ≠ '"') (hsingle : c ≠ '\'') (hbacktick : c ≠ backtick)
    (hline : ∀ more, c :: cs ≠ '/' :: '/' :: more) (hblock : ∀ more, c :: cs ≠ '/' :: '*' :: more) :
    opens? (c :: cs) = none := by
  refine opens?_eq_none.mpr ⟨?_, fun hc => ⟨fun hhead => ?_, fun hhead => ?_⟩⟩
  · by_contra hquote
    obtain ⟨r, hr⟩ := Option.ne_none_iff_exists'.mp hquote
    have hquote := quote?_of_ofQuote? hr
    cases r with
    | single => exact hsingle (Option.some.inj hquote).symm
    | double => exact hdouble (Option.some.inj hquote).symm
    | backtick => exact hbacktick (Option.some.inj hquote).symm
    | code => cases hquote
    | lineComment => cases hquote
    | blockComment => cases hquote
  · obtain ⟨more, rfl⟩ := eq_cons_of_head? hhead
    exact hline more (by rw [hc])
  · obtain ⟨more, rfl⟩ := eq_cons_of_head? hhead
    exact hblock more (by rw [hc])

/-- **The next token is not the word, and leaves the text clear.** -/
theorem harmless_of_next (hw : w ≠ []) (hbraces : st.braces = []) (h : Clear w cs)
    (hline : ∀ more, cs ≠ '/' :: '/' :: more) (hblock : ∀ more, cs ≠ '/' :: '*' :: more)
    (hnext : next? scanner st cs = some (token, st', rest)) : Harmless w token st' rest := by
  unfold next? at hnext
  split at hnext
  · cases hnext
  rename_i c more
  split at hnext
  · rename_i hdigit
    exact harmless_of_number hw hbraces h hdigit hnext
  split at hnext
  · rename_i hminus
    obtain ⟨rfl, -, hdigit⟩ := hminus
    cases more with
    | nil => cases hdigit
    | cons d more => exact harmless_of_number hw hbraces (h.of_inert (by decide)) hdigit hnext
  split at hnext
  · exact harmless_of_word hw hbraces h hnext
  split at hnext
  · rename_i hquote
    subst hquote
    obtain ⟨⟨text, left⟩, hquoted, hmade⟩ := Option.bind_eq_some_iff.mp hnext
    obtain ⟨made, htext, heq⟩ := Option.bind_eq_some_iff.mp hmade
    simp only [Option.pure_def, Option.some.injEq, Prod.mk.injEq] at heq
    obtain ⟨rfl, rfl, rfl⟩ := heq
    have hclear := clear_of_quoted (r := .double) rfl h hquoted
    exact .of_none hbraces (identifier_of_text (fun _ => rfl) htext) hclear
  split at hnext
  · rename_i hquote
    subst hquote
    split at hnext
    · cases hnext
    split at hnext
    · rename_i ch left hquoted
      simp only [Option.some.injEq, Prod.mk.injEq] at hnext
      obtain ⟨rfl, rfl, rfl⟩ := hnext
      exact .of_none hbraces rfl (clear_of_quoted (r := .single) rfl h hquoted)
    · cases hnext
  split at hnext
  · rename_i hquote
    subst hquote
    exact harmless_of_firstPiece hbraces (.of_clear h) hnext
  split at hnext
  · rename_i hsign
    obtain ⟨rfl, -⟩ := hsign
    split at hnext
    · rename_i left hdrop
      exact (h.not_fenced hdrop).elim
    · cases hnext
  · rename_i hdouble hsingle hbacktick _
    obtain ⟨⟨text, left⟩, hsymbol, hmade⟩ := Option.bind_eq_some_iff.mp hnext
    rw [hbraces] at hmade
    simp only [Option.pure_def, Option.some.injEq, Prod.mk.injEq] at hmade
    obtain ⟨rfl, rfl, rfl⟩ := hmade
    have hopens := opens?_of_ne hdouble hsingle hbacktick hline hblock
    exact .of_none hbraces rfl (clear_of_symbol hw h hopens hsymbol)

theorem isInert_of_isGap (h : isGap c = true) : isInert c = true := by
  simp only [isGap, Bool.or_eq_true, beq_iff_eq] at h
  rcases h with (((rfl | rfl) | rfl) | rfl) | rfl <;> decide

/-- **No token of a clear text is the word.** -/
theorem identifier_of_scan (hw : w ≠ []) {fuel : Nat} {lexemes : List Lexeme}
    (hbraces : st.braces = []) (h : Clear w cs)
    (hscan : scanFrom? scanner fuel st cs = some lexemes) :
    ∀ lexeme ∈ lexemes, lexeme.token.identifier? ≠ some (String.ofList w) := by
  induction fuel generalizing st cs lexemes with
  | zero => cases hscan
  | succ fuel ih =>
    unfold scanFrom? at hscan
    dsimp only at hscan
    split at hscan
    · obtain rfl := Option.some.inj hscan
      exact nofun
    · rename_i more
      have hcomment : Clear w (Region.lineComment.opening ++ more) := h
      refine ih ?_ (clear_of_afterLine hw scanner st.drift (hcomment.opening nofun)) hscan
      exact hbraces
    · rename_i more
      have hcomment : Clear w (Region.blockComment.opening ++ more) := h
      exact ih hbraces (clear_of_dropComment hw (hcomment.opening nofun)) hscan
    · rename_i c more hline hblock
      split at hscan
      · rename_i hgap
        exact ih hbraces (h.of_inert (isInert_of_isGap hgap)) hscan
      split at hscan
      · cases hscan
      · rename_i token st' left hnext
        obtain ⟨hid, hbraces', hleft⟩ := harmless_of_next hw hbraces h
          (fun _ heq => hline _ (List.cons.inj heq).1 (List.cons.inj heq).2)
          (fun _ heq => hblock _ (List.cons.inj heq).1 (List.cons.inj heq).2) hnext
        split at hscan
        · rename_i hopen
          rw [hbraces'] at hopen
          cases hopen
        · obtain ⟨lexemes, hrest, rfl⟩ := Option.map_eq_some_iff.mp hscan
          refine List.forall_mem_cons.mpr ⟨hid, ih ?_ hleft hrest⟩
          exact hbraces'

end ReactiveTree.Snippet.Token
