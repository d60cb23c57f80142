import ReactiveTree.Proofs.Snippet.Clear

/-!
# What the lexer skips

A literal ends for the lexer where a segment ends, though not always the one that it starts in: two
literals side by side are one if the quote between them stands twice (`suffix_of_quoted`). A text
in backticks without code and a comment end with their segments if these are tame. So a text stays
clear of a word behind each of them.

Key definitions: `Token.InPiece`.
Key theorems: `Token.suffix_of_quoted`, `Token.clear_of_quoted`, `Token.clear_of_piece`,
`Token.clear_of_afterLine`, `Token.clear_of_dropComment`.
-/
namespace ReactiveTree.Snippet.Token

open Source
open Text (hexDigit?)

variable {w cs rest : List Char} {segs : List Segment} {r : Region} {c : Char}

/-! ### Literals -/

section Quoted

variable {quote : Char}

theorem tail_addFront (c : Char) (segs : List Segment) : (addFront c segs).tail = segs.tail := by
  cases segs <;> rfl

theorem tail_cut_of_ne (hq : r.quote? = some quote) (hc : c ≠ quote) (hb : c ≠ '\\')
    (cs : List Char) : (cut r (c :: cs)).tail = (cut r cs).tail := by
  have hstays : Stays r c cs := by
    cases r <;> cases hq <;> exact ⟨fun h => hc (Option.some.inj h).symm, .inl hb⟩
  rw [cut_of_stays hstays, tail_addFront]

theorem tail_cut_escape (hq : r.quote? = some quote) (c : Char) (cs : List Char) :
    (cut r ('\\' :: c :: cs)).tail = (cut r cs).tail := by
  rw [cut_escape (by rw [hq]; rfl), tail_addFront, tail_addFront]

theorem tail_cut_quote (hq : r.quote? = some quote) (cs : List Char) :
    (cut r (quote :: cs)).tail = cut .code cs := by
  have hclosing : r.closing = [quote] := by cases r <;> cases hq <;> rfl
  have hcut := cut_closing (r := r) (by rw [hclosing]; exact List.cons_ne_nil _ _) cs
  rw [hclosing] at hcut
  exact congrArg List.tail hcut

theorem cut_quote (hq : r.quote? = some quote) (cs : List Char) :
    cut .code (quote :: cs) = ⟨.code, [], true⟩ :: cut r cs := by
  have hopening : r.opening = [quote] := by cases r <;> cases hq <;> rfl
  have hcut := cut_opening (r := r) (by rintro rfl; cases hq) cs
  rw [hopening] at hcut
  exact hcut

theorem tail_cut_skipReturn (hq : r.quote? = some quote) (cs : List Char) :
    (cut r (skipReturn cs)).tail = (cut r cs).tail := by
  unfold skipReturn
  split
  · have hne : '\r' ≠ quote := by cases r <;> cases hq <;> decide
    exact (tail_cut_of_ne hq hne (by decide) _).symm
  · rfl

theorem tail_cut_dropIndent (hq : r.quote? = some quote) (n : Nat) (cs : List Char) :
    (cut r (dropIndent n cs)).tail = (cut r cs).tail := by
  fun_induction dropIndent n cs with
  | case1 n c cs hblank ih =>
    rw [Bool.and_eq_true] at hblank
    have hquote : Text.isBlank quote = false := by cases r <;> cases hq <;> decide
    have hne : c ≠ quote := by
      rintro rfl
      rw [hquote] at hblank
      cases hblank.1
    have hslash : c ≠ '\\' := by
      rintro rfl
      cases hblank.1
    rw [ih, tail_cut_of_ne hq hne hslash]
  | case2 => rfl
  | case3 => rfl

theorem tail_cut_drop (hq : r.quote? = some quote) (k : Nat) (cs : List Char)
    (h : ∀ c ∈ cs.take k, c ≠ quote ∧ c ≠ '\\') :
    (cut r (cs.drop k)).tail = (cut r cs).tail := by
  induction k generalizing cs with
  | zero => rfl
  | succ k ih =>
    cases cs with
    | nil => rfl
    | cons c cs =>
      obtain ⟨hquote, hslash⟩ := h c List.mem_cons_self
      rw [List.drop_succ_cons, ih cs fun d hd => h d (List.mem_cons_of_mem _ hd),
        tail_cut_of_ne hq hquote hslash]

theorem isSome_of_foldl {acc : Option Nat} {ds : List Char} {n : Nat}
    (h : ds.foldl (fun acc c => do return 16 * (← acc) + (← hexDigit? c)) acc = some n) :
    acc.isSome = true ∧ ∀ c ∈ ds, (hexDigit? c).isSome = true := by
  induction ds generalizing acc with
  | nil =>
    rw [List.foldl_nil] at h
    exact ⟨by rw [h]; rfl, nofun⟩
  | cons d ds ih =>
    rw [List.foldl_cons] at h
    obtain ⟨hsome, hrest⟩ := ih h
    cases acc with
    | none => cases hsome
    | some m =>
      cases hd : hexDigit? d with
      | none =>
        rw [hd] at hsome
        cases hsome
      | some v => exact ⟨rfl, List.forall_mem_cons.mpr ⟨by rw [hd]; rfl, hrest⟩⟩

theorem tail_cut_hexEscape (hq : r.quote? = some quote) {digits : Nat} {e : Char}
    (h : hexEscape? digits cs = some (e, rest)) : (cut r rest).tail = (cut r cs).tail := by
  have hquote : (hexDigit? quote).isSome = false := by cases r <;> cases hq <;> decide
  have hslash : (hexDigit? '\\').isSome = false := by decide
  rw [hexEscape?] at h
  split at h
  · obtain ⟨n, hn, hmade⟩ := Option.bind_eq_some_iff.mp h
    have hhex : ∀ c ∈ cs.take digits, (hexDigit? c).isSome = true := by
      unfold Text.ofHexDigits? at hn
      split at hn
      · cases hn
      · exact (isSome_of_foldl hn).2
    have hrest : cs.drop digits = rest := by
      dsimp only at hmade
      split at hmade
      · exact (Prod.mk.inj (Option.some.inj hmade)).2
      · cases hmade
    rw [← hrest]
    refine tail_cut_drop hq digits cs fun c hc => ⟨?_, ?_⟩
    · rintro rfl
      rw [hhex c hc] at hquote
      cases hquote
    · rintro rfl
      rw [hhex _ hc] at hslash
      cases hslash
  · cases h

/-- An escape takes at least one character, and leaves the literal where it is. -/
theorem tail_cut_of_escape (hq : r.quote? = some quote) {e : Char}
    (h : escape? quote cs = some (e, rest)) :
    (cut r rest).tail = (cut r ('\\' :: cs)).tail := by
  cases cs with
  | nil => cases h
  | cons c cs =>
    have hplain : ∀ {d : Char}, some (d, cs) = some (e, rest) →
        (cut r rest).tail = (cut r cs).tail := by
      intro d heq
      rw [(Prod.mk.inj (Option.some.inj heq)).2]
    rw [tail_cut_escape hq]
    rw [escape?] at h
    split at h
    · exact hplain h
    split at h
    · exact hplain h
    split at h
    · exact hplain h
    split at h
    · exact hplain h
    split at h
    · exact tail_cut_hexEscape hq h
    split at h
    · exact tail_cut_hexEscape hq h
    split at h
    · exact tail_cut_hexEscape hq h
    · cases h

theorem eq_of_skipReturn {more : List Char} (h : skipReturn cs = '\n' :: more) :
    cs = '\n' :: more ∨ cs = '\r' :: '\n' :: more := by
  unfold skipReturn at h
  split at h
  · exact .inr (by rw [(List.cons.inj h).2])
  · exact .inl h

/-- **The lexer leaves a literal at the end of a segment.** -/
theorem suffix_of_quoted (hq : r.quote? = some quote) {indent : Option Nat} {fuel : Nat}
    {acc text : List Char} (h : quoted? quote indent fuel acc cs = some (text, rest)) :
    cut .code rest <:+ (cut r cs).tail := by
  rw [← tail_cut_skipReturn hq]
  fun_induction quoted? quote indent fuel acc cs with
  | case1 => cases h
  | case2 => cases h
  | case3 acc cs fuel rest' n more hmore hindent hcs ih =>
    have hsame : (cut r ('\\' :: rest')).tail = (cut r more).tail := by
      rcases eq_of_skipReturn hmore with rfl | rfl
      · exact tail_cut_escape hq _ _
      · rw [tail_cut_escape hq]
        exact tail_cut_of_ne hq (by cases r <;> cases hq <;> decide) (by decide) _
    subst hindent
    rw [hcs, hsame, ← tail_cut_dropIndent hq n, ← tail_cut_skipReturn hq]
    exact ih h
  | case4 acc cs fuel rest' e rest'' hescape _ hcs ih =>
    rw [hcs, ← tail_cut_of_escape hq hescape, ← tail_cut_skipReturn hq]
    exact ih h
  | case5 => cases h
  | case6 acc cs fuel more _ hcs ih =>
    -- A quote that stands twice closes one segment and opens the next.
    rw [hcs, tail_cut_quote hq, cut_quote hq]
    have hmore := ih h
    rw [tail_cut_skipReturn hq] at hmore
    exact (hmore.trans (List.tail_suffix _)).trans (List.suffix_cons _ _)
  | case7 acc cs fuel d more _ _ hcs =>
    obtain ⟨rfl, rfl⟩ := Prod.mk.inj (Option.some.inj h)
    rw [hcs, tail_cut_quote hq]
  | case8 acc cs fuel _ hcs =>
    obtain ⟨rfl, rfl⟩ := Prod.mk.inj (Option.some.inj h)
    rw [hcs, tail_cut_quote hq]
  | case9 => cases h
  | case10 acc cs fuel c rest' hcs hslash hquote _ ih =>
    rw [hcs, tail_cut_of_ne hq hquote hslash, ← tail_cut_skipReturn hq]
    exact ih h

/-- A literal between quotes leaves a text clear. -/
theorem clear_of_quoted (hq : r.quote? = some quote) {indent : Option Nat} {fuel : Nat}
    {acc text : List Char} (hclear : Clear w (quote :: cs))
    (h : quoted? quote indent fuel acc cs = some (text, rest)) : Clear w rest := by
  rw [Clear, cut_quote hq] at hclear
  have htail := (suffix_of_quoted hq h).trans (List.tail_suffix _)
  exact hclear.suffix (htail.trans (List.suffix_cons _ _))

end Quoted

/-! ### Texts in backticks -/

theorem opensCode_of_cons (h : opensCode (c :: cs) = false)
    (hc : ¬ (c = '\\' ∧ cs.head? = some '$')) : opensCode cs = false := by
  unfold opensCode at h
  split at h
  · rename_i heq
    obtain ⟨rfl, rfl⟩ := List.cons.inj heq
    exact absurd ⟨rfl, rfl⟩ hc
  · cases h
  · rename_i heq
    rw [(List.cons.inj heq).2]
    exact h
  · rename_i heq
    cases heq

/-- What is left of a text in backticks holds no code, and the code behind it is clear. -/
def InPiece (w cs : List Char) : Prop :=
  ∃ body tail, cs = body ++ tail ∧ backtick ∉ body ∧ opensCode body = false ∧
    (tail = [] ∨ ∃ more, tail = backtick :: more ∧ Clear w more)

theorem Sound.inPiece (h : Sound w (cut .backtick cs)) : InPiece w cs := by
  have hclosing : Region.backtick.closing ≠ [] := List.cons_ne_nil _ _
  rcases exists_closing hclosing cs with ⟨body, rest, hcs, hcut⟩ | hcut
  · rw [hcut] at h
    obtain ⟨hquote, hopens⟩ := (h.plain _ List.mem_cons_self).literal rfl
    exact ⟨body, backtick :: rest, hcs, hquote, hopens,
      .inr ⟨rest, rfl, h.suffix (List.suffix_cons _ _)⟩⟩
  · rw [hcut] at h
    obtain ⟨hquote, hopens⟩ := (h.plain _ List.mem_cons_self).literal rfl
    exact ⟨cs, [], (List.append_nil cs).symm, hquote, hopens, .inl rfl⟩

/-- A character other than the quote is part of the body. -/
theorem exists_body {body tail : List Char} (hcs : c :: cs = body ++ tail) (hc : c ≠ backtick)
    (htail : tail = [] ∨ ∃ more, tail = backtick :: more ∧ Clear w more) :
    ∃ more, body = c :: more ∧ cs = more ++ tail := by
  cases body with
  | nil =>
    rcases htail with rfl | ⟨more, rfl, -⟩
    · cases hcs
    · exact absurd (List.cons.inj hcs).1 hc
  | cons d body =>
    obtain ⟨rfl, rfl⟩ := List.cons.inj hcs
    exact ⟨body, rfl, rfl⟩

theorem InPiece.tail (h : InPiece w (c :: cs)) (hc : c ≠ backtick)
    (hescape : ¬ (c = '\\' ∧ cs.head? = some '$')) : InPiece w cs := by
  obtain ⟨body, tail, hcs, hquote, hopens, htail⟩ := h
  obtain ⟨body, rfl, rfl⟩ := exists_body hcs hc htail
  refine ⟨body, tail, rfl, fun h => hquote (List.mem_cons_of_mem _ h), ?_, htail⟩
  refine opensCode_of_cons hopens ?_
  rintro ⟨rfl, hhead⟩
  exact hescape ⟨rfl, by rw [List.head?_append, hhead]; rfl⟩

theorem InPiece.escape (h : InPiece w ('\\' :: '$' :: cs)) : InPiece w cs := by
  obtain ⟨body, tail, hcs, hquote, hopens, htail⟩ := h
  obtain ⟨escaped, rfl, hdollar⟩ := exists_body hcs (by decide) htail
  obtain ⟨body, rfl, rfl⟩ := exists_body hdollar (by decide) htail
  refine ⟨body, tail, rfl, fun h => hquote ?_, hopens, htail⟩
  exact List.mem_cons_of_mem _ (List.mem_cons_of_mem _ h)

theorem InPiece.not_code (h : InPiece w ('$' :: '\x7b' :: cs)) : False := by
  obtain ⟨body, tail, hcs, -, hopens, htail⟩ := h
  obtain ⟨block, rfl, hbrace⟩ := exists_body hcs (by decide) htail
  obtain ⟨body, rfl, -⟩ := exists_body hbrace (by decide) htail
  cases hopens

theorem InPiece.skipReturn (h : InPiece w cs) : InPiece w (Token.skipReturn cs) := by
  unfold Token.skipReturn
  split
  · exact h.tail (by decide) (by rintro ⟨hc, -⟩; exact absurd hc (by decide))
  · exact h

/-- The closing quote is the end of the segment. -/
theorem InPiece.close (h : InPiece w (backtick :: cs)) : Clear w cs := by
  obtain ⟨body, tail, hcs, hquote, -, htail⟩ := h
  cases body with
  | nil =>
    rcases htail with rfl | ⟨more, rfl, hclear⟩
    · cases hcs
    · obtain ⟨-, rfl⟩ := List.cons.inj hcs
      exact hclear
  | cons d body =>
    obtain ⟨rfl, -⟩ := List.cons.inj hcs
    exact absurd List.mem_cons_self hquote

/-- **A text in backticks without code leaves a text clear.** -/
theorem clear_of_piece {fuel behind behind' : Nat} {acc text : List Char} {code : Bool}
    (hin : InPiece w cs)
    (h : piece? fuel behind acc cs = some (text, code, behind', rest)) :
    code = false ∧ Clear w rest := by
  replace hin := hin.skipReturn
  fun_induction piece? fuel behind acc cs with
  | case1 => cases h
  | case2 => cases h
  | case3 behind acc cs fuel more hcs ih =>
    rw [hcs] at hin
    have hmore : Clear w (Region.backtick.opening ++ more) := hin.close
    exact ih h (hmore.opening nofun).inPiece.skipReturn
  | case4 behind acc cs fuel d more _ hcs =>
    simp only [Option.some.injEq, Prod.mk.injEq] at h
    obtain ⟨-, rfl, -, rfl⟩ := h
    rw [hcs] at hin
    exact ⟨rfl, hin.close⟩
  | case5 behind acc cs fuel hcs =>
    simp only [Option.some.injEq, Prod.mk.injEq] at h
    obtain ⟨-, rfl, -, rfl⟩ := h
    rw [hcs] at hin
    exact ⟨rfl, hin.close⟩
  | case6 behind acc cs fuel more _ hcs =>
    rw [hcs] at hin
    exact hin.not_code.elim
  | case7 behind acc cs fuel more _ hcs ih =>
    rw [hcs] at hin
    exact ih h hin.escape.skipReturn
  | case8 behind acc cs fuel c rest' hcs hquote _ hescape ih =>
    rw [hcs] at hin
    have hin := hin.tail hquote fun ⟨hc, hhead⟩ => by
      obtain ⟨more, hmore⟩ := eq_cons_of_head? hhead
      exact hescape more hc hmore
    exact ih h hin.skipReturn

/-! ### Comments -/

/-- Without its first character, which stands in a comment, a text stays sound. -/
theorem Sound.of_addFront (h : Sound w (addFront c segs))
    (hhead : segs.head?.map (·.region) = some r) (hcode : r ≠ .code) (hbacktick : r ≠ .backtick) :
    Sound w segs where
  toTame := h.toTame.of_addFront (by rw [hhead]; exact fun heq => hbacktick (Option.some.inj heq))
  spares run hrun := by
    refine h.spares run ?_
    cases segs with
    | nil => exact hrun
    | cons s segs =>
      obtain rfl : s.region = r := Option.some.inj hhead
      rw [codeRuns_cons, if_neg hcode] at hrun
      rw [addFront, codeRuns_cons, if_neg hcode]
      exact hrun

theorem sound_of_stays (hs : Stays r c cs) (hcode : r ≠ .code) (hbacktick : r ≠ .backtick)
    (h : Sound w (cut r (c :: cs))) : Sound w (cut r cs) := by
  rw [cut_of_stays hs] at h
  exact h.of_addFront (region_head_cut r cs) hcode hbacktick

theorem stays_line (hc : c ≠ '\n') (cs : List Char) : Stays .lineComment c cs := hc

/-- The line end behind a comment stands in code. -/
theorem clear_of_lineEnd (h : Sound w (cut .lineComment ('\n' :: cs))) : Clear w ('\n' :: cs) := by
  have hstays : Stays .code '\n' cs := stays_of_not_slash rfl (by decide) cs
  rw [cut_lineEnd] at h
  rw [Clear, cut_of_stays hstays]
  exact h.suffix (List.suffix_cons _ _)

/-- In a comment a carriage return stands before the line end only. -/
theorem eq_lineEnd_of_return {d : Char} (h : Sound w (cut .lineComment ('\r' :: d :: cs))) :
    d = '\n' := by
  by_contra hd
  obtain ⟨body, closed, rest, hcut⟩ := exists_cut .lineComment cs
  have hreturn : Stays .lineComment '\r' (d :: cs) := stays_line (by decide) _
  rw [cut_of_stays hreturn, cut_of_stays (stays_line hd cs), hcut] at h
  exact (h.plain _ List.mem_cons_self).line rfl List.mem_cons_self

/-- A character before the end of a line. -/
def isInline (c : Char) : Bool := c != '\n' && c != '\r'

theorem sound_dropLine (h : Sound w (cut .lineComment cs)) :
    Sound w (cut .lineComment (cs.dropWhile isInline)) := by
  induction cs with
  | nil => exact h
  | cons c cs ih =>
    by_cases hc : isInline c = true
    · have hne : c ≠ '\n' := by
        rintro rfl
        cases hc
      rw [List.dropWhile_cons_of_pos hc]
      exact ih (sound_of_stays (stays_line hne cs) nofun nofun h)
    · rw [List.dropWhile_cons_of_neg hc]
      exact h

theorem eq_of_dropLine (h : cs.dropWhile isInline = c :: rest) : c = '\n' ∨ c = '\r' := by
  have hstop := List.head?_dropWhile_not isInline cs
  rw [h] at hstop
  replace hstop : isInline c = false := hstop
  rw [isInline, Bool.and_eq_false_iff] at hstop
  simpa using hstop

/-- **A comment up to the end of its line leaves a text clear.** -/
theorem clear_of_afterLine (hw : w ≠ []) (scanner : Scanner) (drift : Drift)
    (h : Sound w (cut .lineComment cs)) : Clear w (afterLine scanner drift cs).2 := by
  have hdrop := sound_dropLine h
  cases hrest : cs.dropWhile isInline with
  | nil =>
    have hrest : (cs.dropWhile fun c => c != '\n' && c != '\r') = [] := hrest
    rw [afterLine, hrest]
    exact clear_nil hw
  | cons c rest =>
    rw [hrest] at hdrop
    have hend := eq_of_dropLine hrest
    have hrest : (cs.dropWhile fun c => c != '\n' && c != '\r') = c :: rest := hrest
    rw [afterLine, hrest]
    rcases hend with rfl | rfl
    · exact clear_of_lineEnd hdrop
    · cases rest with
      | nil => exact clear_nil hw
      | cons d more =>
        -- The comment would go on behind any other character, and the lexer would not.
        obtain rfl := eq_lineEnd_of_return hdrop
        have hreturn : Stays .lineComment '\r' ('\n' :: more) := stays_line (by decide) _
        have hline := clear_of_lineEnd (sound_of_stays hreturn nofun nofun hdrop)
        exact hline.of_cons (stays_of_not_slash rfl (by decide) _) rfl

/-- In a block comment no other one opens. -/
theorem Sound.not_opens_block (h : Sound w (cut .blockComment ('/' :: '*' :: cs))) : False := by
  have hstays : Stays .blockComment '/' ('*' :: cs) := by
    rintro ⟨hc, -⟩
    exact absurd hc (by decide)
  have hclosing : Region.blockComment.closing ≠ [] := List.cons_ne_nil _ _
  rw [cut_of_stays hstays] at h
  rcases exists_closing hclosing ('*' :: cs) with ⟨body, rest, hcs, hcut⟩ | hcut
  · rw [hcut] at h
    refine (h.plain _ List.mem_cons_self).block rfl ?_
    cases body with
    | nil => exact List.infix_rfl
    | cons d body =>
      obtain ⟨rfl, -⟩ := List.cons.inj hcs
      exact ⟨[], body ++ ['*'], rfl⟩
  · rw [hcut] at h
    refine (h.plain _ List.mem_cons_self).block rfl ⟨[], cs, ?_⟩
    simp

/-- **A block comment leaves a text clear.** -/
theorem clear_of_dropComment (hw : w ≠ []) (h : Sound w (cut .blockComment cs)) :
    Clear w (dropComment 1 cs) := by
  generalize hdepth : 1 = depth
  fun_induction dropComment depth cs with
  | case1 => cases hdepth
  | case2 => exact clear_nil hw
  | case3 depth cs _ ih => exact h.not_opens_block.elim
  | case4 depth cs ih =>
    obtain rfl : 0 = depth := Nat.succ.inj hdepth
    have hcut := cut_closing (r := .blockComment) (List.cons_ne_nil _ _) cs
    replace h : Sound w (cut .blockComment (Region.blockComment.closing ++ cs)) := h
    rw [hcut] at h
    rw [dropComment]
    exact h.suffix (List.suffix_cons _ _)
  | case5 depth c cs _ hopen hclose ih =>
    have hstays : Stays .blockComment c cs := by
      rintro ⟨hc, hhead⟩
      obtain ⟨more, rfl⟩ := eq_cons_of_head? hhead
      exact hclose 0 more hdepth.symm hc rfl
    exact ih (sound_of_stays hstays nofun nofun h) hdepth

end ReactiveTree.Snippet.Token
