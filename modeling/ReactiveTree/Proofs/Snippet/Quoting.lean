import ReactiveTree.Proofs.Snippet.Scanning

/-!
# Literals keep their texts

A literal in single quotes becomes one in double quotes with the same text. Read as plain characters
and escapes, its body changes mark by mark (`marks_requote`): an escape of a single quote is lost,
and a double quote gets one. So no double quote ends the literal early, and a text that is written
as a literal in single quotes, wherever in code that is, is read from the literal in double quotes
(`normalize_quotes`).

Key definitions: `Source.Mark`, `Source.marks`, `Source.Shut`, `Source.quoted`,
`Source.EndsInCode`.
Key theorems: `Source.marks_requote`, `Source.shut_of_mem_cut`, `Source.goesOn_quote`,
`Source.normalize_quotes`.
-/
namespace ReactiveTree.Source

/-- A part of the body of a literal: a character, or one behind a backslash. -/
inductive Mark where
  | plain (c : Char)
  | escape (c : Char)
deriving Repr, DecidableEq

/-- The body of a literal, read from the left. -/
def marks : List Char → List Mark
  | '\\' :: c :: cs => .escape c :: marks cs
  | c :: cs => .plain c :: marks cs
  | [] => []

namespace Mark

/-- The character that a part stands for, where only a backslash and a double quote are escaped. -/
def char? : Mark → Option Char
  | plain c => some c
  | escape c => if c = '\\' ∨ c = '"' then some c else none

/-- A quote says the same with and without a backslash. -/
def taken : Mark → Mark
  | plain c => plain c
  | escape c => if c = '\'' ∨ c = '"' then plain c else escape c

/-- A part of a body in single quotes as it stands in double quotes. -/
def requote : Mark → Mark
  | plain c => if c = '"' then escape c else plain c
  | escape c => if c = '\'' then plain c else escape c

theorem taken_requote (m : Mark) : m.requote.taken = m.taken := by
  cases m with
  | plain c =>
    by_cases hc : c = '"'
    · simp [requote, taken, hc]
    · simp [requote, taken, hc]
  | escape c =>
    by_cases hc : c = '\''
    · simp [requote, taken, hc]
    · simp [requote, taken, hc]

end Mark

/-- A body in which neither a quote nor a last backslash is left alone, so that it ends at the quote
behind it. -/
def Shut (quote : Char) (body : List Char) : Prop :=
  ∀ m ∈ marks body, m ≠ .plain quote ∧ m ≠ .plain '\\'

/-- A text as the body of a literal in single quotes. -/
def escaped (text : List Char) : List Char :=
  text.flatMap fun c => if c = '\\' ∨ c = '\'' then ['\\', c] else [c]

/-- A body between quotes. -/
def literal (quote : Char) (body : List Char) : String := String.ofList (quote :: (body ++ [quote]))

/-- A text as a literal in single quotes. -/
def quoted (text : String) : String := literal '\'' (escaped text.toList)

/-- What comes behind some segments is code. -/
def EndsInCode (segs : List Segment) : Prop := segs.getLast?.map (·.region) = some .code

instance (segs : List Segment) : Decidable (EndsInCode segs) :=
  inferInstanceAs (Decidable (segs.getLast?.map (·.region) = some .code))

variable {r : Region} {c : Char} {cs body : List Char} {segs : List Segment} {s : Segment}

/-! ### Marks -/

theorem marks_plain (hc : c ≠ '\\' ∨ cs = []) : marks (c :: cs) = .plain c :: marks cs := by
  rw [marks]
  rintro d ds rfl rfl
  rcases hc with hne | hnil
  · exact hne rfl
  · cases hnil

theorem marks_escape (c : Char) (cs : List Char) :
    marks ('\\' :: c :: cs) = .escape c :: marks cs := rfl

/-- **A body is put into double quotes mark by mark.** -/
theorem marks_requote (body : List Char) : marks (requote body) = (marks body).map .requote := by
  induction body using requote.induct with
  | case1 cs ih =>
    rw [requote, if_pos rfl, marks_plain (.inl (by decide)), ih]
    rfl
  | case2 c cs hc ih =>
    rw [requote, if_neg hc, marks_escape, marks_escape, ih, List.map_cons, Mark.requote, if_neg hc]
  | case3 cs ih =>
    rw [requote, marks_escape, ih, marks_plain (.inl (by decide))]
    rfl
  | case4 c cs hescape hc ih =>
    have hplain := keeps_of_not_escape hescape
    have hrest : c ≠ '\\' ∨ requote cs = [] := hplain.imp_right fun hnil => by rw [hnil]; rfl
    rw [requote.eq_3 c cs hescape hc, marks_plain hrest, marks_plain hplain, ih, List.map_cons,
      Mark.requote, if_neg hc]
  | case5 => rfl

/-- The quote behind a body in double quotes ends the literal where that in single quotes did. -/
theorem shut_requote (h : Shut '\'' body) : Shut '"' (requote body) := by
  intro m hm
  rw [marks_requote, List.mem_map] at hm
  obtain ⟨m, hm, rfl⟩ := hm
  obtain ⟨-, hslash⟩ := h m hm
  cases m with
  | plain c =>
    by_cases hc : c = '"'
    · simp [Mark.requote, hc]
    · simpa [Mark.requote, hc] using hslash
  | escape c =>
    by_cases hc : c = '\''
    · simp [Mark.requote, hc]
    · simp [Mark.requote, hc]

theorem map_taken_requote (body : List Char) :
    (marks (requote body)).map Mark.taken = (marks body).map Mark.taken := by
  rw [marks_requote, List.map_map]
  exact List.map_congr_left fun m _ => Mark.taken_requote m

/-! ### Texts -/

/-- A character of a text, as it stands in single quotes. -/
def Mark.ofChar (c : Char) : Mark := if c = '\\' ∨ c = '\'' then escape c else plain c

theorem marks_escaped (text : List Char) : marks (escaped text) = text.map .ofChar := by
  induction text with
  | nil => rfl
  | cons c text ih =>
    rw [escaped, List.flatMap_cons, List.map_cons, Mark.ofChar]
    split
    · exact congrArg (_ :: ·) ih
    · rename_i hc
      exact (marks_plain (.inl fun h => hc (.inl h))).trans (congrArg (_ :: ·) ih)

theorem shut_escaped (text : List Char) : Shut '\'' (escaped text) := by
  intro m hm
  rw [marks_escaped, List.mem_map] at hm
  obtain ⟨c, -, rfl⟩ := hm
  unfold Mark.ofChar
  split
  · simp
  · rename_i hc
    rw [not_or] at hc
    simpa [and_comm] using hc

/-- The body in double quotes is read as the text. -/
theorem mapM_char?_requote (text : List Char) :
    (marks (requote (escaped text))).mapM Mark.char? = some text := by
  have hchar : ∀ c, (Mark.ofChar c).requote.char? = some c := by
    intro c
    by_cases hslash : c = '\\'
    · simp [Mark.ofChar, Mark.requote, Mark.char?, hslash]
    by_cases hsingle : c = '\''
    · simp [Mark.ofChar, Mark.requote, Mark.char?, hsingle]
    by_cases hdouble : c = '"'
    · simp [Mark.ofChar, Mark.requote, Mark.char?, hdouble]
    · simp [Mark.ofChar, Mark.requote, Mark.char?, hslash, hsingle, hdouble]
  rw [marks_requote, marks_escaped]
  induction text with
  | nil => rfl
  | cons c text ih =>
    rw [List.map_cons, List.map_cons, List.mapM_cons, hchar, ih]
    rfl

/-! ### Where a literal ends -/

theorem shut_escape {q : Char} (c : Char) (h : Shut q body) : Shut q ('\\' :: c :: body) := by
  rw [Shut, marks_escape, List.forall_mem_cons]
  exact ⟨⟨Mark.noConfusion, Mark.noConfusion⟩, h⟩

theorem shut_cons {q : Char} (hc : c ≠ '\\') : Shut q (c :: body) ↔ c ≠ q ∧ Shut q body := by
  rw [Shut, marks_plain (.inl hc), List.forall_mem_cons]
  simp [hc, Shut]

/-- A literal in single quotes ends at the first quote that closes it. -/
theorem cut_of_shut (h : Shut '\'' body) (rest : List Char) :
    cut .single (body ++ '\'' :: rest) = ⟨.single, body, true⟩ :: cut .code rest := by
  induction body using marks.induct with
  | case1 c cs ih =>
    have hrest : Shut '\'' cs := fun m hm => h m (List.mem_cons_of_mem _ hm)
    rw [List.cons_append, List.cons_append, cut_escape rfl, ih hrest]
    rfl
  | case2 c cs hescape ih =>
    have hc : c ≠ '\\' := by
      rintro rfl
      obtain rfl := (keeps_of_not_escape hescape).resolve_left fun hne => hne rfl
      exact (h (.plain '\\') (by decide)).2 rfl
    obtain ⟨hquote, hrest⟩ := (shut_cons hc).mp h
    have hstays : Stays .single c (cs ++ '\'' :: rest) :=
      ⟨fun h => hquote (Option.some.inj h).symm, .inl hc⟩
    rw [List.cons_append, cut_of_stays hstays, ih hrest]
    rfl
  | case3 => exact cut_closing (r := .single) (List.cons_ne_nil _ _) rest

/-- **Every closed literal in single quotes ends at the first quote that can close it.** -/
theorem shut_of_mem_cut (r : Region) (cs : List Char) :
    ∀ body, ⟨.single, body, true⟩ ∈ cut r cs → Shut '\'' body := by
  induction r, cs using moveInduction with
  | ends r =>
    intro body h
    simp [cut_nil] at h
  | opens r cs hr ih =>
    intro body h
    rw [cut_opening hr, List.mem_cons] at h
    rcases h with h | h
    · cases h
    · exact ih body h
  | closes r cs hr ih =>
    intro body h
    rw [cut_closing hr, List.mem_cons] at h
    rcases h with h | h
    · cases h
      exact nofun
    · exact ih body h
  | lineEnd cs ih =>
    intro body h
    obtain ⟨b, closed, rest, hcut⟩ := exists_cut .code cs
    rw [hcut] at ih
    rw [cut_lineEnd, hcut, addFront, List.mem_cons, List.mem_cons] at h
    rcases h with h | h | h
    · cases h
    · cases h
    · exact ih body (List.mem_cons_of_mem _ h)
  | escape r c cs hq ih =>
    intro body h
    obtain ⟨b, closed, rest, hcut⟩ := exists_cut r cs
    rw [hcut] at ih
    rw [cut_escape hq, hcut, addFront, addFront, List.mem_cons] at h
    rcases h with h | h
    · cases h
      exact shut_escape c (ih b List.mem_cons_self)
    · exact ih body (List.mem_cons_of_mem _ h)
  | stays r c cs hs ih =>
    intro body h
    obtain ⟨b, closed, rest, hcut⟩ := exists_cut r cs
    rw [cut_of_stays hs, hcut, addFront, List.mem_cons] at h
    rw [hcut] at ih
    rcases h with h | h
    · cases h
      obtain ⟨hquote, hslash⟩ := hs
      have hc : c ≠ '\\' := by
        rcases hslash with hne | rfl
        · exact hne
        · rw [cut_nil] at hcut
          cases hcut
      exact (shut_cons hc).mpr ⟨fun h => hquote (congrArg some h.symm), ih b List.mem_cons_self⟩
    · exact ih body (List.mem_cons_of_mem _ h)

/-! ### What follows code -/

theorem endsInCode_addFront : EndsInCode (addFront c segs) ↔ EndsInCode segs := by
  match segs with
  | [] => exact Iff.rfl
  | [_] => exact Iff.rfl
  | s :: t :: rest => simp [EndsInCode, addFront]

theorem endsInCode_cons (h : segs ≠ []) : EndsInCode (s :: segs) ↔ EndsInCode segs := by
  rw [EndsInCode, EndsInCode, List.getLast?_cons_of_ne_nil h]

/-- The same segments but for the last, which is code: it is ended, and others follow. -/
def GoesOn (before after rest : List Segment) : Prop :=
  ∃ segs body, before = segs ++ [⟨.code, body, false⟩] ∧ after = segs ++ ⟨.code, body, true⟩ :: rest

namespace GoesOn

variable {before after more : List Segment}

theorem cons (s : Segment) (h : GoesOn before after more) :
    GoesOn (s :: before) (s :: after) more := by
  obtain ⟨segs, body, rfl, rfl⟩ := h
  exact ⟨s :: segs, body, rfl, rfl⟩

theorem addFront (c : Char) (h : GoesOn before after more) :
    GoesOn (Source.addFront c before) (Source.addFront c after) more := by
  obtain ⟨segs, body, rfl, rfl⟩ := h
  cases segs with
  | nil => exact ⟨[], c :: body, rfl, rfl⟩
  | cons s segs => exact ⟨{ s with body := c :: s.body } :: segs, body, rfl, rfl⟩

end GoesOn

/-- A quote takes no part in what comes before it. -/
theorem stays_append_quote (hs : Stays r c cs) (hr : cs = [] → r = .code) (rest : List Char) :
    Stays r c (cs ++ '\'' :: rest) := by
  have hhead : ∀ d, d ≠ '\'' → cs.head? ≠ some d → (cs ++ '\'' :: rest).head? ≠ some d := by
    intro d hd hne
    cases cs with
    | nil => exact fun h => hd (Option.some.inj h).symm
    | cons e es => exact hne
  have hslash : r ≠ .code → c ≠ '\\' ∨ cs = [] → c ≠ '\\' ∨ cs ++ '\'' :: rest = [] :=
    fun hne => Or.imp_right fun hnil => absurd (hr hnil) hne
  cases r with
  | code =>
    obtain ⟨hquote, hopen⟩ := opens?_eq_none.mp hs
    exact opens?_eq_none.mpr ⟨hquote, fun hc =>
      ⟨hhead '/' (by decide) (hopen hc).1, hhead '*' (by decide) (hopen hc).2⟩⟩
  | lineComment => exact hs
  | blockComment => exact fun ⟨hc, hend⟩ => hhead '/' (by decide) (fun h => hs ⟨hc, h⟩) hend
  | single => exact ⟨hs.1, hslash (by decide) hs.2⟩
  | double => exact ⟨hs.1, hslash (by decide) hs.2⟩
  | backtick => exact ⟨hs.1, hslash (by decide) hs.2⟩

theorem eq_code_of_endsInCode_nil (h : EndsInCode (cut r [])) : r = .code := by
  rw [cut_nil] at h
  exact Option.some.inj h

/-- **A quote behind code opens a literal**, and what came before is cut as if nothing followed. -/
theorem goesOn_quote (r : Region) (cs rest : List Char) : EndsInCode (cut r cs) →
    GoesOn (cut r cs) (cut r (cs ++ '\'' :: rest)) (cut .single rest) := by
  -- Where the text ends is the one place at which the quote comes to stand.
  induction r, cs using moveInduction with
  | ends r =>
    intro h
    obtain rfl := eq_code_of_endsInCode_nil h
    exact ⟨[], [], cut_nil .code, cut_opening (r := .single) (by decide) rest⟩
  | opens r cs hr ih =>
    intro h
    rw [cut_opening hr, endsInCode_cons (cut_ne_nil r cs)] at h
    rw [List.append_assoc, cut_opening hr, cut_opening hr]
    exact (ih h).cons _
  | closes r cs hr ih =>
    intro h
    rw [cut_closing hr, endsInCode_cons (cut_ne_nil .code cs)] at h
    rw [List.append_assoc, cut_closing hr, cut_closing hr]
    exact (ih h).cons _
  | lineEnd cs ih =>
    intro h
    rw [cut_lineEnd, endsInCode_cons (addFront_ne_nil _ (cut_ne_nil .code cs)),
      endsInCode_addFront] at h
    exact ((ih h).addFront '\n').cons _
  | escape r c cs hq ih =>
    intro h
    rw [cut_escape hq, endsInCode_addFront, endsInCode_addFront] at h
    rw [List.cons_append, List.cons_append, cut_escape hq, cut_escape hq]
    exact ((ih h).addFront c).addFront '\\'
  | stays r c cs hs ih =>
    intro h
    rw [cut_of_stays hs, endsInCode_addFront] at h
    have hr : cs = [] → r = .code := by
      rintro rfl
      exact eq_code_of_endsInCode_nil h
    rw [List.cons_append, cut_of_stays hs, cut_of_stays (stays_append_quote hs hr rest)]
    exact (ih h).addFront c

/-! ### What is written for a literal -/

theorem verdict_append (xs ys : List String) : verdict (xs ++ ys) = (do
    let root ← verdict xs
    let later ← verdict ys
    return root || later) := by
  unfold verdict
  rw [List.find?_append]
  cases xs.find? disallowed.contains with
  | some w => rfl
  | none =>
    cases ys.find? disallowed.contains with
    | some w => rfl
    | none =>
      have hroot : (xs ++ ys).contains "root" = (xs.contains "root" || ys.contains "root") :=
        List.contains_append
      exact congrArg Except.ok hroot

theorem words_append (xs ys : List Segment) : words (xs ++ ys) = words xs ++ words ys := by
  rw [words, List.filter_append, List.flatMap_append]
  rfl

theorem render_append (xs ys : List Segment) : render (xs ++ ys) = (do
    let before ← render xs
    let after ← render ys
    return ⟨before.text ++ after.text, before.readsRoot || after.readsRoot⟩) := by
  unfold render
  rw [words_append, verdict_append, List.flatMap_append, String.ofList_append]
  cases verdict (words xs) with
  | error w => rfl
  | ok root => cases verdict (words ys) <;> rfl

/-- Code has no delimiters that an end could bring. -/
theorem render_code (segs : List Segment) (body : List Char) :
    render (segs ++ [⟨.code, body, true⟩]) = render (segs ++ [⟨.code, body, false⟩]) := by
  have hlast : render [⟨.code, body, true⟩] = render [⟨.code, body, false⟩] := rfl
  rw [render_append, render_append, hlast]

theorem render_literal (body : List Char) :
    render [⟨.single, body, true⟩] = .ok ⟨literal '"' (requote body), false⟩ := by
  have hwritten : written ⟨.double, requote body, true⟩ = '"' :: (requote body ++ ['"']) := rfl
  simp only [render, List.flatMap_cons, List.flatMap_nil, List.append_nil, normalSegment, hwritten]
  rfl

/-- A literal in code is a segment of its own. -/
theorem segments_literal {before : String} (hcode : EndsInCode (segments before))
    (hshut : Shut '\'' body) (after : String) : ∃ segs last,
      segments before = segs ++ [⟨.code, last, false⟩] ∧
      segments (before ++ literal '\'' body ++ after) =
        segs ++ [⟨.code, last, true⟩] ++ ([⟨.single, body, true⟩] ++ segments after) := by
  obtain ⟨segs, last, hbefore, hafter⟩ :=
    goesOn_quote .code before.toList (body ++ '\'' :: after.toList) hcode
  have htext : (before ++ literal '\'' body ++ after).toList =
      before.toList ++ '\'' :: (body ++ '\'' :: after.toList) := by
    simp [literal]
  refine ⟨segs, last, hbefore, ?_⟩
  rw [segments, htext, hafter, cut_of_shut hshut, List.append_assoc]
  rfl

/-- **A literal in code is written in its place**, and the words beside it do not meet. -/
theorem normalize_literal {before : String} (hcode : EndsInCode (segments before))
    (hshut : Shut '\'' body) (after : String) :
    normalize (before ++ literal '\'' body ++ after) = do
      let b ← normalize before
      let a ← normalize after
      return ⟨b.text ++ literal '"' (requote body) ++ a.text, b.readsRoot || a.readsRoot⟩ := by
  obtain ⟨segs, last, hbefore, hsegments⟩ := segments_literal hcode hshut after
  rw [normalize_eq, normalize_eq, normalize_eq, hsegments, render_append, render_code,
    render_append [_], render_literal, hbefore]
  cases render (segs ++ [⟨.code, last, false⟩]) with
  | error w => rfl
  | ok b =>
    cases render (segments after) with
    | error w => rfl
    | ok a => simp [bind, Except.bind, pure, Except.pure, String.append_assoc]

/-- Where code goes on behind a source, it does behind what is written for it. -/
theorem endsInCode_normalize {source : String} {n : Normalized} (h : normalize source = .ok n)
    (hcode : EndsInCode (segments source)) : EndsInCode (segments n.text) := by
  obtain ⟨last, hlast, hregion⟩ := Option.map_eq_some_iff.mp hcode
  rw [EndsInCode, (normalize_ok h).1, List.getLast?_map, hlast]
  simp [normalSegment_eq, hregion, normalRegion]

/-- **A text is read from its literal in double quotes**, wherever in code its literal in single
quotes stands, and the body of every such literal says the same in double quotes. -/
theorem normalize_quotes :
    (∀ before after text : String, EndsInCode (segments before) →
      normalize (before ++ quoted text ++ after) = (do
        let b ← normalize before
        let a ← normalize after
        return ⟨b.text ++ literal '"' (requote (escaped text.toList)) ++ a.text,
          b.readsRoot || a.readsRoot⟩) ∧
      (∀ b, normalize before = .ok b → EndsInCode (segments b.text)) ∧
      Shut '"' (requote (escaped text.toList)) ∧
      (marks (requote (escaped text.toList))).mapM Mark.char? = some text.toList) ∧
    ∀ (source : String) (n : Normalized) (i : Nat) (body : List Char), normalize source = .ok n →
      (segments source)[i]? = some ⟨.single, body, true⟩ →
      (segments n.text)[i]? = some ⟨.double, requote body, true⟩ ∧ Shut '"' (requote body) ∧
        (marks (requote body)).map Mark.taken = (marks body).map Mark.taken := by
  constructor
  · intro before after text hcode
    have hshut := shut_escaped text.toList
    exact ⟨normalize_literal hcode hshut after, fun b hb => endsInCode_normalize hb hcode,
      shut_requote hshut, mapM_char?_requote text.toList⟩
  · intro source n i body h hi
    refine ⟨?_, shut_requote ?_, map_taken_requote body⟩
    · rw [(normalize_ok h).1, List.getElem?_map, hi]
      rfl
    · exact shut_of_mem_cut .code source.toList body (List.mem_of_getElem? hi)

/-- A path with both quotes in it, and a literal with an escape of its own. -/
theorem normalize_quotes_path :
    (normalize ("get(" ++ quoted "a'b\"c" ++ ")") = .ok ⟨"get(\"a'b\\\"c\")", false⟩ ∧
      (marks (requote (escaped "a'b\"c".toList))).mapM Mark.char? = some "a'b\"c".toList) ∧
    (segments "\"a'\\n\\\"\"")[1]? = some ⟨.double, ['a', '\'', '\\', 'n', '\\', '"'], true⟩ := by
  obtain ⟨hwritten, -, -, hread⟩ :=
    normalize_quotes.1 "get(" ")" "a'b\"c" (by decide +kernel)
  obtain ⟨hthere, -, -⟩ := normalize_quotes.2 "'a\\'\\n\"'" ⟨"\"a'\\n\\\"\"", false⟩ 1
    ['a', '\\', '\'', '\\', 'n', '"'] rfl (by decide +kernel)
  exact ⟨⟨hwritten.trans rfl, hread⟩, hthere⟩

end ReactiveTree.Source
