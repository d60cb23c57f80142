import ReactiveTree.Proofs.Snippet.Normalization

/-!
# The scan goes from segment to segment

The scan of a source does not know of its segments. It reads one piece after another, and each piece
ends where a segment does: what is written for it is what the normal forms of the segments have in
its place (`copied_piece`). So the scan gives the normal forms of all segments, or the first word of
the code that is refused (`normalize_eq`).

Key definitions: `Source.Copied`, `Source.verdict`, `Source.render`.
Key theorems: `Source.copied_piece`, `Source.scan_eq`, `Source.normalize_eq`,
`Source.normalize_ok`.
-/
namespace ReactiveTree.Source

variable {r : Region} {c : Char} {cs run : List Char} {segs : List Segment}

/-! ### Pieces -/

theorem words_addFront (h : segs.head?.map (·.region) = some r)
    (hc : r = .code → isIdentifierChar c = false) : words (addFront c segs) = words segs := by
  cases segs with
  | nil => cases h
  | cons s rest =>
    obtain rfl : s.region = r := Option.some.inj h
    rw [addFront, words_cons, words_cons]
    by_cases hcode : s.region = .code
    · have hruns : (runs (c :: s.body)).filter isWord = (runs s.body).filter isWord := by
        rw [runs_cons_of_neg (hc hcode)]
        rfl
      simp only [hruns]
    · rw [if_neg hcode, if_neg hcode]

/-- A piece of a text that starts inside a region has been read, and code follows. -/
structure Copied (r : Region) (cs : List Char) (p : Piece) : Prop where
  written : continued (normalCut r cs) =
    p.written ++ continued (normalCut .code (cs.drop p.length))
  words : words (cut r cs) = Source.words (cut .code (cs.drop p.length))

namespace Copied

variable {p : Piece}

theorem ends (r : Region) : Copied r [] ⟨[], 0⟩ := by
  constructor
  · rw [normalCut, cut_nil]
    cases r <;> rfl
  · rw [cut_nil]
    cases r <;> rfl

theorem closes (h : r.closing ≠ []) (cs : List Char) :
    Copied r (r.closing ++ cs) ⟨(normalRegion r).closing, r.closing.length⟩ := by
  have hr : r ≠ .code := by
    rintro rfl
    exact h rfl
  constructor
  · rw [normalCut_closing h, continued, flatMap_written (region_head_normalCut .code cs),
      List.drop_left]
    rfl
  · rw [cut_closing h, words_cons, if_neg hr, List.drop_left, List.nil_append]

/-- Characters in front, for which something is written. -/
theorem after (taken out : List Char) (h : Copied r cs p)
    (htext : continued (normalCut r (taken ++ cs)) = out ++ continued (normalCut r cs))
    (hwords : Source.words (cut r (taken ++ cs)) = Source.words (cut r cs)) :
    Copied r (taken ++ cs) (p.after out taken.length) := by
  have hdrop : (taken ++ cs).drop (p.length + taken.length) = cs.drop p.length := by
    rw [Nat.add_comm, ← List.drop_drop, List.drop_left]
  constructor
  · rw [htext, h.written, Piece.after, hdrop, List.append_assoc]
  · rw [hwords, h.words, Piece.after, hdrop]

theorem stays (h : Copied r cs p) (hr : r ≠ .code) (hs : Stays r c cs) {out : List Char}
    (htext : continued (normalCut r (c :: cs)) = out ++ continued (normalCut r cs)) :
    Copied r (c :: cs) (p.after out 1) := by
  refine h.after [c] out htext ?_
  rw [List.singleton_append, cut_of_stays hs]
  exact words_addFront (region_head_cut r cs) fun hcode => absurd hcode hr

theorem escape (h : Copied r cs p) (hq : r.quote?.isSome = true) {out : List Char}
    (htext : continued (normalCut r ('\\' :: c :: cs)) = out ++ continued (normalCut r cs)) :
    Copied r ('\\' :: c :: cs) (p.after out 2) := by
  have hr : r ≠ .code := by
    rintro rfl
    cases hq
  refine h.after ['\\', c] out htext ?_
  have hhead := (region_head_addFront c _).trans (region_head_cut r cs)
  rw [List.cons_append, List.singleton_append, cut_escape hq,
    words_addFront hhead fun hcode => absurd hcode hr,
    words_addFront (region_head_cut r cs) fun hcode => absurd hcode hr]

end Copied

theorem continued_normalCut_addFront (c : Char) (r : Region) (cs : List Char) :
    continued (addFront c (normalCut r cs)) = c :: continued (normalCut r cs) :=
  continued_addFront c (normalCut_ne_nil r cs)

theorem continued_normalCut_addFront₂ (c d : Char) (r : Region) (cs : List Char) :
    continued (addFront c (addFront d (normalCut r cs))) = c :: d :: continued (normalCut r cs) := by
  rw [continued_addFront c (addFront_ne_nil d (normalCut_ne_nil r cs)),
    continued_normalCut_addFront]

/-- Where no escape stands, a backslash can only come last. -/
theorem keeps_of_not_escape (h : ∀ d ds, c = '\\' → cs = d :: ds → False) :
    c ≠ '\\' ∨ cs = [] := by
  rw [or_iff_not_imp_left, not_not]
  intro hslash
  cases cs with
  | nil => rfl
  | cons d ds => exact (h d ds hslash rfl).elim

theorem stays_literal {q : Char} (hq : r.quote? = some q) (hc : c ≠ q)
    (hescape : ∀ d ds, c = '\\' → cs = d :: ds → False) : Stays r c cs := by
  have hkeeps := keeps_of_not_escape hescape
  have hquote : r.quote? ≠ some c := fun h => hc (Option.some.inj (h.symm.trans hq))
  cases r with
  | single => exact ⟨hquote, hkeeps⟩
  | double => exact ⟨hquote, hkeeps⟩
  | backtick => exact ⟨hquote, hkeeps⟩
  | code => cases hq
  | lineComment => cases hq
  | blockComment => cases hq

/-- A literal in single quotes is written in double quotes. -/
theorem copied_singleRest (cs : List Char) : Copied .single cs (singleRest cs) := by
  induction cs using singleRest.induct with
  | case1 => exact .ends .single
  | case2 cs => exact .closes (r := .single) (List.cons_ne_nil _ _) cs
  | case3 c cs ih =>
    refine ih.escape rfl ?_
    rw [normalCut_single_escape]
    split
    · exact continued_normalCut_addFront c .single cs
    · exact continued_normalCut_addFront₂ '\\' c .single cs
  | case4 c cs hquote hescape ih =>
    have hstays : Stays .single c cs := stays_literal rfl hquote hescape
    rw [singleRest.eq_4 c cs hquote hescape]
    refine ih.stays (by decide) hstays ?_
    rw [normalCut_single hstays]
    split
    · exact continued_normalCut_addFront₂ '\\' c .single cs
    · exact continued_normalCut_addFront c .single cs

/-- Another literal is copied. -/
theorem copied_quotedRest {q : Char} (hq : r.quote? = some q) (hr : r ≠ .single) (cs : List Char) :
    Copied r cs (quotedRest q cs) := by
  have hsome : r.quote?.isSome = true := by rw [hq]; rfl
  have hcode : r ≠ .code := by
    rintro rfl
    cases hq
  have hclosing : r.closing = [q] ∧ (normalRegion r).closing = [q] := by
    cases r with
    | single => exact absurd rfl hr
    | double => exact ⟨congrArg Option.toList hq, congrArg Option.toList hq⟩
    | backtick => exact ⟨congrArg Option.toList hq, congrArg Option.toList hq⟩
    | code => cases hq
    | lineComment => cases hq
    | blockComment => cases hq
  induction cs using quotedRest.induct q with
  | case1 => exact .ends r
  | case2 c cs ih =>
    refine ih.escape hsome ?_
    rw [normalCut_escape hsome hr]
    exact continued_normalCut_addFront₂ '\\' c r cs
  | case3 cs hescape =>
    have hcloses := Copied.closes (r := r) (by simp [hclosing]) cs
    rw [hclosing.1, hclosing.2] at hcloses
    rw [quotedRest.eq_3 q q cs hescape, if_pos rfl]
    exact hcloses
  | case4 c cs hescape hc ih =>
    have hstays : Stays r c cs := stays_literal hq hc hescape
    rw [quotedRest.eq_3 q c cs hescape, if_neg hc]
    refine ih.stays hcode hstays ?_
    rw [normalCut_of_stays hcode hr hstays]
    exact continued_normalCut_addFront c r cs

theorem copied_lineRest (cs : List Char) : Copied .lineComment cs (lineRest cs) := by
  induction cs with
  | nil => exact .ends .lineComment
  | cons c cs ih =>
    by_cases hc : c = '\n'
    · subst hc
      constructor
      · have hfront := (region_head_addFront '\n' _).trans (region_head_normalCut .code cs)
        have hcode : normalCut .code ('\n' :: cs) = addFront '\n' (normalCut .code cs) :=
          normalCut_code (stays_of_not_slash rfl (by decide) cs) fun _ h => by simp at h
        rw [normalCut_lineEnd, continued, flatMap_written hfront]
        exact congrArg continued hcode.symm
      · rw [cut_lineEnd, words_cons, if_neg (by decide), List.nil_append]
        exact congrArg words (cut_of_stays (stays_of_not_slash rfl (by decide) cs)).symm
    · have hstays : Stays .lineComment c cs := hc
      have hrest : lineRest (c :: cs) = (lineRest cs).after [c] 1 := by
        have hline : (c :: cs).takeWhile (· != '\n') = c :: cs.takeWhile (· != '\n') :=
          List.takeWhile_cons_of_pos (by simpa using hc)
        simp only [lineRest, hline]
        rfl
      rw [hrest]
      refine ih.stays (by decide) hstays ?_
      rw [normalCut_of_stays (by decide) (by decide) hstays]
      exact continued_normalCut_addFront c .lineComment cs

theorem copied_blockRest (cs : List Char) : Copied .blockComment cs (blockRest cs) := by
  induction cs using blockRest.induct with
  | case1 => exact .ends .blockComment
  | case2 cs => exact .closes (r := .blockComment) (List.cons_ne_nil _ _) cs
  | case3 c cs hclose ih =>
    have hstays : Stays .blockComment c cs := by
      rintro ⟨rfl, hhead⟩
      obtain ⟨rest, rfl⟩ := eq_cons_of_head? hhead
      exact hclose rest rfl rfl
    rw [blockRest.eq_3 c cs hclose]
    refine ih.stays (by decide) hstays ?_
    rw [normalCut_of_stays (by decide) (by decide) hstays]
    exact continued_normalCut_addFront c .blockComment cs

/-- What opens in code is written with its normal opening. -/
theorem Copied.opening {p : Piece} (h : Copied r cs p) (hr : r ≠ .code) :
    Copied .code (r.opening ++ cs) (p.after (normalRegion r).opening r.opening.length) := by
  have hdrop : (r.opening ++ cs).drop (p.length + r.opening.length) = cs.drop p.length := by
    rw [Nat.add_comm, ← List.drop_drop, List.drop_left]
  constructor
  · rw [normalCut_opening hr, continued, flatMap_written (region_head_normalCut r cs), h.written,
      Piece.after, hdrop, List.append_assoc]
    rfl
  · rw [cut_opening hr, words_cons, Piece.after, hdrop, ← h.words]
    rfl

theorem Copied.here (cs : List Char) : Copied .code cs ⟨[], 0⟩ := ⟨rfl, rfl⟩

theorem copied_strict (hc : c = '=' ∨ c = '!') (cs : List Char) :
    Copied .code (c :: '=' :: '=' :: cs) ⟨[c, '='], 3⟩ := by
  have hid : isIdentifierChar c = false := by
    rcases hc with rfl | rfl
    · exact not_isIdentifierChar_equals
    · exact not_isIdentifierChar_not
  have hequals : ∀ segs : List Segment, segs.head?.map (·.region) = some .code →
      words (addFront '=' segs) = words segs :=
    fun segs h => words_addFront h fun _ => not_isIdentifierChar_equals
  have hhead := region_head_cut .code cs
  have hhead' := (region_head_addFront '=' _).trans hhead
  refine (Copied.here cs).after [c, '=', '='] [c, '='] ?_ ?_
  · exact (congrArg continued (normalCut_strict hc cs)).trans
      (continued_normalCut_addFront₂ c '=' .code cs)
  · have hcut : cut .code ([c, '=', '='] ++ cs) =
        addFront c (addFront '=' (addFront '=' (cut .code cs))) := by
      rw [← cut_equality, ← cut_equality]
      exact cut_of_stays (stays_equality hc _)
    rw [hcut, words_addFront ((region_head_addFront '=' _).trans hhead') fun _ => hid,
      hequals _ hhead', hequals _ hhead]

theorem copied_plain (hc : isIdentifierChar c = false) (hs : Stays .code c cs)
    (hplain : ∀ rest, ¬ ((c = '=' ∨ c = '!') ∧ cs = '=' :: '=' :: rest)) :
    Copied .code (c :: cs) ⟨[c], 1⟩ := by
  refine (Copied.here cs).after [c] [c] ?_ ?_
  · rw [List.singleton_append, normalCut_code hs hplain]
    exact continued_normalCut_addFront c .code cs
  · rw [List.singleton_append, cut_of_stays hs]
    exact words_addFront (region_head_cut .code cs) fun _ => hc

/-- **A piece of code ends where a segment does**, and is written in its normal form. -/
theorem copied_piece (hc : isIdentifierChar c = false) (cs : List Char) :
    Copied .code (c :: cs) (piece c cs) := by
  unfold piece
  cases hq : Region.ofQuote? c with
  | some r =>
    have hquote := quote?_of_ofQuote? hq
    cases r with
    | single =>
      obtain rfl : '\'' = c := Option.some.inj hquote
      exact (copied_singleRest cs).opening (by decide)
    | double =>
      obtain rfl : '"' = c := Option.some.inj hquote
      exact (copied_quotedRest hquote (by decide) cs).opening (by decide)
    | backtick =>
      obtain rfl : Char.ofNat 96 = c := Option.some.inj hquote
      exact (copied_quotedRest hquote (by decide) cs).opening (by decide)
    | code => cases hquote
    | lineComment => cases hquote
    | blockComment => cases hquote
  | none =>
    dsimp only
    split
    · exact (copied_lineRest _).opening (by decide)
    · exact (copied_blockRest _).opening (by decide)
    · exact copied_strict (.inl rfl) _
    · exact copied_strict (.inr rfl) _
    · rename_i hline hblock hequal hnot
      refine copied_plain hc (opens?_eq_none.mpr ⟨hq, fun hslash => ?_⟩) ?_
      · refine ⟨fun hhead => ?_, fun hhead => ?_⟩
        · obtain ⟨rest, rfl⟩ := eq_cons_of_head? hhead
          exact hline rest hslash rfl
        · obtain ⟨rest, rfl⟩ := eq_cons_of_head? hhead
          exact hblock rest hslash rfl
      · rintro rest ⟨rfl | rfl, rfl⟩
        · exact hequal rest rfl rfl
        · exact hnot rest rfl rfl

theorem length_piece_pos (c : Char) (cs : List Char) : 0 < (piece c cs).length := by
  unfold piece
  split
  · exact Nat.succ_pos _
  · exact Nat.succ_pos _
  · split <;> exact Nat.succ_pos _

/-! ### Words -/

/-- The first of some words that is refused, or whether one of them is `root`. -/
def verdict (ws : List String) : Except String Bool :=
  match ws.find? disallowed.contains with
  | some w => .error w
  | none => .ok (ws.contains "root")

/-- A run goes on to the first character that is no part of an identifier. -/
theorem runs_append {body : List Char} : ∀ {run : List Char},
    (∀ c ∈ run, isIdentifierChar c = true) → body.takeWhile isIdentifierChar = [] →
      runs (run ++ body) = run :: (runs body).tail
  | [], _, hbody => by
    rw [List.nil_append]
    conv_lhs => rw [runs_eq, hbody]
  | c :: run, hrun, hbody => by
    obtain ⟨hc, hrest⟩ := List.forall_mem_cons.mp hrun
    have hfirst : (run ++ body).takeWhile isIdentifierChar = run := by
      rw [List.takeWhile_append_of_pos hrest, hbody, List.append_nil]
    rw [List.cons_append, runs_cons_of_pos hc, runs_append hrest hbody, hfirst, List.tail_cons]

/-- Some segments with a run in front of them. -/
def withRun (run : List Char) (segs : List Segment) : List Segment := run.foldr addFront segs

theorem withRun_cons (run : List Char) (s : Segment) (rest : List Segment) :
    withRun run (s :: rest) = { s with body := run ++ s.body } :: rest := by
  induction run with
  | nil => rfl
  | cons c run ih =>
    rw [withRun, List.foldr_cons]
    exact congrArg (addFront c) ih

/-! ### Scanning -/

theorem scan_skip : ∀ (n : Nat) (run cs : List Char), scan n run cs = scan 0 run (cs.drop n)
  | 0, _, _ => rfl
  | n + 1, run, [] => by rw [List.drop_nil, scan, scan]
  | n + 1, run, c :: cs => by
    rw [scan, scan_skip n run cs, List.drop_succ_cons]

/-- Code with no identifier at its start. -/
theorem takeWhile_of_cut (hc : isIdentifierChar c = false) {body : List Char} {closed : Bool}
    (hcut : cut .code (c :: cs) = ⟨.code, body, closed⟩ :: segs) :
    body.takeWhile isIdentifierChar = [] := by
  cases body with
  | nil => rfl
  | cons d body =>
    have htext := continued_cut .code (c :: cs)
    rw [hcut, continued, List.cons_append] at htext
    rw [(List.cons.inj htext).1, List.takeWhile_cons_of_neg (Bool.eq_false_iff.mp hc)]

theorem filter_runs_tail {body : List Char} (h : body.takeWhile isIdentifierChar = []) :
    (runs body).tail.filter isWord = (runs body).filter isWord := by
  conv_rhs => rw [runs_eq, h]
  rfl

theorem filter_cons_isWord (rest : List (List Char)) :
    ((run :: rest).filter isWord).map String.ofList =
      wordOf run ++ (rest.filter isWord).map String.ofList := by
  rw [List.filter_cons, wordOf]
  split <;> rfl

/-- The words of code with a run in front that ends there. -/
theorem words_withRun (hrun : ∀ c ∈ run, isIdentifierChar c = true)
    (hc : isIdentifierChar c = false) (cs : List Char) :
    words (withRun run (cut .code (c :: cs))) = wordOf run ++ words (cut .code (c :: cs)) := by
  obtain ⟨body, closed, rest, hcut⟩ := exists_cut .code (c :: cs)
  have hbody := takeWhile_of_cut hc hcut
  rw [hcut, withRun_cons, words_cons, words_cons, if_pos rfl, if_pos rfl,
    runs_append hrun hbody, filter_cons_isWord, filter_runs_tail hbody, List.append_assoc]

/-- The words of code that is nothing but a run. -/
theorem words_withRun_nil (hrun : ∀ c ∈ run, isIdentifierChar c = true) :
    words (withRun run (cut .code [])) = wordOf run := by
  have hruns : runs (run ++ []) = [run] := runs_append hrun rfl
  rw [cut_nil, withRun_cons, words_cons, if_pos rfl, hruns, filter_cons_isWord]
  simp [words]

/-- A character of an identifier is no delimiter and no sign. -/
theorem ne_of_isIdentifierChar {d : Char} (hc : isIdentifierChar c = true)
    (hd : isIdentifierChar d = false) : c ≠ d := by
  rintro rfl
  rw [hc] at hd
  cases hd

theorem stays_of_isIdentifierChar (hc : isIdentifierChar c = true) (cs : List Char) :
    Stays .code c cs := by
  refine stays_of_not_slash ?_ (ne_of_isIdentifierChar hc (by decide)) cs
  rw [Option.eq_none_iff_forall_ne_some]
  intro r hr
  have hquote := quote?_of_ofQuote? hr
  cases r with
  | single => exact ne_of_isIdentifierChar hc (by decide) (Option.some.inj hquote).symm
  | double => exact ne_of_isIdentifierChar hc (by decide) (Option.some.inj hquote).symm
  | backtick => exact ne_of_isIdentifierChar hc (by decide) (Option.some.inj hquote).symm
  | code => cases hquote
  | lineComment => cases hquote
  | blockComment => cases hquote

theorem normalCut_of_isIdentifierChar (hc : isIdentifierChar c = true) (cs : List Char) :
    normalCut .code (c :: cs) = addFront c (normalCut .code cs) := by
  refine normalCut_code (stays_of_isIdentifierChar hc cs) ?_
  rintro rest ⟨hsign, -⟩
  rcases hsign with rfl | rfl
  · exact ne_of_isIdentifierChar hc not_isIdentifierChar_equals rfl
  · exact ne_of_isIdentifierChar hc not_isIdentifierChar_not rfl

/-- **The scan gives the normal forms of the segments**, and the words of their code. -/
theorem scan_eq (hrun : ∀ c ∈ run, isIdentifierChar c = true) (cs : List Char) : scan 0 run cs =
    ⟨continued (normalCut .code cs), words (withRun run (cut .code cs))⟩ := by
  -- A piece takes many characters at once, so the induction is on the length.
  induction hn : cs.length using Nat.strongRecOn generalizing run cs with
  | _ n ih =>
    subst hn
    cases cs with
    | nil =>
      rw [scan, words_withRun_nil hrun]
      rfl
    | cons c cs =>
      rw [scan]
      split
      · rename_i hc
        have hrun' : ∀ d ∈ run ++ [c], isIdentifierChar d = true := by
          simpa [or_imp, forall_and] using ⟨hrun, hc⟩
        have hwith : withRun run (cut .code (c :: cs)) = withRun (run ++ [c]) (cut .code cs) := by
          rw [cut_of_stays (stays_of_isIdentifierChar hc cs), withRun, withRun, List.foldr_append]
          rfl
        rw [ih cs.length (Nat.lt_succ_self _) hrun' cs rfl, hwith,
          normalCut_of_isIdentifierChar hc, continued_normalCut_addFront]
      · rename_i hc
        rw [Bool.not_eq_true] at hc
        obtain ⟨hwritten, hwords⟩ := copied_piece hc cs
        obtain ⟨k, hk⟩ := Nat.exists_eq_add_of_lt (length_piece_pos c cs)
        rw [Nat.zero_add] at hk
        rw [hk, List.drop_succ_cons] at hwritten hwords
        have hshorter : (cs.drop k).length < (c :: cs).length := by
          rw [List.length_drop, List.length_cons]
          omega
        have hlater : scan 0 [] (cs.drop k) =
            ⟨continued (normalCut .code (cs.drop k)), words (cut .code (cs.drop k))⟩ :=
          ih _ hshorter (by simp) (cs.drop k) rfl
        rw [words_withRun hrun hc, hwritten, hwords]
        simp only [hk, Nat.add_sub_cancel, scan_skip k, hlater]

/-- What is written for some segments, unless a word of their code is refused. -/
def render (segs : List Segment) : Except String Normalized :=
  (verdict (words segs)).map fun root =>
    ⟨String.ofList (segs.flatMap fun s => written (normalSegment s)), root⟩

/-- **What a source is turned into.** The normal forms of its segments are written, unless a word of
its code is refused. -/
theorem normalize_eq (source : String) : normalize source = render (segments source) := by
  have hscan : scan 0 [] source.toList =
      ⟨continued (normalCut .code source.toList), words (segments source)⟩ :=
    scan_eq (by simp) source.toList
  rw [normalize, hscan, render, flatMap_written_normal, verdict]
  cases (words (segments source)).find? disallowed.contains <;> rfl

theorem verdict_eq_ok_iff {ws : List String} {root : Bool} :
    verdict ws = .ok root ↔ (∀ w ∈ ws, w ∉ disallowed) ∧ root = ws.contains "root" := by
  have hallowed : ws.find? disallowed.contains = none ↔ ∀ w ∈ ws, w ∉ disallowed := by
    simp only [List.find?_eq_none, List.contains_iff_mem]
  unfold verdict
  rw [← hallowed]
  cases ws.find? disallowed.contains with
  | some w => simp
  | none => simp [eq_comm]

/-- An accepted source, segment by segment. -/
theorem normalize_ok {source : String} {n : Normalized} (h : normalize source = .ok n) :
    segments n.text = (segments source).map normalSegment ∧
      (∀ w ∈ words (segments source), w ∉ disallowed) ∧
      n.readsRoot = (words (segments source)).contains "root" := by
  rw [normalize_eq, render] at h
  cases hv : verdict (words (segments source)) with
  | error w =>
    rw [hv] at h
    cases h
  | ok root =>
    rw [hv] at h
    obtain rfl := Except.ok.inj h
    refine ⟨?_, verdict_eq_ok_iff.mp hv⟩
    rw [segments, String.toList_ofList]
    exact segments_normal source

end ReactiveTree.Source
