import ReactiveTree.Proofs.Snippet.Segments

/-!
# Normal forms and their segments

What normalization writes is cut again into the normal forms of the segments of the source, one for
one (`segments_normal`): neither a changed literal nor a changed symbol moves the place where
another segment starts. The words of the code stay the same (`words_normal`).

Key definitions: `Source.normalRegion`, `Source.normalBody`, `Source.normalCut`, `Source.CutAlike`.
Key theorems: `Source.cut_normal`, `Source.segments_normal`, `Source.words_normal`.
-/
namespace ReactiveTree.Source

variable {r : Region} {c : Char} {cs : List Char} {segs : List Segment}

/-! ### Normal forms are cut like their sources -/

def normalRegion : Region → Region
  | .single => .double
  | r => r

def normalBody : Region → List Char → List Char
  | .code => plainEqualities
  | .single => requote
  | _ => id

theorem normalSegment_eq (s : Segment) :
    normalSegment s = ⟨normalRegion s.region, normalBody s.region s.body, s.closed⟩ := by
  obtain ⟨region, body, closed⟩ := s
  cases region <;> rfl

/-- The normal forms of the segments of a text. -/
def normalCut (r : Region) (cs : List Char) : List Segment := (cut r cs).map normalSegment

theorem normalCut_ne_nil (r : Region) (cs : List Char) : normalCut r cs ≠ [] := by
  rw [normalCut, ne_eq, List.map_eq_nil_iff]
  exact cut_ne_nil r cs

theorem region_head_normalCut (r : Region) (cs : List Char) :
    (normalCut r cs).head?.map (·.region) = some (normalRegion r) := by
  obtain ⟨body, closed, rest, h⟩ := exists_cut r cs
  rw [normalCut, h, List.map_cons, normalSegment_eq]
  rfl

theorem normalCut_opening (h : r ≠ .code) (cs : List Char) :
    normalCut .code (r.opening ++ cs) = ⟨.code, [], true⟩ :: normalCut r cs := by
  rw [normalCut, cut_opening h, List.map_cons]
  rfl

theorem normalCut_closing (h : r.closing ≠ []) (cs : List Char) :
    normalCut r (r.closing ++ cs) = ⟨normalRegion r, [], true⟩ :: normalCut .code cs := by
  rw [normalCut, cut_closing h, List.map_cons]
  cases r <;> rfl

/-- A character that the normal form keeps stays in front. -/
theorem map_addFront (hc : ∀ body, normalBody r (c :: body) = c :: normalBody r body)
    (h : segs.head?.map (·.region) = some r) :
    (addFront c segs).map normalSegment = addFront c (segs.map normalSegment) := by
  cases segs with
  | nil => cases h
  | cons s rest =>
    obtain rfl : s.region = r := Option.some.inj h
    rw [addFront, List.map_cons, List.map_cons, normalSegment_eq, normalSegment_eq, hc, addFront]

theorem normalCut_lineEnd (cs : List Char) : normalCut .lineComment ('\n' :: cs) =
    ⟨.lineComment, [], true⟩ :: addFront '\n' (normalCut .code cs) := by
  rw [normalCut, cut_lineEnd, List.map_cons, map_addFront (fun _ => rfl) (region_head_cut .code cs)]
  rfl

theorem head?_plainEqualities (c : Char) (cs : List Char) :
    (plainEqualities (c :: cs)).head? = some c := by
  unfold plainEqualities
  split <;> rename_i heq
  · rw [(List.cons.inj heq).1]
    rfl
  · rw [(List.cons.inj heq).1]
    rfl
  · rw [(List.cons.inj heq).1]
    rfl
  · cases heq

/-- A character in front of a segment stays in front, unless a quote is put there. -/
theorem head?_addFront (hr : r ≠ .single) (h : segs.head?.map (·.region) = some r) (c : Char) :
    (continued ((addFront c segs).map normalSegment)).head? = some c := by
  cases segs with
  | nil => cases h
  | cons s rest =>
    obtain rfl : s.region = r := Option.some.inj h
    have hbody : (normalBody s.region (c :: s.body)).head? = some c := by
      cases hregion : s.region with
      | code => exact head?_plainEqualities c s.body
      | single => exact absurd hregion hr
      | double => rfl
      | backtick => rfl
      | lineComment => rfl
      | blockComment => rfl
    rw [addFront, List.map_cons, normalSegment_eq, continued, List.head?_append, hbody]
    rfl

/-- The first character of a normal form is that of the text, unless a quote takes its place. -/
theorem head?_of_normalCut (hr : r ≠ .single) {d : Char} (hd : d ≠ '"')
    (h : (continued (normalCut r cs)).head? = some d) : cs.head? = some d := by
  cases move r cs with
  | ends =>
    rw [normalCut, cut_nil] at h
    cases r <;> cases h
  | @opens r' hr' cs =>
    rw [normalCut_opening hr', continued, flatMap_written (region_head_normalCut r' cs)] at h
    cases r' with
    | code => exact absurd rfl hr'
    | single => exact absurd (Option.some.inj h).symm hd
    | double => exact h
    | backtick => exact h
    | lineComment => exact h
    | blockComment => exact h
  | closes hc cs =>
    rw [normalCut_closing hc, continued, flatMap_written (region_head_normalCut .code cs)] at h
    cases r with
    | single => exact absurd rfl hr
    | code => exact absurd rfl hc
    | lineComment => exact absurd rfl hc
    | double => exact h
    | backtick => exact h
    | blockComment => exact h
  | lineEnd cs =>
    have hfront := (region_head_addFront '\n' _).trans (region_head_normalCut .code cs)
    rw [normalCut_lineEnd, continued, flatMap_written hfront,
      continued_addFront _ (normalCut_ne_nil .code cs)] at h
    exact h
  | escape hq c cs =>
    have hfront := (region_head_addFront c _).trans (region_head_cut r cs)
    rw [normalCut, cut_escape hq] at h
    exact (head?_addFront hr hfront '\\').symm.trans h
  | @stays _ c cs hs =>
    rw [normalCut, cut_of_stays hs] at h
    exact (head?_addFront hr (region_head_cut r cs) c).symm.trans h

/-- Code whose normal form starts with the same character is not opened by it either. -/
theorem stays_code_normal (h : Stays .code c cs) :
    Stays .code c (continued (normalCut .code cs)) := by
  obtain ⟨hquote, hslash⟩ := opens?_eq_none.mp h
  refine opens?_eq_none.mpr ⟨hquote, fun hc => ⟨fun hhead => ?_, fun hhead => ?_⟩⟩
  · exact (hslash hc).1 (head?_of_normalCut (r := .code) (by decide) (by decide) hhead)
  · exact (hslash hc).2 (head?_of_normalCut (r := .code) (by decide) (by decide) hhead)

theorem plainEqualities_plain (h : ∀ rest, ¬ ((c = '=' ∨ c = '!') ∧ cs = '=' :: '=' :: rest)) :
    plainEqualities (c :: cs) = c :: plainEqualities cs := by
  rw [plainEqualities]
  · rintro rest rfl rfl
    exact h rest ⟨.inl rfl, rfl⟩
  · rintro rest rfl rfl
    exact h rest ⟨.inr rfl, rfl⟩

/-- Equality and exclamation signs stay in code. -/
theorem stays_equality (hc : c = '=' ∨ c = '!') (cs : List Char) : Stays .code c cs := by
  rcases hc with rfl | rfl
  · exact stays_of_not_slash rfl (by decide) cs
  · exact stays_of_not_slash rfl (by decide) cs

theorem cut_equality (cs : List Char) : cut .code ('=' :: cs) = addFront '=' (cut .code cs) :=
  cut_of_stays (stays_equality (.inl rfl) cs)

/-- A third sign is dropped behind the first two of an equality or inequality. -/
theorem normalCut_strict (hc : c = '=' ∨ c = '!') (cs : List Char) :
    normalCut .code (c :: '=' :: '=' :: cs) = addFront c (addFront '=' (normalCut .code cs)) := by
  obtain ⟨body, closed, rest, hcut⟩ := exists_cut .code cs
  have hbody : plainEqualities (c :: '=' :: '=' :: body) = c :: '=' :: plainEqualities body := by
    rcases hc with rfl | rfl <;> rfl
  rw [normalCut, normalCut, cut_of_stays (stays_equality hc _), cut_equality, cut_equality, hcut]
  simp only [addFront, List.map_cons, normalSegment, hbody]

/-- Every other character of code stays in front. -/
theorem normalCut_code (hs : Stays .code c cs)
    (h : ∀ rest, ¬ ((c = '=' ∨ c = '!') ∧ cs = '=' :: '=' :: rest)) :
    normalCut .code (c :: cs) = addFront c (normalCut .code cs) := by
  obtain ⟨body, closed, rest, hcut⟩ := exists_cut .code cs
  have hbody : plainEqualities (c :: body) = c :: plainEqualities body := by
    refine plainEqualities_plain ?_
    rintro more ⟨hc, rfl⟩
    have htext := continued_cut .code cs
    rw [hcut, continued] at htext
    exact h _ ⟨hc, htext.symm⟩
  rw [normalCut, normalCut, cut_of_stays hs, hcut]
  simp only [addFront, List.map_cons, normalSegment, hbody]

/-- An escape stays as it is in the literals that are copied. -/
theorem normalCut_escape (hq : r.quote?.isSome = true) (hr : r ≠ .single) (c : Char)
    (cs : List Char) :
    normalCut r ('\\' :: c :: cs) = addFront '\\' (addFront c (normalCut r cs)) := by
  have hverbatim : ∀ d body, normalBody r (d :: body) = d :: normalBody r body := by
    intro d body
    cases r <;> first | exact absurd rfl hr | rfl | cases hq
  have hhead := region_head_cut r cs
  rw [normalCut, cut_escape hq,
    map_addFront (hverbatim _) ((region_head_addFront c _).trans hhead),
    map_addFront (hverbatim _) hhead]
  rfl

/-- A single quote needs no escape in double quotes. -/
theorem normalCut_single_escape (c : Char) (cs : List Char) :
    normalCut .single ('\\' :: c :: cs) =
      if c = '\'' then addFront c (normalCut .single cs)
      else addFront '\\' (addFront c (normalCut .single cs)) := by
  obtain ⟨body, closed, rest, hcut⟩ := exists_cut .single cs
  rw [normalCut, normalCut, cut_escape rfl, hcut]
  simp only [addFront, List.map_cons, normalSegment, requote]
  split <;> rfl

/-- A double quote is escaped, and every other character stays. -/
theorem normalCut_single (hs : Stays .single c cs) : normalCut .single (c :: cs) =
    if c = '"' then addFront '\\' (addFront c (normalCut .single cs))
    else addFront c (normalCut .single cs) := by
  have hescape := hs.2
  obtain ⟨body, closed, rest, hcut⟩ := exists_cut .single cs
  have hbody : requote (c :: body) =
      if c = '"' then '\\' :: c :: requote body else c :: requote body := by
    split
    · rename_i hc
      rw [hc]
      rfl
    · rename_i hc
      rw [requote]
      · rintro d more rfl rfl
        rcases hescape with hne | rfl
        · exact hne rfl
        · rw [cut_nil] at hcut
          cases hcut
      · exact hc
  rw [normalCut, normalCut, cut_of_stays hs, hcut]
  simp only [addFront, List.map_cons, normalSegment, hbody]
  split <;> rfl

/-- The normal form of a text is cut into the normal forms of its segments. -/
def CutAlike (r : Region) (cs : List Char) : Prop :=
  cut (normalRegion r) (continued (normalCut r cs)) = normalCut r cs

theorem CutAlike.opening (hr : r ≠ .code) (h : CutAlike r cs) :
    CutAlike .code (r.opening ++ cs) := by
  have hcode : normalRegion r ≠ .code := by
    cases r <;> first | exact absurd rfl hr | decide
  rw [CutAlike, normalCut_opening hr, continued, flatMap_written (region_head_normalCut r cs)]
  exact (cut_opening hcode _).trans (congrArg _ h)

theorem CutAlike.closing (hc : r.closing ≠ []) (h : CutAlike .code cs) :
    CutAlike r (r.closing ++ cs) := by
  have hclosing : (normalRegion r).closing ≠ [] := by
    cases r <;> first | exact absurd rfl hc | exact List.cons_ne_nil _ _
  rw [CutAlike, normalCut_closing hc, continued, flatMap_written (region_head_normalCut .code cs)]
  exact (cut_closing hclosing _).trans (congrArg _ h)

theorem CutAlike.lineEnd (h : CutAlike .code cs) : CutAlike .lineComment ('\n' :: cs) := by
  have hfront := (region_head_addFront '\n' _).trans (region_head_normalCut .code cs)
  rw [CutAlike, normalCut_lineEnd, continued, flatMap_written hfront,
    continued_addFront _ (normalCut_ne_nil .code cs)]
  exact (cut_lineEnd _).trans (congrArg (_ :: addFront '\n' ·) h)

/-- A character that the normal form has in front, and that stays there. -/
theorem CutAlike.front {text : List Char}
    (hstays : Stays (normalRegion r) c (continued (normalCut r cs)))
    (hfront : normalCut r text = addFront c (normalCut r cs)) (h : CutAlike r cs) :
    CutAlike r text := by
  rw [CutAlike, hfront, continued_addFront c (normalCut_ne_nil r cs), cut_of_stays hstays, h]

/-- An escape that the normal form has in front. -/
theorem CutAlike.escaped {text : List Char} (hq : (normalRegion r).quote?.isSome = true)
    (hfront : normalCut r text = addFront '\\' (addFront c (normalCut r cs)))
    (h : CutAlike r cs) : CutAlike r text := by
  have hne := normalCut_ne_nil r cs
  rw [CutAlike, hfront, continued_addFront _ (addFront_ne_nil c hne), continued_addFront _ hne,
    cut_escape hq, h]

theorem CutAlike.escape (hq : r.quote?.isSome = true) (c : Char) (h : CutAlike r cs) :
    CutAlike r ('\\' :: c :: cs) := by
  by_cases hr : r = .single
  · subst hr
    by_cases hc : c = '\''
    · have hstays : Stays .double '\'' (continued (normalCut .single cs)) :=
        ⟨by decide, .inl (by decide)⟩
      refine h.front hstays ?_
      rw [normalCut_single_escape, if_pos hc, hc]
    · refine h.escaped (c := c) rfl ?_
      rw [normalCut_single_escape, if_neg hc]
  · have hquote : (normalRegion r).quote?.isSome = true := by
      cases r <;> first | exact absurd rfl hr | exact hq
    exact h.escaped hquote (normalCut_escape hq hr c cs)

/-- Two signs stay of a strict equality. -/
theorem CutAlike.strict (hc : c = '=' ∨ c = '!') (h : CutAlike .code cs) :
    CutAlike .code (c :: '=' :: '=' :: cs) := by
  have hne := normalCut_ne_nil .code cs
  rw [CutAlike, normalCut_strict hc, continued_addFront _ (addFront_ne_nil _ hne),
    continued_addFront _ hne]
  change cut .code _ = _
  rw [cut_of_stays (stays_equality hc _), cut_equality]
  exact congrArg (fun segs => addFront c (addFront '=' segs)) h

theorem CutAlike.single (hs : Stays .single c cs) (h : CutAlike .single cs) :
    CutAlike .single (c :: cs) := by
  by_cases hc : c = '"'
  · refine h.escaped (c := c) rfl ?_
    rw [normalCut_single hs, if_pos hc]
  · have hstays : Stays .double c (continued (normalCut .single cs)) :=
      ⟨fun h => hc (Option.some.inj h).symm, hs.2.imp id fun hnil => by rw [hnil]; rfl⟩
    refine h.front hstays ?_
    rw [normalCut_single hs, if_neg hc]

/-- What is copied stays where it stood: no opening, closing or escape is made or lost. -/
theorem stays_normal (hr : r ≠ .single) (hs : Stays r c cs) :
    Stays (normalRegion r) c (continued (normalCut r cs)) := by
  cases r with
  | code => exact stays_code_normal hs
  | single => exact absurd rfl hr
  | double => exact ⟨hs.1, hs.2.imp id fun hnil => by rw [hnil]; rfl⟩
  | backtick => exact ⟨hs.1, hs.2.imp id fun hnil => by rw [hnil]; rfl⟩
  | lineComment => exact hs
  | blockComment =>
    rintro ⟨hc, hhead⟩
    exact hs ⟨hc, head?_of_normalCut (r := .blockComment) (by decide) (by decide) hhead⟩

theorem normalCut_of_stays (hcode : r ≠ .code) (hsingle : r ≠ .single) (hs : Stays r c cs) :
    normalCut r (c :: cs) = addFront c (normalCut r cs) := by
  rw [normalCut, cut_of_stays hs]
  refine map_addFront (fun body => ?_) (region_head_cut r cs)
  cases r <;> first | rfl | exact absurd rfl hcode | exact absurd rfl hsingle

/-- **A normal form is cut into the normal forms of the segments of its source.** -/
theorem cut_normal (r : Region) (cs : List Char) : CutAlike r cs := by
  -- A strict equality takes three characters at once, so the induction is on the length.
  induction hn : cs.length using Nat.strongRecOn generalizing r cs with
  | _ n ih =>
    subst hn
    cases move r cs with
    | ends =>
      rw [CutAlike, normalCut, cut_nil]
      cases r <;> rfl
    | @opens r' hr' cs =>
      have hpos := List.length_pos_iff.mpr (opening_ne_nil hr')
      exact .opening hr' (ih cs.length (by rw [List.length_append]; omega) r' cs rfl)
    | closes hc cs =>
      have hpos := List.length_pos_iff.mpr hc
      exact .closing hc (ih cs.length (by rw [List.length_append]; omega) .code cs rfl)
    | lineEnd cs => exact .lineEnd (ih cs.length (Nat.lt_succ_self _) .code cs rfl)
    | escape hq c cs =>
      exact .escape hq c (ih cs.length (by simp only [List.length_cons]; omega) r cs rfl)
    | @stays _ c cs hs =>
      have hrest := ih cs.length (Nat.lt_succ_self _) r cs rfl
      by_cases hsingle : r = .single
      · subst hsingle
        exact hrest.single hs
      by_cases hcode : r = .code
      · subst hcode
        by_cases h : ∃ rest, (c = '=' ∨ c = '!') ∧ cs = '=' :: '=' :: rest
        · obtain ⟨rest, hc, rfl⟩ := h
          exact .strict hc (ih rest.length (by simp only [List.length_cons]; omega) .code rest rfl)
        · rw [not_exists] at h
          exact hrest.front (stays_normal (by decide) hs) (normalCut_code hs h)
      · exact hrest.front (stays_normal hsingle hs) (normalCut_of_stays hcode hsingle hs)

/-- What is written for a source. -/
theorem flatMap_written_normal (source : String) :
    (segments source).flatMap (fun s => written (normalSegment s)) =
      continued (normalCut .code source.toList) := by
  rw [← List.flatMap_map]
  exact flatMap_written (region_head_normalCut .code source.toList)

theorem segments_normal (source : String) :
    cut .code ((segments source).flatMap fun s => written (normalSegment s)) =
      (segments source).map normalSegment := by
  rw [flatMap_written_normal]
  exact cut_normal .code source.toList

/-! ### Words -/

theorem not_isIdentifierChar_equals : isIdentifierChar '=' = false := by decide

theorem not_isIdentifierChar_not : isIdentifierChar '!' = false := by decide

/-- Texts with the same first run and the same words behind it have the same words. -/
theorem filter_runs_congr {a b : List Char}
    (hhead : a.takeWhile isIdentifierChar = b.takeWhile isIdentifierChar)
    (htail : (runs a).tail.filter isWord = (runs b).tail.filter isWord) :
    (runs a).filter isWord = (runs b).filter isWord := by
  rw [runs_eq a, runs_eq b, hhead, List.filter_cons, List.filter_cons, htail]

/-- The equality signs that go stand between words. -/
theorem runs_plainEqualities (cs : List Char) :
    (plainEqualities cs).takeWhile isIdentifierChar = cs.takeWhile isIdentifierChar ∧
      (runs (plainEqualities cs)).tail.filter isWord = (runs cs).tail.filter isWord := by
  have hempty : ∀ rest, ([] :: rest).filter isWord = rest.filter isWord := fun _ => rfl
  induction cs using plainEqualities.induct with
  | case1 cs ih =>
    have heq := not_isIdentifierChar_equals
    refine ⟨rfl, ?_⟩
    simp only [plainEqualities, runs_cons_of_neg heq, List.tail_cons, hempty]
    exact filter_runs_congr ih.1 ih.2
  | case2 cs ih =>
    have heq := not_isIdentifierChar_equals
    refine ⟨rfl, ?_⟩
    simp only [plainEqualities, runs_cons_of_neg heq, runs_cons_of_neg not_isIdentifierChar_not,
      List.tail_cons, hempty]
    exact filter_runs_congr ih.1 ih.2
  | case3 c cs heq hne ih =>
    have hplain : plainEqualities (c :: cs) = c :: plainEqualities cs := by
      refine plainEqualities_plain ?_
      rintro rest ⟨rfl | rfl, hcs⟩
      · exact heq rest rfl hcs
      · exact hne rest rfl hcs
    rw [hplain]
    by_cases hc : isIdentifierChar c = true
    · rw [List.takeWhile_cons_of_pos hc, List.takeWhile_cons_of_pos hc, ih.1,
        runs_cons_of_pos hc, runs_cons_of_pos hc]
      exact ⟨rfl, ih.2⟩
    · rw [List.takeWhile_cons_of_neg hc, List.takeWhile_cons_of_neg hc,
        runs_cons_of_neg (Bool.eq_false_iff.mpr hc), runs_cons_of_neg (Bool.eq_false_iff.mpr hc)]
      exact ⟨rfl, filter_runs_congr ih.1 ih.2⟩
  | case4 => exact ⟨rfl, rfl⟩

theorem filter_runs_plainEqualities (cs : List Char) :
    (runs (plainEqualities cs)).filter isWord = (runs cs).filter isWord := by
  obtain ⟨hhead, htail⟩ := runs_plainEqualities cs
  exact filter_runs_congr hhead htail

theorem words_cons (s : Segment) (segs : List Segment) : words (s :: segs) =
    (if s.region = .code then ((runs s.body).filter isWord).map String.ofList else []) ++
      words segs := by
  by_cases h : s.region = .code
  · rw [words, List.filter_cons_of_pos (by rw [h]; rfl), List.flatMap_cons, if_pos h, words]
  · rw [words, List.filter_cons_of_neg (by simpa using h), if_neg h, List.nil_append, words]

/-- **The words of the code stay the same.** -/
theorem words_normal (segs : List Segment) : words (segs.map normalSegment) = words segs := by
  induction segs with
  | nil => rfl
  | cons s segs ih =>
    obtain ⟨region, body, closed⟩ := s
    rw [List.map_cons, words_cons, words_cons, ih]
    cases region with
    | code => simp only [normalSegment, filter_runs_plainEqualities]
    | single => rfl
    | double => rfl
    | backtick => rfl
    | lineComment => rfl
    | blockComment => rfl

end ReactiveTree.Source
