import Mathlib.Data.List.Basic
import ReactiveTree.Snippet.Source

/-!
# Segments of a source

A source is cut into segments: code, literals in three kinds of quotes, and comments. Each segment
has a normal form, and the code of a source has words.

A text goes on inside a region in one of six ways (`move`), and each way says how the text is cut
(`cut_opening`, `cut_closing`, `cut_lineEnd`, `cut_escape`, `cut_of_stays`). Facts on segments
follow by induction along these ways (`moveInduction`): the first segment is the rest of the region
that the text starts in, and the segments write the text (`continued_cut`).

Key definitions: `Segment`, `Source.cut`, `Source.normalSegment`, `Source.written`, `Source.words`,
`Source.opens?`, `Source.Stays`, `Source.Move`, `Source.continued`.
Key theorems: `Source.move`, `Source.moveInduction`, `Source.exists_closing`,
`Source.continued_cut`.
-/
namespace ReactiveTree

/-- A part of a source without its delimiters; `closed` if the closing delimiter is there. -/
structure Segment where
  region : Region
  body : List Char
  closed : Bool
deriving Repr, DecidableEq, Inhabited

namespace Region

/-- The text that opens a region. -/
def opening : Region → List Char
  | .code => []
  | .lineComment => ['/', '/']
  | .blockComment => ['/', '*']
  | r => r.quote?.toList

/-- The text that closes a region. -/
def closing : Region → List Char
  | .blockComment => ['*', '/']
  | r => r.quote?.toList

end Region

namespace Source

/-! ### Segments and their normal forms -/

/-- Put a character in front of the first segment. -/
def addFront (c : Char) : List Segment → List Segment
  | s :: rest => { s with body := c :: s.body } :: rest
  | [] => []

/-- The segments of a text that starts inside a region; the first one is the rest of it. In a
literal a backslash keeps the next character from closing it. -/
def cut : Region → List Char → List Segment
  | r, [] => [⟨r, [], false⟩]
  | .code, '/' :: '/' :: cs => ⟨.code, [], true⟩ :: cut .lineComment cs
  | .code, '/' :: '*' :: cs => ⟨.code, [], true⟩ :: cut .blockComment cs
  | .code, c :: cs =>
    match Region.ofQuote? c with
    | some r => ⟨.code, [], true⟩ :: cut r cs
    | none => addFront c (cut .code cs)
  | .lineComment, c :: cs =>
    if c = '\n' then ⟨.lineComment, [], true⟩ :: addFront c (cut .code cs)
    else addFront c (cut .lineComment cs)
  | .blockComment, '*' :: '/' :: cs => ⟨.blockComment, [], true⟩ :: cut .code cs
  | .blockComment, c :: cs => addFront c (cut .blockComment cs)
  | r, '\\' :: c :: cs => addFront '\\' (addFront c (cut r cs))
  | r, c :: cs =>
    if r.quote? = some c then ⟨r, [], true⟩ :: cut .code cs else addFront c (cut r cs)

/-- The segments of a source. -/
def segments (source : String) : List Segment := cut .code source.toList

/-- Strict equalities become plain ones. -/
def plainEqualities : List Char → List Char
  | '=' :: '=' :: '=' :: cs => '=' :: '=' :: plainEqualities cs
  | '!' :: '=' :: '=' :: cs => '!' :: '=' :: plainEqualities cs
  | c :: cs => c :: plainEqualities cs
  | [] => []

/-- The body of a literal in single quotes as it stands in double quotes. -/
def requote : List Char → List Char
  | '\\' :: c :: cs => if c = '\'' then c :: requote cs else '\\' :: c :: requote cs
  | '"' :: cs => '\\' :: '"' :: requote cs
  | c :: cs => c :: requote cs
  | [] => []

/-- The normal form of a segment. -/
def normalSegment (s : Segment) : Segment :=
  match s.region with
  | .code => { s with body := plainEqualities s.body }
  | .single => { s with region := .double, body := requote s.body }
  | _ => s

/-- A segment with its delimiters. -/
def written (s : Segment) : List Char :=
  s.region.opening ++ s.body ++ (if s.closed then s.region.closing else [])

/-- The longest runs of the characters of identifiers. -/
def runs : List Char → List (List Char)
  | [] => [[]]
  | c :: cs =>
    if isIdentifierChar c then
      match runs cs with
      | w :: rest => (c :: w) :: rest
      | [] => [[c]]
    else [] :: runs cs

/-- The words of the code of a source, in their order. -/
def words (segments : List Segment) : List String :=
  (segments.filter (·.region == .code)).flatMap fun s =>
    ((runs s.body).filter isWord).map String.ofList

variable {r : Region} {c : Char} {cs : List Char} {segs : List Segment} {s : Segment}

/-! ### How a text is cut -/

/-- What opens at the start of a text in code. -/
def opens? : List Char → Option Region
  | '/' :: '/' :: _ => some .lineComment
  | '/' :: '*' :: _ => some .blockComment
  | c :: _ => Region.ofQuote? c
  | [] => none

/-- A character is part of the region that it stands in, whatever comes before it. -/
def Stays (r : Region) (c : Char) (cs : List Char) : Prop :=
  match r with
  | .code => opens? (c :: cs) = none
  | .lineComment => c ≠ '\n'
  | .blockComment => ¬ (c = '*' ∧ cs.head? = some '/')
  | r => r.quote? ≠ some c ∧ (c ≠ '\\' ∨ cs = [])

theorem opens?_eq_none : opens? (c :: cs) = none ↔
    Region.ofQuote? c = none ∧ (c = '/' → cs.head? ≠ some '/' ∧ cs.head? ≠ some '*') := by
  by_cases hc : c = '/'
  · subst hc
    have hquote : Region.ofQuote? '/' = none := by decide
    cases cs with
    | nil => simp [opens?, hquote]
    | cons d ds =>
      by_cases hline : d = '/'
      · simp [opens?, hline]
      · by_cases hblock : d = '*'
        · simp [opens?, hblock]
        · simp [opens?, hline, hblock, hquote]
  · have hopens : opens? (c :: cs) = Region.ofQuote? c := by
      unfold opens?
      split
      · rename_i heq
        exact absurd (List.cons.inj heq).1 hc
      · rename_i heq
        exact absurd (List.cons.inj heq).1 hc
      · rename_i heq
        rw [(List.cons.inj heq).1]
      · rename_i heq
        cases heq
    simp [hopens, hc]

/-- What is neither a quote nor a slash opens nothing. -/
theorem stays_of_not_slash {d : Char} (hquote : Region.ofQuote? d = none) (hd : d ≠ '/')
    (cs : List Char) : Stays .code d cs :=
  opens?_eq_none.mpr ⟨hquote, fun h => absurd h hd⟩

theorem quote?_of_ofQuote? (h : Region.ofQuote? c = some r) : r.quote? = some c := by
  simpa using List.find?_some h

theorem cut_nil (r : Region) : cut r [] = [⟨r, [], false⟩] := by cases r <;> rfl

/-- Whatever opens ends the code before it. -/
theorem cut_opening (h : r ≠ .code) (cs : List Char) :
    cut .code (r.opening ++ cs) = ⟨.code, [], true⟩ :: cut r cs := by
  cases r <;> first | rfl | exact absurd rfl h

/-- A literal or a block comment ends where its closing delimiter stands. -/
theorem cut_closing (h : r.closing ≠ []) (cs : List Char) :
    cut r (r.closing ++ cs) = ⟨r, [], true⟩ :: cut .code cs := by
  cases r <;> first | rfl | exact absurd rfl h

theorem cut_lineEnd (cs : List Char) : cut .lineComment ('\n' :: cs) =
    ⟨.lineComment, [], true⟩ :: addFront '\n' (cut .code cs) := rfl

theorem cut_escape (h : r.quote?.isSome = true) (c : Char) (cs : List Char) :
    cut r ('\\' :: c :: cs) = addFront '\\' (addFront c (cut r cs)) := by
  cases r <;> first | rfl | cases h

theorem cut_of_stays (h : Stays r c cs) : cut r (c :: cs) = addFront c (cut r cs) := by
  have hliteral : ∀ {r : Region}, r.quote? ≠ some c ∧ (c ≠ '\\' ∨ cs = []) →
      r ≠ .code → r ≠ .lineComment → r ≠ .blockComment →
      cut r (c :: cs) = addFront c (cut r cs) := by
    rintro r ⟨hquote, hescape⟩ hcode hline hblock
    rw [cut.eq_9 _ _ _ _ (fun _ hr => (hcode hr).elim) (fun _ hr => (hcode hr).elim) hcode hline
      (fun _ hr => (hblock hr).elim) hblock, if_neg hquote]
    rintro c' cs' rfl rfl
    rcases hescape with hne | hnil
    · exact hne rfl
    · cases hnil
  cases r with
  | code =>
    obtain ⟨hquote, hslash⟩ := opens?_eq_none.mp h
    rw [cut, hquote]
    · rintro rest rfl rfl
      exact (hslash rfl).1 rfl
    · rintro rest rfl rfl
      exact (hslash rfl).2 rfl
  | lineComment => rw [cut, if_neg h]
  | blockComment =>
    rw [cut]
    rintro rest rfl rfl
    exact h ⟨rfl, rfl⟩
  | single => exact hliteral h nofun nofun nofun
  | double => exact hliteral h nofun nofun nofun
  | backtick => exact hliteral h nofun nofun nofun

/-- The ways in which a text goes on inside a region. -/
inductive Move : Region → List Char → Prop
  | ends (r : Region) : Move r []
  /-- Something opens in code. -/
  | opens {r : Region} (h : r ≠ .code) (cs : List Char) : Move .code (r.opening ++ cs)
  /-- A literal or a block comment is closed. -/
  | closes {r : Region} (h : r.closing ≠ []) (cs : List Char) : Move r (r.closing ++ cs)
  | lineEnd (cs : List Char) : Move .lineComment ('\n' :: cs)
  /-- A backslash in a literal takes the next character with it. -/
  | escape {r : Region} (h : r.quote?.isSome = true) (c : Char) (cs : List Char) :
      Move r ('\\' :: c :: cs)
  | stays {r : Region} {c : Char} {cs : List Char} (h : Stays r c cs) : Move r (c :: cs)

theorem eq_cons_of_head? (h : cs.head? = some c) : ∃ rest, cs = c :: rest := by
  cases cs with
  | nil => cases h
  | cons d rest => exact ⟨rest, by rw [Option.some.inj h]⟩

theorem move_literal (hq : r.quote? = some c) (hopen : r.closing = r.quote?.toList) (d : Char)
    (cs : List Char) (hstays : d ≠ c → d ≠ '\\' ∨ cs = [] → Stays r d cs) : Move r (d :: cs) := by
  by_cases hd : d = c
  · have htext : d :: cs = r.closing ++ cs := by rw [hopen, hq, hd]; rfl
    rw [htext]
    exact .closes (by simp [hopen, hq]) cs
  · by_cases hs : d = '\\'
    · cases cs with
      | nil => exact .stays (hstays hd (.inr rfl))
      | cons c' cs =>
        rw [hs]
        exact .escape (by rw [hq]; rfl) c' cs
    · exact .stays (hstays hd (.inl hs))

/-- **Every text goes on in one of these ways.** -/
theorem move (r : Region) : ∀ text : List Char, Move r text
  | [] => .ends r
  | c :: cs => by
    cases r with
    | code =>
      by_cases h : opens? (c :: cs) = none
      · exact .stays h
      · rw [opens?_eq_none, not_and_or, Classical.not_imp, not_and_or, not_not, not_not] at h
        rcases h with h | ⟨rfl, h | h⟩
        · obtain ⟨r, hr⟩ := Option.ne_none_iff_exists'.mp h
          have hquote := quote?_of_ofQuote? hr
          have hopening : c :: cs = r.opening ++ cs := by cases r <;> cases hquote <;> rfl
          rw [hopening]
          exact .opens (by rintro rfl; cases hquote) cs
        · obtain ⟨rest, rfl⟩ := eq_cons_of_head? h
          exact .opens (r := .lineComment) nofun rest
        · obtain ⟨rest, rfl⟩ := eq_cons_of_head? h
          exact .opens (r := .blockComment) nofun rest
    | lineComment =>
      by_cases h : c = '\n'
      · rw [h]
        exact .lineEnd cs
      · exact .stays h
    | blockComment =>
      by_cases h : c = '*' ∧ cs.head? = some '/'
      · obtain ⟨rfl, hslash⟩ := h
        obtain ⟨rest, rfl⟩ := eq_cons_of_head? hslash
        exact .closes (r := .blockComment) (List.cons_ne_nil _ _) rest
      · exact .stays h
    | single =>
      exact move_literal (r := .single) rfl rfl c cs fun hc hs =>
        ⟨fun h => hc (Option.some.inj h).symm, hs⟩
    | double =>
      exact move_literal (r := .double) rfl rfl c cs fun hc hs =>
        ⟨fun h => hc (Option.some.inj h).symm, hs⟩
    | backtick =>
      exact move_literal (r := .backtick) rfl rfl c cs fun hc hs =>
        ⟨fun h => hc (Option.some.inj h).symm, hs⟩

theorem opening_ne_nil (h : r ≠ .code) : r.opening ≠ [] := by
  cases r <;> first | exact absurd rfl h | exact List.cons_ne_nil _ _

/-- Induction along the moves of a text, each of which leaves a shorter text. -/
@[elab_as_elim]
theorem moveInduction {motive : Region → List Char → Prop} (ends : ∀ r, motive r [])
    (opens : ∀ r cs, r ≠ .code → motive r cs → motive .code (r.opening ++ cs))
    (closes : ∀ r cs, r.closing ≠ [] → motive .code cs → motive r (r.closing ++ cs))
    (lineEnd : ∀ cs, motive .code cs → motive .lineComment ('\n' :: cs))
    (escape : ∀ r c cs, r.quote?.isSome = true → motive r cs → motive r ('\\' :: c :: cs))
    (stays : ∀ r c cs, Stays r c cs → motive r cs → motive r (c :: cs)) (r : Region)
    (cs : List Char) : motive r cs := by
  induction hn : cs.length using Nat.strongRecOn generalizing r cs with
  | _ n ih =>
    subst hn
    cases move r cs with
    | ends => exact ends r
    | @opens r h cs =>
      have hpos := List.length_pos_iff.mpr (opening_ne_nil h)
      exact opens r cs h (ih cs.length (by rw [List.length_append]; omega) r cs rfl)
    | closes h cs =>
      have hpos := List.length_pos_iff.mpr h
      exact closes r cs h (ih cs.length (by rw [List.length_append]; omega) .code cs rfl)
    | lineEnd cs => exact lineEnd cs (ih cs.length (Nat.lt_succ_self _) .code cs rfl)
    | escape h c cs =>
      exact escape r c cs h (ih cs.length (by simp only [List.length_cons]; omega) r cs rfl)
    | @stays _ c cs h => exact stays r c cs h (ih cs.length (Nat.lt_succ_self _) r cs rfl)

/-! ### Segments write their source -/

/-- The text of some segments, the first of which was opened before. -/
def continued : List Segment → List Char
  | [] => []
  | s :: rest => s.body ++ ((if s.closed then s.region.closing else []) ++ rest.flatMap written)

theorem flatMap_written (h : segs.head?.map (·.region) = some r) :
    segs.flatMap written = r.opening ++ continued segs := by
  cases segs with
  | nil => cases h
  | cons s rest =>
    obtain rfl : s.region = r := Option.some.inj h
    simp [written, continued]

/-- The first segment is the rest of the region that the text starts in. -/
theorem exists_cut (r : Region) (cs : List Char) :
    ∃ body closed rest, cut r cs = ⟨r, body, closed⟩ :: rest := by
  induction r, cs using moveInduction with
  | ends r => exact ⟨_, _, _, cut_nil r⟩
  | opens r cs h => exact ⟨_, _, _, cut_opening h cs⟩
  | closes r cs h => exact ⟨_, _, _, cut_closing h cs⟩
  | lineEnd cs => exact ⟨_, _, _, cut_lineEnd cs⟩
  | escape r c cs h ih =>
    obtain ⟨body, closed, rest, hcut⟩ := ih
    exact ⟨_, _, _, by rw [cut_escape h, hcut]; rfl⟩
  | stays r c cs h ih =>
    obtain ⟨body, closed, rest, hcut⟩ := ih
    exact ⟨_, _, _, by rw [cut_of_stays h, hcut]; rfl⟩

/-- A region with a closing delimiter goes up to it, or to the end of the text. -/
theorem exists_closing (h : r.closing ≠ []) (cs : List Char) :
    (∃ body rest, cs = body ++ (r.closing ++ rest) ∧
        cut r cs = ⟨r, body, true⟩ :: cut .code rest) ∨
      cut r cs = [⟨r, cs, false⟩] := by
  revert h
  induction r, cs using moveInduction with
  | ends r => exact fun _ => .inr (cut_nil r)
  | opens r cs _ _ => exact fun h => absurd rfl h
  | closes r cs hr _ => exact fun _ => .inl ⟨[], cs, rfl, cut_closing hr cs⟩
  | lineEnd cs _ => exact fun h => absurd rfl h
  | escape r c cs hq ih =>
    intro h
    rcases ih h with ⟨body, rest, hcs, hcut⟩ | hcut
    · refine .inl ⟨'\\' :: c :: body, rest, by rw [hcs]; rfl, ?_⟩
      rw [cut_escape hq, hcut]
      rfl
    · refine .inr ?_
      rw [cut_escape hq, hcut]
      rfl
  | stays r c cs hs ih =>
    intro h
    rcases ih h with ⟨body, rest, hcs, hcut⟩ | hcut
    · refine .inl ⟨c :: body, rest, by rw [hcs]; rfl, ?_⟩
      rw [cut_of_stays hs, hcut]
      rfl
    · refine .inr ?_
      rw [cut_of_stays hs, hcut]
      rfl

theorem cut_ne_nil (r : Region) (cs : List Char) : cut r cs ≠ [] := by
  obtain ⟨body, closed, rest, h⟩ := exists_cut r cs
  rw [h]
  exact List.cons_ne_nil _ _

theorem region_head_cut (r : Region) (cs : List Char) :
    (cut r cs).head?.map (·.region) = some r := by
  obtain ⟨body, closed, rest, h⟩ := exists_cut r cs
  rw [h]
  rfl

theorem region_head_addFront (c : Char) (segs : List Segment) :
    (addFront c segs).head?.map (·.region) = segs.head?.map (·.region) := by
  cases segs <;> rfl

theorem addFront_ne_nil (c : Char) (h : segs ≠ []) : addFront c segs ≠ [] := by
  cases segs with
  | nil => exact absurd rfl h
  | cons s rest => exact List.cons_ne_nil _ _

theorem continued_addFront (c : Char) (h : segs ≠ []) :
    continued (addFront c segs) = c :: continued segs := by
  cases segs with
  | nil => exact absurd rfl h
  | cons s rest => rfl

/-- **The segments of a text write the text.** -/
theorem continued_cut (r : Region) (cs : List Char) : continued (cut r cs) = cs := by
  induction r, cs using moveInduction with
  | ends r =>
    rw [cut_nil]
    rfl
  | opens r cs h ih =>
    rw [cut_opening h, continued, flatMap_written (region_head_cut r cs), ih]
    rfl
  | closes r cs h ih =>
    rw [cut_closing h, continued, flatMap_written (region_head_cut .code cs), ih]
    rfl
  | lineEnd cs ih =>
    have hne := cut_ne_nil .code cs
    have hfront := (region_head_addFront '\n' _).trans (region_head_cut .code cs)
    rw [cut_lineEnd, continued, flatMap_written hfront, continued_addFront _ hne, ih]
    rfl
  | escape r c cs h ih =>
    have hne := cut_ne_nil r cs
    rw [cut_escape h, continued_addFront _ (addFront_ne_nil c hne), continued_addFront _ hne, ih]
  | stays r c cs h ih => rw [cut_of_stays h, continued_addFront _ (cut_ne_nil r cs), ih]

/-! ### Runs -/

/-- Before the first character that is no part of an identifier stands the first run. -/
theorem runs_eq (cs : List Char) : runs cs = cs.takeWhile isIdentifierChar :: (runs cs).tail := by
  induction cs with
  | nil => rfl
  | cons c cs ih =>
    by_cases hc : isIdentifierChar c = true
    · rw [runs, if_pos hc, List.takeWhile_cons_of_pos hc, ih]
      rfl
    · rw [runs, if_neg hc, List.takeWhile_cons_of_neg hc]
      rfl

theorem runs_cons_of_pos (hc : isIdentifierChar c = true) (cs : List Char) :
    runs (c :: cs) = (c :: cs.takeWhile isIdentifierChar) :: (runs cs).tail := by
  rw [runs, if_pos hc, runs_eq cs]
  rfl

theorem runs_cons_of_neg (hc : isIdentifierChar c = false) (cs : List Char) :
    runs (c :: cs) = [] :: runs cs := by
  rw [runs, if_neg (Bool.eq_false_iff.mp hc)]

end Source
end ReactiveTree
