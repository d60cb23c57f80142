import Mathlib.Data.List.Chain
import Mathlib.Data.List.Infix
import Mathlib.Data.List.TakeDrop
import Mathlib.Data.List.TakeWhile
import ReactiveTree.Proofs.Snippet.Segments
import ReactiveTree.Snippet.Token

/-!
# Texts that are clear of a word

The lexer does not know of the segments of a source. It reads literals and comments as they are cut
where these are tame (`Token.Tame`), and then every token of code lies in one run of the characters
of identifiers, or in none. A text is clear of a word (`Token.Clear`) if no token of such a run can
be the word; it stays so behind a name (`Clear.dropName`) and behind a character that stands in no
name (`Clear.of_cons`).

Key definitions: `Token.Tame`, `Token.Sound`, `Token.Clear`, `Token.ClearWithin`.
Key theorems: `Token.head?_codeRuns_cut`, `Token.Clear.dropName`, `Token.Clear.name_ne`,
`Token.Clear.of_cons`.
-/
namespace ReactiveTree.Snippet.Token

open Source
open Text (isAsciiLetter isAsciiDigit)

variable {w run cs rest : List Char} {segs segs' : List Segment} {s t : Segment} {r : Region}
  {c : Char}

/-! ### Where the lexer and the segments agree -/

/-- A dollar sign and a brace open code in a text in backticks. -/
def opensCode : List Char → Bool
  | '\\' :: '$' :: cs => opensCode cs
  | '$' :: '\x7b' :: _ => true
  | _ :: cs => opensCode cs
  | [] => false

/-- The lexer goes on to the same end of a segment, and finds no code in it. -/
structure IsPlain (s : Segment) : Prop where
  literal : s.region = .backtick → backtick ∉ s.body ∧ opensCode s.body = false
  line : s.region = .lineComment → '\r' ∉ s.body.dropLast
  block : s.region = .blockComment →
    ¬ ['/', '*'] <:+: s.body ++ if s.closed then ['*'] else []

/-- No number sign stands right before a literal in double quotes. -/
def Apart (s t : Segment) : Prop :=
  s.region = .code → t.region = .double → s.body.getLast? ≠ some '#'

instance (s : Segment) : Decidable (IsPlain s) :=
  decidable_of_iff
    ((s.region = .backtick → backtick ∉ s.body ∧ opensCode s.body = false) ∧
      (s.region = .lineComment → '\r' ∉ s.body.dropLast) ∧
      (s.region = .blockComment → ¬ ['/', '*'] <:+: s.body ++ if s.closed then ['*'] else []))
    ⟨fun h => ⟨h.1, h.2.1, h.2.2⟩, fun h => ⟨h.literal, h.line, h.block⟩⟩

instance (s t : Segment) : Decidable (Apart s t) :=
  inferInstanceAs (Decidable (s.region = .code → t.region = .double → s.body.getLast? ≠ some '#'))

/-- The lexer reads the segments as they are cut. -/
structure Tame (segs : List Segment) : Prop where
  plain : ∀ s ∈ segs, IsPlain s
  apart : segs.IsChain Apart

instance (segs : List Segment) : Decidable (Tame segs) :=
  decidable_of_iff ((∀ s ∈ segs, IsPlain s) ∧ segs.IsChain Apart)
    ⟨fun h => ⟨h.1, h.2⟩, fun h => ⟨h.plain, h.apart⟩⟩

/-- The runs of the characters of identifiers in the code of some segments. -/
def codeRuns (segs : List Segment) : List (List Char) :=
  segs.flatMap fun s => if s.region = .code then runs s.body else []

/-- A run of which no token is the word. -/
def Spares (w run : List Char) : Prop :=
  isNameWord run = true ∧ run ≠ w ∨ ¬ w <:+: run

/-- Segments whose tokens are not the word. -/
structure Sound (w : List Char) (segs : List Segment) : Prop extends Tame segs where
  spares : ∀ run ∈ codeRuns segs, Spares w run

/-- The tokens of a text in code are not the word. -/
def Clear (w cs : List Char) : Prop := Sound w (cut .code cs)

/-- The run that a text starts with. -/
def headRun (cs : List Char) : List Char := cs.takeWhile isIdentifierChar

/-- The tokens of a text in code are not the word, but for those of the run that it starts with. -/
structure ClearAfter (w cs : List Char) : Prop extends Tame (cut .code cs) where
  spares : ∀ run ∈ (codeRuns (cut .code cs)).tail, Spares w run

/-! ### Runs of segments -/

theorem codeRuns_cons (s : Segment) (segs : List Segment) :
    codeRuns (s :: segs) = (if s.region = .code then runs s.body else []) ++ codeRuns segs :=
  List.flatMap_cons

theorem codeRuns_subset (h : segs' <:+ segs) : codeRuns segs' ⊆ codeRuns segs := by
  obtain ⟨front, rfl⟩ := h
  intro run hrun
  rw [codeRuns, List.flatMap_append]
  exact List.mem_append_right _ hrun

theorem Sound.suffix (h : Sound w segs) (hsuffix : segs' <:+ segs) : Sound w segs' where
  plain s hs := h.plain s (hsuffix.subset hs)
  apart := h.apart.infix hsuffix.isInfix
  spares run hrun := h.spares run (codeRuns_subset hsuffix hrun)

theorem not_isIdentifierChar_quote (h : r.quote? = some c) : isIdentifierChar c = false := by
  cases r <;> cases h <;> decide

theorem not_isIdentifierChar_slash : isIdentifierChar '/' = false := by decide

/-- Nothing opens at a character of an identifier. -/
theorem stays_code (h : isIdentifierChar c = true) (cs : List Char) : Stays .code c cs := by
  refine opens?_eq_none.mpr ⟨?_, fun hc => ?_⟩
  · by_contra hquote
    obtain ⟨r, hr⟩ := Option.ne_none_iff_exists'.mp hquote
    rw [not_isIdentifierChar_quote (quote?_of_ofQuote? hr)] at h
    cases h
  · rw [hc, not_isIdentifierChar_slash] at h
    cases h

theorem headRun_cons_of_pos (hc : isIdentifierChar c = true) (cs : List Char) :
    headRun (c :: cs) = c :: headRun cs := List.takeWhile_cons_of_pos hc

theorem headRun_cons_of_neg (hc : isIdentifierChar c = false) (cs : List Char) :
    headRun (c :: cs) = [] := List.takeWhile_cons_of_neg (Bool.eq_false_iff.mp hc)

theorem headRun_opening (hr : r ≠ .code) (cs : List Char) : headRun (r.opening ++ cs) = [] := by
  cases r with
  | code => exact absurd rfl hr
  | lineComment => exact headRun_cons_of_neg not_isIdentifierChar_slash _
  | blockComment => exact headRun_cons_of_neg not_isIdentifierChar_slash _
  | single => exact headRun_cons_of_neg (not_isIdentifierChar_quote (r := .single) rfl) _
  | double => exact headRun_cons_of_neg (not_isIdentifierChar_quote (r := .double) rfl) _
  | backtick => exact headRun_cons_of_neg (not_isIdentifierChar_quote (r := .backtick) rfl) _

theorem codeRuns_cut_of_pos (hc : isIdentifierChar c = true)
    (ih : (codeRuns (cut .code cs)).head? = some (headRun cs)) :
    codeRuns (cut .code (c :: cs)) =
      (c :: headRun cs) :: (codeRuns (cut .code cs)).tail := by
  obtain ⟨body, closed, rest, hcut⟩ := exists_cut .code cs
  rw [hcut, codeRuns_cons, if_pos rfl, runs_eq body] at ih
  have hhead : body.takeWhile isIdentifierChar = headRun cs := Option.some.inj ih
  rw [cut_of_stays (stays_code hc cs), hcut, addFront, codeRuns_cons, codeRuns_cons, if_pos rfl,
    if_pos rfl, runs_cons_of_pos hc, runs_eq body, hhead]
  rfl

theorem codeRuns_cut_of_neg (hc : isIdentifierChar c = false) (hs : Stays .code c cs) :
    codeRuns (cut .code (c :: cs)) = [] :: codeRuns (cut .code cs) := by
  obtain ⟨body, closed, rest, hcut⟩ := exists_cut .code cs
  rw [cut_of_stays hs, hcut, addFront, codeRuns_cons, codeRuns_cons, if_pos rfl, if_pos rfl,
    runs_cons_of_neg hc]
  rfl

/-- The first run of a text in code is the one that it starts with. -/
theorem head?_codeRuns_cut (cs : List Char) :
    (codeRuns (cut .code cs)).head? = some (headRun cs) := by
  have hmotive : ∀ r, r = .code → (codeRuns (cut r cs)).head? = some (headRun cs) := by
    intro r
    induction r, cs using moveInduction with
    | ends r =>
      rintro rfl
      rfl
    | opens r cs hr _ =>
      intro _
      rw [cut_opening hr, headRun_opening hr]
      rfl
    | closes r cs hr _ =>
      rintro rfl
      exact absurd rfl hr
    | lineEnd cs _ => exact nofun
    | escape r c cs hq _ =>
      rintro rfl
      cases hq
    | stays r c cs hs ih =>
      rintro rfl
      by_cases hc : isIdentifierChar c = true
      · rw [codeRuns_cut_of_pos hc (ih rfl), headRun_cons_of_pos hc]
        rfl
      · have hc := Bool.eq_false_iff.mpr hc
        rw [codeRuns_cut_of_neg hc hs, headRun_cons_of_neg hc]
        rfl
  exact hmotive .code rfl

/-! ### Texts that are clear of a word -/

theorem IsPlain.of_cons {body : List Char} {closed : Bool} (h : IsPlain ⟨r, c :: body, closed⟩)
    (hr : r ≠ .backtick) : IsPlain ⟨r, body, closed⟩ where
  literal hbacktick := absurd hbacktick hr
  line hline hmem := by
    cases body with
    | nil => cases hmem
    | cons d body => exact h.line hline (List.mem_cons_of_mem _ hmem)
  block hblock hpart := h.block hblock (hpart.trans (List.suffix_cons _ _).isInfix)

theorem Apart.of_cons {body : List Char} {closed : Bool} (h : Apart ⟨r, c :: body, closed⟩ t) :
    Apart ⟨r, body, closed⟩ t := by
  intro hr ht hlast
  refine h hr ht ?_
  rw [List.getLast?_cons, hlast]
  rfl

/-- Without its first character, which is no part of a text in backticks, a text stays tame. -/
theorem Tame.of_addFront (h : Tame (addFront c segs))
    (hr : segs.head?.map (·.region) ≠ some .backtick) : Tame segs := by
  cases segs with
  | nil => exact h
  | cons s rest =>
    obtain ⟨region, body, closed⟩ := s
    have hregion : region ≠ .backtick := fun heq => hr (by rw [heq]; rfl)
    obtain ⟨hplain, hapart⟩ := h
    refine ⟨List.forall_mem_cons.mpr ⟨?_, fun s hs => hplain s (List.mem_cons_of_mem _ hs)⟩, ?_⟩
    · exact (hplain _ List.mem_cons_self).of_cons hregion
    · cases rest with
      | nil => exact List.isChain_singleton _
      | cons t rest =>
        obtain ⟨hst, hrest⟩ := List.isChain_cons_cons.mp hapart
        exact List.isChain_cons_cons.mpr ⟨hst.of_cons, hrest⟩

theorem Clear.after (h : Clear w cs) : ClearAfter w cs where
  toTame := h.toTame
  spares run hrun := h.spares run (List.mem_of_mem_tail hrun)

theorem ClearAfter.clear (h : ClearAfter w cs) (hhead : Spares w (headRun cs)) : Clear w cs where
  toTame := h.toTame
  spares run hrun := by
    rw [List.eq_cons_of_mem_head? (head?_codeRuns_cut cs)] at hrun
    rcases List.mem_cons.mp hrun with rfl | htail
    · exact hhead
    · exact h.spares run htail

theorem Clear.spares_headRun (h : Clear w cs) : Spares w (headRun cs) :=
  h.spares _ (List.mem_of_mem_head? (head?_codeRuns_cut cs))

theorem ClearAfter.identifier (h : ClearAfter w (c :: cs)) (hc : isIdentifierChar c = true) :
    ClearAfter w cs where
  toTame := by
    have htame := h.toTame
    rw [cut_of_stays (stays_code hc cs)] at htame
    exact htame.of_addFront (by rw [region_head_cut]; exact nofun)
  spares run hrun := by
    refine h.spares run ?_
    rw [codeRuns_cut_of_pos hc (head?_codeRuns_cut cs)]
    exact hrun

theorem ClearAfter.other (h : ClearAfter w (c :: cs)) (hc : isIdentifierChar c = false)
    (hs : Stays .code c cs) : Clear w cs where
  toTame := by
    have htame := h.toTame
    rw [cut_of_stays hs] at htame
    exact htame.of_addFront (by rw [region_head_cut]; exact nofun)
  spares run hrun := by
    refine h.spares run ?_
    rw [codeRuns_cut_of_neg hc hs]
    exact hrun

/-- What opens is without the word too. -/
theorem Clear.opening (h : Clear w (r.opening ++ cs)) (hr : r ≠ .code) : Sound w (cut r cs) := by
  rw [Clear, cut_opening hr] at h
  exact h.suffix (List.suffix_cons _ _)

/-- The tokens of a text in code are not the word, and no part of the run that it starts with is. -/
structure ClearWithin (w cs : List Char) : Prop extends ClearAfter w cs where
  head : ¬ w <:+: headRun cs

theorem ClearWithin.clear (h : ClearWithin w cs) : Clear w cs := h.toClearAfter.clear (.inr h.head)

theorem ClearWithin.identifier (h : ClearWithin w (c :: cs)) (hc : isIdentifierChar c = true) :
    ClearWithin w cs where
  toClearAfter := h.toClearAfter.identifier hc
  head hpart := by
    refine h.head ?_
    rw [headRun_cons_of_pos hc]
    exact hpart.trans (List.suffix_cons _ _).isInfix

theorem ClearWithin.tail (h : ClearWithin w (c :: cs)) (hs : Stays .code c cs) : Clear w cs := by
  by_cases hc : isIdentifierChar c = true
  · exact (h.identifier hc).clear
  · exact h.toClearAfter.other (Bool.eq_false_iff.mpr hc) hs

theorem Clear.within (h : Clear w cs) (hrun : isNameWord (headRun cs) = false) :
    ClearWithin w cs where
  toClearAfter := h.after
  head := by
    rcases h.spares_headRun with ⟨hname, -⟩ | hno
    · rw [hrun] at hname
      cases hname
    · exact hno

theorem clear_nil (hw : w ≠ []) : Clear w [] where
  plain s hs := by
    obtain rfl := List.mem_singleton.mp hs
    exact ⟨nofun, nofun, nofun⟩
  apart := List.isChain_singleton _
  spares run hrun := by
    obtain rfl : run = [] := List.mem_singleton.mp hrun
    exact .inr fun hpart => hw (List.infix_nil.mp hpart)

/-! ### Names -/

theorem isAscii_of_le {d : Char} (h : c ≤ d) (hd : d.toNat < 128) : Text.isAscii c = true := by
  have hle : c.toNat ≤ d.toNat := h
  rw [Text.isAscii, decide_eq_true_eq]
  omega

theorem isIdentifierChar_of_isAsciiDigit (h : isAsciiDigit c = true) :
    isIdentifierChar c = true := by
  have hle : c ≤ '9' := by
    rw [isAsciiDigit, Bool.and_eq_true, decide_eq_true_eq, decide_eq_true_eq] at h
    exact h.2
  have hascii := isAscii_of_le hle (by decide)
  simp [isIdentifierChar, Text.isAlphanumeric, Text.isNumeric, hascii, h]

theorem isIdentifierChar_of_isAsciiLetter (h : isAsciiLetter c = true) :
    isIdentifierChar c = true := by
  have hle : c ≤ 'z' := by
    simp only [isAsciiLetter, Bool.or_eq_true, Bool.and_eq_true, decide_eq_true_eq] at h
    rcases h with h | h
    · exact h.2
    · exact Char.le_trans h.2 (by decide)
  have hascii := isAscii_of_le hle (by decide)
  simp [isIdentifierChar, Text.isAlphanumeric, Text.isAlphabetic, hascii, h]

theorem isIdentifierChar_of_isNameChar (h : isNameChar c = true) : isIdentifierChar c = true := by
  rw [isNameChar, Bool.or_eq_true, Bool.or_eq_true, beq_iff_eq] at h
  rcases h with (hletter | hdigit) | rfl
  · exact isIdentifierChar_of_isAsciiLetter hletter
  · exact isIdentifierChar_of_isAsciiDigit hdigit
  · rfl

theorem headRun_dropWhile {p : Char → Bool} (hp : ∀ c, p c = true → isIdentifierChar c = true)
    (cs : List Char) : headRun (cs.dropWhile p) = (headRun cs).dropWhile p := by
  induction cs with
  | nil => rfl
  | cons c cs ih =>
    by_cases hc : p c = true
    · rw [headRun_cons_of_pos (hp c hc), List.dropWhile_cons_of_pos hc,
        List.dropWhile_cons_of_pos hc, ih]
    · rw [List.dropWhile_cons_of_neg hc]
      by_cases hid : isIdentifierChar c = true
      · rw [headRun_cons_of_pos hid, List.dropWhile_cons_of_neg hc]
      · rw [headRun_cons_of_neg (Bool.eq_false_iff.mpr hid)]
        rfl

theorem takeWhile_headRun (cs : List Char) :
    (headRun cs).takeWhile isNameChar = cs.takeWhile isNameChar := by
  induction cs with
  | nil => rfl
  | cons c cs ih =>
    by_cases hc : isNameChar c = true
    · rw [headRun_cons_of_pos (isIdentifierChar_of_isNameChar hc), List.takeWhile_cons_of_pos hc,
        List.takeWhile_cons_of_pos hc, ih]
    · rw [List.takeWhile_cons_of_neg hc]
      by_cases hid : isIdentifierChar c = true
      · rw [headRun_cons_of_pos hid, List.takeWhile_cons_of_neg hc]
      · rw [headRun_cons_of_neg (Bool.eq_false_iff.mpr hid)]
        rfl

theorem isNameChar_of_isNameWord (h : isNameWord run = true) : ∀ c ∈ run, isNameChar c = true := by
  rw [isNameWord, Bool.and_eq_true] at h
  exact List.all_eq_true.mp h.1

theorem ClearAfter.dropName (h : ClearAfter w cs) : ClearAfter w (cs.dropWhile isNameChar) := by
  induction cs with
  | nil => exact h
  | cons c cs ih =>
    by_cases hc : isNameChar c = true
    · rw [List.dropWhile_cons_of_pos hc]
      exact ih (h.identifier (isIdentifierChar_of_isNameChar hc))
    · rw [List.dropWhile_cons_of_neg hc]
      exact h

/-- What follows a name in a run is no name, and keeps what the run keeps. -/
theorem Spares.dropName (hw : w ≠ []) (h : Spares w run) :
    Spares w (run.dropWhile isNameChar) := by
  rcases h with ⟨hname, -⟩ | hno
  · rw [List.dropWhile_eq_nil_iff.mpr (isNameChar_of_isNameWord hname)]
    exact .inr fun hpart => hw (List.infix_nil.mp hpart)
  · exact .inr fun hpart => hno (hpart.trans (List.dropWhile_suffix _).isInfix)

theorem Clear.dropName (hw : w ≠ []) (h : Clear w cs) : Clear w (cs.dropWhile isNameChar) := by
  refine h.after.dropName.clear ?_
  rw [headRun_dropWhile fun c => isIdentifierChar_of_isNameChar]
  exact h.spares_headRun.dropName hw

/-- The name at the start of a text is not the word. -/
theorem Clear.name_ne (h : Clear w cs) : cs.takeWhile isNameChar ≠ w := by
  intro heq
  rw [← takeWhile_headRun] at heq
  rcases h.spares_headRun with ⟨hname, hne⟩ | hno
  · rw [List.takeWhile_eq_self_iff.mpr (isNameChar_of_isNameWord hname)] at heq
    exact hne heq
  · refine hno ?_
    rw [← heq]
    exact (List.takeWhile_prefix _).isInfix

/-- A run that starts with another character is no name. -/
theorem Clear.within_of_not_name (h : Clear w (c :: cs)) (hc : isNameChar c = false) :
    ClearWithin w (c :: cs) := by
  refine h.within ?_
  by_cases hid : isIdentifierChar c = true
  · rw [headRun_cons_of_pos hid, isNameWord, List.all_cons, hc]
    rfl
  · rw [headRun_cons_of_neg (Bool.eq_false_iff.mpr hid)]
    rfl

/-- Behind a character that stands in no name, a text stays clear. -/
theorem Clear.of_cons (h : Clear w (c :: cs)) (hs : Stays .code c cs)
    (hc : isNameChar c = false) : Clear w cs :=
  (h.within_of_not_name hc).tail hs

/-- A character that stands in no name and opens nothing, whatever follows. -/
def isInert (c : Char) : Bool := !isNameChar c && (Region.ofQuote? c).isNone && c != '/'

theorem Clear.of_inert (h : Clear w (c :: cs)) (hc : isInert c = true) : Clear w cs := by
  simp only [isInert, Bool.and_eq_true, Bool.not_eq_true', Option.isNone_iff_eq_none,
    bne_iff_ne] at hc
  obtain ⟨⟨hname, hquote⟩, hslash⟩ := hc
  exact h.of_cons (stays_of_not_slash hquote hslash cs) hname

theorem Clear.of_append {front : List Char} (hfront : ∀ c ∈ front, isInert c = true)
    (h : Clear w (front ++ cs)) : Clear w cs := by
  induction front with
  | nil => exact h
  | cons c front ih =>
    have hrest : Clear w (front ++ cs) := h.of_inert (hfront c List.mem_cons_self)
    exact ih (fun d hd => hfront d (List.mem_cons_of_mem _ hd)) hrest

end ReactiveTree.Snippet.Token
