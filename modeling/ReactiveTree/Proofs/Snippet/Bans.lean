import ReactiveTree.Proofs.Snippet.Lexing
import ReactiveTree.Proofs.Snippet.Scanning

/-!
# Words that are refused

A source with a refused word in its code is not accepted, and one with the word `root` is known to
read the root. Both hold of the tokens that the lexer finds in the accepted text as long as the two
agree on where code is (`normalize_bans`). They do not agree everywhere: the lexer alone reads code
in a text in backticks (`interpolation_leaks`), and some code that the segments take for the body
of a literal or a comment, or for a part of another word (`normalize_leaks`).

Key definitions: `Source.Agrees`.
Key theorems: `Source.sound_of_agrees`, `Source.normalize_bans`, `Source.interpolation_leaks`,
`Source.normalize_leaks`.
-/
namespace ReactiveTree.Source

open Snippet (Token)
open Snippet.Token (Tame Sound codeRuns isNameWord)

/-- The words that mean something beyond the snippet. -/
def reserved : List String := "root" :: disallowed

/-- The lexer finds its names where the words are: it reads the segments as they are cut, and a run
of characters that is no name has no reserved word in it. -/
structure Agrees (segs : List Segment) : Prop extends Tame segs where
  runs : ∀ run ∈ codeRuns segs, isNameWord run = true ∨ ∀ w ∈ reserved, ¬ w.toList <:+: run

instance (segs : List Segment) : Decidable (Agrees segs) :=
  decidable_of_iff (Tame segs ∧
      ∀ run ∈ codeRuns segs, isNameWord run = true ∨ ∀ w ∈ reserved, ¬ w.toList <:+: run)
    ⟨fun h => ⟨h.1, h.2⟩, fun h => ⟨h.toTame, h.runs⟩⟩

variable {segs : List Segment} {run : List Char} {w source : String} {n : Normalized}

theorem isWord_of_isNameWord (h : isNameWord run = true) : isWord run = true := by
  cases run with
  | nil => cases h
  | cons c cs =>
    rw [isWord, Bool.not_eq_true']
    by_contra hdigit
    rw [Bool.not_eq_false] at hdigit
    rw [isNameWord, Token.dropWhile_underscore hdigit, Bool.and_eq_true] at h
    have hletter : Text.isAsciiLetter c = true := h.2
    rw [Token.not_isAsciiLetter_digit hdigit] at hletter
    cases hletter

theorem mem_words (hrun : run ∈ codeRuns segs) (hword : isWord run = true) :
    String.ofList run ∈ words segs := by
  induction segs with
  | nil => cases hrun
  | cons s segs ih =>
    rw [Token.codeRuns_cons, List.mem_append] at hrun
    rw [words_cons, List.mem_append]
    rcases hrun with hhead | htail
    · left
      by_cases hcode : s.region = .code
      · rw [if_pos hcode] at hhead ⊢
        exact List.mem_map_of_mem (List.mem_filter.mpr ⟨hhead, hword⟩)
      · rw [if_neg hcode] at hhead
        cases hhead
    · exact .inr (ih htail)

/-- Code without a reserved word has no token that is the word. -/
theorem sound_of_agrees (h : Agrees segs) (hw : w ∈ reserved) (hno : w ∉ words segs) :
    Sound w.toList segs where
  toTame := h.toTame
  spares run hrun := by
    rcases h.runs run hrun with hname | hnone
    · refine .inl ⟨hname, fun heq => hno ?_⟩
      have hmem := mem_words hrun (isWord_of_isNameWord hname)
      rwa [heq, String.ofList_toList] at hmem
    · exact .inr (hnone w hw)

theorem toList_ne_nil_of_reserved : ∀ w ∈ reserved, w.toList ≠ [] := by decide +kernel

/-- **No token of an accepted source is a refused word, and a token `root` is known of**, where the
lexer agrees with the segments. -/
theorem normalize_bans (h : normalize source = .ok n) (hagrees : Agrees (segments n.text))
    {limit : Nat} {lexemes : List Snippet.Lexeme}
    (hscan : Token.scan? limit n.text = some lexemes) :
    ∀ lexeme ∈ lexemes, ∀ s ∈ lexeme.token.identifier?,
      s ∉ disallowed ∧ (s = "root" → n.readsRoot = true) := by
  obtain ⟨hsegments, hallowed, hroot⟩ := normalize_ok h
  have hwords : words (segments n.text) = words (segments source) := by
    rw [hsegments, words_normal]
  have hword : ∀ w ∈ reserved, ∀ lexeme ∈ lexemes, lexeme.token.identifier? = some w →
      w ∈ words (segments source) := by
    intro w hw lexeme hlexeme hid
    by_contra hno
    rw [← hwords] at hno
    have hclear : Token.Clear w.toList n.text.toList := sound_of_agrees hagrees hw hno
    have hne := Token.identifier_of_scan (toList_ne_nil_of_reserved w hw) rfl hclear hscan
    rw [String.ofList_toList] at hne
    exact hne lexeme hlexeme hid
  intro lexeme hlexeme s hs
  constructor
  · intro hbad
    exact hallowed s (hword s (List.mem_cons_of_mem _ hbad) lexeme hlexeme hs) hbad
  · rintro rfl
    rw [hroot]
    exact List.contains_iff_mem.mpr (hword "root" List.mem_cons_self lexeme hlexeme hs)

/-- An accepted comparison has two names for the lexer, and the root is known to be read. -/
theorem normalize_bans_comparison : ∃ n lexemes,
    normalize "root.a === 'x' + `b` // c" = .ok n ∧ Token.scan? 0 n.text = some lexemes ∧
    n.readsRoot = true ∧ lexemes.filterMap (·.token.identifier?) = ["root", "a"] ∧
    ∀ lexeme ∈ lexemes, ∀ s ∈ lexeme.token.identifier?,
      s ∉ disallowed ∧ (s = "root" → n.readsRoot = true) := by
  have hnormal : normalize "root.a === 'x' + `b` // c" =
      .ok ⟨"root.a == \"x\" + `b` // c", true⟩ := rfl
  have hagrees : Agrees (segments "root.a == \"x\" + `b` // c") := by decide +kernel
  have hnames : (Token.scan? 0 "root.a == \"x\" + `b` // c").map
      (·.filterMap (·.token.identifier?)) = some ["root", "a"] := by decide +kernel
  obtain ⟨lexemes, hscan, hnames⟩ := Option.map_eq_some_iff.mp hnames
  exact ⟨_, lexemes, hnormal, hscan, rfl, hnames, normalize_bans hnormal hagrees hscan⟩

/-! ### Where the lexer does not agree -/

/-- The source is accepted, and a token of it is a refused word or a `root` that is not known of. -/
def leaks (source : String) : Bool :=
  match normalize source with
  | .error _ => false
  | .ok n =>
    match Token.scan? 0 n.text with
    | none => false
    | some lexemes => (lexemes.filterMap (·.token.identifier?)).any fun s =>
        disallowed.contains s || (s == "root" && !n.readsRoot)

theorem exists_of_leaks (h : leaks source = true) : ∃ n lexemes, normalize source = .ok n ∧
    Token.scan? 0 n.text = some lexemes ∧ ∃ lexeme ∈ lexemes, ∃ s ∈ lexeme.token.identifier?,
      s ∈ disallowed ∨ s = "root" ∧ n.readsRoot = false := by
  rw [leaks] at h
  split at h
  · cases h
  rename_i n hnormal
  split at h
  · cases h
  rename_i lexemes hscan
  obtain ⟨s, hs, hbad⟩ := List.any_eq_true.mp h
  obtain ⟨lexeme, hlexeme, hid⟩ := List.mem_filterMap.mp hs
  refine ⟨n, lexemes, hnormal, hscan, lexeme, hlexeme, s, hid, ?_⟩
  rw [Bool.or_eq_true, List.contains_iff_mem, Bool.and_eq_true, beq_iff_eq,
    Bool.not_eq_true'] at hbad
  exact hbad

/-- Code in a text in backticks is run, and its words are not asked for. -/
theorem interpolation_leaks : ∃ lexemes, normalize "`${window}`" = .ok ⟨"`${window}`", false⟩ ∧
    Token.scan? 0 "`${window}`" = some lexemes ∧
    ∃ lexeme ∈ lexemes, lexeme.token.identifier? = some "window" ∧ "window" ∈ disallowed := by
  have hnames : (Token.scan? 0 "`${window}`").map (·.filterMap (·.token.identifier?)) =
      some ["window"] := by decide +kernel
  obtain ⟨lexemes, hscan, hnames⟩ := Option.map_eq_some_iff.mp hnames
  have hmem : "window" ∈ lexemes.filterMap (·.token.identifier?) := by
    rw [hnames]
    exact List.mem_cons_self
  obtain ⟨lexeme, hlexeme, hid⟩ := List.mem_filterMap.mp hmem
  exact ⟨lexemes, rfl, hscan, lexeme, hlexeme, hid, by decide⟩

/-- **No condition of the agreement can go.** In turn: a quote of a text in backticks behind a
backslash, a comment that a carriage return ends, a comment in a comment, a literal behind a number
sign, and names that start inside a run. -/
theorem normalize_leaks : ∀ source ∈ ["`\\`window`\\`", "// a\rwindow",
    "/* /* */ ` */ window /*`", "#\"a\\\"# + root + \"\"", "1window", "a$window"],
    ∃ n lexemes, normalize source = .ok n ∧ Token.scan? 0 n.text = some lexemes ∧
      ∃ lexeme ∈ lexemes, ∃ s ∈ lexeme.token.identifier?,
        s ∈ disallowed ∨ s = "root" ∧ n.readsRoot = false := by
  intro source hsource
  refine exists_of_leaks (List.all_eq_true.mp ?_ source hsource)
  decide +kernel

end ReactiveTree.Source
