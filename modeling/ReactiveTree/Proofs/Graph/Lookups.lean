import ReactiveTree.Proofs.Graph.Scan

/-!
# The paths that were written are found

A source that is written out of calls of `get`, with any text without quotes between them, reads the
paths of these calls and no others, in their order (`dependencies_written`). No call starts in the
text between them: up to its first quote a call has the letter `g` once, and that is the one it
starts with (`CallAt.count_unquoted`).

Key definitions: `Lookup`, `Lookup.text`, `written`.
Key theorems: `CallAt.count_unquoted`, `readsFrom_unquoted`, `readsFrom_written`,
`dependencies_written`.
-/
namespace ReactiveTree.Graph

open Text (isBlank isWordChar)

variable {cs body path after : List Char}

/-! ### Distinct texts -/

theorem distinct_eq_eraseDups : ∀ xs seen : List String,
    distinct seen xs = (xs.filter fun x => !seen.contains x).eraseDups
  | [], _ => rfl
  | x :: xs, seen => by
    rw [distinct]
    split
    · rename_i hx
      rw [List.filter_cons_of_neg (by rw [hx]; decide), distinct_eq_eraseDups xs seen]
    · rename_i hx
      have hfilter : (xs.filter fun y => !(x :: seen).contains y) =
          (xs.filter fun y => !seen.contains y).filter fun y => !y == x := by
        rw [List.filter_filter]
        simp only [List.contains_cons, Bool.not_or]
      rw [List.filter_cons_of_pos (by rw [Bool.eq_false_iff.mpr hx]; rfl), List.eraseDups_cons,
        distinct_eq_eraseDups xs (x :: seen), hfilter]

theorem nodup_distinct : ∀ xs seen : List String, (distinct seen xs).Nodup
  | [], _ => List.nodup_nil
  | x :: xs, seen => by
    rw [distinct]
    split
    · exact nodup_distinct xs seen
    · refine List.nodup_cons.mpr ⟨fun hx => ?_, nodup_distinct xs (x :: seen)⟩
      exact (mem_distinct.mp hx).2 List.mem_cons_self

/-! ### Texts without quotes -/

def isQuote (c : Char) : Bool := c == '\'' || c == '"'

theorem isQuote_eq_true {c : Char} : isQuote c = true ↔ c = '\'' ∨ c = '"' := by simp [isQuote]

/-- What comes before the first quote. -/
def unquoted (cs : List Char) : List Char := cs.takeWhile (!isQuote ·)

theorem unquoted_append (h : ∀ c ∈ body, isQuote c = false) (cs : List Char) :
    unquoted (body ++ cs) = body ++ unquoted cs :=
  List.takeWhile_append_of_pos fun c hc => by rw [h c hc]; rfl

theorem blank_ne {c d : Char} (hc : isBlank c = true) (hd : isBlank d = false) : c ≠ d := by
  rintro rfl
  rw [hc] at hd
  cases hd

theorem isQuote_of_isBlank {c : Char} (hc : isBlank c = true) : isQuote c = false := by
  rw [← Bool.not_eq_true, isQuote_eq_true, not_or]
  exact ⟨blank_ne hc rfl, blank_ne hc rfl⟩

theorem count_blanks (h : ∀ c ∈ body, isBlank c = true) : body.count 'g' = 0 :=
  List.count_eq_zero.mpr fun hg => blank_ne (h 'g' hg) rfl rfl

/-- Up to its quote a call has the letter that it starts with once. -/
theorem CallAt.count_unquoted (h : CallAt cs path after) :
    (unquoted cs).count 'g' = 1 ∧ ∃ c ∈ cs, isQuote c = true := by
  obtain ⟨b₁, b₂, b₃, quote, hq, hb, -, rfl⟩ := h
  have hquote : isQuote quote = true := isQuote_eq_true.mpr hq
  simp only [List.mem_append] at hb
  have hb₁ : ∀ c ∈ b₁, isBlank c = true := fun c hc => hb c (.inl (.inl hc))
  have hb₂ : ∀ c ∈ b₂, isBlank c = true := fun c hc => hb c (.inl (.inr hc))
  let front : List Char := 'g' :: 'e' :: 't' :: (b₁ ++ '(' :: b₂)
  have hfront : ∀ c ∈ front, isQuote c = false := by
    simp only [front, List.forall_mem_cons, List.forall_mem_append]
    exact ⟨rfl, rfl, rfl, fun c hc => isQuote_of_isBlank (hb₁ c hc), rfl,
      fun c hc => isQuote_of_isBlank (hb₂ c hc)⟩
  have htext : ∀ rest, 'g' :: 'e' :: 't' :: (b₁ ++ '(' :: (b₂ ++ quote :: rest)) =
      front ++ quote :: rest := fun rest => by simp [front]
  have hunquoted : ∀ rest, unquoted (front ++ quote :: rest) = front := by
    intro rest
    rw [unquoted_append hfront, unquoted, List.takeWhile_cons_of_neg (by simp [hquote]),
      List.append_nil]
  rw [htext]
  refine ⟨?_, quote, List.mem_append_right _ List.mem_cons_self, hquote⟩
  rw [hunquoted]
  simp [front, count_blanks hb₁, count_blanks hb₂]

/-- A call starts with its name. -/
theorem CallAt.head (h : CallAt cs path after) : cs.head? = some 'g' := by
  obtain ⟨b₁, b₂, b₃, quote, -, -, -, rfl⟩ := h
  rfl

/-- No call starts in a text without quotes, whether or not a call comes next. -/
theorem not_callAt_unquoted {c : Char} (hc : isQuote c = false)
    (hbody : ∀ d ∈ body, isQuote d = false)
    (hnext : cs = [] ∨ ∃ path after, CallAt cs path after) (path after : List Char) :
    ¬ CallAt (c :: (body ++ cs)) path after := by
  intro hat
  obtain ⟨hcount, hquote⟩ := hat.count_unquoted
  have hfront : ∀ d ∈ c :: body, isQuote d = false := List.forall_mem_cons.mpr ⟨hc, hbody⟩
  rcases hnext with rfl | ⟨path', after', hnext⟩
  · obtain ⟨d, hd, hquote⟩ := hquote
    rw [List.append_nil] at hd
    rw [hfront d hd] at hquote
    cases hquote
  · have hg : c = 'g' := Option.some.inj hat.head
    rw [← List.cons_append, unquoted_append hfront, List.count_append, hnext.count_unquoted.1, hg,
      List.count_cons_self] at hcount
    omega

/-- A word goes on behind a text if its last character is one of a word. -/
def wordAfter (inWord : Bool) (body : List Char) : Bool :=
  (body.getLast?.map isWordChar).getD inWord

/-- **The scan passes over a text without quotes** up to the call behind it. -/
theorem readsFrom_unquoted (hnext : cs = [] ∨ ∃ path after, CallAt cs path after) :
    ∀ (body : List Char) (inWord : Bool), (∀ c ∈ body, isQuote c = false) →
      readsFrom 0 inWord (body ++ cs) = readsFrom 0 (wordAfter inWord body) cs
  | [], _, _ => rfl
  | c :: body, inWord, hbody => by
    obtain ⟨hc, hrest⟩ := List.forall_mem_cons.mp hbody
    have hword : wordAfter inWord (c :: body) = wordAfter (isWordChar c) body := by
      rw [wordAfter, wordAfter, List.getLast?_cons]
      cases body.getLast? <;> rfl
    rw [List.cons_append, readsFrom_char fun _ => not_callAt_unquoted hc hrest hnext, hword]
    exact readsFrom_unquoted hnext body (isWordChar c) hrest

/-! ### Written calls -/

def isUnquoted (text : String) : Bool := text.toList.all fun c => !isQuote c

theorem isUnquoted_iff {text : String} :
    isUnquoted text = true ↔ ∀ c ∈ text.toList, isQuote c = false := by simp [isUnquoted]

/-- A call as it is written, with the text in front of it. -/
structure Lookup where
  before : String
  path : String
  quote : Char
  /-- The blanks before and behind the opening parenthesis, and before the closing one. -/
  (afterName afterOpening beforeClosing : String)
  unquoted : isUnquoted before = true
  /-- The name of the call starts a word. -/
  apart : before.toList.getLast?.all (fun c => !isWordChar c) = true
  nonempty : path ≠ ""
  quoted : isQuote quote = true
  plain : path.toList.all (fun c => c != quote && c != '\\') = true
  blank : (afterName.toList ++ afterOpening.toList ++ beforeClosing.toList).all isBlank = true

/-- The characters of a call. -/
def Lookup.call (l : Lookup) : List Char :=
  'g' :: 'e' :: 't' :: (l.afterName.toList ++ '(' :: (l.afterOpening.toList ++ l.quote ::
    (l.path.toList ++ l.quote :: (l.beforeClosing.toList ++ [')']))))

/-- A source that is written out of calls, with a text behind the last one. -/
def written (lookups : List Lookup) (last : String) : String :=
  lookups.foldr (fun l rest => l.before ++ String.ofList l.call ++ rest) last

theorem Lookup.callAt (l : Lookup) (rest : List Char) :
    CallAt (l.call ++ rest) l.path.toList rest := by
  have hplain : ∀ c ∈ l.path.toList, c ≠ l.quote ∧ c ≠ '\\' := by simpa using l.plain
  exact ⟨l.afterName.toList, l.afterOpening.toList, l.beforeClosing.toList, l.quote,
    isQuote_eq_true.mp l.quoted, List.all_eq_true.mp l.blank, hplain, by simp [Lookup.call]⟩

theorem Lookup.wordAfter_before (l : Lookup) : wordAfter false l.before.toList = false := by
  have hlast := l.apart
  unfold wordAfter
  cases h : l.before.toList.getLast? with
  | none => rfl
  | some c =>
    rw [h] at hlast
    simpa using hlast

/-- The scan finds the calls, and nothing else. -/
theorem readsFrom_written {last : String} (hlast : isUnquoted last = true) :
    ∀ lookups : List Lookup,
      readsFrom 0 false (written lookups last).toList = lookups.map (·.path)
  | [] => by
    have hpass := readsFrom_unquoted (.inl rfl) last.toList false (isUnquoted_iff.mp hlast)
    rw [List.append_nil, readsFrom] at hpass
    exact hpass
  | l :: lookups => by
    have hat := l.callAt (written lookups last).toList
    have htext : (written (l :: lookups) last).toList =
        l.before.toList ++ (l.call ++ (written lookups last).toList) := by
      simp [written]
    rw [htext, readsFrom_unquoted (.inr ⟨_, _, hat⟩) _ _ (isUnquoted_iff.mp l.unquoted),
      l.wordAfter_before, readsFrom_call hat, readsFrom_written hlast lookups,
      String.ofList_toList]
    rfl

/-- **Exactly the paths that were written are found**, each where it appears first. No source reads
a path twice or the empty path. -/
theorem dependencies_written :
    (∀ (lookups : List Lookup) (last : String), isUnquoted last = true →
      dependencies (written lookups last) = (lookups.map (·.path)).eraseDups) ∧
    ∀ source, (dependencies source).Nodup ∧ "" ∉ dependencies source := by
  refine ⟨fun lookups last hlast => ?_, fun source => ⟨nodup_distinct _ _, fun hempty => ?_⟩⟩
  · have hkept : (lookups.map (·.path)).filter (· != "") = lookups.map (·.path) := by
      rw [List.filter_eq_self]
      intro d hd
      obtain ⟨l, -, rfl⟩ := List.mem_map.mp hd
      simpa using l.nonempty
    have hnone : ∀ xs : List String, (xs.filter fun x => !List.contains [] x) = xs :=
      fun xs => List.filter_eq_self.mpr fun _ _ => rfl
    rw [dependencies, readsFrom_written hlast, hkept, distinct_eq_eraseDups, hnone]
  · exact (mem_dependencies.mp hempty).1 rfl

/-- Three calls, one of which has a call in its path. -/
def nestedLookups : List Lookup :=
  [{ before := "get(", path := "a", quote := '\'', afterName := "", afterOpening := " "
     beforeClosing := "", unquoted := rfl, apart := rfl, nonempty := by decide, quoted := rfl
     plain := rfl, blank := rfl },
   { before := " + ", path := "get('b')", quote := '"', afterName := " ", afterOpening := ""
     beforeClosing := "\n", unquoted := rfl, apart := rfl, nonempty := by decide, quoted := rfl
     plain := rfl, blank := rfl },
   { before := "", path := "a", quote := '"', afterName := "", afterOpening := ""
     beforeClosing := "", unquoted := rfl, apart := rfl, nonempty := by decide, quoted := rfl
     plain := rfl, blank := rfl }]

theorem dependencies_written_nested :
    written nestedLookups " + target" =
      "get(get( 'a') + get (\"get('b')\"\n)get(\"a\") + target" ∧
    dependencies (written nestedLookups " + target") = ["a", "get('b')"] ∧
    (dependencies "get('') + get('c') + get('c')").Nodup := by
  have hfound := dependencies_written.1 nestedLookups " + target" rfl
  exact ⟨by decide, hfound.trans (by decide), (dependencies_written.2 _).1⟩

end ReactiveTree.Graph
