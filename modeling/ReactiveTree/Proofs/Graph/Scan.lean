import ReactiveTree.Graph.Dependencies
import Mathlib.Data.List.TakeDrop
import Mathlib.Data.List.TakeWhile

/-!
# What the scan of a source finds

The scan goes over the text of a source from the left. It stops at a call of `get` that starts a
word and has one plain literal as its only argument, and goes on behind it; everything else it
passes over, one character at a time. So it finds a path if and only if a call with this literal
stands at a place that the scan gets to (`mem_dependencies`): calls inside the literal of an earlier
one are covered, and those with an escape or a comment in them are none.

Key definitions: `CallAt`, `Passes`.
Key theorems: `readHere?_eq_some`, `mem_readsFrom`, `mem_dependencies`.
-/
namespace ReactiveTree.Graph

open Text (isBlank isWordChar)

variable {cs path after before : List Char} {quote : Char}

/-! ### Distinct texts -/

theorem mem_distinct {x : String} : ∀ {xs seen : List String},
    x ∈ distinct seen xs ↔ x ∈ xs ∧ x ∉ seen
  | [], _ => by simp [distinct]
  | y :: xs, seen => by
    rw [distinct]
    split
    · rename_i hy
      rw [List.contains_iff_mem] at hy
      rw [mem_distinct, List.mem_cons]
      exact ⟨fun ⟨h, h'⟩ => ⟨.inr h, h'⟩, fun ⟨h, h'⟩ =>
        ⟨h.resolve_left fun he => h' (he ▸ hy), h'⟩⟩
    · rename_i hy
      rw [List.contains_iff_mem] at hy
      rw [List.mem_cons, mem_distinct, List.mem_cons, List.mem_cons]
      by_cases he : x = y
      · subst he
        simpa using hy
      · simp [he]

/-! ### A call -/

/-- A call of `get` whose only argument is a plain literal stands in front of a text. -/
def CallAt (cs path after : List Char) : Prop :=
  ∃ (b₁ b₂ b₃ : List Char) (quote : Char), (quote = '\'' ∨ quote = '"') ∧
    (∀ c ∈ b₁ ++ b₂ ++ b₃, isBlank c = true) ∧ (∀ c ∈ path, c ≠ quote ∧ c ≠ '\\') ∧
    cs = 'g' :: 'e' :: 't' :: (b₁ ++ '(' :: (b₂ ++ quote :: (path ++ quote :: (b₃ ++ ')' :: after))))

theorem plainLiteral?_eq_some : plainLiteral? quote cs = some (path, after) ↔
    (∀ c ∈ path, c ≠ quote ∧ c ≠ '\\') ∧ cs = path ++ quote :: after := by
  let plain (c : Char) : Bool := c != quote && c != '\\'
  have hplain : ∀ {c : Char}, plain c = true ↔ c ≠ quote ∧ c ≠ '\\' := by simp [plain]
  rw [plainLiteral?, List.span_eq_takeWhile_dropWhile]
  constructor
  · intro h
    split at h
    · rename_i body c rest heq
      obtain ⟨hbody, hrest⟩ := Prod.mk.inj heq
      split at h
      · rename_i hc
        subst hc
        obtain ⟨rfl, rfl⟩ := Prod.mk.inj (Option.some.inj h)
        refine ⟨fun c hc => hplain.mp ?_, ?_⟩
        · rw [← hbody] at hc
          exact List.mem_takeWhile_imp hc
        · rw [← hbody, ← hrest, List.takeWhile_append_dropWhile]
      · cases h
    · cases h
  · rintro ⟨hpath, rfl⟩
    have hp : ∀ c ∈ path, plain c = true := fun c hc => hplain.mpr (hpath c hc)
    have hq : ¬ plain quote = true := by simp [plain]
    rw [List.takeWhile_append_of_pos hp, List.takeWhile_cons_of_neg hq,
      List.dropWhile_append_of_pos hp, List.dropWhile_cons_of_neg hq, List.append_nil]
    exact if_pos rfl

theorem exists_blanks {rest : List Char} (h : cs.dropWhile isBlank = rest) :
    ∃ b, (∀ c ∈ b, isBlank c = true) ∧ cs = b ++ rest :=
  ⟨cs.takeWhile isBlank, fun _ => List.mem_takeWhile_imp,
    h ▸ (List.takeWhile_append_dropWhile ..).symm⟩

theorem dropWhile_blanks {b : List Char} (hb : ∀ c ∈ b, isBlank c = true) {c : Char}
    (hc : isBlank c = false) (cs : List Char) : (b ++ c :: cs).dropWhile isBlank = c :: cs := by
  rw [List.dropWhile_append_of_pos hb, List.dropWhile_cons_of_neg (by simp [hc])]

theorem callAt_of_readHere? (h : readHere? cs = some (path, after)) : CallAt cs path after := by
  unfold readHere? at h
  split at h
  · rename_i cs₁
    split at h
    · rename_i cs₂ h₁
      split at h
      · rename_i quote cs₃ h₂
        split at h
        · rename_i hq
          split at h
          · rename_i path' cs₄ hl
            split at h
            · rename_i after' h₃
              obtain ⟨rfl, rfl⟩ := Prod.mk.inj (Option.some.inj h)
              obtain ⟨b₁, hb₁, rfl⟩ := exists_blanks h₁
              obtain ⟨b₂, hb₂, rfl⟩ := exists_blanks h₂
              obtain ⟨b₃, hb₃, rfl⟩ := exists_blanks h₃
              obtain ⟨hpath, rfl⟩ := plainLiteral?_eq_some.mp hl
              refine ⟨b₁, b₂, b₃, quote, hq, ?_, hpath, rfl⟩
              simp only [List.mem_append]
              rintro c ((hc | hc) | hc)
              · exact hb₁ c hc
              · exact hb₂ c hc
              · exact hb₃ c hc
            · cases h
          · cases h
        · cases h
      · cases h
    · cases h
  · cases h

theorem CallAt.readHere? (h : CallAt cs path after) : Graph.readHere? cs = some (path, after) := by
  obtain ⟨b₁, b₂, b₃, quote, hq, hb, hpath, rfl⟩ := h
  simp only [List.mem_append] at hb
  have hquote : isBlank quote = false := by rcases hq with rfl | rfl <;> rfl
  have hl : plainLiteral? quote (path ++ quote :: (b₃ ++ ')' :: after)) =
      some (path, b₃ ++ ')' :: after) := plainLiteral?_eq_some.mpr ⟨hpath, rfl⟩
  have h₁ := dropWhile_blanks (fun c hc => hb c (.inl (.inl hc))) (c := '(') rfl
  have h₂ := dropWhile_blanks (fun c hc => hb c (.inl (.inr hc))) hquote
  have h₃ := dropWhile_blanks (fun c hc => hb c (.inr hc)) (c := ')') rfl
  simp only [Graph.readHere?, h₁, h₂, if_pos hq, hl, h₃]

/-- **A read starts where a call stands.** -/
theorem readHere?_eq_some : readHere? cs = some (path, after) ↔ CallAt cs path after :=
  ⟨callAt_of_readHere?, CallAt.readHere?⟩

theorem readHere?_eq_none : readHere? cs = none ↔ ∀ path after, ¬ CallAt cs path after := by
  rw [Option.eq_none_iff_forall_ne_some]
  simp [← readHere?_eq_some]

/-! ### The scan -/

/-- The scan passes over the front of a text and stands before the rest. The flags say whether a
word goes on at the start and at the end. -/
inductive Passes : Bool → List Char → Bool → List Char → Prop
  | done {w : Bool} {cs : List Char} : Passes w cs w cs
  | char {w w' : Bool} {c : Char} {cs rest : List Char} :
      (w = false → ∀ path after, ¬ CallAt (c :: cs) path after) →
      Passes (isWordChar c) cs w' rest → Passes w (c :: cs) w' rest
  | call {w' : Bool} {cs path after rest : List Char} :
      CallAt cs path after → Passes false after w' rest → Passes false cs w' rest

theorem CallAt.exists_front (h : CallAt cs path after) :
    ∃ c front, cs = c :: (front ++ after) := by
  obtain ⟨b₁, b₂, b₃, quote, -, -, -, rfl⟩ := h
  exact ⟨'g', 'e' :: 't' :: (b₁ ++ '(' :: (b₂ ++ quote :: (path ++ quote :: (b₃ ++ [')'])))),
    by simp⟩

/-- Nothing is found inside a call. -/
theorem readsFrom_append : ∀ front after : List Char,
    readsFrom front.length false (front ++ after) = readsFrom 0 false after
  | [], _ => rfl
  | _ :: front, after => readsFrom_append front after

theorem readsFrom_call (h : CallAt cs path after) :
    readsFrom 0 false cs = String.ofList path :: readsFrom 0 false after := by
  obtain ⟨c, front, rfl⟩ := h.exists_front
  rw [readsFrom, if_neg Bool.false_ne_true, h.readHere?]
  dsimp only
  rw [List.length_append, Nat.add_sub_cancel, readsFrom_append]

theorem readsFrom_char {w : Bool} {c : Char}
    (h : w = false → ∀ path after, ¬ CallAt (c :: cs) path after) :
    readsFrom 0 w (c :: cs) = readsFrom 0 (isWordChar c) cs := by
  rw [readsFrom]
  cases w with
  | true => rfl
  | false => rw [if_neg Bool.false_ne_true, readHere?_eq_none.mpr (h rfl)]

theorem exists_of_mem_readsFrom {d : String} : ∀ {w : Bool} {cs : List Char},
    d ∈ readsFrom 0 w cs → ∃ rest after, Passes w cs false rest ∧ CallAt rest d.toList after
  | _, [], h => by simp [readsFrom] at h
  | w, c :: cs, h => by
    -- The scan leaves out a whole call or one character, so the recursion is on the length.
    by_cases hcall : w = false ∧ ∃ path after, CallAt (c :: cs) path after
    · obtain ⟨rfl, path, after, hcall⟩ := hcall
      rw [readsFrom_call hcall] at h
      rcases List.mem_cons.mp h with rfl | h
      · exact ⟨c :: cs, after, .done, by rwa [String.toList_ofList]⟩
      · have hlt : after.length < (c :: cs).length := by
          obtain ⟨c', front, he⟩ := hcall.exists_front
          rw [he, List.length_cons, List.length_append]
          omega
        obtain ⟨rest, after', hpass, hat⟩ := exists_of_mem_readsFrom h
        exact ⟨rest, after', .call hcall hpass, hat⟩
    · have hnone : w = false → ∀ path after, ¬ CallAt (c :: cs) path after :=
        fun hw path after hat => hcall ⟨hw, path, after, hat⟩
      rw [readsFrom_char hnone] at h
      obtain ⟨rest, after', hpass, hat⟩ := exists_of_mem_readsFrom h
      exact ⟨rest, after', .char hnone hpass, hat⟩
termination_by _ cs => cs.length
decreasing_by
  · exact hlt
  · exact Nat.lt_succ_self _

theorem mem_readsFrom_of_passes {d : String} {w : Bool} {rest : List Char}
    (h : Passes w cs false rest) (hat : CallAt rest d.toList after) : d ∈ readsFrom 0 w cs := by
  generalize hw' : false = w' at h
  induction h with
  | done =>
    subst hw'
    rw [readsFrom_call hat, String.ofList_toList]
    exact List.mem_cons_self
  | char hnone _ ih =>
    rw [readsFrom_char hnone]
    exact ih hat hw'
  | call hcall _ ih =>
    rw [readsFrom_call hcall]
    exact List.mem_cons_of_mem _ (ih hat hw')

/-- **The scan finds the calls that stand where it gets to.** -/
theorem mem_readsFrom {d : String} {w : Bool} : d ∈ readsFrom 0 w cs ↔
    ∃ rest after, Passes w cs false rest ∧ CallAt rest d.toList after :=
  ⟨exists_of_mem_readsFrom, fun ⟨_, _, h, hat⟩ => mem_readsFrom_of_passes h hat⟩

/-- **A source reads the paths of the calls that the scan gets to.** -/
theorem mem_dependencies {d source : String} : d ∈ dependencies source ↔
    d ≠ "" ∧ ∃ rest after, Passes false source.toList false rest ∧ CallAt rest d.toList after := by
  rw [dependencies, mem_distinct, List.mem_filter, mem_readsFrom]
  simp [and_comm]

end ReactiveTree.Graph
