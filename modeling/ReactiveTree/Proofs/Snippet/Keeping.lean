import ReactiveTree.Snippet.Engine

/-!
# Kept snippets

A cache keeps a snippet under its source alone, but what a source is made into depends on the limits
too. So a call gets what its source was made into by the first call since it was last forgotten that
succeeded, under the limits of that call (`Cache.compile_after`); calls that fail leave nothing.
Where all calls have the same limits the cache cannot be told from an empty one; engines of
different limits that share it can tell (`Cache.after_compiles`).

Key definitions: `Request`, `Cache.after`, `makerOf`, `Cache.Answers`, `Engine.Sound`.
Key theorems: `Cache.find?_compile`, `Cache.Made.perform`, `Cache.compile_after`, `Cache.answers`,
`Engine.Sound.of_agrees`.
-/
namespace ReactiveTree.Snippet

variable {c : Cache} {limits l : Limits} {source other : String} {s : Compiled}

/-! ### One call -/

namespace Cache

theorem compile_of_some (h : c.find? source = some s) (limits : Limits) :
    c.compile limits source = (.ok s, c) := by
  rw [compile, h]

theorem compile_of_ok (h : c.find? source = none) (hs : Snippet.compile limits source = .ok s) :
    c.compile limits source = (.ok s, ⟨(source, s) :: c.entries⟩) := by
  rw [compile, h, hs]

theorem compile_of_error {err : SnippetError} (h : c.find? source = none)
    (he : Snippet.compile limits source = .error err) :
    c.compile limits source = (.error err, c) := by
  rw [compile, h, he]

/-- What is kept is given as it is, and what is not is made now. -/
theorem fst_compile_of_none (h : c.find? source = none) (limits : Limits) :
    (c.compile limits source).1 = Snippet.compile limits source := by
  cases hs : Snippet.compile limits source with
  | ok s => rw [compile_of_ok h hs]
  | error err => rw [compile_of_error h hs]

theorem fst_compile (c : Cache) (limits : Limits) (source : String) : (c.compile limits source).1 =
    (c.find? source).elim (Snippet.compile limits source) .ok := by
  cases hf : c.find? source with
  | some s => rw [compile_of_some hf, Option.elim_some]
  | none => exact fst_compile_of_none hf limits

theorem find?_cons (source : String) (s : Compiled) (c : Cache) (other : String) :
    (⟨(source, s) :: c.entries⟩ : Cache).find? other =
      if other = source then some s else c.find? other := by
  by_cases h : other = source
  · simp [find?, h]
  · simp [find?, h, Ne.symm h]

/-- **A call keeps what it makes**, if nothing is kept for its source. -/
theorem find?_compile (c : Cache) (limits : Limits) (source other : String) :
    (c.compile limits source).2.find? other =
      if other = source then (c.find? source).or (Snippet.compile limits source).toOption
      else c.find? other := by
  have hkept (hs : (c.find? source).or (Snippet.compile limits source).toOption = c.find? source) :
      c.find? other = if other = source then
        (c.find? source).or (Snippet.compile limits source).toOption else c.find? other := by
    split
    · rename_i h
      rw [h, hs]
    · rfl
  cases hf : c.find? source with
  | some s =>
    rw [compile_of_some hf, ← hf]
    exact hkept (by rw [hf]; rfl)
  | none =>
    cases hs : Snippet.compile limits source with
    | error err =>
      rw [compile_of_error hf hs, ← hf, ← hs]
      exact hkept (by rw [hf, hs]; rfl)
    | ok s =>
      rw [compile_of_ok hf hs]
      exact find?_cons source s c other

/-- **A call does not change what the next one gives** under the same limits. -/
theorem fst_compile_compile (c : Cache) (limits : Limits) (source other : String) :
    ((c.compile limits source).2.compile limits other).1 = (c.compile limits other).1 := by
  rw [fst_compile, fst_compile, find?_compile]
  split
  · rename_i h
    subst h
    cases c.find? other with
    | some s => rfl
    | none => cases Snippet.compile limits other <;> rfl
  · rfl

/-- A call that fails leaves the cache as it is. -/
theorem snd_compile_of_error {err : SnippetError} (h : Snippet.compile limits source = .error err)
    (c : Cache) : (c.compile limits source).2 = c := by
  cases hf : c.find? source with
  | some s => rw [compile_of_some hf]
  | none => rw [compile_of_error hf h]

theorem find?_erase (c : Cache) (source other : String) :
    (c.erase source).find? other = if other = source then none else c.find? other := by
  rw [find?, erase, List.find?_filter]
  split
  · rename_i h
    subst h
    simp
  · rename_i h
    rw [find?]
    refine congrArg (fun p => (c.entries.find? p).map (·.2)) (funext fun entry => ?_)
    by_cases he : entry.1 = other
    · simp [he, h]
    · simp [he]

end Cache

/-! ### Many calls -/

/-- What engines ask of a cache. -/
inductive Request where
  /-- An engine of some limits asks for a snippet. -/
  | compile (limits : Limits) (source : String)
  | invalidate (source : String)
  | clear

/-- Who made what is kept for a source, one more request seen. -/
def makerAfter (source : String) (maker : Option Limits) : Request → Option Limits
  | .compile limits other =>
    if other = source ∧ (Snippet.compile limits source).toBool then maker.or (some limits)
    else maker
  | .invalidate other => if other = source then none else maker
  | .clear => none

/-- The limits under which the snippet was made that is kept for a source: those of the first call
that succeeded since the source was last forgotten. -/
def makerOf (source : String) (requests : List Request) : Option Limits :=
  requests.foldl (makerAfter source) none

namespace Cache

/-- The cache after a request. -/
def perform (c : Cache) : Request → Cache
  | .compile limits source => (c.compile limits source).2
  | .invalidate source => c.erase source
  | .clear => {}

/-- The cache after some requests. -/
def after (c : Cache) (requests : List Request) : Cache := requests.foldl perform c

/-- What is kept for a source was made under these limits; nothing is kept if there are none. -/
def Made (c : Cache) (source : String) (maker : Option Limits) : Prop :=
  c.find? source = maker.bind (fun l => (Snippet.compile l source).toOption) ∧
    ∀ l ∈ maker, (Snippet.compile l source).toBool = true

theorem made_empty (source : String) : ({} : Cache).Made source none := ⟨rfl, fun _ h => nomatch h⟩

/-- **Each request keeps track of who made what is kept.** -/
theorem Made.perform {maker : Option Limits} (h : c.Made source maker) (r : Request) :
    (c.perform r).Made source (makerAfter source maker r) := by
  obtain ⟨hfind, hready⟩ := h
  cases r with
  | clear => exact made_empty source
  | invalidate other =>
    rw [Cache.perform, makerAfter, Made, find?_erase]
    by_cases ho : other = source
    · rw [if_pos ho.symm, if_pos ho]
      exact ⟨rfl, fun _ h => nomatch h⟩
    · rw [if_neg (Ne.symm ho), if_neg ho]
      exact ⟨hfind, hready⟩
  | compile limits other =>
    rw [Cache.perform, makerAfter, Made, find?_compile]
    by_cases ho : other = source
    · subst ho
      rw [if_pos rfl, hfind]
      cases hs : Snippet.compile limits other with
      | error err =>
        rw [if_neg (fun h => nomatch h.2)]
        exact ⟨Option.or_none, hready⟩
      | ok s =>
        rw [if_pos ⟨rfl, rfl⟩]
        cases maker with
        | none => exact ⟨by simp [hs], by simp [hs, Except.toBool]⟩
        | some l =>
          have hl := hready l rfl
          cases hl' : Snippet.compile l other with
          | error err =>
            rw [hl'] at hl
            cases hl
          | ok s' => exact ⟨by simp [hl', Except.toOption], hready⟩
    · rw [if_neg (Ne.symm ho), if_neg (fun h => ho h.1)]
      exact ⟨hfind, hready⟩

theorem made_after (requests : List Request) (source : String) :
    (({} : Cache).after requests).Made source (makerOf source requests) := by
  have h : ∀ (requests : List Request) (c : Cache) (maker : Option Limits), c.Made source maker →
      (c.after requests).Made source (requests.foldl (makerAfter source) maker) := by
    intro requests
    induction requests with
    | nil => exact fun _ _ h => h
    | cons r requests ih => exact fun c maker h => ih _ _ (h.perform r)
  exact h requests {} none (made_empty source)

/-- **A call gives what the source was made into when it was kept**, under the limits of then. -/
theorem compile_after (requests : List Request) (limits : Limits) (source : String) :
    ((({} : Cache).after requests).compile limits source).1 =
      Snippet.compile ((makerOf source requests).getD limits) source := by
  obtain ⟨hfind, hready⟩ := made_after requests source
  cases hm : makerOf source requests with
  | none =>
    rw [hm] at hfind
    exact fst_compile_of_none hfind limits
  | some l =>
    have hl := hready l hm
    rw [hm, Option.bind_some] at hfind
    rw [Option.getD_some]
    cases hs : Snippet.compile l source with
    | error err =>
      rw [hs] at hl
      cases hl
    | ok s =>
      rw [hs] at hfind
      rw [compile_of_some hfind]

/-- Who made what is kept asked for it. -/
theorem mem_of_makerOf (source : String) : ∀ (requests : List Request) {maker : Option Limits},
    requests.foldl (makerAfter source) maker = some l →
      maker = some l ∨ Request.compile l source ∈ requests
  | [], _, h => .inl h
  | r :: requests, maker, hm => by
    rcases mem_of_makerOf source requests hm with h | h
    · cases r with
      | clear => cases h
      | invalidate other =>
        rw [makerAfter] at h
        split at h
        · cases h
        · exact .inl h
      | compile limits other =>
        rw [makerAfter] at h
        split at h
        · rename_i ho
          obtain rfl := ho.1
          rcases Option.or_eq_some_iff.mp h with h | ⟨-, h⟩
          · exact .inl h
          · obtain rfl := Option.some.inj h
            exact .inr List.mem_cons_self
        · exact .inl h
    · exact .inr (List.mem_cons_of_mem r h)

/-- What is said of the calls that follow some requests. -/
structure Answers (requests : List Request) : Prop where
  /-- A call gives what its source was made into by the first call that succeeded since the source
  was forgotten, if there is one. -/
  outcome : ∀ limits source, ((({} : Cache).after requests).compile limits source).1 =
    Snippet.compile ((makerOf source requests).getD limits) source
  /-- It is what an empty cache gives just if the limits of that call make the same of it. -/
  transparent : ∀ limits source,
    ((({} : Cache).after requests).compile limits source).1 =
        (({} : Cache).compile limits source).1 ↔
      ∀ l ∈ makerOf source requests, Snippet.compile l source = Snippet.compile limits source
  /-- What is kept was made by a call that succeeded, so failures are not kept. -/
  kept : ∀ source s, (({} : Cache).after requests).find? source = some s →
    ∃ l, Request.compile l source ∈ requests ∧ Snippet.compile l source = .ok s
  failing : ∀ limits source err, Snippet.compile limits source = .error err →
    ((({} : Cache).after requests).compile limits source).2 = ({} : Cache).after requests
  /-- Engines of the same limits cannot tell the cache from an empty one. -/
  alike : ∀ limits, (∀ l source, Request.compile l source ∈ requests → l = limits) →
    ∀ source, ((({} : Cache).after requests).compile limits source).1 =
      (({} : Cache).compile limits source).1

/-- **What a cache that engines share gives, and when it is transparent.** -/
theorem answers (requests : List Request) : Answers requests := by
  have hempty (limits : Limits) (source : String) :
      (({} : Cache).compile limits source).1 = Snippet.compile limits source :=
    fst_compile_of_none rfl limits
  refine ⟨compile_after requests, fun limits source => ?_, fun source s h => ?_,
    fun limits source err h => snd_compile_of_error h _, fun limits hall source => ?_⟩
  · rw [compile_after, hempty]
    cases makerOf source requests with
    | none => simp
    | some l => simp
  · obtain ⟨hfind, hready⟩ := made_after requests source
    rw [hfind, Option.bind_eq_some_iff] at h
    obtain ⟨l, hl, hs⟩ := h
    refine ⟨l, (mem_of_makerOf source requests hl).resolve_left nofun, ?_⟩
    cases hc : Snippet.compile l source with
    | error err =>
      rw [hc] at hs
      cases hs
    | ok s' =>
      rw [hc] at hs
      exact congrArg Except.ok (Option.some.inj hs)
  · rw [compile_after, hempty]
    cases hm : makerOf source requests with
    | none => rfl
    | some l =>
      have hl := (mem_of_makerOf source requests hm).resolve_left nofun
      rw [Option.getD_some, hall l source hl]

/-- A source that is too deep for one engine is given to it all the same, once an engine with wider
limits has asked for it. -/
theorem after_compiles :
    (Snippet.compile { depth := 6 } "1 + (2 + (3 + 4))").toBool = false ∧
    ((({} : Cache).compile { depth := 6 } "1 + (2 + (3 + 4))").1).toBool = false ∧
    (((({} : Cache).after [.compile {} "1 + (2 + (3 + 4))"]).compile { depth := 6 }
      "1 + (2 + (3 + 4))").1).toBool = true :=
  ⟨by decide +kernel, by decide +kernel, by decide +kernel⟩

end Cache

/-! ### Engines -/

namespace Engine

variable {e e' : Engine}

/-- The engine makes of every source what its limits make of it. -/
def Sound (e : Engine) : Prop := ∀ source, (e.compile source).1 = Snippet.compile e.limits source

/-- What an engine keeps was made under its limits. -/
theorem sound_iff : e.Sound ↔
    ∀ source s, e.cache.find? source = some s → Snippet.compile e.limits source = .ok s := by
  constructor
  · intro h source s hs
    rw [← h source, compile, Cache.compile_of_some hs]
  · intro h source
    rw [compile]
    cases hf : e.cache.find? source with
    | none => exact Cache.fst_compile_of_none hf e.limits
    | some s => rw [Cache.compile_of_some hf, h source s hf]

theorem sound_of_empty (h : e.cache = {}) : e.Sound := by
  refine sound_iff.mpr fun source s hs => ?_
  rw [h] at hs
  cases hs

/-- Forgetting a source does no harm. -/
theorem Sound.erase (h : e.Sound) (source : String) :
    ({ e with cache := e.cache.erase source } : Engine).Sound := by
  refine sound_iff.mpr fun other s hs => ?_
  rw [Cache.find?_erase] at hs
  split at hs
  · cases hs
  · exact sound_iff.mp h other s hs

end Engine
end ReactiveTree.Snippet
