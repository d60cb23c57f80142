import ReactiveTree.Proofs.Reaction.Turns

/-!
# Passes

A pass is one turn of every task, and passes are repeated until one changes nothing. What a turn
keeps, a pass and an evaluation keep. A pass that changes nothing saw one content of the tree in
all its turns, so at its end every task shows its outcome on the tree that is left
(`Working.foldl_quiet`). If a pass is quiet after `k` others, an evaluation ends with it at the
latest (`Working.settle_of_quiet`).

Key definitions: `Working.Settled`, `Working.turns`, `Working.allTurns`.
Key theorems: `Working.foldl_quiet`, `Working.settle_converged`, `Working.settle_of_quiet`,
`Working.settle_induct`.
-/
namespace ReactiveTree.Reaction

open Snippet (Engine)

variable {engine : Engine} {t : Tree} {x : Task} {ts : List Task} {w : Working} {e : Entry}
variable {n made : Nat}

namespace Working

/-! ### Turns in a row -/

theorem Follows.reset (h : w.Follows engine t) (b : Bool) :
    ({ w with changed := b } : Working).Follows engine t := ⟨h.layout, h.agrees, h.copy⟩

theorem foldl_follows (ht : t.Valid) : ∀ (ts : List Task) (w : Working), (∀ x ∈ ts, x.Listed t) →
    w.Follows engine t → (ts.foldl turn w).Follows engine t
  | [], _, _, h => h
  | x :: ts, w, hts, h => by
    have hx := turn_spec ht h (hts x List.mem_cons_self)
    exact foldl_follows ht ts _ (fun y hy => hts y (List.mem_cons_of_mem x hy)) hx.follows

/-- Primitives that are none of the tasks' stay as they are. -/
theorem foldl_frame (ht : t.Valid) (he : e ∈ t.primitives) : ∀ (ts : List Task) (w : Working),
    (∀ x ∈ ts, x.Listed t) → w.Follows engine t → (∀ x ∈ ts, e.path ≠ x.path) →
      (ts.foldl turn w).tree.get? e.path = w.tree.get? e.path
  | [], _, _, _, _ => rfl
  | x :: ts, w, hts, h, hne => by
    have hx := turn_spec ht h (hts x List.mem_cons_self)
    have ih := foldl_frame ht he ts _ (fun y hy => hts y (List.mem_cons_of_mem x hy)) hx.follows
      fun y hy => hne y (List.mem_cons_of_mem x hy)
    exact ih.trans (hx.frame e he (hne x List.mem_cons_self))

/-- The failure of a task that has no turn stays as it is. -/
theorem foldl_failures (ht : t.Valid) {path : String} : ∀ (ts : List Task) (w : Working),
    (∀ x ∈ ts, x.Listed t) → w.Follows engine t → (∀ x ∈ ts, path ≠ x.path) →
      Json.lookup path (ts.foldl turn w).failures = Json.lookup path w.failures
  | [], _, _, _, _ => rfl
  | x :: ts, w, hts, h, hne => by
    have hx := turn_spec ht h (hts x List.mem_cons_self)
    have ih := foldl_failures ht ts _ (fun y hy => hts y (List.mem_cons_of_mem x hy)) hx.follows
      fun y hy => hne y (List.mem_cons_of_mem x hy)
    rw [List.foldl_cons, ih, hx.failures, if_neg (hne x List.mem_cons_self).symm]

/-- **After turns that change nothing every task shows its outcome on the tree that is left.** -/
theorem foldl_quiet (ht : t.Valid) : ∀ (ts : List Task) (w : Working), (∀ x ∈ ts, x.Listed t) →
    (ts.map (·.path)).Nodup → w.Follows engine t → (ts.foldl turn w).changed = false →
      w.changed = false ∧ (ts.foldl turn w).tree.SameContent w.tree ∧
      ∀ x ∈ ts, Shows (ts.foldl turn w).tree x.path (outcome engine w.tree x) ∧
        Json.lookup x.path (ts.foldl turn w).failures = some (failureOf (outcome engine w.tree x))
  | [], w, _, _, _, hq => ⟨hq, .refl _, fun _ hx => (List.not_mem_nil hx).elim⟩
  | x :: ts, w, hts, hn, h, hq => by
    have hlisted := hts x List.mem_cons_self
    have hrest := fun y hy => hts y (List.mem_cons_of_mem x hy)
    have hx := turn_spec ht h hlisted
    rw [List.map_cons, List.nodup_cons] at hn
    obtain ⟨hc, hcontent, hall⟩ := foldl_quiet ht ts _ hrest hn.2 hx.follows hq
    have hne : ∀ y ∈ ts, x.path ≠ y.path := fun y hy he =>
      hn.1 (he ▸ List.mem_map_of_mem hy)
    rcases hx.written with ⟨hsame, hcontent'⟩ | ⟨hchanged, -⟩
    · refine ⟨hsame ▸ hc, hcontent.trans hcontent', fun y hy => ?_⟩
      rcases List.mem_cons.mp hy with rfl | hy
      · obtain ⟨e, he, hp, -⟩ := hlisted
        have hframe := foldl_frame ht he ts _ hrest hx.follows fun z hz => hp ▸ hne z hz
        have hfail := foldl_failures ht ts _ hrest hx.follows hne
        obtain ⟨m, hm, hshows⟩ := hx.shows
        rw [hp] at hframe
        refine ⟨⟨m, hframe.trans hm, hshows⟩, ?_⟩
        rw [List.foldl_cons, hfail, hx.failures, if_pos rfl]
      · rw [← outcome_agrees (.refl engine) hcontent']
        exact hall y hy
    · rw [hchanged] at hc
      cases hc

/-- What a turn would write is there already. -/
def Settled (engine : Engine) (tree : Tree) (x : Task) : Prop :=
  ∀ v, outcome engine tree x = .ok v → (tree.value? x.path).any (·.same v) = true

theorem Settled.of_content {a b : Tree} (h : Settled engine a x) (hc : a.SameContent b) :
    Settled engine b x := fun v hv => by
  rw [← outcome_agrees (.refl engine) hc] at hv
  rw [← hc.value?_eq]
  exact h v hv

/-- The turn of a task that is settled changes nothing. -/
theorem Turned.quiet {w' : Working} (h : Turned engine t x w w') (hs : Settled engine w.tree x) :
    w'.changed = w.changed ∧ w'.tree.SameContent w.tree := by
  rcases h.written with h | ⟨-, v, hv, -, hnot⟩
  · exact h
  · rw [hs v hv] at hnot
    cases hnot

/-- Turns of settled tasks change nothing. -/
theorem foldl_of_settled (ht : t.Valid) : ∀ (ts : List Task) (w : Working),
    (∀ x ∈ ts, x.Listed t) → w.Follows engine t → (∀ x ∈ ts, Settled engine w.tree x) →
      (ts.foldl turn w).changed = w.changed
  | [], _, _, _, _ => rfl
  | x :: ts, w, hts, h, hs => by
    have hx := turn_spec ht h (hts x List.mem_cons_self)
    obtain ⟨hc, hcontent⟩ := hx.quiet (hs x List.mem_cons_self)
    have ih := foldl_of_settled ht ts _ (fun y hy => hts y (List.mem_cons_of_mem x hy)) hx.follows
      fun y hy => (hs y (List.mem_cons_of_mem x hy)).of_content hcontent.symm
    exact ih.trans hc

/-! ### Passes in a row -/

theorem Follows.pass (ht : t.Valid) (hts : ∀ x ∈ ts, x.Listed t) (h : w.Follows engine t) :
    (w.pass ts).Follows engine t :=
  foldl_follows ht ts _ hts (h.reset false)

/-- After a pass that changes nothing every task shows its outcome. -/
theorem Follows.pass_quiet (ht : t.Valid) (hts : ∀ x ∈ ts, x.Listed t)
    (hn : (ts.map (·.path)).Nodup) (h : w.Follows engine t) (hq : (w.pass ts).changed = false) :
    ∀ x ∈ ts, Shows (w.pass ts).tree x.path (outcome engine (w.pass ts).tree x) ∧
      Json.lookup x.path (w.pass ts).failures =
        some (failureOf (outcome engine (w.pass ts).tree x)) := by
  obtain ⟨-, hcontent, hall⟩ := foldl_quiet ht ts _ hts hn (h.reset false) hq
  have hcontent : (w.pass ts).tree.SameContent w.tree := hcontent
  intro x hx
  rw [outcome_agrees (.refl engine) hcontent]
  exact hall x hx

theorem settle_succ (ts : List Task) (w : Working) (n made : Nat) :
    settle ts w (n + 1) made = if (w.pass ts).changed then settle ts (w.pass ts) n (made + 1)
      else (w.pass ts, made + 1, true) := rfl

theorem settle_follows (ht : t.Valid) (hts : ∀ x ∈ ts, x.Listed t) : ∀ (n made : Nat)
    (w : Working), w.Follows engine t → (settle ts w n made).1.Follows engine t
  | 0, _, _, h => h
  | n + 1, made, w, h => by
    rw [settle_succ]
    split
    · exact settle_follows ht hts n _ _ (h.pass ht hts)
    · exact h.pass ht hts

theorem settle_frame (ht : t.Valid) (hts : ∀ x ∈ ts, x.Listed t) (he : e ∈ t.primitives)
    (hne : ∀ x ∈ ts, e.path ≠ x.path) : ∀ (n made : Nat) (w : Working), w.Follows engine t →
      (settle ts w n made).1.tree.get? e.path = w.tree.get? e.path
  | 0, _, _, _ => rfl
  | n + 1, made, w, h => by
    have hp : (w.pass ts).tree.get? e.path = w.tree.get? e.path :=
      foldl_frame ht he ts _ hts (h.reset false) hne
    rw [settle_succ]
    split
    · rw [settle_frame ht hts he hne n _ _ (h.pass ht hts), hp]
    · exact hp

/-- An evaluation that converges ends with a pass that changes nothing. -/
theorem settle_converged (ht : t.Valid) (hts : ∀ x ∈ ts, x.Listed t) : ∀ (n made : Nat)
    (w : Working), w.Follows engine t → (settle ts w n made).2.2 = true →
      ∃ w' : Working, w'.Follows engine t ∧ (settle ts w n made).1 = w'.pass ts ∧
        (w'.pass ts).changed = false
  | 0, _, _, _, hc => by cases hc
  | n + 1, made, w, h, hc => by
    rw [settle_succ] at hc ⊢
    split at hc <;> rename_i hchanged
    · rw [if_pos hchanged]
      exact settle_converged ht hts n _ _ (h.pass ht hts) hc
    · rw [if_neg hchanged]
      exact ⟨w, h, rfl, by simpa using hchanged⟩

/-- If a pass after `k` others changes nothing, the evaluation ends with it at the latest. -/
theorem settle_of_quiet (ts : List Task) : ∀ (k n made : Nat) (w : Working), k < n →
    (((pass · ts)^[k] w).pass ts).changed = false →
      (settle ts w n made).2.2 = true ∧ (settle ts w n made).2.1 ≤ made + k + 1
  | _, 0, _, _, hk, _ => absurd hk (Nat.not_lt_zero _)
  | 0, n + 1, made, w, _, hq => by
    rw [settle_succ, if_neg (by simpa using hq)]
    exact ⟨rfl, Nat.le_refl _⟩
  | k + 1, n + 1, made, w, hk, hq => by
    rw [settle_succ]
    split
    · obtain ⟨hc, hle⟩ := settle_of_quiet ts k n (made + 1) (w.pass ts) (by omega) hq
      exact ⟨hc, by omega⟩
    · exact ⟨rfl, by change made + 1 ≤ _; omega⟩

/-! ### The turns of an evaluation -/

/-- The turns of tasks in a row: what each one finds, and whose it is. -/
def turns (w : Working) : List Task → List (Working × Task)
  | [] => []
  | x :: ts => (w, x) :: (w.turn x).turns ts

/-- The turns of all passes. -/
def allTurns (ts : List Task) (w : Working) : Nat → List (Working × Task)
  | 0 => []
  | n + 1 => ({ w with changed := false } : Working).turns ts ++
      if (w.pass ts).changed then (w.pass ts).allTurns ts n else []

theorem mem_turns {p : Working × Task} : ∀ {ts : List Task} {w : Working},
    p ∈ w.turns ts → p.2 ∈ ts
  | [], _, h => (List.not_mem_nil h).elim
  | x :: ts, w, h => by
    rcases List.mem_cons.mp h with rfl | h
    · exact List.mem_cons_self
    · exact List.mem_cons_of_mem x (mem_turns h)

theorem mem_allTurns {p : Working × Task} : ∀ (n : Nat) {w : Working},
    p ∈ w.allTurns ts n → p.2 ∈ ts
  | 0, _, h => (List.not_mem_nil h).elim
  | n + 1, w, h => by
    rcases List.mem_append.mp h with h | h
    · exact mem_turns h
    · split at h
      · exact mem_allTurns n h
      · exact (List.not_mem_nil h).elim

theorem length_turns : ∀ (ts : List Task) (w : Working), (w.turns ts).length = ts.length
  | [], _ => rfl
  | x :: ts, w => congrArg (· + 1) (length_turns ts (w.turn x))

/-- Each pass is one turn of every task. -/
theorem length_allTurns (ts : List Task) : ∀ (n made : Nat) (w : Working),
    made * ts.length + (w.allTurns ts n).length = (settle ts w n made).2.1 * ts.length
  | 0, _, _ => rfl
  | n + 1, made, w => by
    have hpass : (made + 1) * ts.length = made * ts.length + ts.length := Nat.succ_mul ..
    rw [allTurns, List.length_append, length_turns, settle_succ, ← Nat.add_assoc, ← hpass]
    split
    · exact length_allTurns ts n (made + 1) (w.pass ts)
    · rfl

section Kept

variable {I : Working → Prop}

theorem foldl_induct (ht : t.Valid) : ∀ (ts : List Task) (w : Working), (∀ x ∈ ts, x.Listed t) →
    w.Follows engine t →
    (∀ p ∈ w.turns ts, p.1.Follows engine t → p.2 ∈ ts → I p.1 → I (p.1.turn p.2)) →
      I w → I (ts.foldl turn w)
  | [], _, _, _, _, hw => hw
  | x :: ts, w, hts, h, hI, hw => by
    have hx := turn_spec ht h (hts x List.mem_cons_self)
    refine foldl_induct ht ts _ (fun y hy => hts y (List.mem_cons_of_mem x hy)) hx.follows
      (fun p hp hf hmem => hI p (List.mem_cons_of_mem _ hp) hf (List.mem_cons_of_mem x hmem)) ?_
    exact hI (w, x) List.mem_cons_self h List.mem_cons_self hw

/-- What the start of a pass and every turn keep is kept by an evaluation. -/
theorem settle_induct (ht : t.Valid) (hts : ∀ x ∈ ts, x.Listed t)
    (hreset : ∀ (w : Working) b, I w → I { w with changed := b }) : ∀ (n made : Nat)
    (w : Working), w.Follows engine t →
    (∀ p ∈ w.allTurns ts n, p.1.Follows engine t → p.2 ∈ ts → I p.1 → I (p.1.turn p.2)) →
      I w → I (settle ts w n made).1
  | 0, _, _, _, _, hw => hw
  | n + 1, made, w, h, hI, hw => by
    have hp : I (w.pass ts) := foldl_induct ht ts _ hts (h.reset false)
      (fun p hp => hI p (List.mem_append_left _ hp)) (hreset w false hw)
    rw [settle_succ]
    split
    · rename_i hc
      refine settle_induct ht hts hreset n _ _ (h.pass ht hts) (fun p hp => hI p ?_) hp
      rw [allTurns, if_pos hc]
      exact List.mem_append_right _ hp
    · exact hp

/-- What every turn keeps of the tree is kept by an evaluation. -/
theorem settle_keeps {I : Tree → Prop} (ht : t.Valid) (hts : ∀ x ∈ ts, x.Listed t) (n made : Nat)
    (w : Working) (h : w.Follows engine t)
    (hI : ∀ p ∈ w.allTurns ts n, p.1.Follows engine t → p.2 ∈ ts → I p.1.tree →
      I (p.1.turn p.2).tree) (hw : I w.tree) : I (settle ts w n made).1.tree :=
  settle_induct (I := fun w => I w.tree) ht hts (fun _ _ => id) n made w h hI hw

end Kept

end Working
end ReactiveTree.Reaction
