import ReactiveTree.Proofs.Alike
import ReactiveTree.Proofs.Reaction.Settling

/-!
# Computed values are a function of the inputs

Two trees that list the same nodes have the same edges between paths, so the same paths are on
cycles and the same tasks run, although the vertices are numbered in another order and the turns
come in another order. If all tasks are static, both evaluations end in fixpoints. Task by task,
by level, the values that a task reads agree in both, so do its outcomes, and a stored value that
is the same as the outcome is the outcome, but for the sign of zero.

Key definitions: `evaluationTurns`, `NoNegativeZero`.
Key theorems: `onCycle_iff`, `stored_ne_negativeZero`, `evaluate_inputs`.
-/
namespace ReactiveTree.Reaction

open Snippet (Engine Datum)
open ReactiveTree.Graph (DependencyGraph expressions mem_expressions dependencies)

variable {engine : Engine} {t a b : Tree} {x y : Task} {n : Nat} {p : String}

/-! ### The same tasks run -/

section SameNodes

variable (ha : a.Valid) (hb : b.Valid) (h : a.SameNodes b)

include ha hb h

theorem expressions_of_sameNodes {source : String} (hs : (p, source) ∈ expressions a) :
    (p, source) ∈ expressions b := by
  obtain ⟨e, he, rfl, hsource⟩ := mem_expressions.mp hs
  obtain ⟨m, hm, -, hr⟩ := h.mem_primitives ha hb he
  exact mem_expressions.mpr ⟨_, hm, rfl, by rw [hr, hsource]⟩

theorem onCycle_of_sameNodes (hp : (DependencyGraph.ofTree a).OnCycle p) :
    (DependencyGraph.ofTree b).OnCycle p :=
  hp.mono fun _ hs => expressions_of_sameNodes ha hb h hs

/-- The same paths are on cycles. -/
theorem onCycle_iff : (DependencyGraph.ofTree a).OnCycle p ↔ (DependencyGraph.ofTree b).OnCycle p :=
  ⟨onCycle_of_sameNodes ha hb h, onCycle_of_sameNodes hb ha h.symm⟩

/-- The same tasks run. -/
theorem runnable_of_sameNodes (hx : x ∈ runnable a) :
    ∃ y ∈ runnable b, y.path = x.path ∧ y.source = x.source ∧ y.kind = x.kind := by
  obtain ⟨hx, hc⟩ := mem_runnable.mp hx
  obtain ⟨e, he, hp, hk, hs⟩ := entry_of_task hx
  obtain ⟨m, hm, hkm, hr⟩ := h.mem_primitives ha hb he
  let y : Task := { path := e.path, source := x.source, kind := m.kind
                    level := ((DependencyGraph.ofTree b).level? e.path).getD 0, start := m.value? }
  have hy : y ∈ tasks b (.ofTree b) := mem_tasks.mpr ⟨_, hm, x.source, by rw [hr, hs], rfl⟩
  refine ⟨y, mem_runnable.mpr ⟨hy, fun hc' => hc ?_⟩, hp, rfl, hkm.trans hk⟩
  exact hp ▸ (onCycle_iff ha hb h).mpr hc'

end SameNodes

/-! ### Negative zero -/

/-- The turns of an evaluation. -/
def evaluationTurns (engine : Engine) (t : Tree) (maxPasses : Nat) : List (Working × Task) :=
  (Working.begin engine t).allTurns (runnable t) maxPasses

/-- No stored value is negative zero, nor does an expression give it in a turn. -/
def NoNegativeZero (engine : Engine) (t : Tree) (maxPasses : Nat) : Prop :=
  (∀ e ∈ t.primitives, t.value? e.path ≠ some .negativeZero) ∧
    ∀ p ∈ evaluationTurns engine t maxPasses, (compute p.1.engine p.2).1 ≠ .ok .negativeZero

/-- Negative zero does not occur in a tree without numbers. -/
theorem noNegativeZero_of_kind (ht : t.Valid) (h : ∀ e ∈ t.primitives, e.node.kind ≠ .number) :
    NoNegativeZero engine t n := by
  constructor
  · intro e he hv
    have hk := h e he
    rw [Tree.value?, Tree.get?_of_mem_primitives ht he, Option.bind_some] at hv
    cases hm : e.node with
    | object r cs =>
      rw [hm] at hv
      cases hv
    | array r is =>
      rw [hm] at hv
      cases hv
    | leaf r v =>
      rw [hm] at hv hk
      cases hv
      exact hk rfl
  · intro p hp hv
    obtain ⟨e, he, -, hk, -⟩ := entry_of_task (mem_runnable.mp (Working.mem_allTurns n hp)).1
    exact h e he (hk.trans (kind_of_compute hv).symm)

/-- Negative zero is not stored if it is not there and no turn gives it. -/
theorem stored_ne_negativeZero (ht : t.Valid) (h : NoNegativeZero engine t n) :
    ∀ e ∈ t.primitives, (finish engine t n).1.tree.value? e.path ≠ some .negativeZero := by
  obtain ⟨hf, hcontent, -⟩ := Working.begin_spec engine ht
  have hbegin : ∀ e ∈ t.primitives,
      (Working.begin engine t).tree.value? e.path ≠ some .negativeZero := fun e he => by
    rw [hcontent.value?_eq]
    exact h.1 e he
  rw [finish]
  split
  · exact hbegin
  · refine Working.settle_keeps
      (I := fun c => ∀ e ∈ t.primitives, c.value? e.path ≠ some .negativeZero)
      ht listed_of_runnable n 0 _ hf (fun q hq hfollows hmem hI e he => ?_) hbegin
    rcases (Working.turn_spec ht hfollows (listed_of_runnable _ hmem)).value he with
      heq | ⟨v, hv, heq⟩
    · rw [heq]
      exact hI e he
    · rw [heq]
      rintro ⟨⟩
      exact h.2 q hq ((hfollows.fst_compute q.2).trans hv)

/-! ### Final values -/

/-- What an evaluation that converges without an error stores is the same as the outcome. -/
theorem stored_of_converged (ht : t.Valid) (hc : (evaluate engine t n).1.converged = true)
    (he : ∀ r ∈ (evaluate engine t n).1.errors, (DependencyGraph.ofTree t).OnCycle r.1)
    (hx : x ∈ runnable t) : ∃ u v, (finish engine t n).1.tree.value? x.path = some u ∧
      outcome engine (finish engine t n).1.tree x = .ok v ∧ u.same v = true := by
  rw [converged_evaluate] at hc
  obtain ⟨⟨m, hm, -, hvalue⟩, hfail⟩ := finish_shows engine ht hc hx
  obtain ⟨htask, hcycle⟩ := mem_runnable.mp hx
  cases hr : outcome engine (finish engine t n).1.tree x with
  | error err =>
    rw [hr] at hfail
    exact absurd (he _ (mem_errors engine n htask hfail)) hcycle
  | ok v =>
    obtain ⟨u, hu, hsame⟩ := hvalue v hr
    exact ⟨u, v, by rw [Tree.value?, hm, Option.bind_some, hu], rfl, hsame⟩

/-- Values that no task computes are kept. -/
theorem value_kept (engine : Engine) (ht : t.Valid) (n : Nat) {e : Entry} (he : e ∈ t.primitives)
    (hne : ∀ x ∈ runnable t, e.path ≠ x.path) :
    (finish engine t n).1.tree.value? e.path = t.value? e.path := by
  obtain ⟨-, hcontent, -⟩ := Working.begin_spec engine ht
  rw [Tree.value?, finish_frame engine ht n he hne, ← hcontent.value?_eq]
  rfl

theorem finish_valid (engine : Engine) (ht : t.Valid) (n : Nat) :
    (finish engine t n).1.tree.Valid :=
  ht.of_sameLayout (finish_follows engine ht n).layout

section TwoRuns

variable (ha : a.Valid) (hb : b.Valid) (hnodes : a.SameNodes b)

include ha hb hnodes

theorem alike_finish (engine : Engine) (n : Nat) :
    (finish engine a n).1.tree.Alike (finish engine b n).1.tree :=
  (finish_follows engine ha n).layout.symm.alike.trans
    ((hnodes.alike ha hb).trans (finish_follows engine hb n).layout.alike)

theorem resolves_of_sameNodes {d : String} (hd : Resolves a d) : Resolves b d := by
  rcases hd with hnone | ⟨e, he, rfl⟩
  · exact .inl ((hnodes.alike ha hb).get?_eq_none ha hb hnone)
  · obtain ⟨m, hm, -⟩ := hnodes.mem_primitives ha hb he
    exact .inr ⟨_, hm, rfl⟩

/-- The tasks of one tree are static if those of the other are. -/
theorem static_of_sameNodes
    (hs : ∀ x ∈ runnable a, Static engine (fun c => a.SameLayout c ∨ b.SameLayout c) x ∧
      ∀ d ∈ dependencies x.source, Resolves a d) (hy : y ∈ runnable b) :
    Static engine b.SameLayout y ∧ ∀ d ∈ dependencies y.source, Resolves b d := by
  obtain ⟨x, hx, hp, hsource, hk⟩ := runnable_of_sameNodes hb ha hnodes.symm hy
  obtain ⟨hstatic, hd⟩ := hs x hx
  rw [hsource] at hd
  refine ⟨fun c d hc hd hr => ?_, fun d hmem => resolves_of_sameNodes ha hb hnodes (hd d hmem)⟩
  rw [← outcome_congr hp hsource hk, ← outcome_congr hp hsource hk]
  exact hstatic c d (.inr hc) (.inr hd) (hsource ▸ hr)

/-- The values that no task computes agree at the end if they agree before. -/
theorem value_kept_agrees (engine : Engine) (n : Nat)
    (hin : ∀ e ∈ a.primitives, (∀ x ∈ runnable a, e.path ≠ x.path) →
      a.value? e.path = b.value? e.path)
    {e : Entry} (he : e ∈ a.primitives) (hne : ∀ x ∈ runnable a, e.path ≠ x.path) :
    (finish engine a n).1.tree.value? e.path = (finish engine b n).1.tree.value? e.path := by
  obtain ⟨m, hm, -⟩ := hnodes.mem_primitives ha hb he
  rw [value_kept engine ha n he hne, hin e he hne]
  refine (value_kept engine hb n hm fun y hy heq => ?_).symm
  obtain ⟨x, hx, hp, -⟩ := runnable_of_sameNodes hb ha hnodes.symm hy
  exact hne x hx (heq.trans hp.symm)

section Converged

variable (hin : ∀ e ∈ a.primitives, (∀ x ∈ runnable a, e.path ≠ x.path) →
    a.value? e.path = b.value? e.path)
  (hs : ∀ x ∈ runnable a, Static engine (fun c => a.SameLayout c ∨ b.SameLayout c) x ∧
    ∀ d ∈ dependencies x.source, Resolves a d)
  (hza : NoNegativeZero engine a n) (hzb : NoNegativeZero engine b n)
  (hea : ∀ r ∈ (evaluate engine a n).1.errors, (DependencyGraph.ofTree a).OnCycle r.1)
  (heb : ∀ r ∈ (evaluate engine b n).1.errors, (DependencyGraph.ofTree b).OnCycle r.1)
  (hca : (evaluate engine a n).1.converged = true)
  (hcb : (evaluate engine b n).1.converged = true)

include hs hza hzb hea heb hca hcb

/-- A task whose reads agree at the end has values that agree. -/
theorem value_task_agrees (hx : x ∈ runnable a)
    (hr : ∀ d ∈ dependencies x.source, (engine.load (finish engine a n).1.tree).read d =
      (engine.load (finish engine b n).1.tree).read d) :
    (finish engine a n).1.tree.value? x.path = (finish engine b n).1.tree.value? x.path := by
  obtain ⟨hstatic, -⟩ := hs x hx
  obtain ⟨y, hy, hp, hsource, hk⟩ := runnable_of_sameNodes ha hb hnodes hx
  obtain ⟨u, v, hu, hv, hsame⟩ := stored_of_converged ha hca hea hx
  obtain ⟨u', v', hu', hv', hsame'⟩ := stored_of_converged hb hcb heb hy
  rw [outcome_congr hp hsource hk, ← hstatic _ _ (.inl (finish_follows engine ha n).layout)
    (.inr (finish_follows engine hb n).layout) hr, hv, Except.ok.injEq] at hv'
  rw [hp] at hu'
  obtain ⟨e, he, hpath, -⟩ := listed_of_runnable x hx
  obtain ⟨m, hm, -⟩ := hnodes.mem_primitives ha hb he
  have hneu := stored_ne_negativeZero ha hza e he
  have hneu' := stored_ne_negativeZero hb hzb _ hm
  rw [hpath, hu] at hneu
  rw [hpath, hu'] at hneu'
  rw [hu, hu', Scalar.eq_of_same (Scalar.same_of_same hsame (hv' ▸ hsame'))
    (fun h => hneu (by rw [h])) (fun h => hneu' (by rw [h]))]

include hin

/-- The values of tasks agree, level by level. -/
theorem value_level_agrees : ∀ k, ∀ x ∈ runnable a, x.level = k →
    (finish engine a n).1.tree.value? x.path = (finish engine b n).1.tree.value? x.path := by
  intro k
  induction k using Nat.strongRecOn with
  | ind k ih =>
    rintro x hx rfl
    have hd := (hs x hx).2
    refine value_task_agrees ha hb hnodes hs hza hzb hea heb hca hcb hx fun d hmem => ?_
    refine read_agrees ha (finish_follows engine ha n).layout (finish_valid engine hb n)
      (alike_finish ha hb hnodes engine n) (hd d hmem) fun e he hp => ?_
    subst hp
    by_cases hrun : ∃ y ∈ runnable a, e.path = y.path
    · obtain ⟨y, hy, hpath⟩ := hrun
      rw [hpath] at hmem ⊢
      exact ih y.level (level_lt_of_read hx hy hmem) y hy rfl
    · exact value_kept_agrees ha hb hnodes engine n hin he fun y hy hpath => hrun ⟨y, hy, hpath⟩

end Converged

end TwoRuns

/-- **Computed values are a function of the inputs.** Two trees list the same nodes, in whatever
order, and have the same values where no task computes them. If the tasks are static, negative
zero does not occur and no task is left with an error, then evaluations leave the same values. -/
theorem evaluate_inputs (engine : Engine) (ha : a.Valid) (hb : b.Valid) (hn : 2 ≤ n)
    (hnodes : a.SameNodes b)
    (hin : ∀ e ∈ a.primitives, (∀ x ∈ runnable a, e.path ≠ x.path) →
      a.value? e.path = b.value? e.path)
    (hs : ∀ x ∈ runnable a, Static engine (fun c => a.SameLayout c ∨ b.SameLayout c) x ∧
      ∀ d ∈ dependencies x.source, Resolves a d)
    (hza : NoNegativeZero engine a n) (hzb : NoNegativeZero engine b n)
    (hea : ∀ r ∈ (evaluate engine a n).1.errors, (DependencyGraph.ofTree a).OnCycle r.1)
    (heb : ∀ r ∈ (evaluate engine b n).1.errors, (DependencyGraph.ofTree b).OnCycle r.1)
    (path : String) :
    (evaluate engine a n).2.1.value? path = (evaluate engine b n).2.1.value? path := by
  rw [tree_evaluate, tree_evaluate]
  have hca : (evaluate engine a n).1.converged = true := by
    refine (evaluate_of_known ha (k := 1) hn (known_of_static engine ha fun x hx => ?_)).1
    obtain ⟨hstatic, hd⟩ := hs x hx
    exact ⟨fun c d hc hd => hstatic c d (.inl hc) (.inl hd), hd⟩
  have hcb : (evaluate engine b n).1.converged = true :=
    (evaluate_of_known hb (k := 1) hn (known_of_static engine hb fun y hy =>
      static_of_sameNodes ha hb hnodes hs hy)).1
  refine (alike_finish ha hb hnodes engine n).value?_eq (finish_valid engine ha n)
    (finish_valid engine hb n) (fun e he => ?_) path
  obtain ⟨m, hm, -⟩ := (finish_follows engine ha n).layout.symm.mem_primitives he
  by_cases hrun : ∃ y ∈ runnable a, e.path = y.path
  · obtain ⟨y, hy, hpath⟩ := hrun
    rw [hpath]
    exact value_level_agrees ha hb hnodes hin hs hza hzb hea heb hca hcb y.level y hy rfl
  · exact value_kept_agrees (e := ⟨e.path, m⟩) ha hb hnodes engine n hin hm
      fun y hy hpath => hrun ⟨y, hy, hpath⟩

section Circuit

/-- Circuits list the same nodes in both orders. -/
theorem circuit_sameNodes {i f l r s f' l' r' s' : Bool} :
    (circuit i f l r s).SameNodes (circuit i f' l' r' s') := by
  have hsub : ∀ {f l r s f' l' r' s' path k ρ},
      (∃ e ∈ (circuit i f l r s).entries .everything,
        e.path = path ∧ e.node.kind = k ∧ e.node.traits = ρ) →
      ∃ e ∈ (circuit i f' l' r' s').entries .everything,
        e.path = path ∧ e.node.kind = k ∧ e.node.traits = ρ := by
    rintro f l r s f' l' r' s' _ _ _ ⟨e, he, rfl, rfl, rfl⟩
    simp only [entries_circuit] at he ⊢
    rcases he with rfl | rfl | rfl
    · exact ⟨_, .inl rfl, rfl, rfl, rfl⟩
    · exact ⟨_, .inr (.inl rfl), rfl, rfl, rfl⟩
    · exact ⟨_, .inr (.inr rfl), rfl, rfl, rfl⟩
  exact fun _ _ _ => ⟨hsub, hsub⟩

theorem circuit_noNegativeZero (i f l r s : Bool) (n : Nat) :
    NoNegativeZero {} (circuit i f l r s) n :=
  noNegativeZero_of_kind (circuit_valid i f l r s) fun e he => by
    rcases mem_circuit.mp he with rfl | rfl | rfl <;> exact nofun

/-- Circuits whose switches agree end alike. -/
theorem evaluate_inputs_circuit :
    (evaluate {} (circuit false false true false true) 2).2.1.value? "lamp" =
      (evaluate {} (circuit false true false true true) 2).2.1.value? "lamp" := by
  have hruns : ∀ p ∈ ["lamp", "relay"], ∃ x ∈ runnable (circuit false false true false true),
      x.path = p := fun p hp => List.mem_map.mp ((by decide +kernel : ∀ p ∈ ["lamp", "relay"],
        p ∈ (runnable (circuit false false true false true)).map (·.path)) p hp)
  have herrors : ∀ {f l r s}, (evaluate {} (circuit false f l r s) 2).1.errors = [] →
      ∀ e ∈ (evaluate {} (circuit false f l r s) 2).1.errors,
        (DependencyGraph.ofTree (circuit false f l r s)).OnCycle e.1 :=
    fun h e he => absurd (h ▸ he) List.not_mem_nil
  refine evaluate_inputs {} (circuit_valid ..) (circuit_valid ..) (le_refl 2)
    circuit_sameNodes (fun e he hne => ?_) (fun x hx => ?_) (circuit_noNegativeZero ..)
    (circuit_noNegativeZero ..) (herrors (by decide +kernel)) (herrors (by decide +kernel)) _
  · rcases mem_circuit.mp he with rfl | rfl | rfl
    · obtain ⟨x, hx, hp⟩ := hruns "lamp" (by decide)
      exact absurd hp.symm (hne x hx)
    · obtain ⟨x, hx, hp⟩ := hruns "relay" (by decide)
      exact absurd hp.symm (hne x hx)
    · exact (values_circuit (.refl _)).2.2.trans (values_circuit (.refl _)).2.2.symm
  · refine static_circuit (fun c hc => ?_) (mem_runnable.mp hx).1
    rcases hc with hc | hc
    · exact ⟨_, circuit_of_layout hc⟩
    · exact ⟨_, circuit_of_layout hc⟩

end Circuit

end ReactiveTree.Reaction
