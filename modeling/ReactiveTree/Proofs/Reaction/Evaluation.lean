import ReactiveTree.Proofs.Reaction.Passes

/-!
# Evaluations

An evaluation writes the errors of the tasks on cycles, shows the tree to the engine, and then
makes passes over the tasks that run. Once it has converged, the tree that it leaves is a
fixpoint: every task that runs shows its outcome on that tree, and the tasks on cycles show their
errors.

Key definitions: `Working.begin`, `finish`.
Key theorems: `tree_evaluate`, `converged_evaluate`, `passes_evaluate`, `evaluate_fixpoint`.
-/
namespace ReactiveTree.Reaction

open Snippet (Engine)
open ReactiveTree.Graph (DependencyGraph)

variable {engine : Engine} {t : Tree} {x : Task} {ts : List Task} {w : Working} {e : Entry}
variable {n : Nat}

namespace Working

/-- Write the errors of tasks on cycles. -/
def reject (ts : List Task) (w : Working) : Working :=
  ts.foldl (fun w x => w.record x.path (some (ExpressionError.circular x.path).message)) w

/-- Where the first pass starts. -/
def begin (engine : Engine) (t : Tree) : Working :=
  let w := reject (looping t) { tree := t, engine }
  { w with engine := w.engine.load w.tree }

end Working

/-- What is left after the last pass, how many passes were made, and whether it was quiet. -/
def finish (engine : Engine) (t : Tree) (maxPasses : Nat) : Working × Nat × Bool :=
  if (runnable t).isEmpty then (Working.begin engine t, 0, true)
  else (Working.begin engine t).settle (runnable t) maxPasses 0

/-! ### An evaluation in parts -/

/-- An evaluation of a tree that has tasks. -/
theorem evaluate_of_tasks (engine : Engine) (h : (tasks t (.ofTree t)).isEmpty = false) (n : Nat) :
    evaluate engine t n =
      ({ changes := ((tasks t (.ofTree t)).filter
          (·.hasChanged (finish engine t n).1.tree)).map (·.path)
         evaluations := (looping t).length + (finish engine t n).2.1 * (runnable t).length
         circular := (looping t).length
         errors := (tasks t (.ofTree t)).filterMap fun x =>
          ((Json.lookup x.path (finish engine t n).1.failures).bind id).map fun m => (x.path, m)
         passes := (finish engine t n).2.1
         converged := (finish engine t n).2.2 },
        (finish engine t n).1.tree, (finish engine t n).1.engine.unload) := by
  have hp : (schedule (tasks t (.ofTree t))).partition
      (fun x => (DependencyGraph.ofTree t).isCyclic x.path) = (looping t, runnable t) :=
    List.partition_eq_filter_filter
  rw [evaluate, if_neg (by rw [h]; exact Bool.false_ne_true), hp]
  rfl

theorem finish_of_no_tasks (engine : Engine) (h : (tasks t (.ofTree t)).isEmpty = true) (n : Nat) :
    evaluate engine t n = ({}, t, engine) ∧ (finish engine t n).1.tree = t ∧
      (finish engine t n).2 = (0, true) := by
  obtain ⟨hr, hl⟩ := nil_of_no_tasks h
  refine ⟨by rw [evaluate, if_pos h], ?_, ?_⟩
  · rw [finish, hr, Working.begin, hl]
    rfl
  · rw [finish, hr]
    rfl

theorem tree_evaluate (engine : Engine) (t : Tree) (n : Nat) :
    (evaluate engine t n).2.1 = (finish engine t n).1.tree := by
  cases h : (tasks t (.ofTree t)).isEmpty with
  | false => rw [evaluate_of_tasks engine h]
  | true =>
    obtain ⟨he, htree, -⟩ := finish_of_no_tasks engine h n
    rw [he, htree]

theorem passes_evaluate (engine : Engine) (t : Tree) (n : Nat) :
    (evaluate engine t n).1.passes = (finish engine t n).2.1 := by
  cases h : (tasks t (.ofTree t)).isEmpty with
  | false => rw [evaluate_of_tasks engine h]
  | true =>
    obtain ⟨he, -, hf⟩ := finish_of_no_tasks engine h n
    rw [he, hf]

theorem converged_evaluate (engine : Engine) (t : Tree) (n : Nat) :
    (evaluate engine t n).1.converged = (finish engine t n).2.2 := by
  cases h : (tasks t (.ofTree t)).isEmpty with
  | false => rw [evaluate_of_tasks engine h]
  | true =>
    obtain ⟨he, -, hf⟩ := finish_of_no_tasks engine h n
    rw [he, hf]

/-- An error is reported for each task that is left with one. -/
theorem mem_errors (engine : Engine) (n : Nat) (hx : x ∈ tasks t (.ofTree t)) {message : String}
    (hm : Json.lookup x.path (finish engine t n).1.failures = some (some message)) :
    (x.path, message) ∈ (evaluate engine t n).1.errors := by
  have h : (tasks t (.ofTree t)).isEmpty = false := by
    rw [List.isEmpty_eq_false_iff_exists_mem]
    exact ⟨x, hx⟩
  rw [evaluate_of_tasks engine h]
  refine List.mem_filterMap.mpr ⟨x, hx, ?_⟩
  rw [hm]
  rfl

/-! ### Before the first pass -/

namespace Working

/-- What the errors of tasks on cycles leave of the rest, and that they are there. -/
theorem reject_spec (ht : t.Valid) : ∀ (ts : List Task) (w : Working), (∀ x ∈ ts, x.Listed t) →
    (ts.map (·.path)).Nodup → t.SameLayout w.tree →
      (reject ts w).tree.SameContent w.tree ∧ (reject ts w).engine = w.engine ∧
      (∀ e ∈ t.primitives, (∀ x ∈ ts, e.path ≠ x.path) →
        (reject ts w).tree.get? e.path = w.tree.get? e.path) ∧
      ∀ x ∈ ts, ∃ m, (reject ts w).tree.get? x.path = some m ∧
        m.traits.expressionError = some (ExpressionError.circular x.path).message
  | [], w, _, _, _ => ⟨.refl _, rfl, fun _ _ _ => rfl, fun _ hx => (List.not_mem_nil hx).elim⟩
  | x :: ts, w, hts, hn, hl => by
    obtain ⟨e, he, hp, -⟩ := hts x List.mem_cons_self
    have hrest := fun y hy => hts y (List.mem_cons_of_mem x hy)
    rw [List.map_cons, List.nodup_cons] at hn
    obtain ⟨m, hm, -⟩ := hl.get?_eq_some (Tree.get?_of_mem_primitives ht he)
    rw [hp] at hm
    let failure := some (ExpressionError.circular x.path).message
    have hcontent : (w.record x.path failure).tree.SameContent w.tree :=
      sameContent_record hm failure
    obtain ⟨hc, heng, hframe, hshows⟩ := reject_spec ht ts (w.record x.path failure) hrest hn.2
      (hl.trans hcontent.symm.sameLayout)
    have hstep : ∀ e' ∈ t.primitives, e'.path ≠ x.path →
        (w.record x.path failure).tree.get? e'.path = w.tree.get? e'.path := fun e' he' hne => by
      rw [tree_record, ← hp]
      exact Tree.get?_modify_ne_of_layout ht hl he he' (by rw [hp]; exact hne.symm) _
    refine ⟨hc.trans hcontent, heng, fun e' he' hne => ?_, fun y hy => ?_⟩
    · exact (hframe e' he' fun z hz => hne z (List.mem_cons_of_mem x hz)).trans
        (hstep e' he' (hne x List.mem_cons_self))
    · rcases List.mem_cons.mp hy with rfl | hy
      · refine ⟨m.withTraits { m.traits with expressionError := failure }, ?_, ?_⟩
        rotate_left
        · rw [traits_withTraits]
        rw [← hp]
        have := hframe e he fun z hz he => hn.1 (by rw [← hp, he]; exact List.mem_map_of_mem hz)
        exact this.trans (hp ▸ get?_record hm failure)
      · exact hshows y hy

/-- The first pass starts with the content of the tree and with the errors on cycles. -/
theorem begin_spec (engine : Engine) (ht : t.Valid) :
    (begin engine t).Follows engine t ∧ (begin engine t).tree.SameContent t ∧
      (∀ e ∈ t.primitives, (∀ x ∈ looping t, e.path ≠ x.path) →
        (begin engine t).tree.get? e.path = t.get? e.path) ∧
      ∀ x ∈ looping t, ∃ m, (begin engine t).tree.get? x.path = some m ∧
        m.traits.expressionError = some (ExpressionError.circular x.path).message := by
  have hlisted : ∀ x ∈ looping t, x.Listed t := fun x hx => listed_of_task (mem_looping.mp hx).1
  obtain ⟨hc, heng, hframe, hshows⟩ :=
    reject_spec ht (looping t) { tree := t, engine } hlisted (nodup_looping ht) (.refl t)
  refine ⟨⟨hc.symm.sameLayout, ?_, _, rfl, .refl _⟩, hc, hframe, hshows⟩
  have ha := Engine.agrees_load (reject (looping t) { tree := t, engine }).engine
    (reject (looping t) { tree := t, engine }).tree
  rw [heng] at ha
  rw [begin, heng]
  exact ha

end Working

/-! ### After the last pass -/

theorem listed_of_runnable : ∀ x ∈ runnable t, x.Listed t := fun _ hx =>
  listed_of_task (mem_runnable.mp hx).1

theorem finish_follows (engine : Engine) (ht : t.Valid) (n : Nat) :
    (finish engine t n).1.Follows engine t := by
  obtain ⟨hf, -⟩ := Working.begin_spec engine ht
  rw [finish]
  split
  · exact hf
  · exact Working.settle_follows ht listed_of_runnable n 0 _ hf

/-- Primitives that do not run stay as they are before the first pass. -/
theorem finish_frame (engine : Engine) (ht : t.Valid) (n : Nat) (he : e ∈ t.primitives)
    (hne : ∀ x ∈ runnable t, e.path ≠ x.path) :
    (finish engine t n).1.tree.get? e.path = (Working.begin engine t).tree.get? e.path := by
  obtain ⟨hf, -⟩ := Working.begin_spec engine ht
  rw [finish]
  split
  · rfl
  · exact Working.settle_frame ht listed_of_runnable he hne n 0 _ hf

theorem agrees_evaluate (engine : Engine) (ht : t.Valid) (n : Nat) :
    (evaluate engine t n).2.2.Agrees engine := by
  cases h : (tasks t (.ofTree t)).isEmpty with
  | true =>
    rw [(finish_of_no_tasks engine h n).1]
    exact .refl engine
  | false =>
    rw [evaluate_of_tasks engine h]
    exact (Engine.agrees_unload _).trans (finish_follows engine ht n).agrees

/-- After an evaluation that converges every task that runs shows its outcome. -/
theorem finish_shows (engine : Engine) (ht : t.Valid) (hc : (finish engine t n).2.2 = true)
    (hx : x ∈ runnable t) :
    Shows (finish engine t n).1.tree x.path (outcome engine (finish engine t n).1.tree x) ∧
      Json.lookup x.path (finish engine t n).1.failures =
        some (failureOf (outcome engine (finish engine t n).1.tree x)) := by
  have hne : (runnable t).isEmpty = false := by
    rw [List.isEmpty_eq_false_iff_exists_mem]
    exact ⟨x, hx⟩
  obtain ⟨hf, -⟩ := Working.begin_spec engine ht
  rw [finish, if_neg (by rw [hne]; exact Bool.false_ne_true)] at hc ⊢
  obtain ⟨w, hw, heq, hq⟩ := Working.settle_converged ht listed_of_runnable n 0 _ hf hc
  rw [heq]
  exact hw.pass_quiet ht listed_of_runnable (nodup_runnable ht) hq x hx

theorem task_of_onCycle {p : String} (h : (DependencyGraph.ofTree t).OnCycle p) :
    ∃ x ∈ looping t, x.path = p := by
  obtain ⟨q, -, he⟩ := Relation.TransGen.tail'_iff.mp h
  obtain ⟨source, hs, -⟩ := DependencyGraph.mem_edges.mp he
  obtain ⟨x, hx, rfl⟩ := task_of_expression hs (.ofTree t)
  exact ⟨x, mem_looping.mpr ⟨hx, h⟩, rfl⟩

/-- **A converged evaluation is a fixpoint.** Every task that is not on a cycle shows the outcome
of its expression on the tree that is left, and every path on a cycle shows its error. -/
theorem evaluate_fixpoint (engine : Engine) (ht : t.Valid) (n : Nat)
    (hc : (evaluate engine t n).1.converged = true) :
    (∀ x ∈ tasks t (.ofTree t), ¬ (DependencyGraph.ofTree t).OnCycle x.path →
      Shows (evaluate engine t n).2.1 x.path
        (outcome (evaluate engine t n).2.2 (evaluate engine t n).2.1 x)) ∧
    ∀ p, (DependencyGraph.ofTree t).OnCycle p → ∃ m, (evaluate engine t n).2.1.get? p = some m ∧
      m.traits.expressionError = some (ExpressionError.circular p).message := by
  rw [converged_evaluate] at hc
  constructor
  · intro x hx hn
    rw [outcome_agrees (agrees_evaluate engine ht n) (.refl _), tree_evaluate]
    exact (finish_shows engine ht hc (mem_runnable.mpr ⟨hx, hn⟩)).1
  · intro p hp
    obtain ⟨x, hx, rfl⟩ := task_of_onCycle hp
    obtain ⟨-, -, -, hshows⟩ := Working.begin_spec engine ht
    obtain ⟨e, he, hpath, -⟩ := listed_of_task (mem_looping.mp hx).1
    rw [tree_evaluate, ← hpath, finish_frame engine ht n he ?_, hpath]
    · exact hshows x hx
    · intro y hy heq
      exact (mem_runnable.mp hy).2 (by rw [← heq, hpath]; exact hp)

/-- A lamp that follows one of two switches that read each other. -/
def loop : Tree :=
  let follow (path : String) (value : Bool) : Node :=
    .leaf { (default : Traits) with expression := some ("get('" ++ path ++ "')") } (.boolean value)
  ⟨.object default [("lamp", follow "left" false), ("left", follow "right" true),
    ("right", follow "left" true)]⟩

theorem evaluate_fixpoint_loop : (evaluate {} loop 2).1.converged = true ∧
    (∃ x ∈ tasks loop (.ofTree loop), x.path = "lamp" ∧ Shows (evaluate {} loop 2).2.1 "lamp"
      (outcome (evaluate {} loop 2).2.2 (evaluate {} loop 2).2.1 x)) ∧
    ∃ m, (evaluate {} loop 2).2.1.get? "left" = some m ∧
      m.traits.expressionError = some (ExpressionError.circular "left").message := by
  have hc : (evaluate {} loop 2).1.converged = true := by decide +kernel
  have hlamp : "lamp" ∈ (tasks loop (.ofTree loop)).map (·.path) := by decide +kernel
  obtain ⟨x, hx, hp⟩ := List.mem_map.mp hlamp
  obtain ⟨hshows, hcircular⟩ := evaluate_fixpoint {} ⟨rfl, rfl⟩ 2 hc
  refine ⟨hc, ⟨x, hx, hp, hp ▸ hshows x hx ?_⟩, hcircular "left" ?_⟩
  · rw [hp, ← DependencyGraph.isCyclic_iff]
    decide +kernel
  · rw [← DependencyGraph.isCyclic_iff]
    decide +kernel

end ReactiveTree.Reaction
