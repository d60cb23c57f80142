import ReactiveTree.Proofs.Reaction.Circular

/-!
# What the report of an evaluation says

A report is put together from counts, from the failures that were collected over all passes, and
from the values before and after. It says of the tree that is left what the tree says of itself. A
task that has had its turn has its failure in the collection, the same one that its node carries,
and turns of other tasks touch neither (`Working.recorded_settle`), so after one pass at least the
errors are those of the tree. If the last pass that was allowed was not quiet, some value after it
is not the one before it (`Working.foldl_changed`), and the tree before it is what an evaluation
with one pass less leaves (`Working.settle_unsettled`).

Key definitions: `Tree.sameAt`, `Working.Recorded`, `Reported`.
Key theorems: `Working.recorded_settle`, `Working.settle_unsettled`, `Working.foldl_changed`,
`failures_of_pos`, `evaluate_reports`.
-/
namespace ReactiveTree

/-- Two trees have a value at a path, and the values are the same. -/
def Tree.sameAt (a b : Tree) (path : String) : Bool :=
  (a.value? path).any fun u => (b.value? path).any fun v => u.same v

namespace Reaction

open Snippet (Engine)
open ReactiveTree.Graph (DependencyGraph expressions mem_expressions)

variable {engine : Engine} {t : Tree} {x y : Task} {ts : List Task} {w : Working} {e : Entry}
variable {n : Nat} {path : String}

/-! ### Failures that are collected -/

namespace Working

/-- The failure that is collected for a path is the error that its node carries. -/
def Recorded (w : Working) (path : String) : Prop :=
  Json.lookup path w.failures = some (w.tree.errorAt path)

/-- The turn of a task records its failure. -/
theorem recorded_turn (ht : t.Valid) (h : w.Follows engine t) (hx : x.Listed t) :
    (w.turn x).Recorded x.path := by
  have hturn := turn_spec ht h hx
  obtain ⟨m, hm, herr, -⟩ := hturn.shows
  have hfail := hturn.failures x.path
  rw [if_pos rfl] at hfail
  rw [Recorded, hfail, Tree.errorAt, hm, Option.bind_some, herr]

/-- What is recorded stays recorded in any turn. -/
theorem Recorded.turn (ht : t.Valid) (h : w.Follows engine t) (hx : x.Listed t)
    (he : e ∈ t.primitives) (hr : w.Recorded e.path) : (w.turn x).Recorded e.path := by
  by_cases hp : e.path = x.path
  · rw [hp]
    exact recorded_turn ht h hx
  · have hturn := turn_spec ht h hx
    have hfail := hturn.failures e.path
    have hframe := hturn.frame e he hp
    rw [if_neg (Ne.symm hp)] at hfail
    rw [Recorded, hfail, hr, Tree.errorAt, Tree.errorAt, hframe]

/-- After turns in a row what was recorded is so, and so is every task that had its turn. -/
theorem recorded_foldl (ht : t.Valid) (he : e ∈ t.primitives) : ∀ (ts : List Task) (w : Working),
    (∀ x ∈ ts, x.Listed t) → w.Follows engine t →
      (w.Recorded e.path ∨ ∃ x ∈ ts, x.path = e.path) → (ts.foldl Working.turn w).Recorded e.path
  | [], w, _, _, hr => by
    rcases hr with hr | ⟨x, hx, -⟩
    · exact hr
    · exact absurd hx List.not_mem_nil
  | x :: ts, w, hts, h, hr => by
    have hx := hts x List.mem_cons_self
    have hfollows := (turn_spec ht h hx).follows
    refine recorded_foldl ht he ts _ (fun y hy => hts y (List.mem_cons_of_mem x hy)) hfollows ?_
    rcases hr with hr | ⟨y, hy, hp⟩
    · exact .inl (hr.turn ht h hx he)
    · rcases List.mem_cons.mp hy with rfl | hy
      · left
        rw [← hp]
        exact recorded_turn ht h hx
      · exact .inr ⟨y, hy, hp⟩

theorem Recorded.settle (ht : t.Valid) (hts : ∀ x ∈ ts, x.Listed t) (he : e ∈ t.primitives) :
    ∀ (n made : Nat) (w : Working), w.Follows engine t → w.Recorded e.path →
      (Working.settle ts w n made).1.Recorded e.path
  | 0, _, _, _, hr => hr
  | n + 1, made, w, h, hr => by
    have hpass : (w.pass ts).Recorded e.path :=
      recorded_foldl ht he ts _ hts (h.reset false) (.inl hr)
    rw [settle_succ]
    split
    · exact Recorded.settle ht hts he n _ _ (h.pass ht hts) hpass
    · exact hpass

/-- **After one pass at least the failure of every task is recorded.** -/
theorem recorded_settle (ht : t.Valid) (hts : ∀ x ∈ ts, x.Listed t) (hx : x ∈ ts) (hn : 0 < n)
    (made : Nat) (h : w.Follows engine t) : (Working.settle ts w n made).1.Recorded x.path := by
  obtain ⟨e, he, hp, -⟩ := hts x hx
  obtain ⟨n, rfl⟩ := Nat.exists_eq_add_one.mpr hn
  have hpass : (w.pass ts).Recorded e.path :=
    recorded_foldl ht he ts _ hts (h.reset false) (.inr ⟨x, hx, hp.symm⟩)
  rw [← hp, settle_succ]
  split
  · exact Recorded.settle ht hts he n _ _ (h.pass ht hts) hpass
  · exact hpass

/-! ### Passes that are not quiet -/

/-- There are no more passes than are allowed, and if none was quiet, all of them are made. -/
theorem settle_passes (ts : List Task) : ∀ (n made : Nat) (w : Working),
    (Working.settle ts w n made).2.1 ≤ made + n ∧
      ((Working.settle ts w n made).2.2 = false → (Working.settle ts w n made).2.1 = made + n)
  | 0, made, _ => ⟨Nat.le_refl made, fun _ => rfl⟩
  | n + 1, made, w => by
    obtain ⟨hle, heq⟩ := settle_passes ts n (made + 1) (w.pass ts)
    rw [settle_succ]
    split
    · refine ⟨by omega, fun hc => ?_⟩
      rw [heq hc]
      omega
    · refine ⟨?_, fun hc => nomatch hc⟩
      change made + 1 ≤ made + (n + 1)
      omega

/-- **If no pass was quiet, the last one goes on from what one pass less leaves.** -/
theorem settle_unsettled (ts : List Task) : ∀ (n made : Nat) (w : Working),
    (Working.settle ts w (n + 1) made).2.2 = false →
      (Working.settle ts w (n + 1) made).1 = (Working.settle ts w n made).1.pass ts ∧
        ((Working.settle ts w n made).1.pass ts).changed = true
  | 0, made, w, hc => by
    rw [settle_succ] at hc ⊢
    split at hc
    · rename_i hchanged
      rw [if_pos hchanged]
      exact ⟨rfl, hchanged⟩
    · cases hc
  | n + 1, made, w, hc => by
    rw [settle_succ] at hc
    split at hc
    · rename_i hchanged
      have ih := settle_unsettled ts n (made + 1) (w.pass ts) hc
      rw [settle_succ ts w (n + 1), settle_succ ts w n, if_pos hchanged, if_pos hchanged]
      exact ih
    · cases hc

/-- **Turns of different nodes that change something leave a value that was not there.** -/
theorem foldl_changed (ht : t.Valid) : ∀ (ts : List Task) (w : Working), (∀ x ∈ ts, x.Listed t) →
    (ts.map (·.path)).Nodup → w.Follows engine t → w.changed = false →
      (ts.foldl Working.turn w).changed = true →
      ∃ x ∈ ts, w.tree.sameAt (ts.foldl Working.turn w).tree x.path = false
  | [], w, _, _, _, hw, hc => by
    rw [List.foldl_nil, hw] at hc
    cases hc
  | x :: ts, w, hts, hn, h, hw, hc => by
    have hx := hts x List.mem_cons_self
    have hrest : ∀ y ∈ ts, y.Listed t := fun y hy => hts y (List.mem_cons_of_mem x hy)
    have hturn := turn_spec ht h hx
    rw [List.map_cons, List.nodup_cons] at hn
    rw [List.foldl_cons] at hc
    rcases hturn.written with ⟨hsame, hcontent⟩ | ⟨-, v, -, hv, hnot⟩
    · obtain ⟨y, hy, hdiffer⟩ :=
        foldl_changed ht ts _ hrest hn.2 hturn.follows (hsame.trans hw) hc
      refine ⟨y, List.mem_cons_of_mem x hy, ?_⟩
      rw [Tree.sameAt, hcontent.value?_eq] at hdiffer
      exact hdiffer
    · -- The value is written here, and no later turn is about this node.
      obtain ⟨e, he, hp, -⟩ := hx
      have hne : ∀ y ∈ ts, e.path ≠ y.path := by
        intro y hy heq
        apply hn.1
        rw [← hp, heq]
        exact List.mem_map_of_mem hy
      have hframe := foldl_frame ht he ts _ hrest hturn.follows hne
      have hlast : (ts.foldl Working.turn (w.turn x)).tree.value? x.path = some v := by
        rw [← hv, ← hp, Tree.value?, Tree.value?, hframe]
      refine ⟨x, List.mem_cons_self, ?_⟩
      simp only [List.foldl_cons, Tree.sameAt, hlast, Option.any_some]
      exact hnot

end Working

/-! ### The parts of a report -/

/-- **After one pass at least every failure that is collected is the error of its node.** -/
theorem failures_of_pos (engine : Engine) (ht : t.Valid) (hn : 0 < n)
    (hx : x ∈ tasks t (.ofTree t)) : (finish engine t n).1.Recorded x.path := by
  by_cases hcycle : (DependencyGraph.ofTree t).OnCycle x.path
  · obtain ⟨hfail, m, hm, herr⟩ := finish_looping engine ht n (mem_looping.mpr ⟨hx, hcycle⟩)
    rw [Working.Recorded, hfail, Tree.errorAt, hm, Option.bind_some, herr]
  · have hrun : x ∈ runnable t := mem_runnable.mpr ⟨hx, hcycle⟩
    have hne : (runnable t).isEmpty = false := List.isEmpty_eq_false_iff_exists_mem.mpr ⟨x, hrun⟩
    obtain ⟨hf, -⟩ := Working.begin_spec engine ht
    rw [finish, if_neg (by simp [hne])]
    exact Working.recorded_settle ht listed_of_runnable hrun hn 0 hf

theorem expressions_nil (h : (tasks t (.ofTree t)).isEmpty = true) : expressions t = [] := by
  rw [expressions_eq t (.ofTree t), List.isEmpty_iff.mp h, List.map_nil]

/-- The values at the path of a task have changed if they are not the same. -/
theorem hasChanged_eq (engine : Engine) (ht : t.Valid) (n : Nat) (hx : x ∈ tasks t (.ofTree t)) :
    x.hasChanged (finish engine t n).1.tree = !t.sameAt (finish engine t n).1.tree x.path := by
  have hl := (finish_follows engine ht n).layout
  obtain ⟨e, he, source, -, rfl⟩ := mem_tasks.mp hx
  obtain ⟨u, hu⟩ := value_of_listed ht (.refl t) he
  obtain ⟨v, hv⟩ := value_of_listed ht hl he
  have hstart : e.node.value? = some u := by
    rw [← hu, Tree.value?, Tree.get?_of_mem_primitives ht he, Option.bind_some]
  simp [Task.hasChanged, Tree.sameAt, hu, hv, hstart]

theorem changes_evaluate (engine : Engine) (ht : t.Valid) (n : Nat) :
    (evaluate engine t n).1.changes = ((expressions t).map (·.1)).filter fun p =>
      !t.sameAt (evaluate engine t n).2.1 p := by
  rw [tree_evaluate]
  cases h : (tasks t (.ofTree t)).isEmpty with
  | true =>
    rw [(finish_of_no_tasks engine h n).1, expressions_nil h]
    rfl
  | false =>
    rw [evaluate_of_tasks engine h, expressions_eq t (.ofTree t), List.map_map, List.filter_map]
    refine congrArg _ (List.filter_congr fun x hx => ?_)
    exact hasChanged_eq engine ht n hx

theorem errors_evaluate (engine : Engine) (ht : t.Valid) (hn : 0 < n) :
    (evaluate engine t n).1.errors = (expressions t).filterMap fun x =>
      ((evaluate engine t n).2.1.errorAt x.1).map fun message => (x.1, message) := by
  rw [tree_evaluate]
  cases h : (tasks t (.ofTree t)).isEmpty with
  | true =>
    rw [(finish_of_no_tasks engine h n).1, expressions_nil h]
    rfl
  | false =>
    rw [evaluate_of_tasks engine h, expressions_eq t (.ofTree t), List.filterMap_map]
    refine List.filterMap_congr fun x hx => ?_
    have hr : Json.lookup x.path (finish engine t n).1.failures = _ :=
      failures_of_pos engine ht hn hx
    rw [hr]
    rfl

/-- The paths on cycles are those of the tasks that do not run. -/
theorem length_looping (ht : t.Valid) :
    (looping t).length = (DependencyGraph.ofTree t).cyclicPaths.length := by
  have hnodup : (DependencyGraph.ofTree t).cyclicPaths.Nodup :=
    (DependencyGraph.woven_ofTree t).nodup_ids.sublist (List.filter_sublist.map _)
  have hperm : ((looping t).map (·.path)).Perm (DependencyGraph.ofTree t).cyclicPaths := by
    refine (List.perm_ext_iff_of_nodup (nodup_looping ht) hnodup).mpr fun p => ?_
    rw [(DependencyGraph.woven_ofTree t).mem_cyclicPaths, DependencyGraph.isCyclic_iff]
    constructor
    · intro hp
      obtain ⟨x, hx, rfl⟩ := List.mem_map.mp hp
      exact (mem_looping.mp hx).2
    · intro hp
      obtain ⟨x, hx, rfl⟩ := task_of_onCycle hp
      exact List.mem_map_of_mem hx
  rw [← hperm.length_eq, List.length_map]

theorem circular_evaluate (engine : Engine) (ht : t.Valid) (n : Nat) :
    (evaluate engine t n).1.circular = (DependencyGraph.ofTree t).cyclicPaths.length := by
  rw [← length_looping ht]
  cases h : (tasks t (.ofTree t)).isEmpty with
  | true =>
    rw [(finish_of_no_tasks engine h n).1, (nil_of_no_tasks h).2]
    rfl
  | false => rw [evaluate_of_tasks engine h]

theorem length_runnable (t : Tree) : (runnable t).length =
    ((expressions t).filter fun x => !(DependencyGraph.ofTree t).isCyclic x.1).length := by
  have hperm := (schedule_perm (tasks t (.ofTree t))).filter fun x =>
    !(DependencyGraph.ofTree t).isCyclic x.path
  rw [runnable, hperm.length_eq, expressions_eq t (.ofTree t), List.filter_map, List.length_map]
  rfl

theorem evaluations_evaluate (engine : Engine) (t : Tree) (n : Nat) :
    (evaluate engine t n).1.evaluations = (evaluate engine t n).1.circular +
      (evaluate engine t n).1.passes * (runnable t).length := by
  cases h : (tasks t (.ofTree t)).isEmpty with
  | true =>
    rw [(finish_of_no_tasks engine h n).1]
    simp
  | false => rw [evaluate_of_tasks engine h]

theorem finish_passes (engine : Engine) (t : Tree) (n : Nat) : (finish engine t n).2.1 ≤ n ∧
    ((finish engine t n).2.2 = false → (finish engine t n).2.1 = n) := by
  have h := Working.settle_passes (runnable t) n 0 (Working.begin engine t)
  rw [Nat.zero_add] at h
  rw [finish]
  split
  · refine ⟨Nat.zero_le n, fun hc => ?_⟩
    cases hc
  · exact h

/-- If the last pass that was allowed was not quiet, it left a value that was not there before. -/
theorem finish_unsettled (engine : Engine) (ht : t.Valid) (hn : 0 < n)
    (hc : (finish engine t n).2.2 = false) : ∃ x ∈ runnable t,
      (finish engine t (n - 1)).1.tree.sameAt (finish engine t n).1.tree x.path = false := by
  obtain ⟨hf, -⟩ := Working.begin_spec engine ht
  obtain ⟨n, rfl⟩ := Nat.exists_eq_add_one.mpr hn
  rw [finish] at hc
  split at hc
  · cases hc
  · rename_i hne
    obtain ⟨heq, hchanged⟩ := Working.settle_unsettled (runnable t) n 0 _ hc
    have hfollows := Working.settle_follows ht listed_of_runnable n 0 _ hf
    obtain ⟨x, hx, hdiffer⟩ := Working.foldl_changed ht (runnable t) _ listed_of_runnable
      (nodup_runnable ht) (hfollows.reset false) rfl hchanged
    refine ⟨x, hx, ?_⟩
    rw [Nat.add_sub_cancel, finish, finish, if_neg hne, if_neg hne, heq]
    exact hdiffer

/-! ### The report -/

/-- What the report of an evaluation with some engine and limit of passes says. -/
structure Reported (engine : Engine) (t : Tree) (n : Nat) : Prop where
  /-- The nodes with an expression whose values are not the same at the end, in traversal order. -/
  changes : (evaluate engine t n).1.changes = ((expressions t).map (·.1)).filter fun p =>
    !t.sameAt (evaluate engine t n).2.1 p
  /-- A node that ends with the value that it had is not listed, whatever happened between. -/
  restored : ∀ p, t.sameAt (evaluate engine t n).2.1 p = true → p ∉ (evaluate engine t n).1.changes
  /-- The errors that nodes with an expression carry at the end, in traversal order. -/
  errors : (evaluate engine t n).1.errors = (expressions t).filterMap fun x =>
    ((evaluate engine t n).2.1.errorAt x.1).map fun message => (x.1, message)
  /-- No node is listed twice. -/
  nodup : ((evaluate engine t n).1.errors.map (·.1)).Nodup
  circular : (evaluate engine t n).1.circular = (DependencyGraph.ofTree t).cyclicPaths.length
  evaluations : (evaluate engine t n).1.evaluations = (evaluate engine t n).1.circular +
    (evaluate engine t n).1.passes *
      ((expressions t).filter fun x => !(DependencyGraph.ofTree t).isCyclic x.1).length
  passes : (evaluate engine t n).1.passes ≤ n
  /-- All passes were made, and some value that the last one left was not there before it. -/
  unsettled : (evaluate engine t n).1.converged = false → (evaluate engine t n).1.passes = n ∧
    ∃ x ∈ expressions t, (DependencyGraph.ofTree t).isCyclic x.1 = false ∧
      (evaluate engine t (n - 1)).2.1.sameAt (evaluate engine t n).2.1 x.1 = false

/-- What is listed of some paths, each of them at most once, has no path twice. -/
theorem nodup_filterMap_paths {es : List (String × String)} (f : String → Option String)
    (h : (es.map (·.1)).Nodup) :
    ((es.filterMap fun x => (f x.1).map fun m => (x.1, m)).map (·.1)).Nodup := by
  refine h.sublist ?_
  clear h
  induction es with
  | nil => exact .slnil
  | cons x es ih =>
    rw [List.filterMap_cons, List.map_cons]
    cases f x.1 with
    | none => exact ih.cons _
    | some m => exact ih.cons_cons _

theorem nodup_expressions (ht : t.Valid) : ((expressions t).map (·.1)).Nodup := by
  have h := nodup_tasks ht (.ofTree t)
  rw [expressions_eq t (.ofTree t), List.map_map]
  exact h

/-- **The report of an evaluation tells the truth about the tree.** -/
theorem evaluate_reports (engine : Engine) (ht : t.Valid) (hn : 0 < n) : Reported engine t n := by
  have hchanges := changes_evaluate engine ht n
  have herrors := errors_evaluate engine ht hn
  obtain ⟨hpasses, hall⟩ := finish_passes engine t n
  refine ⟨hchanges, fun p hp hmem => ?_, herrors, ?_, circular_evaluate engine ht n, ?_, ?_,
    fun hc => ?_⟩
  · rw [hchanges, List.mem_filter] at hmem
    simp [hp] at hmem
  · rw [herrors]
    exact nodup_filterMap_paths _ (nodup_expressions ht)
  · rw [evaluations_evaluate, length_runnable]
  · rw [passes_evaluate]
    exact hpasses
  · rw [converged_evaluate] at hc
    rw [passes_evaluate, tree_evaluate, tree_evaluate]
    obtain ⟨x, hx, hdiffer⟩ := finish_unsettled engine ht hn hc
    obtain ⟨hx, hcycle⟩ := mem_runnable.mp hx
    refine ⟨hall hc, (x.path, x.source), mem_expressions_of_task hx, ?_, hdiffer⟩
    rw [← Bool.not_eq_true, DependencyGraph.isCyclic_iff]
    exact hcycle

/-- A blinker changes in each of four passes, ends as it was, and is not listed. -/
theorem evaluate_reports_blinker : (evaluate {} blinker 4).1.changes = [] ∧
    (evaluate {} blinker 4).1.evaluations = 4 ∧ (evaluate {} blinker 4).1.converged = false ∧
    (evaluate {} blinker 3).1.changes = ["items.0"] ∧ 0 < 4 ∧ Reported {} blinker 4 :=
  ⟨by decide +kernel, by decide +kernel, by decide +kernel, by decide +kernel, by decide,
    evaluate_reports {} ⟨rfl, rfl⟩ (by decide)⟩

end Reaction
end ReactiveTree
