import ReactiveTree.Proofs.Reaction.Checking
import ReactiveTree.Proofs.Reaction.Evaluation
import ReactiveTree.Proofs.Reaction.Watching
import ReactiveTree.Reaction.Pipeline

/-!
# A tree that has come to rest

Once an evaluation has converged, every node shows what its next turn would write, and every node
on a cycle carries its error. So the next evaluation writes what is there: its one pass is quiet,
and it leaves the very same tree (`AtRest.finish`). The errors that it reports are those that the
tree carries, in the order of the listing (`errors_of_converged`), so they are the same again, and
so are the messages of the rules and the snapshot. The whole reaction finds nothing to do
(`react_rests`).

Key definitions: `Tree.errorAt`, `AtRest`, `next`, `Rests`.
Key theorems: `Working.Follows.turn_of_shows`, `errors_of_converged`, `AtRest.finish`, `react_rests`.
-/
namespace ReactiveTree

/-- The error that the node at a path carries. -/
def Tree.errorAt (t : Tree) (path : String) : Option String :=
  (t.get? path).bind (·.traits.expressionError)

namespace Reaction

open Snippet (Engine)
open ReactiveTree.Graph (DependencyGraph expressions mem_expressions)

variable {engine engine' : Engine} {t : Tree} {x : Task} {w : Working} {n : Nat}

/-! ### Writing what is there -/

namespace Working

theorem withTraits_of_eq {m : Node} {failure : Option String}
    (h : m.traits.expressionError = failure) :
    m.withTraits { m.traits with expressionError := failure } = m := by
  subst h
  cases m <;> rfl

theorem tree_record_of_eq {path : String} {failure : Option String} {m : Node}
    (hm : w.tree.get? path = some m) (h : m.traits.expressionError = failure) :
    (w.record path failure).tree = w.tree :=
  Tree.modify_of_eq hm (withTraits_of_eq h)

/-- **The turn of a task that shows its outcome writes what is there.** -/
theorem Follows.turn_of_shows (h : w.Follows engine t)
    (hs : Shows w.tree x.path (outcome engine w.tree x)) :
    (w.turn x).tree = w.tree ∧ (w.turn x).changed = w.changed := by
  obtain ⟨m, hm, herr, hvalue⟩ := hs
  rw [turn_eq, h.fst_compute x]
  let w' : Working := { w with engine := (Reaction.compute w.engine x).2 }
  have hm' : w'.tree.get? x.path = some m := hm
  cases hr : outcome engine w.tree x with
  | error err =>
    rw [hr] at herr
    exact ⟨tree_record_of_eq hm' herr, rfl⟩
  | ok v =>
    rw [hr] at herr
    obtain ⟨u, hu, hsame⟩ := hvalue v hr
    have hstay : w'.write x.path v = w' := write_of_same (by
      rw [Tree.value?, hm', Option.bind_some, hu]
      exact hsame)
    have htree : ((w'.write x.path v).record x.path none).tree = w'.tree := by
      rw [hstay]
      exact tree_record_of_eq hm' herr
    have hchanged : ((w'.write x.path v).record x.path none).changed = w'.changed := by
      rw [hstay]
      rfl
    exact ⟨htree, hchanged⟩

theorem foldl_of_shows (ht : t.Valid) : ∀ (ts : List Task) {w : Working}, (∀ x ∈ ts, x.Listed t) →
    w.Follows engine t → (∀ x ∈ ts, Shows w.tree x.path (outcome engine w.tree x)) →
      (ts.foldl turn w).tree = w.tree ∧ (ts.foldl turn w).changed = w.changed
  | [], _, _, _, _ => ⟨rfl, rfl⟩
  | x :: ts, w, hts, h, hs => by
    obtain ⟨htree, hchanged⟩ := h.turn_of_shows (hs x List.mem_cons_self)
    have hx := (turn_spec ht h (hts x List.mem_cons_self)).follows
    obtain ⟨htree', hchanged'⟩ := foldl_of_shows ht ts
      (fun y hy => hts y (List.mem_cons_of_mem x hy)) hx
      (by rw [htree]; exact fun y hy => hs y (List.mem_cons_of_mem x hy))
    exact ⟨htree'.trans htree, hchanged'.trans hchanged⟩

theorem reject_of_shows : ∀ (ts : List Task) {w : Working},
    (∀ x ∈ ts, ∃ m, w.tree.get? x.path = some m ∧
      m.traits.expressionError = some (ExpressionError.circular x.path).message) →
      (reject ts w).tree = w.tree
  | [], _, _ => rfl
  | x :: ts, w, hs => by
    obtain ⟨m, hm, herr⟩ := hs x List.mem_cons_self
    have htree := tree_record_of_eq hm herr
    refine (reject_of_shows ts ?_).trans htree
    rw [htree]
    exact fun y hy => hs y (List.mem_cons_of_mem x hy)

/-! ### Failures -/

theorem lookup_reject (p : String) : ∀ (ts : List Task) (w : Working),
    Json.lookup p (reject ts w).failures =
      if p ∈ ts.map (·.path) then some (some (ExpressionError.circular p).message)
      else Json.lookup p w.failures
  | [], _ => rfl
  | x :: ts, w => by
    have ih := lookup_reject p ts (w.record x.path (some (ExpressionError.circular x.path).message))
    rw [lookup_record] at ih
    refine ih.trans ?_
    by_cases hx : x.path = p
    · subst hx
      simp
    · simp [hx, Ne.symm hx]

/-- The failure of a task that has no turn stays as it is. -/
theorem settle_failures (ht : t.Valid) {ts : List Task} (hts : ∀ x ∈ ts, x.Listed t) {path : String}
    (hne : ∀ x ∈ ts, path ≠ x.path) : ∀ (n made : Nat) (w : Working), w.Follows engine t →
      Json.lookup path (settle ts w n made).1.failures = Json.lookup path w.failures
  | 0, _, _, _ => rfl
  | n + 1, made, w, h => by
    have hp : Json.lookup path (w.pass ts).failures = Json.lookup path w.failures :=
      foldl_failures ht ts _ hts (h.reset false) hne
    rw [settle_succ]
    split
    · rw [settle_failures ht hts hne n _ _ (h.pass ht hts), hp]
    · exact hp

end Working

/-- What is left on a cycle: the error is reported, and its node carries it. -/
theorem finish_looping (engine : Engine) (ht : t.Valid) (n : Nat) (hx : x ∈ looping t) :
    Json.lookup x.path (finish engine t n).1.failures =
        some (some (ExpressionError.circular x.path).message) ∧
      ∃ m, (finish engine t n).1.tree.get? x.path = some m ∧
        m.traits.expressionError = some (ExpressionError.circular x.path).message := by
  obtain ⟨hf, -, -, hshows⟩ := Working.begin_spec engine ht
  obtain ⟨e, he, hp, -⟩ := entry_of_task (mem_looping.mp hx).1
  have hne : ∀ y ∈ runnable t, x.path ≠ y.path := fun y hy heq =>
    (mem_runnable.mp hy).2 (heq ▸ (mem_looping.mp hx).2)
  have hbegin : Json.lookup x.path (Working.begin engine t).failures =
      some (some (ExpressionError.circular x.path).message) :=
    (Working.lookup_reject x.path (looping t) _).trans
      (if_pos (List.mem_map_of_mem (f := Task.path) hx))
  constructor
  · rw [finish]
    split
    · exact hbegin
    · rw [Working.settle_failures ht listed_of_runnable hne n 0 _ hf, hbegin]
  · rw [← hp, finish_frame engine ht n he (by rwa [hp]), hp]
    exact hshows x hx

/-! ### Reported errors -/

/-- After an evaluation that converges the failure of a task is the error that its node carries. -/
theorem failures_of_converged (engine : Engine) (ht : t.Valid) (hc : (finish engine t n).2.2 = true)
    (hx : x ∈ tasks t (.ofTree t)) : Json.lookup x.path (finish engine t n).1.failures =
      some ((finish engine t n).1.tree.errorAt x.path) := by
  by_cases hcycle : (DependencyGraph.ofTree t).OnCycle x.path
  · obtain ⟨hfail, m, hm, herr⟩ := finish_looping engine ht n (mem_looping.mpr ⟨hx, hcycle⟩)
    rw [hfail, Tree.errorAt, hm, Option.bind_some, herr]
  · obtain ⟨⟨m, hm, herr, -⟩, hfail⟩ := finish_shows engine ht hc (mem_runnable.mpr ⟨hx, hcycle⟩)
    rw [hfail, Tree.errorAt, hm, Option.bind_some, herr]

theorem expressions_eq (t : Tree) (g : DependencyGraph) :
    expressions t = (tasks t g).map fun x => (x.path, x.source) := by
  rw [expressions, tasks, List.map_filterMap]
  refine List.filterMap_congr fun e _ => ?_
  rw [Option.map_map]
  rfl

/-- **The errors that are reported are those that the tree carries.** -/
theorem errors_of_converged (engine : Engine) (ht : t.Valid)
    (hc : (evaluate engine t n).1.converged = true) : (evaluate engine t n).1.errors =
      (expressions t).filterMap fun x =>
        ((evaluate engine t n).2.1.errorAt x.1).map fun message => (x.1, message) := by
  rw [expressions_eq t (.ofTree t), List.filterMap_map, tree_evaluate]
  rw [converged_evaluate] at hc
  cases h : (tasks t (.ofTree t)).isEmpty with
  | true =>
    rw [(finish_of_no_tasks engine h n).1, List.isEmpty_iff.mp h]
    rfl
  | false =>
    rw [evaluate_of_tasks engine h]
    refine List.filterMap_congr fun x hx => ?_
    rw [failures_of_converged engine ht hc hx]
    rfl

/-! ### A tree at rest -/

/-- Every task shows what its turn would write, and those on cycles show their errors. -/
structure AtRest (engine : Engine) (t : Tree) : Prop where
  looping : ∀ x ∈ looping t, ∃ m, t.get? x.path = some m ∧
    m.traits.expressionError = some (ExpressionError.circular x.path).message
  runnable : ∀ x ∈ runnable t, Shows t x.path (outcome engine t x)

/-- **An evaluation leaves a tree at rest as it is, after one quiet pass at most.** -/
theorem AtRest.finish (ht : t.Valid) (h : AtRest engine t)
    (hn : ∀ x ∈ Reaction.runnable t, 0 < n) :
    (Reaction.finish engine t n).1.tree = t ∧ (Reaction.finish engine t n).2.1 ≤ 1 ∧
      (Reaction.finish engine t n).2.2 = true := by
  have hbegin : (Working.begin engine t).tree = t :=
    Working.reject_of_shows (Reaction.looping t) (w := { tree := t, engine }) h.looping
  obtain ⟨hf, -⟩ := Working.begin_spec engine ht
  rw [Reaction.finish]
  split
  · exact ⟨hbegin, Nat.zero_le 1, rfl⟩
  · rename_i hne
    rw [Bool.not_eq_true, List.isEmpty_eq_false_iff_exists_mem] at hne
    obtain ⟨x, hx⟩ := hne
    obtain ⟨n, rfl⟩ := Nat.exists_eq_add_one.mpr (hn x hx)
    obtain ⟨htree, hchanged⟩ : ((Working.begin engine t).pass (Reaction.runnable t)).tree =
        (Working.begin engine t).tree ∧
        ((Working.begin engine t).pass (Reaction.runnable t)).changed = false := by
      refine Working.foldl_of_shows ht _ listed_of_runnable (hf.reset false) ?_
      dsimp only
      rw [hbegin]
      exact h.runnable
    rw [Working.settle_succ, hchanged, if_neg Bool.false_ne_true]
    exact ⟨htree.trans hbegin, Nat.le_refl 1, rfl⟩

/-! ### The next evaluation -/

theorem expressions_layout (t : Tree) : expressions ⟨t.root.layout⟩ = expressions t := by
  have hlist : (⟨t.root.layout⟩ : Tree).primitives =
      t.primitives.map fun e => ⟨e.path, e.node.layout⟩ := Node.primitives_recast _ _ t.root
  rw [expressions, hlist, List.filterMap_map, expressions]
  refine List.filterMap_congr fun e _ => ?_
  rw [Function.comp_apply, Node.traits_layout]
  rfl

/-- Trees of one layout have the same expressions in the same order. -/
theorem expressions_of_sameLayout {a b : Tree} (h : a.SameLayout b) :
    expressions a = expressions b := by
  rw [← expressions_layout a, h, expressions_layout]

/-- A task of one tree is a task of every other tree of the layout. -/
theorem task_of_sameLayout {a b : Tree} (h : a.SameLayout b) (hx : x ∈ tasks a (.ofTree a)) :
    ∃ y ∈ tasks b (.ofTree b), y.path = x.path ∧ y.source = x.source ∧ y.kind = x.kind := by
  obtain ⟨e, he, hp, hk, hs⟩ := entry_of_task hx
  obtain ⟨m, hm, hl⟩ := h.mem_primitives he
  have hr := congrArg Traits.expression (Node.traits_eq_of_layout hl)
  exact ⟨_, mem_tasks.mpr ⟨_, hm, x.source, hr.symm.trans hs, rfl⟩, hp, rfl,
    (Node.kind_eq_of_layout hl).symm.trans hk⟩

/-- Values at the start are no changes. -/
theorem not_hasChanged (ht : t.Valid) {g : DependencyGraph} (hx : x ∈ tasks t g) :
    x.hasChanged t = false := by
  obtain ⟨e, he, source, -, rfl⟩ := mem_tasks.mp hx
  have hv : t.value? e.path = e.node.value? := by
    rw [Tree.value?, Tree.get?_of_mem_primitives ht he, Option.bind_some]
  rw [Task.hasChanged, hv]
  cases e.node.value? with
  | none => rfl
  | some v => simp [v.same_refl]

/-- An evaluation that leaves the tree reports no changes. -/
theorem changes_of_tree_eq (engine : Engine) (ht : t.Valid) (n : Nat)
    (h : (evaluate engine t n).2.1 = t) : (evaluate engine t n).1.changes = [] := by
  rw [tree_evaluate] at h
  cases hs : (tasks t (.ofTree t)).isEmpty with
  | true => rw [(finish_of_no_tasks engine hs n).1]
  | false =>
    rw [evaluate_of_tasks engine hs, h]
    have hnone : (tasks t (.ofTree t)).filter (·.hasChanged t) = [] :=
      List.filter_eq_nil_iff.mpr fun x hx => by simp [not_hasChanged ht hx]
    rw [hnone, List.map_nil]

/-- Nothing runs, or a pass has been made. -/
theorem pos_of_converged (hc : (finish engine t n).2.2 = true) (hx : x ∈ runnable t) : 0 < n := by
  have hne : (runnable t).isEmpty = false := by
    rw [List.isEmpty_eq_false_iff_exists_mem]
    exact ⟨x, hx⟩
  rw [finish, if_neg (by rw [hne]; exact Bool.false_ne_true)] at hc
  cases n with
  | zero => cases hc
  | succ n => exact Nat.succ_pos n

/-- **An evaluation that converges leaves a tree at rest.** -/
theorem atRest_of_converged (ht : t.Valid) (hc : (finish engine t n).2.2 = true)
    (ha : engine'.Agrees engine) : AtRest engine' (finish engine t n).1.tree ∧
      ∀ x ∈ runnable (finish engine t n).1.tree, 0 < n := by
  have hl := (finish_follows engine ht n).layout
  have hadd : ∀ e ∈ expressions (finish engine t n).1.tree, e ∈ expressions t := fun e he => by
    rwa [expressions_of_sameLayout hl]
  have hdrop : ∀ e ∈ expressions t, e ∈ expressions (finish engine t n).1.tree := fun e he => by
    rwa [← expressions_of_sameLayout hl]
  -- The graph is made anew from the tree that is left, so its cycles are compared by expressions.
  have hrun : ∀ x ∈ runnable (finish engine t n).1.tree, ∃ y ∈ runnable t,
      y.path = x.path ∧ y.source = x.source ∧ y.kind = x.kind := fun x hx => by
    obtain ⟨hx, hcycle⟩ := mem_runnable.mp hx
    obtain ⟨y, hy, hp, hsk⟩ := task_of_sameLayout hl.symm hx
    exact ⟨y, mem_runnable.mpr ⟨hy, fun h => hcycle (hp ▸ h.mono hdrop)⟩, hp, hsk⟩
  refine ⟨⟨fun x hx => ?_, fun x hx => ?_⟩, fun x hx => ?_⟩
  · obtain ⟨hx, hcycle⟩ := mem_looping.mp hx
    obtain ⟨y, hy, hp, -⟩ := task_of_sameLayout hl.symm hx
    rw [← hp] at hcycle ⊢
    exact (finish_looping engine ht n (mem_looping.mpr ⟨hy, hcycle.mono hadd⟩)).2
  · obtain ⟨y, hy, hp, hs, hk⟩ := hrun x hx
    have h := (finish_shows engine ht hc hy).1
    rwa [hp, outcome_congr hp hs hk, ← outcome_agrees ha (.refl _)] at h
  · obtain ⟨y, hy, -⟩ := hrun x hx
    exact pos_of_converged hc hy

theorem layout_evaluate (engine : Engine) (ht : t.Valid) (n : Nat) :
    t.SameLayout (evaluate engine t n).2.1 := by
  rw [tree_evaluate]
  exact (finish_follows engine ht n).layout

/-- **An evaluation that follows one that has converged finds nothing to do.** -/
theorem evaluate_again (ht : t.Valid) (hc : (evaluate engine t n).1.converged = true)
    (ha : engine'.Agrees engine) :
    (evaluate engine' (evaluate engine t n).2.1 n).2.1 = (evaluate engine t n).2.1 ∧
    (evaluate engine' (evaluate engine t n).2.1 n).1.changes = [] ∧
    (evaluate engine' (evaluate engine t n).2.1 n).1.converged = true ∧
    (evaluate engine' (evaluate engine t n).2.1 n).1.passes ≤ 1 ∧
    (evaluate engine' (evaluate engine t n).2.1 n).1.errors = (evaluate engine t n).1.errors := by
  have hl := layout_evaluate engine ht n
  have hvalid := ht.of_sameLayout hl
  obtain ⟨hrest, hn⟩ : AtRest engine' (evaluate engine t n).2.1 ∧
      ∀ x ∈ runnable (evaluate engine t n).2.1, 0 < n := by
    rw [converged_evaluate] at hc
    rw [tree_evaluate]
    exact atRest_of_converged ht hc ha
  obtain ⟨htree, hpasses, hconverged⟩ := hrest.finish hvalid hn
  rw [← tree_evaluate] at htree
  rw [← passes_evaluate] at hpasses
  rw [← converged_evaluate] at hconverged
  refine ⟨htree, changes_of_tree_eq engine' hvalid n htree, hconverged, hpasses, ?_⟩
  rw [errors_of_converged engine' hvalid hconverged, htree, errors_of_converged engine ht hc,
    expressions_of_sameLayout hl]

/-! ### The next reaction -/

/-- The reaction that follows another one, on the tree and with the snapshot that it leaves. -/
def next (r : Outcome × Tree × Pipeline) : Outcome × Tree × Pipeline :=
  r.2.2.react r.2.1 (some r.1.snapshot)

/-- The reaction that follows finds nothing to do. -/
structure Rests (r : Outcome × Tree × Pipeline) : Prop where
  changes : (next r).1.report.changes = []
  converged : (next r).1.report.converged = true
  passes : (next r).1.report.passes ≤ 1
  errors : (next r).1.report.errors = r.1.report.errors
  validationErrors : (next r).1.validationErrors = r.1.validationErrors
  triggered : (next r).1.watcherResult.triggered = []
  runs : (next r).1.watcherResult.runs = 0
  snapshot : (next r).1.snapshot = r.1.snapshot
  tree : (next r).2.1 = r.2.1

/-- A reaction keeps what the engine makes of sources and the validator of patterns. -/
theorem kept_react (p : Pipeline) (ht : t.Valid) (previous : Option Snapshot) :
    (p.react t previous).2.2.engine.Agrees p.engine ∧
      (p.react t previous).2.2.validator.Agrees p.validator := by
  obtain ⟨hv, he⟩ := p.validator.kept_checkTree (evaluate p.engine t p.maxPasses).2.2
    (evaluate p.engine t p.maxPasses).2.1
  exact ⟨(agrees_runWatchers _ _ previous).trans (he.trans (agrees_evaluate p.engine ht _)), hv⟩

theorem validationErrors_react (p : Pipeline) (t : Tree) (previous : Option Snapshot) :
    (p.react t previous).1.validationErrors = (p.validator.checkTree
      (evaluate p.engine t p.maxPasses).2.2 (p.react t previous).2.1).1 := rfl

theorem watcherResult_react (p : Pipeline) (t : Tree) (previous : Option Snapshot) :
    ∃ e, (p.react t previous).1.watcherResult =
      (runWatchers e (p.react t previous).2.1 previous).1 := ⟨_, rfl⟩

theorem snapshot_react (p : Pipeline) (t : Tree) (previous : Option Snapshot) :
    (p.react t previous).1.snapshot = Snapshot.capture (p.react t previous).2.1 :=
  snapshot_runWatchers _ _ previous

/-- **A pipeline that has settled is quiescent.** -/
theorem react_rests (p : Pipeline) (ht : t.Valid) (previous : Option Snapshot)
    (hc : (p.react t previous).1.report.converged = true) : Rests (p.react t previous) := by
  obtain ⟨hengine, hvalidator⟩ := kept_react p ht previous
  have hvalid : (p.react t previous).2.1.Valid :=
    ht.of_sameLayout (layout_evaluate p.engine ht p.maxPasses)
  obtain ⟨htree, hchanges, hconverged, hpasses, herrors⟩ := evaluate_again ht hc hengine
  have htree : (next (p.react t previous)).2.1 = (p.react t previous).2.1 := htree
  have hvalidation : (next (p.react t previous)).1.validationErrors =
      (p.react t previous).1.validationErrors := by
    have ha := agrees_evaluate (p.react t previous).2.2.engine hvalid p.maxPasses
    rw [next, validationErrors_react, ← next, htree, validationErrors_react]
    exact Validator.checkTree_agrees hvalidator
      (ha.trans (hengine.trans (agrees_evaluate p.engine ht p.maxPasses).symm)) _
  have hwatch : (next (p.react t previous)).1.watcherResult =
      { snapshot := (p.react t previous).1.snapshot } := by
    obtain ⟨e, he⟩ := watcherResult_react (p.react t previous).2.2 (p.react t previous).2.1
      (some (p.react t previous).1.snapshot)
    rw [next, he, ← next, htree, snapshot_react, runWatchers_capture e hvalid]
  exact ⟨hchanges, hconverged, hpasses, herrors, hvalidation, by rw [hwatch], by rw [hwatch],
    by rw [Outcome.snapshot, hwatch], htree⟩

/-- A watched lamp that follows one of two switches that read each other, and a label that must not
be empty. -/
def panel : Tree :=
  let follow (path : String) (value : Bool) (watchers : List String) : Node :=
    .leaf { (default : Traits) with expression := some ("get('" ++ path ++ "')"), watchers }
      (.boolean value)
  ⟨.object default [("lamp", follow "left" false ["value"]), ("left", follow "right" true []),
    ("right", follow "left" true []),
    ("label", .leaf { (default : Traits) with validation := some { required := true } }
      (.string ""))]⟩

/-- The lamp changes and its watcher runs, two errors and one message are reported; then it rests. -/
theorem react_rests_panel : (({} : Pipeline).react panel none).1.report.converged = true ∧
    (({} : Pipeline).react panel none).1.report.changes = ["lamp"] ∧
    (({} : Pipeline).react panel none).1.watcherResult.triggered = ["lamp"] ∧
    (({} : Pipeline).react panel none).1.metrics.expressionErrors = 2 ∧
    (({} : Pipeline).react panel none).1.metrics.validationErrors = 1 ∧
    Rests (({} : Pipeline).react panel none) := by
  have hc : (({} : Pipeline).react panel none).1.report.converged = true := by decide +kernel
  exact ⟨hc, by decide +kernel, by decide +kernel, by decide +kernel, by decide +kernel,
    react_rests {} ⟨rfl, rfl⟩ none hc⟩

end Reaction
end ReactiveTree
