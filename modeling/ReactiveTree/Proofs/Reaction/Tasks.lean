import ReactiveTree.Proofs.Graph.Reads
import ReactiveTree.Proofs.Listing
import ReactiveTree.Reaction.Expressions
import Mathlib.Data.List.Sort

/-!
# Tasks and their order

The tasks of a tree are its listed primitives with an expression, each path once. Those that are
not on a cycle run, sorted by level, so a task comes after every task whose path it reads.

Key definitions: `runnable`, `looping`.
Key theorems: `mem_tasks`, `mem_runnable`, `nodup_runnable`, `mem_front_of_read`.
-/
namespace ReactiveTree.Reaction

open ReactiveTree.Graph (DependencyGraph expressions mem_expressions dependencies)

variable {t : Tree} {g : DependencyGraph} {x y : Task} {p : String}

/-! ### Tasks -/

theorem mem_tasks : x ∈ tasks t g ↔ ∃ e ∈ t.primitives, ∃ source,
    e.node.traits.expression = some source ∧
      x = { path := e.path, source, kind := e.node.kind, level := (g.level? e.path).getD 0
            start := e.node.value? } := by
  simp only [tasks, List.mem_filterMap, Option.map_eq_some_iff]
  constructor
  · rintro ⟨e, he, source, hs, rfl⟩
    exact ⟨e, he, source, hs, rfl⟩
  · rintro ⟨e, he, source, hs, rfl⟩
    exact ⟨e, he, source, hs, rfl⟩

/-- A task is about a listed primitive. -/
theorem entry_of_task (h : x ∈ tasks t g) : ∃ e ∈ t.primitives, e.path = x.path ∧
    e.node.kind = x.kind ∧ e.node.traits.expression = some x.source := by
  obtain ⟨e, he, source, hs, rfl⟩ := mem_tasks.mp h
  exact ⟨e, he, rfl, rfl, hs⟩

theorem mem_expressions_of_task (h : x ∈ tasks t g) : (x.path, x.source) ∈ expressions t := by
  obtain ⟨e, he, hp, -, hs⟩ := entry_of_task h
  exact mem_expressions.mpr ⟨e, he, hp, hs⟩

theorem task_of_expression {source : String} (h : (p, source) ∈ expressions t)
    (g : DependencyGraph) : ∃ x ∈ tasks t g, x.path = p := by
  obtain ⟨e, he, rfl, hs⟩ := mem_expressions.mp h
  exact ⟨_, mem_tasks.mpr ⟨e, he, source, hs, rfl⟩, rfl⟩

theorem level_of_task (h : x ∈ tasks t g) : (g.level? x.path).getD 0 = x.level := by
  obtain ⟨e, he, source, hs, rfl⟩ := mem_tasks.mp h
  rfl

theorem map_path_tasks (t : Tree) (g : DependencyGraph) :
    ((tasks t g).map (·.path)).Sublist (t.primitives.map (·.path)) := by
  unfold tasks
  induction t.primitives with
  | nil => exact .slnil
  | cons e es ih =>
    rw [List.filterMap_cons, List.map_cons]
    cases e.node.traits.expression with
    | none => exact ih.cons _
    | some source => exact ih.cons_cons _

theorem nodup_tasks (ht : t.Valid) (g : DependencyGraph) : ((tasks t g).map (·.path)).Nodup :=
  (Tree.nodup_primitives ht).sublist (map_path_tasks t g)

/-! ### The order of turns -/

theorem insert_eq (x : Task) : ∀ ts : List Task,
    x.insert ts = ts.orderedInsert (fun a b => a.level ≤ b.level) x
  | [] => rfl
  | y :: ts => by rw [Task.insert, List.orderedInsert_cons, insert_eq x ts]

theorem schedule_eq : ∀ ts : List Task,
    schedule ts = ts.insertionSort fun a b => a.level ≤ b.level
  | [] => rfl
  | x :: ts => by rw [schedule, List.foldr_cons, ← schedule, schedule_eq ts, insert_eq]; rfl

theorem schedule_perm (ts : List Task) : (schedule ts).Perm ts :=
  schedule_eq ts ▸ List.perm_insertionSort _ ts

theorem pairwise_schedule (ts : List Task) :
    (schedule ts).Pairwise fun a b => a.level ≤ b.level := by
  have htotal : Std.Total fun a b : Task => a.level ≤ b.level := ⟨fun a b => Nat.le_total _ _⟩
  have htrans : IsTrans Task fun a b => a.level ≤ b.level := ⟨fun _ _ _ => Nat.le_trans⟩
  rw [schedule_eq]
  exact List.pairwise_insertionSort _ ts

/-- The tasks that run. -/
def runnable (t : Tree) : List Task :=
  (schedule (tasks t (.ofTree t))).filter fun x => !(DependencyGraph.ofTree t).isCyclic x.path

/-- The tasks that do not run, those on cycles. -/
def looping (t : Tree) : List Task :=
  (schedule (tasks t (.ofTree t))).filter fun x => (DependencyGraph.ofTree t).isCyclic x.path

theorem mem_runnable : x ∈ runnable t ↔
    x ∈ tasks t (.ofTree t) ∧ ¬ (DependencyGraph.ofTree t).OnCycle x.path := by
  rw [runnable, List.mem_filter, (schedule_perm _).mem_iff, Bool.not_eq_true', ← Bool.not_eq_true,
    DependencyGraph.isCyclic_iff]

theorem mem_looping : x ∈ looping t ↔
    x ∈ tasks t (.ofTree t) ∧ (DependencyGraph.ofTree t).OnCycle x.path := by
  rw [looping, List.mem_filter, (schedule_perm _).mem_iff, DependencyGraph.isCyclic_iff]

theorem nil_of_no_tasks (h : (tasks t (.ofTree t)).isEmpty = true) :
    runnable t = [] ∧ looping t = [] := by
  have hs : schedule (tasks t (.ofTree t)) = [] := by
    rw [List.isEmpty_iff.mp h]
    rfl
  exact ⟨by rw [runnable, hs, List.filter_nil], by rw [looping, hs, List.filter_nil]⟩

theorem nodup_schedule (ht : t.Valid) :
    ((schedule (tasks t (.ofTree t))).map (·.path)).Nodup :=
  ((schedule_perm _).map _).nodup_iff.mpr (nodup_tasks ht _)

theorem nodup_runnable (ht : t.Valid) : ((runnable t).map (·.path)).Nodup :=
  (nodup_schedule ht).sublist (List.filter_sublist.map _)

theorem nodup_looping (ht : t.Valid) : ((looping t).map (·.path)).Nodup :=
  (nodup_schedule ht).sublist (List.filter_sublist.map _)

/-- A task that runs has a lower level than those that read its path. -/
theorem level_lt_of_read (hx : x ∈ runnable t) (hy : y ∈ runnable t)
    (h : y.path ∈ dependencies x.source) : y.level < x.level := by
  obtain ⟨hx, hnx⟩ := mem_runnable.mp hx
  obtain ⟨hy, hny⟩ := mem_runnable.mp hy
  rw [← level_of_task hx, ← level_of_task hy]
  refine DependencyGraph.level?_lt ?_ hny hnx
  exact DependencyGraph.mem_edges.mpr ⟨x.source, mem_expressions_of_task hx, h⟩

/-- **What a task reads has had its turn before.** -/
theorem mem_front_of_read {front back : List Task} (hr : runnable t = front ++ x :: back)
    (hy : y ∈ runnable t) (h : y.path ∈ dependencies x.source) : y ∈ front := by
  have hx : x ∈ runnable t := hr ▸ List.mem_append_right _ List.mem_cons_self
  have hlt := level_lt_of_read hx hy h
  have hsorted : (runnable t).Pairwise fun a b => a.level ≤ b.level :=
    (pairwise_schedule _).sublist List.filter_sublist
  rw [hr] at hy hsorted
  rcases List.mem_append.mp hy with hy | hy
  · exact hy
  · rcases List.mem_cons.mp hy with rfl | hy
    · omega
    · have := List.rel_of_pairwise_cons (List.pairwise_append.mp hsorted).2.1 hy
      omega

end ReactiveTree.Reaction
