import ReactiveTree.Graph.Loop
import Mathlib.Algebra.BigOperators.Group.Finset.Basic
import Mathlib.Algebra.Order.BigOperators.Group.Finset
import Mathlib.Algebra.Ring.Nat
import Mathlib.Logic.Relation

/-!
# Edges, and loops that end

A loop ends if every round either is done or leaves less to do (`loop_spec`). What a search has left
to do is one round for each vertex that is not found yet and one for each of its edges, and one
round for each open vertex and for each of its targets that are not done (`toDo`). Looking at a
target, opening a vertex and leaving one all take one round off, so no search uses up its fuel.

Key definitions: `Adjacency.Edge`, `Adjacency.toDo`.
Key theorems: `loop_spec`, `Adjacency.toDo_advance`, `Adjacency.toDo_enter`, `Adjacency.toDo_leave`,
`Adjacency.toDo_lt_rounds`.
-/
namespace ReactiveTree.Graph

/-! ### Tables and loops -/

theorem put?_of_lt {α : Type} {table : Array α} {i : Nat} (h : i < table.size) (x : α) :
    put? table i x = some (table.setIfInBounds i x) := if_pos h

theorem getElem?_put {α : Type} {table : Array α} {i : Nat} (h : i < table.size) (x : α) (j : Nat) :
    (table.setIfInBounds i x)[j]? = if i = j then some x else table[j]? := by
  rw [Array.getElem?_setIfInBounds, if_pos h]

/-- **A loop ends with what its rounds keep**, if each round leaves less to do. -/
theorem loop_spec {σ α : Type} {round : σ → Option (Round σ α)} {Inv : σ → Prop} {Post : α → Prop}
    (left : σ → Nat)
    (step : ∀ s, Inv s → (∃ s', round s = some (.again s') ∧ Inv s' ∧ left s' < left s) ∨
      ∃ a, round s = some (.done a) ∧ Post a) :
    ∀ (fuel : Nat) (s : σ), Inv s → left s < fuel → ∃ a, loop round fuel s = some a ∧ Post a
  | 0, _, _, hf => absurd hf (Nat.not_lt_zero _)
  | fuel + 1, s, h, hf => by
    obtain ⟨s', hr, h', hlt⟩ | ⟨a, hr, ha⟩ := step s h
    · obtain ⟨a, hl, ha⟩ := loop_spec left step fuel s' h' (by omega)
      exact ⟨a, by rw [loop, hr, ← hl], ha⟩
    · exact ⟨a, by rw [loop, hr], ha⟩

/-- One more target is done. -/
theorem mem_take_succ {ws : List Nat} {i w x : Nat} (h : ws[i]? = some w) :
    x ∈ ws.take (i + 1) ↔ x ∈ ws.take i ∨ x = w := by
  rw [List.take_add_one, h, List.mem_append]
  simp

namespace Adjacency

variable {adj : Adjacency} {v w i : Nat} {trail : Trail}

/-! ### Edges -/

/-- An edge leads from a vertex to another. -/
def Edge (adj : Adjacency) (v w : Nat) : Prop := w ∈ adj.next v

theorem next_eq_nil (h : adj.size ≤ v) : adj.next v = [] := by
  rw [next, Array.getElem?_eq_none h, Option.getD_none]

theorem getElem?_of_lt (h : v < adj.size) : adj[v]? = some (adj.next v) := by
  rw [next, Array.getElem?_eq_getElem h, Option.getD_some]

theorem inRange_iff (adj : Adjacency) :
    adj.InRange ↔ ∀ v < adj.size, ∀ w ∈ adj.next v, w < adj.size := by
  refine ⟨fun h v _ => h v, fun h v w hw => ?_⟩
  by_cases hv : v < adj.size
  · exact h v hv w hw
  · rw [next_eq_nil (Nat.le_of_not_lt hv)] at hw
    cases hw

instance (adj : Adjacency) : Decidable adj.InRange := decidable_of_iff' _ adj.inRange_iff

theorem Edge.lt (h : adj.Edge v w) : v < adj.size := by
  by_contra hv
  rw [Edge, next_eq_nil (Nat.le_of_not_lt hv)] at h
  cases h

theorem lt_of_not_marked {seen : Marks} (h : marked seen v = false) : v < seen.size := by
  by_contra hv
  rw [marked, Array.getElem?_eq_none (Nat.le_of_not_lt hv), Option.getD_none] at h
  cases h

/-! ### What is left to do -/

/-- The rounds that are left, by the vertices that are fresh and the trail. -/
def toDo (adj : Adjacency) (fresh : Nat → Bool) (trail : Trail) : Nat :=
  ∑ v ∈ (Finset.range adj.size).filter (fun v => fresh v = true), ((adj.next v).length + 1) +
    (trail.map fun e => (adj.next e.1).length - e.2 + 1).sum

variable {fresh fresh' : Nat → Bool}

theorem toDo_advance (h : i < (adj.next v).length) :
    adj.toDo fresh ((v, i + 1) :: trail) < adj.toDo fresh ((v, i) :: trail) := by
  simp only [toDo, List.map_cons, List.sum_cons]
  omega

theorem toDo_leave : adj.toDo fresh trail < adj.toDo fresh ((v, i) :: trail) := by
  simp only [toDo, List.map_cons, List.sum_cons]
  omega

theorem toDo_enter (hv : v < adj.size) (h : fresh v = true)
    (h' : ∀ u, fresh' u = true ↔ fresh u = true ∧ u ≠ v) :
    adj.toDo fresh' ((v, 0) :: trail) = adj.toDo fresh trail := by
  have hset : (Finset.range adj.size).filter (fun u => fresh' u = true) =
      ((Finset.range adj.size).filter (fun u => fresh u = true)).erase v := by
    ext u
    simp only [Finset.mem_filter, Finset.mem_erase, h']
    tauto
  have hmem : v ∈ (Finset.range adj.size).filter (fun u => fresh u = true) :=
    Finset.mem_filter.mpr ⟨Finset.mem_range.mpr hv, h⟩
  have hsum := Finset.sum_erase_add _ (fun u => (adj.next u).length + 1) hmem
  simp only [toDo, hset, List.map_cons, List.sum_cons]
  omega

theorem edgeCount_eq (adj : Adjacency) :
    adj.edgeCount = ∑ v ∈ Finset.range adj.size, (adj.next v).length := by
  have hlist : ∀ (ls : List (List Nat)) (k : Nat), ls.foldl (fun n ws => n + ws.length) k =
      k + ∑ v ∈ Finset.range ls.length, ((ls[v]?).getD []).length := by
    intro ls
    induction ls with
    | nil => simp
    | cons l ls ih =>
      intro k
      rw [List.foldl_cons, ih, List.length_cons, Finset.sum_range_succ']
      simp only [List.getElem?_cons_succ, List.getElem?_cons_zero, Option.getD_some]
      omega
  rw [edgeCount, ← Array.foldl_toList, hlist, Nat.zero_add]
  simp [next]

/-- A search has fuel for all that it has to do. -/
theorem toDo_lt_rounds (fresh : Nat → Bool) : adj.toDo fresh [] < adj.rounds := by
  have hle : ∑ v ∈ (Finset.range adj.size).filter (fun v => fresh v = true),
      ((adj.next v).length + 1) ≤ ∑ v ∈ Finset.range adj.size, ((adj.next v).length + 1) :=
    Finset.sum_le_sum_of_subset (Finset.filter_subset _ _)
  have hall : ∑ v ∈ Finset.range adj.size, ((adj.next v).length + 1) =
      adj.edgeCount + adj.size := by
    rw [Finset.sum_add_distrib, ← edgeCount_eq, ← Finset.card_eq_sum_ones, Finset.card_range]
  rw [toDo, rounds]
  simp only [List.map_nil, List.sum_nil]
  omega

end Adjacency
end ReactiveTree.Graph
