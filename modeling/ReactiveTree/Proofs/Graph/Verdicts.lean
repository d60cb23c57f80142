import ReactiveTree.Proofs.Graph.Closing
import ReactiveTree.Proofs.Graph.Representation

/-!
# Two searches, one verdict

Whether a graph has a cycle is found by a walk that stops at the first edge to an open vertex. Which
vertices are on cycles is found by a search for components, which never stops early. The two know
nothing of each other. Both say of every graph what is so, and so a graph of a tree has a cycle
exactly if some of its paths are cyclic.

Key theorems: `Adjacency.mem_cyclic`, `DependencyGraph.Woven.exists_onCycle_iff`,
`DependencyGraph.hasCycle_agrees`.
-/
namespace ReactiveTree.Graph

open Relation

/-- A vertex is marked if and only if there is a cycle. -/
theorem Adjacency.mem_cyclic {adj : Adjacency} (hr : adj.InRange) :
    true ∈ adj.cyclic ↔ ∃ v, TransGen adj.Edge v v := by
  rw [Array.mem_iff_getElem?]
  exact exists_congr (mem_cyclic_iff hr)

namespace DependencyGraph

variable {t : Tree} {g : DependencyGraph}

/-- A path is on a cycle if and only if a number is. -/
theorem Woven.exists_onCycle_iff (h : g.Woven) :
    (∃ p, g.OnCycle p) ↔ ∃ i, TransGen g.readers.Edge i i := by
  constructor
  · rintro ⟨p, hp⟩
    obtain ⟨q, he, -⟩ := TransGen.head'_iff.mp hp
    obtain ⟨i, hi⟩ := List.mem_iff_getElem?.mp (h.ends he).1
    exact ⟨i, (h.transGen_self_iff hi).mpr hp⟩
  · rintro ⟨i, hi⟩
    obtain ⟨j, he, -⟩ := TransGen.head'_iff.mp hi
    obtain ⟨p, -, hp, -⟩ := (h.edge_readers i j).mp he
    exact ⟨p, (h.transGen_self_iff hp).mp hi⟩

theorem cyclicPaths_ne_nil : (ofTree t).cyclicPaths ≠ [] ↔ ∃ p, (ofTree t).OnCycle p := by
  rw [ne_eq, List.eq_nil_iff_forall_not_mem, not_forall_not]
  exact exists_congr fun p => (woven_ofTree t).mem_cyclicPaths.trans isCyclic_iff

/-- **The two searches agree.** The walk does not fail, it meets an open vertex if and only if some
vertex reaches itself by one edge or more, and that is so if and only if the search for components
marks a vertex. A tree has a cycle if and only if it has cyclic paths. -/
theorem hasCycle_agrees :
    (∀ adj : Adjacency, adj.InRange → ∃ b, adj.closes? = some b ∧ adj.hasCycle = b ∧
      (b = true ↔ ∃ v, TransGen adj.Edge v v) ∧ (b = true ↔ true ∈ adj.cyclic)) ∧
    ∀ t : Tree, (ofTree t).hasCycle = true ↔ (ofTree t).cyclicPaths ≠ [] := by
  constructor
  · intro adj hr
    obtain ⟨b, heq, hb⟩ := Adjacency.closes?_spec hr
    exact ⟨b, heq, by rw [Adjacency.hasCycle, heq, Option.getD_some], hb,
      hb.trans (Adjacency.mem_cyclic hr).symm⟩
  · intro t
    have h := woven_ofTree t
    have hcycle : (ofTree t).hasCycle = (ofTree t).readers.hasCycle := rfl
    rw [hcycle, Adjacency.hasCycle_iff h.inRange_readers, cyclicPaths_ne_nil, h.exists_onCycle_iff]

/-- A walk that leaves a ring behind, and one that finds the ring of its second start. -/
theorem hasCycle_agrees_rings :
    (∃ b, Adjacency.knot.closes? = some b ∧ b = true ∧ true ∈ Adjacency.knot.cyclic) ∧
    (ofTree circuitBoard).hasCycle = true ∧ (ofTree circuitBoard).cyclicPaths ≠ [] := by
  obtain ⟨hgraphs, htrees⟩ := hasCycle_agrees
  obtain ⟨b, heq, hcycle, -, hmem⟩ := hgraphs Adjacency.knot (by decide)
  have hb : b = true := hcycle.symm.trans (by decide +kernel)
  have htree : (ofTree circuitBoard).hasCycle = true := by decide +kernel
  exact ⟨⟨b, heq, hb, hmem.mp hb⟩, htree, (htrees circuitBoard).mp htree⟩

end DependencyGraph
end ReactiveTree.Graph
