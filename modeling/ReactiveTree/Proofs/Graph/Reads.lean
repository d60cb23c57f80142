import ReactiveTree.Proofs.Graph.Components
import ReactiveTree.Proofs.Graph.Growth
import ReactiveTree.Proofs.Graph.Levels

/-!
# The graph of a tree and its reads

The graph of a tree has an edge for each path that an expression reads. Its vertices are numbered,
so a walk of the adjacency lists is a walk along edges between paths. What the graph says of a path
can be said without numbers: it is cyclic if edges lead from it back to itself, and along an edge
between two paths that are not cyclic the level rises.

Key definitions: `expressions`, `DependencyGraph.Edges`, `DependencyGraph.OnCycle`.
Key theorems: `DependencyGraph.mem_edges`, `DependencyGraph.isCyclic_iff`,
`DependencyGraph.level?_lt`.
-/
namespace ReactiveTree.Graph

open Relation

/-- The nodes with an expression, by path, and the sources of their expressions. -/
def expressions (t : Tree) : List (String × String) :=
  t.primitives.filterMap fun e => e.node.traits.expression.map fun source => (e.path, source)

theorem mem_expressions {t : Tree} {p source : String} : (p, source) ∈ expressions t ↔
    ∃ e ∈ t.primitives, e.path = p ∧ e.node.traits.expression = some source := by
  simp only [expressions, List.mem_filterMap, Option.map_eq_some_iff, Prod.mk.injEq]
  constructor
  · rintro ⟨e, he, source', hs, hp, rfl⟩
    exact ⟨e, he, hp, hs⟩
  · rintro ⟨e, he, hp, hs⟩
    exact ⟨e, he, source, hs, hp, rfl⟩

namespace DependencyGraph

variable {t : Tree} {g : DependencyGraph} {a b p : String} {i j : Nat}

/-! ### Paths and edges -/

theorem mem_pathsOf {e : Entry} : p ∈ pathsOf e ↔
    ∃ source, e.node.traits.expression = some source ∧ (p = e.path ∨ p ∈ dependencies source) := by
  rw [pathsOf]
  cases e.node.traits.expression <;> simp

theorem mem_edgesOf {e : Entry} : ⟨a, b⟩ ∈ edgesOf e ↔
    ∃ source, e.node.traits.expression = some source ∧ e.path = b ∧ a ∈ dependencies source := by
  rw [edgesOf]
  cases e.node.traits.expression <;> simp [and_comm]

theorem map_id_rank (levels : Array Nat) (cyclic : Adjacency.Marks) : ∀ (vs : List Vertex) (n : Nat),
    ((vs.zipIdx n).map fun (v, i) =>
      { v with level := (levels[i]?).getD 0, cyclic := (cyclic[i]?).getD false }).map (·.id) =
      vs.map (·.id)
  | [], _ => rfl
  | v :: vs, n => congrArg (v.id :: ·) (map_id_rank levels cyclic vs (n + 1))

theorem ids_rank (g : DependencyGraph) : g.rank.ids = g.ids := map_id_rank _ _ g.vertices 0

/-- **All copies of a path and of an edge in the graph of a tree say the same.** -/
theorem woven_ofTree (t : Tree) : (ofTree t).Woven :=
  (extends_collect t).woven.congr (ids_rank _) _

theorem mem_ids : p ∈ (ofTree t).ids ↔
    ∃ q source, (q, source) ∈ expressions t ∧ (p = q ∨ p ∈ dependencies source) := by
  rw [ofTree, ids_rank, (extends_collect t).mem_ids, List.mem_flatMap]
  simp only [mem_pathsOf, mem_expressions, ids, List.map_nil, List.not_mem_nil, false_or]
  constructor
  · rintro ⟨e, he, source, hs, hp⟩
    exact ⟨e.path, source, ⟨e, he, rfl, hs⟩, hp⟩
  · rintro ⟨_, source, ⟨e, he, rfl, hs⟩, hp⟩
    exact ⟨e, he, source, hs, hp⟩

/-- **An edge leads from a path that is read to the node that reads it.** -/
theorem mem_edges : ⟨a, b⟩ ∈ (ofTree t).edges ↔
    ∃ source, (b, source) ∈ expressions t ∧ a ∈ dependencies source := by
  have hedges : (ofTree t).edges = (collect t).edges := rfl
  rw [hedges, (extends_collect t).mem_edges, List.mem_flatMap]
  simp only [mem_edgesOf, mem_expressions, List.not_mem_nil, false_or]
  constructor
  · rintro ⟨e, he, source, hs, hp, hd⟩
    exact ⟨source, ⟨e, he, hp, hs⟩, hd⟩
  · rintro ⟨source, ⟨e, he, hp, hs⟩, hd⟩
    exact ⟨e, he, source, hs, hp, hd⟩

/-! ### Numbers of vertices -/

/-- There is an edge from a path to another. -/
def Edges (edges : List Edge) (a b : String) : Prop := ⟨a, b⟩ ∈ edges

/-- A walk between numbers of vertices is a walk between their paths. -/
theorem Woven.transGen_edges (h : g.Woven) (hw : TransGen g.readers.Edge i j) :
    g.ids[i]? = some a → ∃ b, g.ids[j]? = some b ∧ TransGen (Edges g.edges) a b := by
  intro ha
  induction hw with
  | single he =>
    obtain ⟨a', b, ha', hb, he⟩ := (h.edge_readers _ _).mp he
    obtain rfl := Option.some.inj (ha.symm.trans ha')
    exact ⟨b, hb, .single he⟩
  | tail _ he ih =>
    obtain ⟨b, hb, hwalk⟩ := ih
    obtain ⟨b', c, hb', hc, he⟩ := (h.edge_readers _ _).mp he
    obtain rfl := Option.some.inj (hb.symm.trans hb')
    exact ⟨c, hc, hwalk.tail he⟩

/-- A walk between paths is a walk between their numbers. -/
theorem Woven.transGen_readers (h : g.Woven) (hw : TransGen (Edges g.edges) a b)
    (ha : g.ids[i]? = some a) : ∃ j, g.ids[j]? = some b ∧ TransGen g.readers.Edge i j := by
  have hnumber : ∀ {c d : String}, Edges g.edges c d → ∃ k : Nat, g.ids[k]? = some d :=
    fun he => List.mem_iff_getElem?.mp (h.ends he).2
  induction hw with
  | single he =>
    obtain ⟨k, hk⟩ := hnumber he
    exact ⟨k, hk, .single ((h.edge_readers _ _).mpr ((joins_iff ha hk).mpr he))⟩
  | tail _ he ih =>
    obtain ⟨j, hj, hwalk⟩ := ih
    obtain ⟨k, hk⟩ := hnumber he
    exact ⟨k, hk, hwalk.tail ((h.edge_readers _ _).mpr ((joins_iff hj hk).mpr he))⟩

/-! ### What the graph says of a path -/

/-- Edges lead from a path back to itself. -/
def OnCycle (g : DependencyGraph) (p : String) : Prop := TransGen (Edges g.edges) p p

/-- What is on a cycle stays on one when expressions are added. -/
theorem OnCycle.mono {t' : Tree} (h : ∀ x ∈ expressions t, x ∈ expressions t')
    (hp : (ofTree t).OnCycle p) : (ofTree t').OnCycle p := by
  refine hp.lift id fun a b he => ?_
  obtain ⟨source, hs, hd⟩ := mem_edges.mp he
  exact mem_edges.mpr ⟨source, h _ hs, hd⟩

theorem Woven.transGen_self_iff (h : g.Woven) (hi : g.ids[i]? = some p) :
    TransGen g.readers.Edge i i ↔ g.OnCycle p := by
  constructor
  · intro hw
    obtain ⟨q, hq, hwalk⟩ := h.transGen_edges hw hi
    obtain rfl := Option.some.inj (hi.symm.trans hq)
    exact hwalk
  · intro hc
    obtain ⟨j, hj, hwalk⟩ := h.transGen_readers hc hi
    rwa [h.number_unique hj hi] at hwalk

/-- The numbers of the vertices that read a vertex are numbers of vertices. -/
theorem Woven.inRange_readers (h : g.Woven) : g.readers.InRange := by
  intro i j hj
  obtain ⟨_, _, -, hb, -⟩ := (h.edge_readers i j).mp hj
  exact h.size_readers ▸ (List.getElem?_eq_some_iff.mp hb).1

theorem marked_cyclic_iff (hi : (ofTree t).ids[i]? = some p) :
    Adjacency.marked (ofTree t).readers.cyclic i = true ↔ (ofTree t).OnCycle p := by
  have hlt : i < (ofTree t).readers.size :=
    (woven_ofTree t).size_readers ▸ (List.getElem?_eq_some_iff.mp hi).1
  rw [Adjacency.marked_cyclic (woven_ofTree t).inRange_readers hlt, (woven_ofTree t).transGen_self_iff hi]

theorem getElem?_vertices_rank (g : DependencyGraph) (i : Nat) : g.rank.vertices[i]? =
    g.vertices[i]?.map fun v =>
      { v with level := ((g.readers.levels g.readers.cyclic)[i]?).getD 0
               cyclic := (g.readers.cyclic[i]?).getD false } := by
  rw [rank, List.getElem?_map, List.getElem?_zipIdx, Option.map_map]
  simp [Function.comp_def]

/-- What the graph knows of a path. -/
theorem find?_ofTree (hi : (ofTree t).ids[i]? = some p) : ∃ v, (ofTree t).find? p = some v ∧
    v.level = (((ofTree t).readers.levels (ofTree t).readers.cyclic)[i]?).getD 0 ∧
    v.cyclic = Adjacency.marked (ofTree t).readers.cyclic i := by
  have hlt : i < (ofTree t).readers.size :=
    (woven_ofTree t).size_readers ▸ (List.getElem?_eq_some_iff.mp hi).1
  have hmark : Adjacency.marked (ofTree t).readers.cyclic i =
      ((ofTree t).readers.cyclic[i]?).getD false := by
    rw [Adjacency.marked, Array.getElem?_eq_getElem]
    swap
    · exact (Adjacency.size_cyclic (woven_ofTree t).inRange_readers).symm ▸ hlt
    rfl
  have hindex : Json.lookup p (ofTree t).index = some i := ((woven_ofTree t).index p i).mpr hi
  rw [find?, hindex, hmark, Option.bind_some, ofTree, getElem?_vertices_rank]
  rw [ofTree, ids_rank, ids, List.getElem?_map, Option.map_eq_some_iff] at hi
  obtain ⟨v, hv, -⟩ := hi
  rw [hv]
  exact ⟨_, rfl, rfl, rfl⟩

theorem find?_eq_none (hp : p ∉ (ofTree t).ids) : (ofTree t).find? p = none := by
  rw [find?]
  cases hl : Json.lookup p (ofTree t).index with
  | none => rfl
  | some i => exact absurd (List.mem_of_getElem? (((woven_ofTree t).index p i).mp hl)) hp

theorem mem_ids_of_onCycle (h : (ofTree t).OnCycle p) : p ∈ (ofTree t).ids := by
  obtain ⟨b, he, -⟩ := TransGen.head'_iff.mp h
  exact ((woven_ofTree t).ends he).1

/-- **A path is cyclic if edges lead from it back to itself.** -/
theorem isCyclic_iff : (ofTree t).isCyclic p = true ↔ (ofTree t).OnCycle p := by
  by_cases hp : p ∈ (ofTree t).ids
  · obtain ⟨i, hi⟩ := List.mem_iff_getElem?.mp hp
    obtain ⟨v, hv, -, hc⟩ := find?_ofTree hi
    rw [← marked_cyclic_iff hi, isCyclic, hv, Option.any_some, hc]
  · rw [isCyclic, find?_eq_none hp]
    exact ⟨fun h => (Bool.false_ne_true h).elim, fun h => absurd (mem_ids_of_onCycle h) hp⟩

/-- **Levels rise along edges between paths that are not cyclic.** -/
theorem level?_lt (h : Edges (ofTree t).edges a b) (ha : ¬ (ofTree t).OnCycle a)
    (hb : ¬ (ofTree t).OnCycle b) :
    ((ofTree t).level? a).getD 0 < ((ofTree t).level? b).getD 0 := by
  obtain ⟨hma, hmb⟩ := (woven_ofTree t).ends h
  obtain ⟨i, hi⟩ := List.mem_iff_getElem?.mp hma
  obtain ⟨j, hj⟩ := List.mem_iff_getElem?.mp hmb
  have hr := (woven_ofTree t).inRange_readers
  have hmarked : ∀ {k : Nat} {c}, (ofTree t).ids[k]? = some c → ¬ (ofTree t).OnCycle c →
      Adjacency.marked (ofTree t).readers.cyclic k = false := fun hk hn => by
    rw [← Bool.not_eq_true]
    exact fun hm => hn ((marked_cyclic_iff hk).mp hm)
  have hedge : (ofTree t).readers.Edge i j :=
    ((woven_ofTree t).edge_readers i j).mpr ((joins_iff hi hj).mpr h)
  obtain ⟨v, hv, hlv, -⟩ := find?_ofTree hi
  obtain ⟨w, hw, hlw, -⟩ := find?_ofTree hj
  rw [level?, level?, hv, hw, Option.map_some, Option.map_some, Option.getD_some, Option.getD_some,
    hlv, hlw]
  exact Adjacency.levels_lt hr (Adjacency.size_cyclic hr)
    (fun _ hv => Adjacency.not_transGen_of_not_marked hr hv) (hmarked hi ha) (hmarked hj hb) hedge

end DependencyGraph
end ReactiveTree.Graph
