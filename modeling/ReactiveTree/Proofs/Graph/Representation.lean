import ReactiveTree.Proofs.Graph.Reads
import ReactiveTree.Proofs.Listing

/-!
# What the graph of a tree represents

The graph is read through its vertices, its edges, what a path reads, what reads a path, and what it
says of a vertex. All of that shows the reads that stand in the sources of the tree, each one once,
and the errors that its nodes carry (`ofTree_represents`). The copies of paths and edges are in step
(`Woven`). That the mark of a vertex is right rests on the listing: a vertex may be marked from the
listed node or from the node that its path resolves to, and these are the same.

Key definitions: `Tree.Computes`, `DependencyGraph.Marked`, `DependencyGraph.Represents`.
Key theorems: `Woven.mem_dependenciesOf`, `Woven.mem_dependentsOf`, `marked_ofTree`,
`ofTree_represents`.
-/
namespace ReactiveTree

/-- The primitive that is listed at a path has an expression with this source. -/
def Tree.Computes (t : Tree) (path source : String) : Prop :=
  ∃ e ∈ t.entries .everything, e.path = path ∧ e.node.isPrimitive = true ∧
    e.node.traits.expression = some source

namespace Graph

open Json (lookup)

variable {t : Tree} {p d source : String}

theorem mem_expressions_iff : (p, source) ∈ expressions t ↔ t.Computes p source := by
  simp only [mem_expressions, Tree.mem_primitives_iff, Tree.Computes]
  constructor
  · rintro ⟨e, ⟨he, hprim⟩, hp, hs⟩
    exact ⟨e, he, hp, hprim, hs⟩
  · rintro ⟨e, he, hp, hprim, hs⟩
    exact ⟨e, ⟨he, hprim⟩, hp, hs⟩

namespace DependencyGraph

variable {g : DependencyGraph} {i j : Nat} {v : Vertex}

/-! ### Neighbours -/

theorem Woven.mem_neighbours (h : g.Woven) {adj : Adjacency} :
    d ∈ g.neighbours adj p ↔ ∃ i j, g.ids[i]? = some p ∧ j ∈ adj.next i ∧ g.idAt j = d := by
  rw [neighbours]
  cases hl : lookup p g.index with
  | some i =>
    have hi := (h.index p i).mp hl
    simp only [List.mem_map]
    constructor
    · rintro ⟨j, hj, rfl⟩
      exact ⟨i, j, hi, hj, rfl⟩
    · rintro ⟨i', j, hi', hj, rfl⟩
      exact ⟨j, h.number_unique hi hi' ▸ hj, rfl⟩
  | none =>
    simp only [List.not_mem_nil, false_iff]
    rintro ⟨i, -, hi, -⟩
    rw [(h.index p i).mpr hi] at hl
    cases hl

/-- **What a path reads are the sources of the edges to it.** -/
theorem Woven.mem_dependenciesOf (h : g.Woven) :
    d ∈ g.dependenciesOf p ↔ ⟨d, p⟩ ∈ g.edges := by
  rw [dependenciesOf, h.mem_neighbours]
  constructor
  · rintro ⟨j, i, hj, he, rfl⟩
    obtain ⟨d, p', hd, hp, he⟩ := (h.edge_reads i j).mp he
    obtain rfl := Option.some.inj (hj.symm.trans hp)
    rwa [idAt_eq hd]
  · intro he
    obtain ⟨i, hi⟩ := List.mem_iff_getElem?.mp (h.ends he).1
    obtain ⟨j, hj⟩ := List.mem_iff_getElem?.mp (h.ends he).2
    exact ⟨j, i, hj, (h.edge_reads i j).mpr ((joins_iff hi hj).mpr he), idAt_eq hi⟩

/-- **What reads a path are the targets of the edges from it.** -/
theorem Woven.mem_dependentsOf (h : g.Woven) : p ∈ g.dependentsOf d ↔ ⟨d, p⟩ ∈ g.edges := by
  rw [dependentsOf, h.mem_neighbours]
  constructor
  · rintro ⟨i, j, hi, he, rfl⟩
    obtain ⟨d', p, hd, hp, he⟩ := (h.edge_readers i j).mp he
    obtain rfl := Option.some.inj (hi.symm.trans hd)
    rwa [idAt_eq hp]
  · intro he
    obtain ⟨i, hi⟩ := List.mem_iff_getElem?.mp (h.ends he).1
    obtain ⟨j, hj⟩ := List.mem_iff_getElem?.mp (h.ends he).2
    exact ⟨i, j, hi, (h.edge_readers i j).mpr ((joins_iff hi hj).mpr he), idAt_eq hj⟩

/-- **A vertex is found by its path.** -/
theorem Woven.find?_eq_some (h : g.Woven) : g.find? p = some v ↔ v ∈ g.vertices ∧ v.id = p := by
  rw [find?, Option.bind_eq_some_iff]
  simp only [h.index]
  constructor
  · rintro ⟨i, hi, hv⟩
    rw [ids, List.getElem?_map, hv] at hi
    exact ⟨List.mem_of_getElem? hv, Option.some.inj hi⟩
  · rintro ⟨hv, rfl⟩
    obtain ⟨i, hi⟩ := List.mem_iff_getElem?.mp hv
    exact ⟨i, by rw [ids, List.getElem?_map, hi]; rfl, hi⟩

theorem Woven.mem_cyclicPaths (h : g.Woven) : p ∈ g.cyclicPaths ↔ g.isCyclic p = true := by
  rw [cyclicPaths, isCyclic, List.mem_map, Option.any_eq_true]
  simp only [List.mem_filter, h.find?_eq_some]
  constructor
  · rintro ⟨v, ⟨hv, hc⟩, hp⟩
    exact ⟨v, ⟨hv, hp⟩, hc⟩
  · rintro ⟨v, ⟨hv, hp⟩, hc⟩
    exact ⟨v, ⟨hv, hc⟩, hp⟩

/-! ### Errors -/

/-- The vertices whose nodes carry an error are marked. -/
def Marked (t : Tree) (g : DependencyGraph) : Prop :=
  ∀ v ∈ g.vertices, v.hasError = carriesError t v.id

theorem carriesError_iff : carriesError t p = true ↔
    ∃ n, t.get? p = some n ∧ n.traits.expressionError ≠ none := by
  simp [carriesError, Option.any_eq_true, Option.isSome_iff_ne_none]

/-- A vertex that is marked again with what its node says stays as it is. -/
theorem Marked.modify_orError (hm : g.Marked t) (hi : g.ids[i]? = some p) :
    g.vertices.modify i (·.orError (carriesError t p)) = g.vertices := by
  refine List.ext_getElem? fun k => ?_
  rw [List.getElem?_modify]
  by_cases hik : i = k
  · subst hik
    rw [ids, List.getElem?_map, Option.map_eq_some_iff] at hi
    obtain ⟨v, hv, rfl⟩ := hi
    have hmark : carriesError t v.id = v.hasError := (hm v (List.mem_of_getElem? hv)).symm
    rw [hv, hmark, Option.map_eq_map, Option.map_some, if_pos rfl, Vertex.orError, Bool.or_self]
  · simp [hik]

theorem Marked.intern (hm : g.Marked t) (h : g.Woven) (p : String) :
    (g.intern p (carriesError t p)).1.Marked t := by
  cases hl : lookup p g.index with
  | some i =>
    rw [intern_of_some hl]
    rwa [Marked, hm.modify_orError ((h.index p i).mp hl)]
  | none =>
    rw [intern_of_none hl]
    intro v hv
    rcases List.mem_append.mp hv with hv | hv
    · exact hm v hv
    · obtain rfl := List.mem_singleton.mp hv
      rfl

theorem vertices_addEdge (g : DependencyGraph) (i j : Nat) :
    (g.addEdge i j).vertices = g.vertices := by
  rw [addEdge]
  split <;> rfl

theorem Marked.addRead (hm : g.Marked t) (h : g.Woven) (j : Nat) (d : String) :
    (g.addRead t j d).Marked t := by
  have hi := hm.intern h d
  rwa [Marked, ← vertices_addEdge _ _ j] at hi

theorem marked_foldl_addRead : ∀ (ds : List String) {g : DependencyGraph}, g.Marked t → g.Woven →
    g.ids[j]? = some p → (ds.foldl (addRead t j) g).Marked t
  | [], _, hm, _, _ => hm
  | d :: ds, _, hm, h, hj =>
    have hd := h.addRead t hj d
    marked_foldl_addRead ds (hm.addRead h j d) hd.woven (hd.number hj)

/-- The entry of a node says of its errors what its path does. -/
theorem Marked.addEntry (hm : g.Marked t) (h : g.Woven) (ht : t.Valid) {e : Entry}
    (he : e ∈ t.primitives) : (g.addEntry t e).Marked t := by
  have hmark : e.node.traits.expressionError.isSome = carriesError t e.path := by
    rw [carriesError, Tree.get?_of_mem_primitives ht he, Option.any_some]
  rw [DependencyGraph.addEntry, hmark]
  cases e.node.traits.expression with
  | none => exact hm
  | some source =>
    obtain ⟨hintern, hj⟩ := h.intern e.path (carriesError t e.path)
    exact marked_foldl_addRead (dependencies source) (hm.intern h e.path) hintern.woven hj

theorem marked_foldl_addEntry (ht : t.Valid) : ∀ (es : List Entry) {g : DependencyGraph},
    (∀ e ∈ es, e ∈ t.primitives) → g.Marked t → g.Woven → (es.foldl (addEntry t) g).Marked t
  | [], _, _, hm, _ => hm
  | e :: es, _, hes, hm, h =>
    marked_foldl_addEntry ht es (fun _ he => hes _ (List.mem_cons_of_mem e he))
      (hm.addEntry h ht (hes e List.mem_cons_self)) (h.addEntry t e).woven

/-- **A vertex is marked if its node carries an error.** -/
theorem marked_ofTree (ht : t.Valid) : (ofTree t).Marked t := by
  have hm : (collect t).Marked t :=
    marked_foldl_addEntry ht t.primitives (fun _ => id) (fun _ hv => nomatch hv) woven_empty
  intro v hv
  obtain ⟨i, hi⟩ := List.mem_iff_getElem?.mp hv
  rw [ofTree, getElem?_vertices_rank, Option.map_eq_some_iff] at hi
  obtain ⟨w, hw, rfl⟩ := hi
  exact hm w (List.mem_of_getElem? hw)

/-! ### The graph of a tree -/

/-- The graph represents the reads of a tree. -/
structure Represents (g : DependencyGraph) (t : Tree) : Prop where
  nodup_ids : (g.vertices.map (·.id)).Nodup
  /-- The ids are the paths of expressions and what these read. -/
  mem_ids : ∀ p, p ∈ g.vertices.map (·.id) ↔
    ∃ q source, t.Computes q source ∧ (p = q ∨ p ∈ dependencies source)
  find? : ∀ p v, g.find? p = some v ↔ v ∈ g.vertices ∧ v.id = p
  nodup_edges : g.edges.Nodup
  /-- An edge is a read. -/
  mem_edges : ∀ d p, ⟨d, p⟩ ∈ g.edges ↔ ∃ source, t.Computes p source ∧ d ∈ dependencies source
  dependencies : ∀ d p, d ∈ g.dependenciesOf p ↔ ⟨d, p⟩ ∈ g.edges
  dependents : ∀ d p, p ∈ g.dependentsOf d ↔ ⟨d, p⟩ ∈ g.edges
  nodup_dependencies : ∀ p, (g.dependenciesOf p).Nodup
  nodup_dependents : ∀ d, (g.dependentsOf d).Nodup
  hasError : ∀ v ∈ g.vertices, v.hasError = true ↔
    ∃ n, t.get? v.id = some n ∧ n.traits.expressionError ≠ none
  cyclicPaths : ∀ p, p ∈ g.cyclicPaths ↔ g.isCyclic p = true
  /-- Only nodes with an expression are on cycles. -/
  isCyclic : ∀ p, g.isCyclic p = true → ∃ source, t.Computes p source

/-- No path is a neighbour twice. -/
theorem Woven.nodup_neighbours (h : g.Woven) {adj : Adjacency} (hn : ∀ i, (adj.next i).Nodup)
    (hadj : ∀ i j, j ∈ adj.next i → ∃ q, g.ids[j]? = some q) (p : String) :
    (g.neighbours adj p).Nodup := by
  rw [neighbours]
  split
  · rename_i i _
    refine (hn i).map_on fun k hk l hl hkl => ?_
    obtain ⟨q, hq⟩ := hadj i k hk
    obtain ⟨r, hr⟩ := hadj i l hl
    rw [idAt_eq hq, idAt_eq hr] at hkl
    exact h.number_unique (hkl ▸ hq) hr
  · exact List.nodup_nil

/-- What is on a cycle has an expression. -/
theorem computes_of_onCycle (h : (ofTree t).OnCycle p) : ∃ source, t.Computes p source := by
  obtain ⟨q, -, he⟩ := Relation.TransGen.tail'_iff.mp h
  obtain ⟨source, hs, -⟩ := mem_edges.mp he
  exact ⟨source, mem_expressions_iff.mp hs⟩

/-- **The graph of a tree represents its reads.** -/
theorem ofTree_represents (ht : t.Valid) : (ofTree t).Represents t where
  nodup_ids := (woven_ofTree t).nodup_ids
  mem_ids p := by
    simp only [← mem_expressions_iff]
    exact mem_ids
  find? p v := (woven_ofTree t).find?_eq_some
  nodup_edges := (woven_ofTree t).nodup_edges
  mem_edges d p := by
    simp only [← mem_expressions_iff]
    exact mem_edges
  dependencies d p := (woven_ofTree t).mem_dependenciesOf
  dependents d p := (woven_ofTree t).mem_dependentsOf
  nodup_dependencies p := by
    refine (woven_ofTree t).nodup_neighbours (woven_ofTree t).nodup_reads (fun j i hi => ?_) p
    obtain ⟨d, -, hd, -⟩ := ((woven_ofTree t).edge_reads i j).mp hi
    exact ⟨d, hd⟩
  nodup_dependents d := by
    refine (woven_ofTree t).nodup_neighbours (woven_ofTree t).nodup_readers (fun i j hj => ?_) d
    obtain ⟨-, p, -, hp, -⟩ := ((woven_ofTree t).edge_readers i j).mp hj
    exact ⟨p, hp⟩
  hasError v hv := by rw [marked_ofTree ht v hv, carriesError_iff]
  cyclicPaths p := (woven_ofTree t).mem_cyclicPaths
  isCyclic p hp := computes_of_onCycle (isCyclic_iff.mp hp)

/-- A path that is read before its node comes, one that is read after, and one without a node. -/
def circuitBoard : Tree :=
  let part (source : String) (error : Option String) : Node :=
    .leaf { (default : Traits) with expression := some source, expressionError := error } (.number 0)
  ⟨.object default [("lamp", part "get('battery') + get(\"wire\") + get('battery')" none),
    ("battery", part "get('lamp')" (some "flat"))]⟩

theorem ofTree_represents_circuitBoard : (ofTree circuitBoard).ids = ["lamp", "battery", "wire"] ∧
    (ofTree circuitBoard).edges =
      [⟨"battery", "lamp"⟩, ⟨"wire", "lamp"⟩, ⟨"lamp", "battery"⟩] ∧
    (ofTree circuitBoard).Represents circuitBoard :=
  ⟨by decide +kernel, by decide +kernel, ofTree_represents ⟨rfl, rfl⟩⟩

end DependencyGraph
end Graph
end ReactiveTree
