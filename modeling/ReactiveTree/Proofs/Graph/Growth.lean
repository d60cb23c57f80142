import ReactiveTree.Graph.Basic
import ReactiveTree.Proofs.Graph.Walks
import ReactiveTree.Proofs.Members

/-!
# How the graph of a tree grows

The graph keeps each path and each edge several times over: paths in the list of vertices and in
the index, edges by path and by number in both directions. A path may first come as what another
one reads and later as a node, or the other way round. In whatever order they come, the copies
stay in step (`Woven`), numbers that are given out stay, and every step adds exactly the paths and
edges that it is about (`Extends`).

Key definitions: `DependencyGraph.ids`, `DependencyGraph.Woven`, `DependencyGraph.Extends`.
Key theorems: `Woven.intern`, `Woven.addEdge`, `Woven.addRead`, `Woven.addEntry`, `extends_collect`.
-/
namespace ReactiveTree.Graph

open Json (lookup upsert lookup_upsert)

namespace Adjacency

variable {adj : Adjacency} {i j : Nat}

@[simp] theorem next_push (adj : Adjacency) (i : Nat) : next (adj.push []) i = adj.next i := by
  rw [next, Array.getElem?_push, next]
  split
  · rename_i h
    rw [h, Array.getElem?_eq_none (Nat.le_refl _)]
    rfl
  · rfl

theorem next_modify (hi : i < adj.size) (j k : Nat) :
    next (adj.modify i (· ++ [j])) k = if i = k then adj.next k ++ [j] else adj.next k := by
  rw [next, Array.getElem?_modify, next]
  split
  · rename_i h
    subst h
    rw [Array.getElem?_eq_getElem hi]
    rfl
  · rfl

end Adjacency

namespace DependencyGraph

variable {t : Tree} {g g' g'' : DependencyGraph} {p q d : String} {i j : Nat}

/-- The paths of the vertices, by number. -/
def ids (g : DependencyGraph) : List String := g.vertices.map (·.id)

theorem length_ids (g : DependencyGraph) : g.ids.length = g.vertices.length := List.length_map ..

theorem idAt_eq (h : g.ids[i]? = some p) : g.idAt i = p := by
  rw [ids, List.getElem?_map] at h
  rw [idAt, h, Option.getD_some]

/-- An edge leads from the path with a number to the path with another. -/
def Joins (g : DependencyGraph) (i j : Nat) : Prop :=
  ∃ d p, g.ids[i]? = some d ∧ g.ids[j]? = some p ∧ ⟨d, p⟩ ∈ g.edges

/-- All copies of a path and of an edge say the same. -/
structure Woven (g : DependencyGraph) : Prop where
  nodup_ids : g.ids.Nodup
  index : ∀ p i, lookup p g.index = some i ↔ g.ids[i]? = some p
  size_readers : g.readers.size = g.ids.length
  size_reads : g.reads.size = g.ids.length
  ends : ∀ {d p}, ⟨d, p⟩ ∈ g.edges → d ∈ g.ids ∧ p ∈ g.ids
  nodup_edges : g.edges.Nodup
  edge_readers : ∀ i j, g.readers.Edge i j ↔ g.Joins i j
  edge_reads : ∀ i j, g.reads.Edge j i ↔ g.Joins i j
  nodup_readers : ∀ i, (g.readers.next i).Nodup
  nodup_reads : ∀ j, (g.reads.next j).Nodup

theorem Woven.number_unique (h : g.Woven) (hi : g.ids[i]? = some p) (hj : g.ids[j]? = some p) :
    i = j :=
  (List.getElem?_inj (List.getElem?_eq_some_iff.mp hi).1 h.nodup_ids).mp (hi.trans hj.symm)

theorem joins_iff (hi : g.ids[i]? = some d) (hj : g.ids[j]? = some p) :
    g.Joins i j ↔ ⟨d, p⟩ ∈ g.edges := by
  constructor
  · rintro ⟨d', p', hd, hp, he⟩
    obtain rfl := Option.some.inj (hi.symm.trans hd)
    obtain rfl := Option.some.inj (hj.symm.trans hp)
    exact he
  · exact fun he => ⟨d, p, hi, hj, he⟩

theorem woven_empty : ({} : DependencyGraph).Woven where
  nodup_ids := List.nodup_nil
  index _ _ := by simp [lookup, ids]
  size_readers := rfl
  size_reads := rfl
  ends h := nomatch h
  nodup_edges := List.nodup_nil
  edge_readers _ _ := by simp [Adjacency.Edge, Adjacency.next, Joins]
  edge_reads _ _ := by simp [Adjacency.Edge, Adjacency.next, Joins]
  nodup_readers _ := by simp [Adjacency.next]
  nodup_reads _ := by simp [Adjacency.next]

/-- What a step adds to a graph: some paths and some edges. -/
structure Extends (g g' : DependencyGraph) (paths : List String) (edges : List Edge) : Prop where
  woven : g'.Woven
  number : ∀ {i : Nat} {p}, g.ids[i]? = some p → g'.ids[i]? = some p
  mem_ids : ∀ p, p ∈ g'.ids ↔ p ∈ g.ids ∨ p ∈ paths
  mem_edges : ∀ e, e ∈ g'.edges ↔ e ∈ g.edges ∨ e ∈ edges

namespace Extends

variable {ps ps' : List String} {es es' : List Edge}

theorem refl (h : g.Woven) : Extends g g [] [] := ⟨h, id, by simp, by simp⟩

theorem trans (h : Extends g g' ps es) (h' : Extends g' g'' ps' es') :
    Extends g g'' (ps ++ ps') (es ++ es') where
  woven := h'.woven
  number hi := h'.number (h.number hi)
  mem_ids p := by rw [h'.mem_ids, h.mem_ids, List.mem_append, or_assoc]
  mem_edges e := by rw [h'.mem_edges, h.mem_edges, List.mem_append, or_assoc]

end Extends

/-! ### Paths -/

theorem intern_of_some (h : lookup p g.index = some i) (b : Bool) :
    g.intern p b = ({ g with vertices := g.vertices.modify i (·.orError b) }, i) := by
  rw [intern, h]

theorem intern_of_none (h : lookup p g.index = none) (b : Bool) :
    g.intern p b = (g.addVertex p b, g.vertices.length) := by
  rw [intern, h]

/-- A woven graph that differs only in what vertices say beside their paths is woven. -/
theorem Woven.congr (h : g.Woven) {vs : List Vertex} (hvs : vs.map (·.id) = g.ids) (b : Bool) :
    { g with vertices := vs, hasCycle := b }.Woven := by
  have hids : { g with vertices := vs, hasCycle := b }.ids = g.ids := hvs
  obtain ⟨h₁, h₂, h₃, h₄, h₅, h₆, h₇, h₈, h₉, h₁₀⟩ := h
  constructor <;> simpa only [Joins, hids]

theorem map_id_modify (b : Bool) : ∀ (vs : List Vertex) (i : Nat),
    (vs.modify i (·.orError b)).map (·.id) = vs.map (·.id)
  | [], _ => by simp
  | v :: vs, 0 => rfl
  | v :: vs, i + 1 => by simp [map_id_modify b vs i]

theorem ids_addVertex (g : DependencyGraph) (p : String) (b : Bool) :
    (g.addVertex p b).ids = g.ids ++ [p] := by
  simp [ids, addVertex]

theorem getElem?_ids_addVertex {b : Bool} : (g.addVertex p b).ids[i]? = some q ↔
    g.ids[i]? = some q ∨ i = g.ids.length ∧ q = p := by
  rw [ids_addVertex]
  rcases Nat.lt_trichotomy i g.ids.length with hi | rfl | hi
  · rw [List.getElem?_append_left hi]
    exact ⟨.inl, fun h => h.resolve_right fun h => Nat.ne_of_lt hi h.1⟩
  · simp [eq_comm]
  · have hnew : (g.ids ++ [p])[i]? = none := by
      rw [List.getElem?_eq_none_iff, List.length_append]
      exact hi
    have hold : g.ids[i]? = none := List.getElem?_eq_none (Nat.le_of_lt hi)
    simp [hnew, hold, Nat.ne_of_gt hi]

/-- Numbers that edges lead between stay, and the new vertex has no edges. -/
theorem Woven.joins_addVertex (h : g.Woven) (hp : p ∉ g.ids) {b : Bool} :
    (g.addVertex p b).Joins i j ↔ g.Joins i j := by
  have hold : ∀ {k : Nat} {q}, q ∈ g.ids → (g.addVertex p b).ids[k]? = some q → g.ids[k]? = some q :=
    fun hq hk => (getElem?_ids_addVertex.mp hk).resolve_right fun he => hp (he.2 ▸ hq)
  constructor
  · rintro ⟨d, q, hd, hq, he⟩
    exact ⟨d, q, hold (h.ends he).1 hd, hold (h.ends he).2 hq, he⟩
  · rintro ⟨d, q, hd, hq, he⟩
    exact ⟨d, q, getElem?_ids_addVertex.mpr (.inl hd), getElem?_ids_addVertex.mpr (.inl hq), he⟩

theorem Woven.addVertex (h : g.Woven) (hp : p ∉ g.ids) (b : Bool) : (g.addVertex p b).Woven where
  nodup_ids := by
    rw [ids_addVertex, ← List.concat_eq_append]
    exact h.nodup_ids.concat hp
  index q i := by
    have hadd : (g.addVertex p b).index = upsert p g.ids.length g.index := by
      rw [length_ids]
      rfl
    rw [hadd, lookup_upsert, getElem?_ids_addVertex]
    split
    · rename_i he
      subst he
      constructor
      · exact fun hi => .inr ⟨(Option.some.inj hi).symm, rfl⟩
      · rintro (hi | ⟨rfl, -⟩)
        · exact absurd (List.mem_of_getElem? hi) hp
        · rfl
    · rename_i hne
      rw [h.index]
      exact ⟨.inl, fun hi => hi.resolve_right fun he => hne he.2.symm⟩
  size_readers := by
    rw [ids_addVertex, List.length_append, ← h.size_readers]
    exact Array.size_push _
  size_reads := by
    rw [ids_addVertex, List.length_append, ← h.size_reads]
    exact Array.size_push _
  ends he := by
    rw [ids_addVertex]
    exact ⟨List.mem_append_left _ (h.ends he).1, List.mem_append_left _ (h.ends he).2⟩
  nodup_edges := h.nodup_edges
  edge_readers i j := by
    rw [h.joins_addVertex hp, ← h.edge_readers]
    exact iff_of_eq (congrArg (j ∈ ·) (Adjacency.next_push g.readers i))
  edge_reads i j := by
    rw [h.joins_addVertex hp, ← h.edge_reads]
    exact iff_of_eq (congrArg (i ∈ ·) (Adjacency.next_push g.reads j))
  nodup_readers i := (Adjacency.next_push g.readers i).symm ▸ h.nodup_readers i
  nodup_reads j := (Adjacency.next_push g.reads j).symm ▸ h.nodup_reads j

/-- **To number a path adds the path and nothing else.** -/
theorem Woven.intern (h : g.Woven) (p : String) (b : Bool) :
    Extends g (g.intern p b).1 [p] [] ∧ (g.intern p b).1.ids[(g.intern p b).2]? = some p := by
  cases hl : lookup p g.index with
  | some i =>
    rw [intern_of_some hl]
    have hi : g.ids[i]? = some p := (h.index p i).mp hl
    have hids : { g with vertices := g.vertices.modify i (·.orError b) }.ids = g.ids :=
      map_id_modify b g.vertices i
    refine ⟨⟨h.congr hids g.hasCycle, fun hj => hids ▸ hj, fun q => ?_, by simp⟩, hids ▸ hi⟩
    rw [hids, List.mem_singleton]
    exact ⟨.inl, fun hq => hq.elim id fun hq => hq ▸ List.mem_of_getElem? hi⟩
  | none =>
    rw [intern_of_none hl]
    have hp : p ∉ g.ids := fun hp => by
      obtain ⟨i, hi⟩ := List.mem_iff_getElem?.mp hp
      rw [(h.index p i).mpr hi] at hl
      cases hl
    refine ⟨⟨h.addVertex hp b, fun hj => getElem?_ids_addVertex.mpr (.inl hj), fun q => ?_, ?_⟩,
      getElem?_ids_addVertex.mpr (.inr ⟨(length_ids g).symm, rfl⟩)⟩
    · rw [ids_addVertex, List.mem_append]
    · simp [DependencyGraph.addVertex]

/-! ### Edges -/

theorem ids_putEdge (g : DependencyGraph) (i j : Nat) : (g.putEdge i j).ids = g.ids := rfl

theorem edges_putEdge (hi : g.ids[i]? = some d) (hj : g.ids[j]? = some p) :
    (g.putEdge i j).edges = g.edges ++ [⟨d, p⟩] := by
  rw [putEdge, idAt_eq hi, idAt_eq hj]

theorem Woven.joins_putEdge (h : g.Woven) (hi : g.ids[i]? = some d) (hj : g.ids[j]? = some p)
    (k l : Nat) : (g.putEdge i j).Joins k l ↔ g.Joins k l ∨ k = i ∧ l = j := by
  simp only [Joins, ids_putEdge, edges_putEdge hi hj, List.mem_append, List.mem_singleton,
    Edge.mk.injEq]
  constructor
  · rintro ⟨d', p', hk, hl, he | ⟨rfl, rfl⟩⟩
    · exact .inl ⟨d', p', hk, hl, he⟩
    · exact .inr ⟨h.number_unique hk hi, h.number_unique hl hj⟩
  · rintro (⟨d', p', hk, hl, he⟩ | ⟨rfl, rfl⟩)
    · exact ⟨d', p', hk, hl, .inl he⟩
    · exact ⟨d, p, hi, hj, .inr ⟨rfl, rfl⟩⟩

theorem Woven.putEdge (h : g.Woven) (hi : g.ids[i]? = some d) (hj : g.ids[j]? = some p)
    (hne : ¬ g.Joins i j) : (g.putEdge i j).Woven := by
  have hreaders : ∀ k, Adjacency.next (g.putEdge i j).readers k =
      if i = k then g.readers.next k ++ [j] else g.readers.next k :=
    Adjacency.next_modify (h.size_readers ▸ (List.getElem?_eq_some_iff.mp hi).1) j
  have hreads : ∀ l, Adjacency.next (g.putEdge i j).reads l =
      if j = l then g.reads.next l ++ [i] else g.reads.next l :=
    Adjacency.next_modify (h.size_reads ▸ (List.getElem?_eq_some_iff.mp hj).1) i
  constructor
  case nodup_ids => exact h.nodup_ids
  case index => exact h.index
  case size_readers => exact Array.size_modify.trans h.size_readers
  case size_reads => exact Array.size_modify.trans h.size_reads
  case ends =>
    intro d' p' he
    rw [edges_putEdge hi hj] at he
    rcases List.mem_append.mp he with he | he
    · exact h.ends he
    · obtain ⟨rfl, rfl⟩ := Edge.mk.inj (List.mem_singleton.mp he)
      exact ⟨List.mem_of_getElem? hi, List.mem_of_getElem? hj⟩
  case nodup_edges =>
    rw [edges_putEdge hi hj, ← List.concat_eq_append]
    exact h.nodup_edges.concat (mt (joins_iff hi hj).mpr hne)
  case edge_readers =>
    intro k l
    rw [h.joins_putEdge hi hj, ← h.edge_readers, Adjacency.Edge, hreaders]
    split
    · rename_i hk
      simp [hk, Adjacency.Edge]
    · rename_i hk
      simp [Ne.symm hk, Adjacency.Edge]
  case edge_reads =>
    intro k l
    rw [h.joins_putEdge hi hj, ← h.edge_reads, Adjacency.Edge, hreads]
    split
    · rename_i hl
      simp [hl, Adjacency.Edge]
    · rename_i hl
      simp [Ne.symm hl, Adjacency.Edge]
  case nodup_readers =>
    intro k
    rw [hreaders]
    split
    · rename_i hk
      subst hk
      rw [← List.concat_eq_append]
      exact (h.nodup_readers i).concat (mt (h.edge_readers i j).mp hne)
    · exact h.nodup_readers k
  case nodup_reads =>
    intro l
    rw [hreads]
    split
    · rename_i hl
      subst hl
      rw [← List.concat_eq_append]
      exact (h.nodup_reads j).concat (mt (h.edge_reads i j).mp hne)
    · exact h.nodup_reads l

/-- **To join two vertices adds the edge and nothing else.** -/
theorem Woven.addEdge (h : g.Woven) (hi : g.ids[i]? = some d) (hj : g.ids[j]? = some p) :
    Extends g (g.addEdge i j) [] [⟨d, p⟩] := by
  rw [DependencyGraph.addEdge]
  split
  · rename_i hc
    have he : ⟨d, p⟩ ∈ g.edges :=
      (joins_iff hi hj).mp ((h.edge_readers i j).mp (List.contains_iff_mem.mp hc))
    refine ⟨h, id, fun q => by simp, fun e => ?_⟩
    rw [List.mem_singleton]
    exact ⟨.inl, fun hmem => hmem.elim id fun heq => heq ▸ he⟩
  · rename_i hc
    have hne : ¬ g.Joins i j := fun hjoin =>
      hc (List.contains_iff_mem.mpr ((h.edge_readers i j).mpr hjoin))
    refine ⟨h.putEdge hi hj hne, id, fun q => ?_, fun e => ?_⟩
    · simp [ids_putEdge]
    · rw [edges_putEdge hi hj, List.mem_append]

/-! ### Nodes -/

/-- **A path that is read comes with one edge.** -/
theorem Woven.addRead (h : g.Woven) (t : Tree) (hj : g.ids[j]? = some p) (d : String) :
    Extends g (g.addRead t j d) [d] [⟨d, p⟩] := by
  obtain ⟨hintern, hi⟩ := h.intern d (carriesError t d)
  exact hintern.trans (hintern.woven.addEdge hi (hintern.number hj))

theorem extends_foldl_addRead (t : Tree) : ∀ (ds : List String) {g : DependencyGraph}, g.Woven →
    g.ids[j]? = some p → Extends g (ds.foldl (addRead t j) g) ds (ds.map fun d => ⟨d, p⟩)
  | [], _, h, _ => .refl h
  | d :: ds, _, h, hj =>
    have hd := h.addRead t hj d
    hd.trans (extends_foldl_addRead t ds hd.woven (hd.number hj))

/-- The paths that an entry brings to the graph. -/
def pathsOf (e : Entry) : List String :=
  (e.node.traits.expression.map fun source => e.path :: dependencies source).getD []

/-- The edges that an entry brings to the graph. -/
def edgesOf (e : Entry) : List Edge :=
  (e.node.traits.expression.map fun source => (dependencies source).map fun d => ⟨d, e.path⟩).getD []

/-- **A node comes with its path, what it reads and these edges.** -/
theorem Woven.addEntry (h : g.Woven) (t : Tree) (e : Entry) :
    Extends g (g.addEntry t e) (pathsOf e) (edgesOf e) := by
  rw [DependencyGraph.addEntry, pathsOf, edgesOf]
  cases e.node.traits.expression with
  | none => exact .refl h
  | some source =>
    obtain ⟨hintern, hj⟩ := h.intern e.path e.node.traits.expressionError.isSome
    exact hintern.trans (extends_foldl_addRead t (dependencies source) hintern.woven hj)

theorem extends_foldl_addEntry (t : Tree) : ∀ (es : List Entry) {g : DependencyGraph}, g.Woven →
    Extends g (es.foldl (addEntry t) g) (es.flatMap pathsOf) (es.flatMap edgesOf)
  | [], _, h => .refl h
  | e :: es, _, h =>
    have he := h.addEntry t e
    he.trans (extends_foldl_addEntry t es he.woven)

/-- **The graph of a tree has the paths and edges that its nodes bring.** -/
theorem extends_collect (t : Tree) :
    Extends {} (collect t) (t.primitives.flatMap pathsOf) (t.primitives.flatMap edgesOf) :=
  extends_foldl_addEntry t t.primitives woven_empty

end DependencyGraph
end ReactiveTree.Graph
