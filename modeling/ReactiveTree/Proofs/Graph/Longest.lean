import ReactiveTree.Proofs.Graph.Components
import ReactiveTree.Proofs.Graph.Levels

/-!
# Levels are lengths of longest paths

A path to a vertex visits only vertices that take part. Levels rise along its edges, so it has no
more edges than the level of the vertex says, and it visits no vertex twice. If a level is not
zero, an edge made it what it is: its source is off and one level lower. Going back along such
edges gives a path with as many edges as the level says.

Key definitions: `Adjacency.PathTo`.
Key theorems: `Adjacency.PathTo.length_le`, `Adjacency.PathTo.nodup`,
`Adjacency.Partway.exists_pathTo`, `Adjacency.levels_longest`.
-/
namespace ReactiveTree.Graph.Adjacency

open Relation

variable {adj : Adjacency} {out : Marks} {s : Leveling} {u v : Nat} {path : List Nat}

/-- Edges lead along some vertices to a vertex, and none of them is left out. The path has as many
edges as there are vertices before the last one. -/
structure PathTo (adj : Adjacency) (out : Marks) (path : List Nat) (v : Nat) : Prop where
  edges : (path ++ [v]).IsChain adj.Edge
  live : ∀ u ∈ path ++ [v], marked out u = false

/-- A path goes on along an edge. -/
theorem pathTo_append_singleton : adj.PathTo out (path ++ [u]) v ↔
    adj.PathTo out path u ∧ adj.Edge u v ∧ marked out v = false := by
  have hchain : (path ++ [u] ++ [v]).IsChain adj.Edge ↔
      (path ++ [u]).IsChain adj.Edge ∧ adj.Edge u v := by
    rw [List.isChain_append]
    simp
  constructor
  · rintro ⟨hedges, hlive⟩
    obtain ⟨hpath, he⟩ := hchain.mp hedges
    exact ⟨⟨hpath, fun x hx => hlive x (List.mem_append_left _ hx)⟩, he, hlive v (by simp)⟩
  · rintro ⟨⟨hpath, hlive⟩, he, hv⟩
    refine ⟨hchain.mpr ⟨hpath, he⟩, fun x hx => ?_⟩
    rcases List.mem_append.mp hx with hx | hx
    · exact hlive x hx
    · exact List.mem_singleton.mp hx ▸ hv

section Rising

variable {level : Nat → Nat} (hrise : ∀ u v, adj.Edge u v → marked out u = false →
  marked out v = false → level u < level v)

include hrise

/-- A path has no more edges than the level of its last vertex says. -/
theorem PathTo.length_le (h : adj.PathTo out path v) : path.length ≤ level v := by
  induction path using List.reverseRecOn generalizing v with
  | nil => exact Nat.zero_le _
  | append_singleton path u ih =>
    obtain ⟨hu, he, hv⟩ := pathTo_append_singleton.mp h
    have hlt := hrise u v he (hu.live u (by simp)) hv
    have hle := ih hu
    rw [List.length_append, List.length_singleton]
    omega

/-- A path visits no vertex twice. -/
theorem PathTo.nodup (h : adj.PathTo out path v) : (path ++ [v]).Nodup := by
  have hlevels : (path ++ [v]).IsChain fun x y => level x < level y :=
    h.edges.imp_of_mem_imp fun x y hx hy he => hrise x y he (h.live x hx) (h.live y hy)
  have htrans : IsTrans Nat fun x y => level x < level y := ⟨fun _ _ _ => Nat.lt_trans⟩
  exact hlevels.pairwise.imp fun hlt heq => (heq ▸ hlt).false

end Rising

/-- Paths go back from a vertex to one of level zero. -/
theorem Partway.exists_pathTo (h : adj.Partway out s) (k : Nat) :
    ∀ v, marked out v = false → s.level v = k → ∃ path, adj.PathTo out path v ∧ path.length = k := by
  induction k with
  | zero => exact fun v hv _ => ⟨[], ⟨.singleton v, by simpa using hv⟩, rfl⟩
  | succ k ih =>
    intro v hv hk
    rcases h.reached v with hz | ⟨u, hu, he, hl⟩
    · rw [hz] at hk
      cases hk
    · have hlive := h.live u (List.mem_append_left _ hu)
      obtain ⟨path, hpath, hlen⟩ := ih u hlive (by omega)
      exact ⟨path ++ [u], pathTo_append_singleton.mpr ⟨hpath, he, hv⟩, by simp [hlen]⟩

/-- The vertices that are off at the end are those that take part, each one once. -/
theorem Partway.order_perm (h : adj.Partway out s) (hs : out.size = adj.size) (hq : s.queue = [])
    (hc : ∀ v, marked out v = false → ¬ TransGen adj.Edge v v) :
    s.order.Perm ((List.range adj.size).filter fun v => marked out v = false) := by
  have hnodup := (List.nodup_append.mp h.nodup).1
  rw [List.perm_ext_iff_of_nodup hnodup (List.nodup_range.filter _)]
  intro v
  rw [List.mem_filter, List.mem_range, decide_eq_true_iff]
  constructor
  · intro hv
    have hm := h.live v (List.mem_append_left _ hv)
    exact ⟨hs ▸ lt_of_not_marked hm, hm⟩
  · exact fun hv => h.mem_order hs hq hc hv.2

/-- **Levels are lengths of longest paths.** The search for levels does not fail, so it never takes
off an edge that is not there, and in the end it has taken off every vertex that is not on a cycle,
each one once. A vertex on a cycle has level zero. The level of another one is the number of edges
of the longest path to it that visits no vertex on a cycle, so levels rise along edges. -/
theorem levels_longest (hr : adj.InRange) : ∃ s, adj.settled? adj.cyclic = some s ∧
    s.queue = [] ∧
    s.order.Perm ((List.range adj.size).filter fun v => marked adj.cyclic v = false) ∧
    adj.levels adj.cyclic = s.levels ∧ s.levels.size = adj.size ∧
    (∀ v, marked adj.cyclic v = true → s.level v = 0) ∧
    (∀ v, marked adj.cyclic v = false →
      (∀ path, adj.PathTo adj.cyclic path v → path.length ≤ s.level v) ∧
      ∃ path, adj.PathTo adj.cyclic path v ∧ (path ++ [v]).Nodup ∧ path.length = s.level v) ∧
    ∀ u v, adj.Edge u v → marked adj.cyclic u = false → marked adj.cyclic v = false →
      s.level u < s.level v := by
  have hs := size_cyclic hr
  have hc : ∀ v, marked adj.cyclic v = false → ¬ TransGen adj.Edge v v := fun _ hv =>
    not_transGen_of_not_marked hr hv
  obtain ⟨s, heq, h, hq⟩ := settled?_spec hr hs
  have hrise : ∀ u v, adj.Edge u v → marked adj.cyclic u = false → marked adj.cyclic v = false →
      s.level u < s.level v := fun u v he hu hv => h.rises u (h.mem_order hs hq hc hu) v he hv
  refine ⟨s, heq, hq, h.order_perm hs hq hc, levels_eq heq, h.size_levels, h.idle, fun v hv => ?_,
    hrise⟩
  obtain ⟨path, hpath, hlen⟩ := h.exists_pathTo (s.level v) v hv rfl
  exact ⟨fun _ hp => hp.length_le hrise, path, hpath, hpath.nodup hrise, hlen⟩

/-- A vertex with edges to all those after it, and a ring that leads to it. -/
def ladder : Adjacency := #[[1, 2, 3], [2, 2], [3], [], [0, 5], [4]]

theorem levels_longest_ladder : ladder.InRange ∧
    ladder.levels ladder.cyclic = #[0, 1, 2, 3, 0, 0] ∧
    (∀ path, ladder.PathTo ladder.cyclic path 3 → path.length ≤ 3) ∧
    ∃ s, ladder.settled? ladder.cyclic = some s ∧ s.order.Perm [0, 1, 2, 3] := by
  have hr : ladder.InRange := by decide
  have hlevels : ladder.levels ladder.cyclic = #[0, 1, 2, 3, 0, 0] := by decide +kernel
  have hlive : marked ladder.cyclic 3 = false := by decide +kernel
  have horder : ((List.range ladder.size).filter fun v => marked ladder.cyclic v = false) =
      [0, 1, 2, 3] := by decide +kernel
  obtain ⟨s, heq, -, hperm, hs, -, -, hlongest, -⟩ := levels_longest hr
  have hlevel : s.level 3 = 3 := by
    rw [Leveling.level, ← hs, hlevels]
    rfl
  exact ⟨hr, hlevels, fun path hp => hlevel ▸ (hlongest 3 hlive).1 path hp, s, heq, horder ▸ hperm⟩

end ReactiveTree.Graph.Adjacency
