import ReactiveTree.Proofs.Graph.Lifting
import Mathlib.Algebra.Ring.Nat
import Mathlib.Data.Fintype.Order

/-!
# Levels rise along edges

A round takes the first vertex off the queue and lifts its targets. Between rounds the degree of a
vertex is the number of edges that lead to it from vertices which take part and are not off yet
(`feeds`), so there is an edge to take off whenever a degree is lowered. A vertex waits in the queue
or is off exactly if that number is zero, the levels rise along every edge out of a vertex that is
off, and no level is higher than that (`Partway`). A vertex that is off has no source left, so no
later round lifts it. When the queue is empty and the vertices that take part have no cycle among
them, all of them are off.

Key definitions: `Adjacency.feeds`, `Adjacency.Partway`, `Adjacency.Partway.Round`.
Key theorems: `Adjacency.Partway.round_spec`, `Adjacency.Partway.round`, `Adjacency.Partway.loop`,
`Adjacency.settled?_spec`, `Adjacency.levels_lt`.
-/
namespace ReactiveTree.Graph.Adjacency

open Relation Leveling

variable {adj : Adjacency} {out : Marks} {s s' : Leveling} {u v w : Nat}

/-! ### Between rounds -/

/-- How many edges lead to a vertex from vertices that take part and are not off. -/
def feeds (adj : Adjacency) (out : Marks) (order : List Nat) (w : Nat) : Nat :=
  ∑ v ∈ (Finset.range adj.size).filter (fun v => marked out v = false ∧ v ∉ order),
    (adj.next v).count w

theorem feeds_cons (hv : v < adj.size) (hm : marked out v = false) {order : List Nat}
    (ho : v ∉ order) (w : Nat) :
    adj.feeds out (v :: order) w + (adj.next v).count w = adj.feeds out order w := by
  have hset : (Finset.range adj.size).filter (fun u => marked out u = false ∧ u ∉ v :: order) =
      ((Finset.range adj.size).filter (fun u => marked out u = false ∧ u ∉ order)).erase v := by
    ext u
    simp only [Finset.mem_filter, Finset.mem_erase, List.mem_cons, not_or]
    exact ⟨fun ⟨hu, hm, hne, ho⟩ => ⟨hne, hu, hm, ho⟩, fun ⟨hne, hu, hm, ho⟩ => ⟨hu, hm, hne, ho⟩⟩
  rw [feeds, hset]
  exact Finset.sum_erase_add _ _ (Finset.mem_filter.mpr ⟨Finset.mem_range.mpr hv, hm, ho⟩)

theorem not_edge_of_feeds {order : List Nat} (h : adj.feeds out order w = 0)
    (hm : marked out v = false) (ho : v ∉ order) : ¬ adj.Edge v w := fun he => by
  have hz := (Finset.sum_eq_zero_iff.mp h) v
    (Finset.mem_filter.mpr ⟨Finset.mem_range.mpr he.lt, hm, ho⟩)
  exact absurd he (List.count_eq_zero.mp hz)

theorem feeds_eq_zero {order : List Nat}
    (h : ∀ v, marked out v = false → adj.Edge v w → v ∈ order) : adj.feeds out order w = 0 := by
  refine Finset.sum_eq_zero fun v hv => ?_
  obtain ⟨-, hm, ho⟩ := Finset.mem_filter.mp hv
  exact List.count_eq_zero.mpr fun he => ho (h v hm he)

/-- What holds between rounds. -/
structure Partway (adj : Adjacency) (out : Marks) (s : Leveling) : Prop where
  size_degrees : s.degrees.size = adj.size
  size_levels : s.levels.size = adj.size
  nodup : (s.order ++ s.queue).Nodup
  live : ∀ v ∈ s.order ++ s.queue, marked out v = false
  degree : ∀ w, marked out w = false → s.degree w = adj.feeds out s.order w
  ready : ∀ w, marked out w = false → (w ∈ s.order ++ s.queue ↔ s.degree w = 0)
  rises : ∀ u ∈ s.order, ∀ w, adj.Edge u w → marked out w = false → s.level u < s.level w
  /-- A level is not higher than an edge makes it. -/
  reached : ∀ w, s.level w = 0 ∨ ∃ u ∈ s.order, adj.Edge u w ∧ s.level w = s.level u + 1
  idle : ∀ w, marked out w = true → s.level w = 0

namespace Partway

theorem length_order_le (h : adj.Partway out s) (hs : out.size = adj.size) :
    s.order.length ≤ adj.size := by
  have hsub : s.order ⊆ List.range adj.size := fun v hv =>
    List.mem_range.mpr (hs ▸ lt_of_not_marked (h.live v (List.mem_append_left _ hv)))
  have := ((List.nodup_append.mp h.nodup).1.subperm hsub).length_le
  rwa [List.length_range] at this

/-- No vertex that is not off feeds one that waits or is off. -/
theorem not_edge (h : adj.Partway out s) (hw : w ∈ s.order ++ s.queue)
    (hm : marked out v = false) (ho : v ∉ s.order) : ¬ adj.Edge v w := by
  have hl := h.live w hw
  refine not_edge_of_feeds ?_ hm ho
  rw [← h.degree w hl]
  exact (h.ready w hl).mp hw

/-- What a round changes: the first vertex of the queue goes off, its targets lose its edges and
are lifted above it, and those that it was the last source of come to wait. -/
structure Round (adj : Adjacency) (out : Marks) (v : Nat) (s s' : Leveling) : Prop where
  waits : v ∈ s.order ++ s.queue
  last : v ∉ s.order
  order : s'.order = v :: s.order
  size_degrees : s'.degrees.size = s.degrees.size
  size_levels : s'.levels.size = s.levels.size
  nodup : (s'.order ++ s'.queue).Nodup
  mem : ∀ x, x ∈ s'.order ++ s'.queue ↔ x ∈ s.order ++ s.queue ∨
    marked out x = false ∧ x ∈ adj.next v ∧ s.degree x = (adj.next v).count x
  degree : ∀ x, marked out x = false → s'.degree x = s.degree x - (adj.next v).count x
  level : ∀ x, s'.level x =
    if x ∈ adj.next v ∧ marked out x = false then max (s.level x) (s.level v + 1) else s.level x

/-- The first vertex of the queue takes part and is not off. -/
theorem head (h : adj.Partway out s) (hs : out.size = adj.size) {queue : List Nat}
    (hq : s.queue = v :: queue) :
    v ∈ s.order ++ s.queue ∧ v ∉ s.order ∧ marked out v = false ∧ v < adj.size := by
  have hv : v ∈ s.order ++ s.queue := by simp [hq]
  have hm := h.live v hv
  refine ⟨hv, fun ho => ?_, hm, hs ▸ lt_of_not_marked hm⟩
  have hn := h.nodup
  rw [hq] at hn
  exact (List.nodup_append.mp hn).2.2 v ho v List.mem_cons_self rfl

theorem round_spec (h : adj.Partway out s) (hs : out.size = adj.size) (hr : adj.InRange)
    {queue : List Nat} (hq : s.queue = v :: queue) :
    ∃ s', s.round adj out = some (.again s') ∧ Round adj out v s s' := by
  obtain ⟨hv, ho, hm, hlt⟩ := h.head hs hq
  have hperm : (v :: s.order ++ queue).Perm (s.order ++ s.queue) := by
    rw [hq]
    exact List.perm_middle.symm
  obtain ⟨s', heq, hf⟩ := foldlM_lift out v (adj.next v)
    { s with queue, order := v :: s.order } (h.size_degrees.trans hs.symm)
    (h.size_levels.trans hs.symm) (hs.symm ▸ hlt)
    (fun w hw => ⟨hs.symm ▸ hr v w hw, fun _ he => h.not_edge hv hm ho (he ▸ hw)⟩) fun x hx => by
      have := feeds_cons hlt hm ho x
      have := h.degree x hx
      change _ ≤ s.degree x
      omega
  have hround : s.round adj out = some (.again s') := by
    rw [Leveling.round, hq]
    dsimp only
    rw [getElem?_of_lt hlt]
    change ((adj.next v).foldlM (lift out v) _).map _ = _
    rw [heq]
    rfl
  refine ⟨s', hround, ?_⟩
  obtain ⟨new, hqueue, hn, hnew⟩ := hf.queue
  replace hnew : ∀ x, x ∈ new ↔
    marked out x = false ∧ x ∈ adj.next v ∧ s.degree x = (adj.next v).count x := hnew
  have happend : s'.order ++ s'.queue = (v :: s.order ++ queue) ++ new := by
    rw [hf.order, hqueue, List.append_assoc]
  -- what waits or is off has no source left, so no vertex comes to wait twice
  have hfresh : ∀ x ∈ new, x ∉ s.order ++ s.queue := fun x hx hmem => by
    obtain ⟨hx, hmem', hd⟩ := (hnew x).mp hx
    have := List.count_pos_iff.mpr hmem'
    have := (h.ready x hx).mp hmem
    omega
  refine ⟨hv, ho, hf.order, hf.size_degrees, hf.size_levels, ?_, fun x => ?_, hf.degree, hf.level⟩
  · rw [happend, List.nodup_append]
    exact ⟨hperm.nodup_iff.mpr h.nodup, hn, fun a ha b hb he =>
      hfresh b hb (he ▸ hperm.mem_iff.mp ha)⟩
  · rw [happend, List.mem_append, hperm.mem_iff, hnew x]

/-- Levels rise out of the vertex that goes off, and out of those that were off before. -/
theorem rises_round (h : adj.Partway out s) (hr : Round adj out v s s') (hu : u ∈ s'.order)
    (he : adj.Edge u w) (hw : marked out w = false) : s'.level u < s'.level w := by
  have hm := h.live v hr.waits
  -- neither `v` nor a vertex that is off has `v` as a source, so their levels stay
  have hstay : u ∈ s.order ++ s.queue → s'.level u = s.level u := fun hu => by
    rw [hr.level, if_neg fun hn => h.not_edge hu hm hr.last hn.1]
  have hgrow : s.level w ≤ s'.level w := by
    rw [hr.level]
    split <;> omega
  rw [hr.order, List.mem_cons] at hu
  rcases hu with rfl | hu
  · rw [hstay hr.waits, hr.level, if_pos ⟨he, hw⟩]
    omega
  · rw [hstay (List.mem_append_left _ hu)]
    exact (h.rises u hu w he hw).trans_le hgrow

/-- A level is that of a vertex that is off and one more, and that vertex keeps its level. -/
theorem reached_round (h : adj.Partway out s) (hr : Round adj out v s s') (w : Nat) :
    s'.level w = 0 ∨ ∃ u ∈ s'.order, adj.Edge u w ∧ s'.level w = s'.level u + 1 := by
  have hm := h.live v hr.waits
  have hstay : ∀ u ∈ s.order ++ s.queue, s'.level u = s.level u := fun u hu => by
    rw [hr.level, if_neg fun hn => h.not_edge hu hm hr.last hn.1]
  have hkeep : (s.level w = 0 ∨ ∃ u ∈ s.order, adj.Edge u w ∧ s.level w = s.level u + 1) →
      s'.level w = s.level w →
        s'.level w = 0 ∨ ∃ u ∈ s'.order, adj.Edge u w ∧ s'.level w = s'.level u + 1 := by
    rintro (hz | ⟨u, hu, he, hl⟩) hw
    · exact .inl (hw.trans hz)
    · refine .inr ⟨u, by rw [hr.order]; exact List.mem_cons_of_mem v hu, he, ?_⟩
      rw [hw, hl, hstay u (List.mem_append_left _ hu)]
  have hlevel := hr.level w
  split at hlevel
  · rename_i hn
    rcases Nat.le_total (s.level v + 1) (s.level w) with hle | hle
    · exact hkeep (h.reached w) (hlevel.trans (Nat.max_eq_left hle))
    · refine .inr ⟨v, by rw [hr.order]; exact List.mem_cons_self, hn.1, ?_⟩
      rw [hlevel, Nat.max_eq_right hle, hstay v hr.waits]
  · exact hkeep (h.reached w) hlevel

/-- A round keeps the invariant. -/
theorem round (h : adj.Partway out s) (hs : out.size = adj.size) (hr : Round adj out v s s') :
    adj.Partway out s' := by
  have hm := h.live v hr.waits
  have hlt : v < adj.size := hs ▸ lt_of_not_marked hm
  have hfeeds := fun w => feeds_cons hlt hm hr.last w
  have hdegree : ∀ x, marked out x = false → s'.degree x = adj.feeds out s'.order x := fun x hx => by
    rw [hr.degree x hx, h.degree x hx, hr.order, ← hfeeds x]
    omega
  refine ⟨hr.size_degrees.trans h.size_degrees, hr.size_levels.trans h.size_levels, hr.nodup,
    fun x hx => ?_, hdegree, fun x hx => ?_, fun u hu w he hw => h.rises_round hr hu he hw,
    h.reached_round hr, fun x hx => ?_⟩
  · rcases (hr.mem x).mp hx with hx | hx
    · exact h.live x hx
    · exact hx.1
  · rw [hr.mem x, h.ready x hx, hr.degree x hx]
    have hpos : x ∈ adj.next v ↔ 0 < (adj.next v).count x := List.count_pos_iff.symm
    have := hfeeds x
    have := h.degree x hx
    simp only [hx, hpos, true_and]
    omega
  · rw [hr.level, if_neg fun hn => ?_, h.idle x hx]
    rw [hx] at hn
    exact Bool.noConfusion hn.2

/-- **The rounds come to an end**, and then the queue is empty. -/
theorem loop (h : adj.Partway out s) (hs : out.size = adj.size) (hr : adj.InRange)
    {fuel : Nat} (hf : adj.size < fuel + s.order.length) : ∃ s',
      Graph.loop (Leveling.round adj out) fuel s = some s' ∧ adj.Partway out s' ∧ s'.queue = [] := by
  have hlength := h.length_order_le hs
  refine loop_spec (fun s : Leveling => adj.size - s.order.length) (fun s h => ?_) fuel s h (by omega)
  cases hq : s.queue with
  | nil => exact .inr ⟨s, by rw [Leveling.round, hq], h, hq⟩
  | cons v queue =>
    obtain ⟨s', heq, hround⟩ := h.round_spec hs hr hq
    have h' := h.round hs hround
    have hle := h'.length_order_le hs
    refine .inl ⟨s', heq, h', ?_⟩
    rw [hround.order, List.length_cons] at hle ⊢
    omega

/-- **Vertices without a cycle among them are all off when the queue is empty.** -/
theorem mem_order (h : adj.Partway out s) (hs : out.size = adj.size) (hq : s.queue = [])
    (hc : ∀ v, marked out v = false → ¬ TransGen adj.Edge v v) (hw : marked out w = false) :
    w ∈ s.order := by
  let below : Fin adj.size → Fin adj.size → Prop := fun a b =>
    marked out a = false ∧ TransGen adj.Edge a b
  have htrans : IsTrans _ below := ⟨fun _ _ _ hab hbc => ⟨hab.1, hab.2.trans hbc.2⟩⟩
  have hirrefl : Std.Irrefl below := ⟨fun a haa => hc a haa.1 haa.2⟩
  have hwf : WellFounded below := Finite.wellFounded_of_trans_of_irrefl below
  have hall : ∀ a : Fin adj.size, marked out a = false → a.val ∈ s.order := fun a =>
    hwf.induction (C := fun a => marked out a = false → a.val ∈ s.order) a fun b ih hb => by
      have hz : adj.feeds out s.order b = 0 := feeds_eq_zero fun u hu he =>
        ih ⟨u, he.lt⟩ ⟨hu, .single he⟩ hu
      have := (h.ready b hb).mpr ((h.degree b hb).trans hz)
      rwa [hq, List.append_nil] at this
  exact hall ⟨w, hs ▸ lt_of_not_marked hw⟩ hw

end Partway

/-! ### The start -/

theorem foldlM_countEdge (out : Marks) : ∀ (ws : List Nat) (ds : Array Nat), ds.size = out.size →
    (∀ w ∈ ws, w < out.size) → ∃ ds', ws.foldlM (countEdge out) ds = some ds' ∧ ds'.size = ds.size ∧
      ∀ w : Nat, marked out w = false → (ds'[w]?).getD 0 = (ds[w]?).getD 0 + ws.count w
  | [], ds, _, _ => ⟨ds, rfl, rfl, fun w _ => by simp⟩
  | x :: ws, ds, hs, hws => by
    have hx := hws x List.mem_cons_self
    have hd : x < ds.size := hs.symm ▸ hx
    have hrest := fun w hw => hws w (List.mem_cons_of_mem x hw)
    rw [List.foldlM_cons, countEdge]
    cases hm : marked out x with
    | true =>
      obtain ⟨ds', heq, hsize, hcount⟩ := foldlM_countEdge out ws ds hs hrest
      refine ⟨ds', by rw [getElem?_of_marked hm hx]; exact heq, hsize, fun w hw => ?_⟩
      have hne : x ≠ w := fun he => by
        rw [← he, hm] at hw
        cases hw
      rw [hcount w hw, List.count_cons_of_ne hne]
    | false =>
      obtain ⟨ds', heq, hsize, hcount⟩ := foldlM_countEdge out ws (ds.setIfInBounds x (ds[x] + 1))
        (by simpa using hs) hrest
      refine ⟨ds', ?_, by simpa using hsize, fun w hw => ?_⟩
      · rw [getElem?_of_not_marked hm, Array.getElem?_eq_getElem hd]
        change (put? ds x (ds[x] + 1)).bind _ = _
        rw [put?_of_lt hd]
        exact heq
      · rw [hcount w hw, getElem?_put hd]
        split
        · rename_i he
          subst he
          rw [Array.getElem?_eq_getElem hd, Option.getD_some, Option.getD_some, List.count_cons_self]
          omega
        · rename_i he
          rw [List.count_cons_of_ne he]

theorem foldlM_countEdges (hr : adj.InRange) (hs : out.size = adj.size) :
    ∀ (vs : List Nat) (ds : Array Nat), ds.size = out.size → (∀ v ∈ vs, v < adj.size) →
      ∃ ds', vs.foldlM (adj.countEdges out) ds = some ds' ∧ ds'.size = ds.size ∧
        ∀ w : Nat, marked out w = false → (ds'[w]?).getD 0 = (ds[w]?).getD 0 +
          ((vs.filter fun v => marked out v = false).map fun v => (adj.next v).count w).sum
  | [], ds, _, _ => ⟨ds, rfl, rfl, fun w _ => by simp⟩
  | v :: vs, ds, hd, hvs => by
    have hv := hvs v List.mem_cons_self
    have hrest := fun w hw => hvs w (List.mem_cons_of_mem v hw)
    rw [List.foldlM_cons, countEdges]
    cases hm : marked out v with
    | true =>
      obtain ⟨ds', heq, hsize, hcount⟩ := foldlM_countEdges hr hs vs ds hd hrest
      refine ⟨ds', by rw [getElem?_of_marked hm (hs.symm ▸ hv)]; exact heq, hsize, fun w hw => ?_⟩
      rw [hcount w hw, List.filter_cons_of_neg (by simp [hm])]
    | false =>
      obtain ⟨ds₁, heq₁, hsize₁, hcount₁⟩ := foldlM_countEdge out (adj.next v) ds hd fun w hw =>
        hs.symm ▸ hr v w hw
      obtain ⟨ds', heq, hsize, hcount⟩ := foldlM_countEdges hr hs vs ds₁ (hsize₁.trans hd) hrest
      refine ⟨ds', ?_, hsize.trans hsize₁, fun w hw => ?_⟩
      · rw [getElem?_of_not_marked hm, getElem?_of_lt hv]
        change ((adj.next v).foldlM (countEdge out) ds).bind _ = _
        rw [heq₁]
        exact heq
      · rw [hcount w hw, hcount₁ w hw, List.filter_cons_of_pos (by simpa using hm), List.map_cons,
          List.sum_cons, Nat.add_assoc]

/-- Counting does not fail, and at the start all vertices that take part feed their targets. -/
theorem inDegrees?_spec (hr : adj.InRange) (hs : out.size = adj.size) :
    ∃ ds, adj.inDegrees? out = some ds ∧ ds.size = adj.size ∧
      ∀ w : Nat, marked out w = false → (ds[w]?).getD 0 = adj.feeds out [] w := by
  obtain ⟨ds, heq, hsize, hcount⟩ := foldlM_countEdges hr hs (List.range adj.size)
    (Array.replicate adj.size 0) (by simpa using hs.symm) fun v hv => List.mem_range.mp hv
  refine ⟨ds, heq, by simpa using hsize, fun w hw => ?_⟩
  have hlt : w < adj.size := hs ▸ lt_of_not_marked hw
  have hset : (Finset.range adj.size).filter (fun v => marked out v = false ∧ v ∉ []) =
      ((List.range adj.size).filter fun v => marked out v = false).toFinset := by
    ext v
    simp
  rw [hcount w hw, feeds, hset, List.sum_toFinset _ (List.nodup_range.filter _)]
  simp [hlt]

theorem partway_unsettled {ds : Array Nat} (hs : out.size = adj.size) (hsize : ds.size = adj.size)
    (hd : ∀ w : Nat, marked out w = false → (ds[w]?).getD 0 = adj.feeds out [] w) :
    adj.Partway out (adj.unsettled out ds) where
  size_degrees := hsize
  size_levels := by simp [unsettled]
  nodup := by simpa [unsettled] using List.nodup_range.filter _
  live v hv := by
    simp only [unsettled, List.nil_append, List.mem_filter, Bool.and_eq_true, beq_iff_eq] at hv
    rw [marked, hv.2.1, Option.getD_some]
  degree w hw := hd w hw
  ready w hw := by
    have hlt : w < adj.size := hs ▸ lt_of_not_marked hw
    simp [unsettled, Leveling.degree, getElem?_of_not_marked hw, hlt, hsize]
  rises u hu := by simp [unsettled] at hu
  reached w := by
    refine .inl ?_
    simp only [unsettled, Leveling.level, Array.getElem?_replicate]
    split <;> rfl
  idle w _ := by
    simp only [unsettled, Leveling.level, Array.getElem?_replicate]
    split <;> rfl

/-- **The search for levels does not fail**, and in the end no vertex waits. -/
theorem settled?_spec (hr : adj.InRange) (hs : out.size = adj.size) :
    ∃ s, adj.settled? out = some s ∧ adj.Partway out s ∧ s.queue = [] := by
  obtain ⟨ds, heq, hsize, hd⟩ := inDegrees?_spec hr hs
  have hstart := partway_unsettled hs hsize hd
  obtain ⟨s, hloop, hs'⟩ := hstart.loop hs hr (Nat.lt_add_right _ adj.size.lt_succ_self)
  refine ⟨s, ?_, hs'⟩
  rw [settled?, heq]
  exact hloop

theorem levels_eq (hs : adj.settled? out = some s) : adj.levels out = s.levels := by
  rw [levels, hs, Option.map_some, Option.getD_some]

/-- **Levels rise along edges.** -/
theorem levels_lt (hr : adj.InRange) (hs : out.size = adj.size)
    (hc : ∀ v, marked out v = false → ¬ TransGen adj.Edge v v) (hu : marked out u = false)
    (hw : marked out w = false) (he : adj.Edge u w) :
    ((adj.levels out)[u]?).getD 0 < ((adj.levels out)[w]?).getD 0 := by
  obtain ⟨s, heq, h, hq⟩ := settled?_spec hr hs
  rw [levels_eq heq]
  exact h.rises u (h.mem_order hs hq hc hu) w he hw

end ReactiveTree.Graph.Adjacency
