import ReactiveTree.Graph.Components
import ReactiveTree.Proofs.Graph.Walks

/-!
# The parts of the stack

The stack of a search falls into parts, one for each open vertex: the vertex itself and above it
finished ones that reach it and are reached from it. Numbers sink along the stack, every open vertex
is a target of the one that was opened before it, and the low number of an open vertex is the number
of a vertex on the stack that it reaches. All edges out of a part that are done lead to vertices
with a component or to vertices on the stack with that number or a higher one (`Part`).

Opening a vertex puts a part of its own on top, and an edge that is done lowers the low number of
the last open vertex at most. Neither changes the parts below.

Key definitions: `Search.number`, `Search.Seen`, `Search.Part`, `Search.Parts`, `Search.Sound`.
Key theorems: `Search.Parts.mono`, `Search.Parts.reach`, `Search.Parts.lower`,
`Search.Parts.discover`, `Search.Sound.of_discovered`.
-/
namespace ReactiveTree.Graph.Search

open Relation Adjacency

variable {adj : Adjacency} {s s' : Search} {u v w x i j k low : Nat} {trail : Trail}
variable {stack above below : List Nat}

/-! ### The tables -/

/-- The number of a vertex, if it is found. -/
def number (s : Search) (v : Nat) : Option Nat := (s.index[v]?).join

/-- The number of a vertex that is found. -/
def num (s : Search) (v : Nat) : Nat := (s.number v).getD 0

/-- A vertex is found. -/
def Found (s : Search) (v : Nat) : Prop := (s.number v).isSome = true

def lowOf (s : Search) (v : Nat) : Nat := (s.low[v]?).getD 0

/-- All tables have an entry for each vertex. -/
structure Sized (adj : Adjacency) (s : Search) : Prop where
  index : s.index.size = adj.size
  low : s.low.size = adj.size
  onStack : s.onStack.size = adj.size
  cyclic : s.cyclic.size = adj.size

/-- A vertex is given the next number and opened. -/
def discovered (v : Nat) (s : Search) : Search :=
  { s with
    index := s.index.setIfInBounds v (some s.count), low := s.low.setIfInBounds v s.count
    onStack := s.onStack.setIfInBounds v true
    stack := v :: s.stack, count := s.count + 1, trail := (v, 0) :: s.trail }

/-- A vertex is known to reach a vertex with a number. -/
def lowered (v k : Nat) (s : Search) : Search :=
  { s with low := s.low.setIfInBounds v (min (s.lowOf v) k) }

namespace Sized

theorem discover_eq (h : s.Sized adj) (hv : v < adj.size) : s.discover v = some (s.discovered v) := by
  rw [discover, put?_of_lt (h.index.symm ▸ hv), put?_of_lt (h.low.symm ▸ hv),
    put?_of_lt (h.onStack.symm ▸ hv)]
  rfl

theorem discovered (h : s.Sized adj) (v : Nat) : (s.discovered v).Sized adj :=
  ⟨by simpa [Search.discovered] using h.index, by simpa [Search.discovered] using h.low,
    by simpa [Search.discovered] using h.onStack, h.cyclic⟩

theorem number_discovered (h : s.Sized adj) (hv : v < adj.size) (x : Nat) :
    (s.discovered v).number x = if v = x then some s.count else s.number x := by
  rw [number, Search.discovered, getElem?_put (h.index.symm ▸ hv)]
  split <;> rfl

theorem lowOf_discovered (h : s.Sized adj) (hv : v < adj.size) (x : Nat) :
    (s.discovered v).lowOf x = if v = x then s.count else s.lowOf x := by
  rw [lowOf, Search.discovered, getElem?_put (h.low.symm ▸ hv)]
  split <;> rfl

theorem low_eq (h : s.Sized adj) (hv : v < adj.size) : s.low[v]? = some (s.lowOf v) := by
  rw [lowOf, Array.getElem?_eq_getElem (h.low.symm ▸ hv), Option.getD_some]

theorem index_eq (h : s.Sized adj) (hv : v < adj.size) : s.index[v]? = some (s.number v) := by
  rw [number, Array.getElem?_eq_getElem (h.index.symm ▸ hv)]
  rfl

theorem lower_eq (h : s.Sized adj) (hv : v < adj.size) (k : Nat) :
    s.lower v k = some (s.lowered v k) := by
  rw [lower, h.low_eq hv]
  change (put? s.low v (min (s.lowOf v) k)).bind _ = _
  rw [put?_of_lt (h.low.symm ▸ hv)]
  rfl

theorem lowered (h : s.Sized adj) (v k : Nat) : (s.lowered v k).Sized adj :=
  ⟨h.index, by simpa [Search.lowered] using h.low, h.onStack, h.cyclic⟩

theorem lowOf_lowered (h : s.Sized adj) (hv : v < adj.size) (k x : Nat) :
    (s.lowered v k).lowOf x = if v = x then min (s.lowOf v) k else s.lowOf x := by
  rw [lowOf, Search.lowered, getElem?_put (h.low.symm ▸ hv)]
  split <;> rfl

end Sized

theorem setAll_spec (b : Bool) : ∀ (vs : List Nat) (marks : Marks), (∀ v ∈ vs, v < marks.size) →
    ∃ marks', setAll marks b vs = some marks' ∧ marks'.size = marks.size ∧
      ∀ x : Nat, marks'[x]? = if x ∈ vs then some b else marks[x]?
  | [], marks, _ => ⟨marks, rfl, rfl, by simp⟩
  | v :: vs, marks, h => by
    have hv := h v List.mem_cons_self
    obtain ⟨marks', heq, hsize, hget⟩ := setAll_spec b vs (marks.setIfInBounds v b) fun x hx => by
      simpa using h x (List.mem_cons_of_mem v hx)
    refine ⟨marks', ?_, by simpa using hsize, fun x => ?_⟩
    · rw [setAll, List.foldlM_cons, put?_of_lt hv]
      exact heq
    · rw [hget, getElem?_put hv]
      by_cases hvx : v = x
      · simp [hvx]
      · simp [hvx, Ne.symm hvx]

theorem popTo_append (hv : v ∉ above) :
    popTo v (above ++ v :: below) = (above ++ [v], below) := by
  induction above with
  | nil => simp [popTo]
  | cons x above ih =>
    rw [List.mem_cons, not_or] at hv
    simp [popTo, Ne.symm hv.1, ih hv.2]

/-! ### The parts -/

/-- A vertex is found, and if it has no component yet, its number is not below a bound. -/
def Seen (s : Search) (low w : Nat) : Prop := s.Found w ∧ (w ∈ s.stack → low ≤ s.num w)

theorem Seen.mono (h : s.Seen low w) (hk : k ≤ low) : s.Seen k w :=
  ⟨h.1, fun hw => hk.trans (h.2 hw)⟩

/-- What holds of an open vertex and the vertices of its part above it. -/
structure Part (adj : Adjacency) (s : Search) (v i : Nat) (above : List Nat) : Prop where
  reaches : ∀ y ∈ above, ReflTransGen adj.Edge v y
  reached : ∀ y ∈ above, ReflTransGen adj.Edge y v
  opened : ∀ w ∈ (adj.next v).take i, s.Seen (s.lowOf v) w
  finished : ∀ y ∈ above, ∀ w, adj.Edge y w → s.Seen (s.lowOf v) w
  low : ∃ z ∈ s.stack, s.num z = s.lowOf v ∧ ReflTransGen adj.Edge v z
  low_le : s.lowOf v ≤ s.num v

/-- The stack falls into the parts of the open vertices, and an edge leads from each open vertex to
the next one. -/
def Parts (adj : Adjacency) (s : Search) : Trail → List Nat → Prop
  | [], stack => stack = []
  | (v, i) :: trail, stack => ∃ above below, stack = above ++ v :: below ∧ s.Part adj v i above ∧
      (∀ e ∈ trail.head?, adj.Edge e.1 v) ∧ Parts adj s trail below

/-- What an open vertex needs of a change: its numbers stay, and so do the vertices below it. -/
def Keeps (s s' : Search) (v : Nat) : Prop :=
  s'.lowOf v = s.lowOf v ∧ s'.num v = s.num v ∧
    ∀ z ∈ s.stack, s.num z ≤ s.num v → z ∈ s'.stack ∧ s'.num z = s.num z

theorem Part.mono (h : s.Part adj v i above) (hseen : ∀ low w, s.Seen low w → s'.Seen low w)
    (hkeep : s.Keeps s' v) : s'.Part adj v i above := by
  obtain ⟨hlow, hnum, hstack⟩ := hkeep
  obtain ⟨z, hz, hzn, hvz⟩ := h.low
  obtain ⟨hz', hzn'⟩ := hstack z hz (hzn ▸ h.low_le)
  refine ⟨h.reaches, h.reached, fun w hw => ?_, fun y hy w hw => ?_, ⟨z, hz', ?_, hvz⟩, ?_⟩
  · exact hlow.symm ▸ hseen _ w (h.opened w hw)
  · exact hlow.symm ▸ hseen _ w (h.finished y hy w hw)
  · rw [hzn', hzn, hlow]
  · rw [hlow, hnum]
    exact h.low_le

theorem Parts.mono (hseen : ∀ low w, s.Seen low w → s'.Seen low w) :
    ∀ {trail : Trail} {stack : List Nat}, Parts adj s trail stack →
      (∀ v ∈ trail.map (·.1), s.Keeps s' v) → Parts adj s' trail stack
  | [], _, h, _ => h
  | (v, _) :: _, _, ⟨above, below, hs, hp, he, hrest⟩, hkeep =>
    ⟨above, below, hs, hp.mono hseen (hkeep v List.mem_cons_self), he,
      hrest.mono hseen fun x hx => hkeep x (List.mem_cons_of_mem v hx)⟩

theorem Parts.mem_stack : ∀ {trail : Trail} {stack : List Nat}, Parts adj s trail stack →
    ∀ v ∈ trail.map (·.1), v ∈ stack
  | (v, i) :: trail, _, ⟨above, below, hs, _, _, hrest⟩, x, hx => by
    rw [hs]
    rcases List.mem_cons.mp hx with rfl | hx
    · simp
    · simp [hrest.mem_stack x hx]

/-- All vertices of the stack reach the last open one. -/
theorem Parts.reach : ∀ {trail : Trail} {stack : List Nat} {v i : Nat},
    Parts adj s ((v, i) :: trail) stack → ∀ x ∈ stack, ReflTransGen adj.Edge x v
  | trail, _, _, _, ⟨above, below, hs, hp, he, hrest⟩, x, hx => by
    rw [hs, List.mem_append, List.mem_cons] at hx
    rcases hx with hx | rfl | hx
    · exact hp.reached x hx
    · exact .refl
    · cases trail with
      | nil =>
        rw [show below = [] from hrest] at hx
        cases hx
      | cons e trail => exact (hrest.reach x hx).tail (he e rfl)

/-- A target of the last open vertex is done when it is seen. -/
theorem Parts.advance (h : Parts adj s ((v, i) :: trail) stack) (hi : (adj.next v)[i]? = some w)
    (hw : s.Seen (s.lowOf v) w) : Parts adj s ((v, i + 1) :: trail) stack := by
  obtain ⟨above, below, hs, hp, he, hrest⟩ := h
  refine ⟨above, below, hs, { hp with opened := fun x hx => ?_ }, he, hrest⟩
  rcases (mem_take_succ hi).mp hx with hx | rfl
  · exact hp.opened x hx
  · exact hw

/-! ### Between rounds -/

/-- What holds between rounds, beside the parts of the stack. -/
structure Consistent (adj : Adjacency) (s : Search) : Prop where
  sized : s.Sized adj
  lt_count : ∀ v, s.Found v → s.num v < s.count
  sorted : s.stack.Pairwise fun x y => s.num y < s.num x
  onStack : ∀ v, s.onStack[v]? = some true ↔ v ∈ s.stack
  /-- A vertex with a component has targets with a component only. -/
  closed : ∀ v w, s.Found v → v ∉ s.stack → adj.Edge v w → s.Found w ∧ w ∉ s.stack
  nodup : (s.components.flatten ++ s.stack).Nodup
  found : ∀ v, s.Found v ↔ v ∈ s.components.flatten ∨ v ∈ s.stack
  /-- A component holds what is strongly connected with any of its vertices. -/
  strong : ∀ c ∈ s.components, ∀ v ∈ c, ∀ w,
    w ∈ c ↔ ReflTransGen adj.Edge v w ∧ ReflTransGen adj.Edge w v
  cyclic : ∀ v, s.cyclic[v]? = some true ↔ v ∈ s.components.flatten ∧ TransGen adj.Edge v v

/-- What holds between rounds. -/
structure Sound (adj : Adjacency) (s : Search) : Prop extends Consistent adj s where
  parts : Parts adj s s.trail s.stack

/-- When no vertex is open, the stack is empty. -/
theorem Sound.stack_eq_nil (h : s.Sound adj) (ht : s.trail = []) : s.stack = [] := by
  have hparts := h.parts
  rwa [ht] at hparts

namespace Consistent

theorem lt (h : s.Consistent adj) (hv : s.Found v) : v < adj.size := by
  by_contra hn
  rw [Found, number, Array.getElem?_eq_none (by rw [h.sized.index]; omega)] at hv
  cases hv

theorem found_of_mem (h : s.Consistent adj) (hv : v ∈ s.stack) : s.Found v := (h.found v).mpr (.inr hv)

theorem nodup_stack (h : s.Consistent adj) : s.stack.Nodup := (List.nodup_append.mp h.nodup).2.1

theorem number_eq (hv : s.Found v) : s.number v = some (s.num v) := by
  rw [Found, Option.isSome_iff_exists] at hv
  obtain ⟨k, hk⟩ := hv
  rw [num, hk, Option.getD_some]

/-- Vertices with a component reach vertices with a component only. -/
theorem not_mem_of_walk (h : s.Consistent adj) (hf : s.Found x) (hs : x ∉ s.stack)
    (hw : ReflTransGen adj.Edge x w) : w ∉ s.stack := by
  have hboth : s.Found w ∧ w ∉ s.stack := by
    induction hw with
    | refl => exact ⟨hf, hs⟩
    | tail _ he ih => exact h.closed _ _ ih.1 ih.2 he
  exact hboth.2

theorem withTrail (h : s.Consistent adj) (trail : Trail) : Consistent adj { s with trail } :=
  { h with sized := ⟨h.sized.index, h.sized.low, h.sized.onStack, h.sized.cyclic⟩ }

theorem lowered (h : s.Consistent adj) (v k : Nat) : (s.lowered v k).Consistent adj :=
  { h with sized := h.sized.lowered v k }

end Consistent

/-- Parts do not depend on the trail that the search is at. -/
theorem Parts.withTrail (h : Parts adj s trail stack) (trail' : Trail) :
    Parts adj { s with trail := trail' } trail stack := by
  have hseen : ∀ low w, s.Seen low w → Seen { s with trail := trail' } low w := fun _ _ hw => hw
  exact h.mono hseen fun _ _ => ⟨rfl, rfl, fun _ hz _ => ⟨hz, rfl⟩⟩

/-- The last open vertex is known to reach one more vertex of the stack. -/
theorem Parts.lower (hsize : s.Sized adj) (hn : stack.Nodup) (hv : v < adj.size)
    (hz : ∃ z ∈ s.stack, s.num z = k ∧ ReflTransGen adj.Edge v z)
    (h : Parts adj s ((v, i) :: trail) stack) :
    Parts adj (s.lowered v k) ((v, i) :: trail) stack := by
  obtain ⟨above, below, hs, hp, he, hrest⟩ := h
  have hlow := hsize.lowOf_lowered hv k
  have hself : (s.lowered v k).lowOf v = min (s.lowOf v) k := by rw [hlow, if_pos rfl]
  have hle : (s.lowered v k).lowOf v ≤ s.lowOf v := hself ▸ Nat.min_le_left _ _
  have hseen : ∀ low w, s.Seen low w → (s.lowered v k).Seen low w := fun _ _ hw => hw
  refine ⟨above, below, hs, ⟨hp.reaches, hp.reached, fun w hw => (hp.opened w hw).mono hle,
    fun y hy w hw => (hp.finished y hy w hw).mono hle, ?_, hle.trans hp.low_le⟩, he,
    hrest.mono hseen fun x hx => ⟨?_, rfl, fun z hz _ => ⟨hz, rfl⟩⟩⟩
  · rw [hself]
    rcases Nat.le_total (s.lowOf v) k with hmin | hmin
    · rw [Nat.min_eq_left hmin]
      exact hp.low
    · rw [Nat.min_eq_right hmin]
      exact hz
  · rw [hlow, if_neg]
    rintro rfl
    rw [hs] at hn
    exact (List.nodup_cons.mp (List.nodup_append.mp hn).2.1).1 (hrest.mem_stack v hx)

/-- Opening a vertex leaves the parts of the others. -/
theorem Parts.discover (h : s.Consistent adj) (hw : ¬ s.Found w) (hlt : w < adj.size)
    (hp : Parts adj s trail s.stack) : Parts adj (s.discovered w) trail s.stack := by
  have hnumber := h.sized.number_discovered hlt
  have hkeep : ∀ x, s.Found x → w ≠ x ∧ (s.discovered w).number x = s.number x := fun x hx => by
    have hne : w ≠ x := fun he => hw (he ▸ hx)
    exact ⟨hne, by rw [hnumber, if_neg hne]⟩
  have hnum : ∀ x, s.Found x → (s.discovered w).num x = s.num x := fun x hx => by
    rw [num, num, (hkeep x hx).2]
  refine hp.mono (fun low x hx => ?_) fun x hx => ?_
  · obtain ⟨hne, hx'⟩ := hkeep x hx.1
    refine ⟨by rw [Found, hx']; exact hx.1, fun hm => ?_⟩
    rw [hnum x hx.1]
    exact hx.2 ((List.mem_cons.mp hm).resolve_left (Ne.symm hne))
  · have hf := h.found_of_mem (hp.mem_stack x hx)
    refine ⟨?_, hnum x hf, fun z hz _ => ⟨List.mem_cons_of_mem w hz, hnum z (h.found_of_mem hz)⟩⟩
    rw [h.sized.lowOf_discovered hlt, if_neg (hkeep x hf).1]

/-- The vertex that is opened next is a target of the last open one. -/
theorem Sound.of_discovered (h : s.Consistent adj) (hw : ¬ s.Found w) (hlt : w < adj.size)
    (hp : Parts adj (s.discovered w) s.trail s.stack)
    (he : ∀ e ∈ s.trail.head?, adj.Edge e.1 w) : (s.discovered w).Sound adj := by
  have hnumber := h.sized.number_discovered hlt
  have hself : (s.discovered w).number w = some s.count := by rw [hnumber, if_pos rfl]
  have hfound : ∀ x, (s.discovered w).Found x ↔ x = w ∨ s.Found x := fun x => by
    rw [Found, hnumber]
    split
    · rename_i he
      simp [he]
    · rename_i he
      simp [Ne.symm he, Found]
  have hnum : ∀ x, s.Found x → (s.discovered w).num x = s.num x := fun x hx => by
    have hne : w ≠ x := fun heq => hw (heq ▸ hx)
    rw [num, hnumber, if_neg hne, num]
  have hcount : (s.discovered w).num w = s.count := by rw [num, hself, Option.getD_some]
  have hnew : w ∉ s.stack := fun hm => hw (h.found_of_mem hm)
  have hfresh : w ∉ s.components.flatten := fun hm => hw ((h.found w).mpr (.inl hm))
  have hlow : (s.discovered w).lowOf w = s.count := by
    rw [h.sized.lowOf_discovered hlt, if_pos rfl]
  refine ⟨⟨h.sized.discovered w, fun x hx => ?_, ?_, fun x => ?_, fun x y hx hxs hxy => ?_, ?_,
    fun x => ?_, h.strong, h.cyclic⟩, [], s.stack, rfl, ⟨nofun, nofun, fun _ hx => by simp at hx,
      nofun, ⟨w, List.mem_cons_self, ?_, .refl⟩, ?_⟩, he, hp⟩
  · change _ < s.count + 1
    rcases (hfound x).mp hx with rfl | hx
    · omega
    · rw [hnum x hx]
      exact (h.lt_count x hx).trans (Nat.lt_succ_self _)
  · refine List.pairwise_cons.mpr ⟨fun y hy => ?_, h.sorted.imp_of_mem fun {a b} ha hb hab => ?_⟩
    · rw [hcount, hnum y (h.found_of_mem hy)]
      exact h.lt_count y (h.found_of_mem hy)
    · rwa [hnum a (h.found_of_mem ha), hnum b (h.found_of_mem hb)]
  · have hsize : w < s.onStack.size := h.sized.onStack.symm ▸ hlt
    change (s.onStack.setIfInBounds w true)[x]? = some true ↔ x ∈ w :: s.stack
    rw [getElem?_put hsize, List.mem_cons, ← h.onStack x]
    split
    · rename_i he
      simp [he]
    · rename_i he
      simp [Ne.symm he]
  · have hxw : x ≠ w := fun he => hxs (he ▸ List.mem_cons_self)
    have hx' := ((hfound x).mp hx).resolve_left hxw
    obtain ⟨hy, hys⟩ := h.closed x y hx' (fun hm => hxs (List.mem_cons_of_mem w hm)) hxy
    refine ⟨(hfound y).mpr (.inr hy), fun hm => ?_⟩
    rcases List.mem_cons.mp hm with rfl | hm
    · exact hw hy
    · exact hys hm
  · refine (List.perm_middle.nodup_iff).mpr (List.nodup_cons.mpr ⟨fun hm => ?_, h.nodup⟩)
    rcases List.mem_append.mp hm with hm | hm
    · exact hfresh hm
    · exact hnew hm
  · change _ ↔ x ∈ s.components.flatten ∨ x ∈ w :: s.stack
    rw [hfound, h.found x, List.mem_cons]
    tauto
  · rw [hcount, hlow]
  · rw [hcount, hlow]

end ReactiveTree.Graph.Search
