import ReactiveTree.Proofs.Graph.Stack

/-!
# Components are cut off

An open vertex is left when all its targets are done. If its low number is its own, no edge leads
from its part down the stack. The vertices with a component are closed under edges, and the part
becomes one more component: what is strongly connected with it can be neither further down nor in a
component already. Its vertices are on cycles if it has more than one, or one that is its own
target. In the other case the part reaches the open vertex below, and joins its part.

Key definitions: `Search.Leaves`.
Key theorems: `Search.Leaves.join`, `Search.Leaves.mem_part_iff`, `Search.Leaves.transGen_iff`,
`Search.Leaves.cutOff_spec`.
-/
namespace ReactiveTree.Graph.Search

open Relation Adjacency

variable {adj : Adjacency} {s : Search} {v w x : Nat} {above below : List Nat}

/-- The last open vertex is taken off the trail, and the one below it knows what it reaches. -/
structure Leaves (adj : Adjacency) (s : Search) (v : Nat) (above below : List Nat) : Prop
    extends Consistent adj s where
  stack : s.stack = above ++ v :: below
  part : s.Part adj v (adj.next v).length above
  parts : Parts adj s s.trail below
  bottom : ∀ e ∈ s.trail.head?, adj.Edge e.1 v ∧ s.lowOf e.1 ≤ s.lowOf v

namespace Leaves

variable (h : s.Leaves adj v above below)

include h

theorem nodup_parts : (above ++ v :: below).Nodup := h.stack ▸ h.nodup_stack

theorem lt_num (hx : x ∈ above ++ [v]) (hw : w ∈ below) : s.num w < s.num x := by
  have hsorted := h.sorted
  rw [h.stack, List.pairwise_append, List.pairwise_cons] at hsorted
  rcases List.mem_append.mp hx with hx | hx
  · exact hsorted.2.2 x hx w (List.mem_cons_of_mem v hw)
  · exact List.mem_singleton.mp hx ▸ hsorted.2.1.1 w hw

theorem num_le (hx : x ∈ above ++ [v]) : s.num v ≤ s.num x := by
  have hsorted := h.sorted
  rw [h.stack, List.pairwise_append] at hsorted
  rcases List.mem_append.mp hx with hx | hx
  · exact (hsorted.2.2 x hx v List.mem_cons_self).le
  · rw [List.mem_singleton.mp hx]

theorem mem_stack : x ∈ s.stack ↔ x ∈ above ++ [v] ∨ x ∈ below := by
  rw [h.stack]
  simp [or_assoc]

theorem reaches (hx : x ∈ above ++ [v]) : ReflTransGen adj.Edge v x := by
  rcases List.mem_append.mp hx with hx | hx
  · exact h.part.reaches x hx
  · rw [List.mem_singleton.mp hx]

theorem reached (hx : x ∈ above ++ [v]) : ReflTransGen adj.Edge x v := by
  rcases List.mem_append.mp hx with hx | hx
  · exact h.part.reached x hx
  · rw [List.mem_singleton.mp hx]

theorem seen (hx : x ∈ above ++ [v]) (he : adj.Edge x w) : s.Seen (s.lowOf v) w := by
  rcases List.mem_append.mp hx with hx | hx
  · exact h.part.finished x hx w he
  · refine h.part.opened w ?_
    rw [List.take_length]
    exact List.mem_singleton.mp hx ▸ he

/-- A vertex that reaches further down than to itself joins the part below. -/
theorem join (hlow : s.lowOf v ≠ s.num v) : s.Sound adj := by
  refine ⟨h.toConsistent, ?_⟩
  obtain ⟨z, hz, hzn, hvz⟩ := h.part.low
  have hlt : s.num z < s.num v := hzn ▸ lt_of_le_of_ne h.part.low_le hlow
  have hbelow : z ∈ below := (h.mem_stack.mp hz).resolve_left fun hm => by
    have := h.num_le hm
    omega
  have hparts := h.parts
  have hbottom := h.bottom
  cases ht : s.trail with
  | nil =>
    rw [ht] at hparts
    rw [show below = [] from hparts] at hbelow
    cases hbelow
  | cons e trail =>
    obtain ⟨u, i⟩ := e
    rw [ht] at hparts hbottom
    obtain ⟨huv, hle⟩ := hbottom _ rfl
    have hvu : ReflTransGen adj.Edge v u := hvz.trans (hparts.reach z hbelow)
    obtain ⟨aboveU, belowU, hs, hp, he, hrest⟩ := hparts
    have hin : ∀ {y}, y ∈ above ++ v :: aboveU → y ∈ above ++ [v] ∨ y ∈ aboveU := fun hy => by
      simpa [or_assoc] using hy
    refine ⟨above ++ v :: aboveU, belowU, by rw [h.stack, hs]; simp, ⟨fun y hy => ?_, fun y hy => ?_,
      hp.opened, fun y hy w hw => ?_, hp.low, hp.low_le⟩, he, hrest⟩
    · rcases hin hy with hy | hy
      · exact .head huv (h.reaches hy)
      · exact hp.reaches y hy
    · rcases hin hy with hy | hy
      · exact (h.reached hy).trans hvu
      · exact hp.reached y hy
    · rcases hin hy with hy | hy
      · exact (h.seen hy hw).mono hle
      · exact hp.finished y hy w hw

section Cut

variable (hlow : s.lowOf v = s.num v)

include hlow

/-- No edge leads from the part down the stack. -/
theorem not_below (hx : x ∈ above ++ [v]) (he : adj.Edge x w) : s.Found w ∧ w ∉ below := by
  obtain ⟨hf, hs⟩ := h.seen hx he
  refine ⟨hf, fun hw => ?_⟩
  have hle := hs (h.mem_stack.mpr (.inr hw))
  have hlt := h.lt_num (List.mem_append_right above (List.mem_singleton_self v)) hw
  omega

/-- What the part reaches is in it or has a component. -/
theorem mem_of_walk (hx : x ∈ above ++ [v]) (hw : ReflTransGen adj.Edge x w) :
    w ∈ above ++ [v] ∨ s.Found w ∧ w ∉ s.stack := by
  induction hw with
  | refl => exact .inl hx
  | tail _ he ih =>
    rcases ih with hm | ⟨hf, hs⟩
    · obtain ⟨hf, hb⟩ := h.not_below hlow hm he
      rw [or_iff_not_imp_left]
      exact fun hn => ⟨hf, fun hm => (h.mem_stack.mp hm).elim hn hb⟩
    · exact .inr (h.closed _ _ hf hs he)

/-- **The part is a component.** -/
theorem mem_part_iff (hx : x ∈ above ++ [v]) :
    w ∈ above ++ [v] ↔ ReflTransGen adj.Edge x w ∧ ReflTransGen adj.Edge w x := by
  constructor
  · intro hw
    exact ⟨(h.reached hx).trans (h.reaches hw), (h.reached hw).trans (h.reaches hx)⟩
  · rintro ⟨hxw, hwx⟩
    refine (h.mem_of_walk hlow hx hxw).resolve_right fun ⟨hf, hs⟩ => ?_
    exact h.not_mem_of_walk hf hs hwx (h.mem_stack.mpr (.inl hx))

/-- **The vertices of a component are on cycles** if it has more than one, or one that is its own
target. -/
theorem transGen_iff (hx : x ∈ above ++ [v]) : TransGen adj.Edge x x ↔
    1 < (above ++ [v]).length ∨ adj.Edge v v := by
  have hnodup : (above ++ [v]).Nodup := by
    refine h.nodup_parts.sublist (List.Sublist.append_left ?_ above)
    exact List.singleton_sublist.mpr List.mem_cons_self
  have hnil : ¬ 1 < (above ++ [v]).length → above = [] := fun hlen =>
    List.eq_nil_of_length_eq_zero (by simp at hlen; simpa using hlen)
  constructor
  · intro hc
    rw [or_iff_not_imp_left]
    intro hlen
    have habove := hnil hlen
    subst habove
    obtain rfl := List.mem_singleton.mp hx
    obtain ⟨y, hxy, hyx⟩ := TransGen.head'_iff.mp hc
    have hy := (h.mem_part_iff hlow hx).mpr ⟨.single hxy, hyx⟩
    exact List.mem_singleton.mp hy ▸ hxy
  · rintro (hlen | he)
    · obtain ⟨y, hy, hne⟩ : ∃ y ∈ above ++ [v], y ≠ x := by
        by_contra hall
        push Not at hall
        have hrep := List.eq_replicate_of_mem hall
        rw [hrep] at hnodup
        exact absurd (List.nodup_replicate.mp hnodup) (by omega)
      obtain ⟨hxy, hyx⟩ := (h.mem_part_iff hlow hx).mp hy
      rcases reflTransGen_iff_eq_or_transGen.mp hxy with he | hxy
      · exact absurd he hne
      · exact hxy.trans_left hyx
    · exact (TransGen.single he).trans_right (h.reached hx) |>.trans_left (h.reaches hx)

/-- The vertices of the part that are on cycles are marked. -/
theorem markCyclic_spec : ∃ cyclic, markCyclic adj v (above ++ [v]) s.cyclic = some cyclic ∧
    cyclic.size = s.cyclic.size ∧ ∀ x : Nat, cyclic[x]? = some true ↔
      s.cyclic[x]? = some true ∨ x ∈ above ++ [v] ∧ TransGen adj.Edge x x := by
  have hlt : ∀ x ∈ above ++ [v], x < adj.size := fun x hx =>
    h.lt (h.found_of_mem (h.mem_stack.mpr (.inl hx)))
  have hmark : markCyclic adj v (above ++ [v]) s.cyclic =
      if 1 < (above ++ [v]).length || (adj.next v).contains v then
        setAll s.cyclic true (above ++ [v])
      else some s.cyclic := by
    rw [markCyclic, getElem?_of_lt (hlt v (by simp))]
    rfl
  have hcond : ((1 < (above ++ [v]).length || (adj.next v).contains v) = true) ↔
      1 < (above ++ [v]).length ∨ adj.Edge v v := by simp [Edge]
  rw [hmark]
  split
  · rename_i hc
    rw [hcond] at hc
    obtain ⟨cyclic, heq, hsize, hget⟩ := setAll_spec true (above ++ [v]) s.cyclic fun x hx =>
      h.sized.cyclic.symm ▸ hlt x hx
    refine ⟨cyclic, heq, hsize, fun x => ?_⟩
    rw [hget]
    split
    · rename_i hx
      simp [hx, (h.transGen_iff hlow hx).mpr hc]
    · rename_i hx
      simp [hx]
  · rename_i hc
    rw [hcond] at hc
    refine ⟨s.cyclic, rfl, rfl, fun x => ?_⟩
    rw [or_iff_left]
    rintro ⟨hx, hcyc⟩
    exact hc ((h.transGen_iff hlow hx).mp hcyc)

/-- **The part is cut off as one more component.** -/
theorem cutOff_spec : ∃ s', s.cutOff adj v = some s' ∧ s'.Sound adj ∧ s'.number = s.number ∧
    s'.trail = s.trail := by
  have hv : v ∈ above ++ [v] := List.mem_append_right above (List.mem_singleton_self v)
  have hlt : ∀ x ∈ above ++ [v], x < adj.size := fun x hx =>
    h.lt (h.found_of_mem (h.mem_stack.mpr (.inl hx)))
  have hnodup := h.nodup_parts
  have hsplit : above ++ v :: below = (above ++ [v]) ++ below := by simp
  have hvabove : v ∉ above := fun hm =>
    (List.nodup_append.mp hnodup).2.2 v hm v List.mem_cons_self rfl
  have hpop : popTo v s.stack = (above ++ [v], below) := h.stack ▸ popTo_append hvabove
  obtain ⟨onStack, hon, honSize, honGet⟩ := setAll_spec false (above ++ [v]) s.onStack
    fun x hx => h.sized.onStack.symm ▸ hlt x hx
  obtain ⟨cyclic, hcyc, hcycSize, hcycGet⟩ := h.markCyclic_spec hlow
  have hcut : s.cutOff adj v = some { s with
      onStack, cyclic, stack := below, components := (above ++ [v]) :: s.components } := by
    rw [cutOff, hpop]
    dsimp only
    rw [hon, hcyc]
    rfl
  have hsub : ∀ {x}, x ∈ below → x ∈ s.stack := fun hx => h.mem_stack.mpr (.inr hx)
  have hdisjoint : ∀ x ∈ above ++ [v], x ∉ below := fun x hx hb => by
    rw [hsplit] at hnodup
    exact (List.nodup_append.mp hnodup).2.2 x hx x hb rfl
  have hperm : List.Perm ((((above ++ [v]) :: s.components).flatten) ++ below)
      (s.components.flatten ++ s.stack) := by
    rw [List.flatten_cons, h.stack, hsplit, ← List.append_assoc]
    exact List.perm_append_comm.append_right below
  have hmem : ∀ x, x ∈ ((above ++ [v]) :: s.components).flatten ↔
      x ∈ above ++ [v] ∨ x ∈ s.components.flatten := fun x => by
    rw [List.flatten_cons, List.mem_append]
  refine ⟨_, hcut, ⟨⟨⟨h.sized.index, h.sized.low, honSize.trans h.sized.onStack,
    hcycSize.trans h.sized.cyclic⟩, h.lt_count, ?_, fun x => ?_, fun x y hx hb he => ?_,
    hperm.nodup_iff.mpr h.nodup, fun x => ?_, fun c hc x hx w => ?_, fun x => ?_⟩, ?_⟩, rfl, rfl⟩
  · have hsorted := h.sorted
    rw [h.stack, List.pairwise_append, List.pairwise_cons] at hsorted
    exact hsorted.2.1.2
  · change onStack[x]? = some true ↔ x ∈ below
    rw [honGet]
    split
    · rename_i hx
      simp [hdisjoint x hx]
    · rename_i hx
      rw [h.onStack x, h.mem_stack, or_iff_right hx]
  · by_cases hs : x ∈ above ++ [v]
    · exact h.not_below hlow hs he
    · obtain ⟨hf, hn⟩ := h.closed x y hx (fun hm => (h.mem_stack.mp hm).elim hs hb) he
      exact ⟨hf, fun hy => hn (hsub hy)⟩
  · change s.Found x ↔ _ ∨ x ∈ below
    rw [h.found x, hmem, h.mem_stack]
    tauto
  · rcases List.mem_cons.mp hc with rfl | hc
    · exact h.mem_part_iff hlow hx
    · exact h.strong c hc x hx w
  · change cyclic[x]? = some true ↔ _
    rw [hcycGet, h.cyclic x, hmem]
    tauto
  · -- what is left of the stack needs nothing of what was above it
    have hseen : ∀ low x, s.Seen low x → Seen { s with
        onStack, cyclic, stack := below, components := (above ++ [v]) :: s.components } low x :=
      fun _ _ hx => ⟨hx.1, fun hm => hx.2 (hsub hm)⟩
    refine h.parts.mono hseen fun x hx => ⟨rfl, rfl, fun z hz hle => ⟨?_, rfl⟩⟩
    refine (h.mem_stack.mp hz).resolve_left fun hm => ?_
    have := h.num_le hm
    have := h.lt_num hv (h.parts.mem_stack x hx)
    omega

end Cut

end Leaves

end ReactiveTree.Graph.Search
