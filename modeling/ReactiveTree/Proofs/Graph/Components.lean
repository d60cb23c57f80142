import ReactiveTree.Proofs.Graph.Cutting

/-!
# Components and cycles

Every round of the search for components follows an edge or leaves a vertex. Neither asks a table
for a vertex that it does not have, both keep what holds between rounds, and each takes something
off what is left to do. So the search does not fail, and at the end every vertex is in one component.
A vertex is marked if and only if it is on a cycle.

Key definitions: `Search.left`, `Search.Finds`.
Key theorems: `Search.Sound.follow_spec`, `Search.Sound.leave_spec`, `Search.round_spec`,
`Adjacency.search?_spec`, `Adjacency.mem_cyclic_iff`, `Adjacency.cyclic_exact`.
-/
namespace ReactiveTree.Graph

namespace Search

open Relation Adjacency

variable {adj : Adjacency} {s : Search} {v w i k : Nat} {trail : Trail}

/-! ### Rounds -/

/-- What is left to do: the vertices that are not found yet are to be opened. -/
def left (adj : Adjacency) (s : Search) : Nat := adj.toDo (fun v => (s.number v).isNone) s.trail

/-- A vertex is opened with less to do. -/
theorem left_discovered (h : s.Sized adj) (hw : ¬ s.Found w) (hlt : w < adj.size) :
    left adj (s.discovered w) = left adj s := by
  refine toDo_enter hlt ?_ fun x => ?_
  · rw [Found, Bool.not_eq_true, Option.isSome_eq_false_iff] at hw
    exact hw
  · rw [h.number_discovered hlt]
    split
    · rename_i he
      simp [he]
    · rename_i he
      simp [Ne.symm he]

theorem Consistent.found_discovered (h : s.Consistent adj) (hlt : w < adj.size) (hx : s.Found x) :
    (s.discovered w).Found x := by
  rw [Found, h.sized.number_discovered hlt]
  split
  · rfl
  · exact hx

theorem follow_of_new (hw : s.index[w]? = some none) : follow v w s = s.discover w := by
  rw [follow, hw]
  rfl

theorem follow_of_onStack (hw : s.index[w]? = some (some k)) (hon : s.onStack[w]? = some true) :
    follow v w s = s.lower v k := by
  rw [follow, hw, hon]
  rfl

theorem follow_of_off (hw : s.index[w]? = some (some k)) (hon : s.onStack[w]? = some false) :
    follow v w s = some s := by
  rw [follow, hw, hon]
  rfl

/-- **An edge is followed** from the last open vertex. -/
theorem Sound.follow_spec (h : s.Sound adj) (ht : s.trail = (v, i) :: trail)
    (hi : (adj.next v)[i]? = some w) (hw : w < adj.size) :
    ∃ s', follow v w { s with trail := (v, i + 1) :: trail } = some s' ∧ s'.Sound adj ∧
      (∀ x, s.Found x → s'.Found x) ∧ left adj s' < left adj s := by
  have he : adj.Edge v w := List.mem_of_getElem? hi
  have hparts := ht ▸ h.parts
  have hv : v ∈ s.stack := hparts.mem_stack v List.mem_cons_self
  have hfv : s.Found v := h.found_of_mem hv
  have hless : left adj { s with trail := (v, i + 1) :: trail } < left adj s := by
    rw [left, left, ht]
    exact toDo_advance (List.getElem?_eq_some_iff.mp hi).1
  have hs := h.withTrail ((v, i + 1) :: trail)
  have hindex : ∀ {o}, s.number w = o →
      (Search.index { s with trail := (v, i + 1) :: trail })[w]? = some o := fun ho =>
    ho ▸ h.sized.index_eq hw
  cases hnum : s.number w with
  | none =>
    have hnew : ¬ s.Found w := by rw [Found, hnum]; simp
    have hne : w ≠ v := fun heq => hnew (heq ▸ hfv)
    refine ⟨_, (follow_of_new (hindex hnum)).trans (hs.sized.discover_eq hw), ?_,
      fun x hx => h.found_discovered hw hx, (left_discovered hs.sized hnew hw).trans_lt hless⟩
    have hseen : (s.discovered w).Seen ((s.discovered w).lowOf v) w := by
      have hnumber := h.sized.number_discovered hw w
      rw [if_pos rfl] at hnumber
      refine ⟨by rw [Found, hnumber]; rfl, fun _ => ?_⟩
      obtain ⟨above, below, -, hp, -⟩ := hparts
      rw [h.sized.lowOf_discovered hw, if_neg hne, num, hnumber]
      exact hp.low_le.trans (h.lt_count v hfv).le
    have hadvance := (Parts.discover h.toConsistent hnew hw hparts).advance hi hseen
    exact .of_discovered hs hnew hw (hadvance.withTrail _) fun e hm => Option.some.inj hm ▸ he
  | some k =>
    have hfw : s.Found w := by rw [Found, hnum]; rfl
    have hk : s.num w = k := by rw [num, hnum, Option.getD_some]
    have hon : w < s.onStack.size := h.sized.onStack.symm ▸ hw
    have hget := Array.getElem?_eq_getElem hon
    cases hb : s.onStack[w] with
    | true =>
      have hmem : w ∈ s.stack := (h.onStack w).mp (hget.trans (congrArg some hb))
      have hvlt := h.lt hfv
      refine ⟨_, (follow_of_onStack (hindex hnum) (hget.trans (congrArg some hb))).trans
        (hs.sized.lower_eq hvlt k), ⟨hs.lowered v k, ?_⟩, fun x hx => hx, hless⟩
      have hlower := hparts.lower h.sized h.nodup_stack hvlt ⟨w, hmem, hk, .single he⟩
      refine (hlower.advance hi ⟨hfw, fun _ => ?_⟩).withTrail _
      rw [h.sized.lowOf_lowered hvlt, if_pos rfl]
      exact (Nat.min_le_right _ _).trans hk.ge
    | false =>
      have hmem : w ∉ s.stack := fun hm => by
        have := (h.onStack w).mpr hm
        rw [hget, hb] at this
        cases this
      exact ⟨_, follow_of_off (hindex hnum) (hget.trans (congrArg some hb)),
        ⟨hs, (hparts.advance hi ⟨hfw, fun hm => absurd hm hmem⟩).withTrail _⟩, fun x hx => hx, hless⟩

/-- The vertex below one that is left knows what that one reaches. -/
theorem Sound.passDown_spec (h : s.Sound adj) (ht : s.trail = (v, i) :: trail)
    (hi : (adj.next v)[i]? = none) : ∃ above below s', passDown v { s with trail } = some s' ∧
      s'.Leaves adj v above below ∧ s'.number = s.number ∧ s'.trail = trail := by
  obtain ⟨above, below, hs, hp, he, hrest⟩ := ht ▸ h.parts
  have hn := hs ▸ h.nodup_stack
  have hvlt : v < adj.size := h.lt (h.found_of_mem (hs ▸ by simp))
  have hall : (adj.next v).take (adj.next v).length = (adj.next v).take i := by
    rw [List.take_length, List.take_of_length_le (List.getElem?_eq_none_iff.mp hi)]
  have hpart : s.Part adj v (adj.next v).length above := { hp with opened := hall ▸ hp.opened }
  cases trail with
  | nil =>
    have hseen : ∀ low w, s.Seen low w → Seen { s with trail := [] } low w := fun _ _ hw => hw
    exact ⟨above, below, { s with trail := [] }, rfl,
      ⟨h.withTrail [], hs, hpart.mono hseen ⟨rfl, rfl, fun z hz _ => ⟨hz, rfl⟩⟩, hrest, nofun⟩, rfl, rfl⟩
  | cons e trail =>
    obtain ⟨u, j⟩ := e
    have huv : adj.Edge u v := he _ rfl
    have hu : u ∈ below := hrest.mem_stack u List.mem_cons_self
    have hult := huv.lt
    have hne : u ≠ v := fun heq =>
      (List.nodup_cons.mp (List.nodup_append.mp hn).2.1).1 (heq ▸ hu)
    let s' := lowered u (s.lowOf v) { s with trail := (u, j) :: trail }
    have hlow := h.sized.lowOf_lowered hult (s.lowOf v)
    have hpass : passDown v { s with trail := (u, j) :: trail } = some s' := by
      rw [passDown]
      dsimp only
      rw [h.sized.low_eq hvlt]
      exact (h.withTrail ((u, j) :: trail)).sized.lower_eq hult (s.lowOf v)
    have hseen : ∀ low w, s.Seen low w → s'.Seen low w := fun _ _ hw => hw
    have hv : s'.lowOf v = s.lowOf v := (hlow v).trans (if_neg hne)
    obtain ⟨z, hz, hzn, hvz⟩ := hp.low
    refine ⟨above, below, s', hpass, ⟨(h.withTrail _).lowered u _, hs,
      hpart.mono hseen ⟨hv, rfl, fun z hz _ => ⟨hz, rfl⟩⟩, ?_, fun e hm => ?_⟩, rfl, rfl⟩
    · refine (hrest.lower h.sized ?_ hult ⟨z, hz, hzn, .head huv hvz⟩).withTrail _
      exact (List.nodup_cons.mp (List.nodup_append.mp hn).2.1).2
    · obtain rfl := Option.some.inj hm
      refine ⟨huv, ?_⟩
      rw [hv]
      exact ((hlow u).trans (if_pos rfl)).le.trans (Nat.min_le_right _ _)

/-- **A vertex is left** when all its targets are done: its part is cut off or joins the one below. -/
theorem Sound.leave_spec (h : s.Sound adj) (ht : s.trail = (v, i) :: trail)
    (hi : (adj.next v)[i]? = none) : ∃ s', leave adj v { s with trail } = some s' ∧ s'.Sound adj ∧
      (∀ x, s.Found x → s'.Found x) ∧ left adj s' < left adj s := by
  obtain ⟨above, below, s', hpass, hl, hnumber, htrail⟩ := h.passDown_spec ht hi
  have hv : v ∈ s'.stack := hl.stack ▸ by simp
  have hfv := hl.found_of_mem hv
  have hvlt := hl.lt hfv
  have hleave : leave adj v { s with trail } =
      if s'.num v = s'.lowOf v then s'.cutOff adj v else some s' := by
    rw [leave, hpass]
    change (s'.index[v]?).bind _ = _
    rw [hl.sized.index_eq hvlt, hl.sized.low_eq hvlt, Consistent.number_eq hfv, Option.bind_some]
    exact ite_congr (by simp) (fun _ => rfl) fun _ => rfl
  have hless : ∀ s'' : Search, s''.number = s.number → s''.trail = trail →
      left adj s'' < left adj s := fun s'' hn htr => by
    rw [left, left, hn, htr, ht]
    exact toDo_leave
  rw [hleave]
  split
  · rename_i hlow
    obtain ⟨s'', hcut, hsound, hn, htr⟩ := hl.cutOff_spec hlow.symm
    refine ⟨s'', hcut, hsound, fun x hx => ?_, hless s'' (hn.trans hnumber) (htr.trans htrail)⟩
    rwa [Found, hn, hnumber]
  · rename_i hlow
    refine ⟨s', rfl, hl.join (Ne.symm hlow), fun x hx => ?_, hless s' hnumber htrail⟩
    rwa [Found, hnumber]

/-- What holds between rounds, and the vertices that are found. -/
structure Finds (adj : Adjacency) (found : List Nat) (s : Search) : Prop where
  sound : s.Sound adj
  found : ∀ v ∈ found, s.Found v

theorem round_cons (hv : v < adj.size) (ht : s.trail = (v, i) :: trail) :
    s.round adj = match (adj.next v)[i]? with
      | some w => (follow v w { s with trail := (v, i + 1) :: trail }).map .again
      | none => (leave adj v { s with trail }).map .again := by
  rw [round, ht]
  dsimp only
  rw [getElem?_of_lt hv]
  rfl

/-- **Every round goes on with less to do, or the search is done.** -/
theorem round_spec (hr : adj.InRange) (found : List Nat) (s : Search) (h : s.Finds adj found) :
    (∃ s', s.round adj = some (.again s') ∧ s'.Finds adj found ∧ left adj s' < left adj s) ∨
      ∃ s', s.round adj = some (.done s') ∧ s'.Finds adj found ∧ s'.trail = [] := by
  cases ht : s.trail with
  | nil => exact .inr ⟨s, by rw [round, ht], h, ht⟩
  | cons e trail =>
    obtain ⟨v, i⟩ := e
    refine .inl ?_
    have hv : v ∈ s.stack := (ht ▸ h.sound.parts).mem_stack v List.mem_cons_self
    rw [round_cons (h.sound.lt (h.sound.found_of_mem hv)) ht]
    cases hi : (adj.next v)[i]? with
    | none =>
      obtain ⟨s', heq, hs', hmono, hless⟩ := h.sound.leave_spec ht hi
      exact ⟨s', by dsimp only; rw [heq]; rfl, ⟨hs', fun x hx => hmono x (h.found x hx)⟩, hless⟩
    | some w =>
      obtain ⟨s', heq, hs', hmono, hless⟩ :=
        h.sound.follow_spec ht hi (hr v w (List.mem_of_getElem? hi))
      exact ⟨s', by dsimp only; rw [heq]; rfl, ⟨hs', fun x hx => hmono x (h.found x hx)⟩, hless⟩

end Search

namespace Adjacency

open Relation Search

variable {adj : Adjacency} {s : Search} {v : Nat} {found : List Nat}

/-! ### The whole search -/

/-- A search from one more vertex finds it and keeps what is found. -/
theorem searchFrom_spec (hr : adj.InRange) (h : s.Finds adj found) (ht : s.trail = [])
    (hv : v < adj.size) :
    ∃ s', adj.searchFrom s v = some s' ∧ s'.Finds adj (v :: found) ∧ s'.trail = [] := by
  rw [searchFrom, h.sound.sized.index_eq hv]
  cases hn : s.number v with
  | some k =>
    refine ⟨s, rfl, ⟨h.sound, fun x hx => ?_⟩, ht⟩
    rcases List.mem_cons.mp hx with rfl | hx
    · rw [Found, hn]
      rfl
    · exact h.found x hx
  | none =>
    have hnew : ¬ s.Found v := by rw [Found, hn]; simp
    change ∃ s', (s.discover v).bind (loop (Search.round adj) adj.rounds) = some s' ∧ _
    rw [h.sound.sized.discover_eq hv, Option.bind_some]
    have hsound : (s.discovered v).Sound adj := by
      refine .of_discovered h.sound.toConsistent hnew hv ?_ ?_
      · rw [ht]
        exact h.sound.stack_eq_nil ht
      · simp [ht]
    refine loop_spec (left adj) (round_spec hr (v :: found)) _ _ ⟨hsound, fun x hx => ?_⟩ ?_
    · rcases List.mem_cons.mp hx with rfl | hx
      · rw [Found, h.sound.sized.number_discovered hv, if_pos rfl]
        rfl
      · exact h.sound.found_discovered hv (h.found x hx)
    · rw [left_discovered h.sound.sized hnew hv, left, ht]
      exact toDo_lt_rounds _

theorem searchAll_spec (hr : adj.InRange) : ∀ (vs found : List Nat) (s : Search),
    (∀ v ∈ vs, v < adj.size) → s.Finds adj found → s.trail = [] →
      ∃ s', vs.foldlM adj.searchFrom s = some s' ∧ s'.Finds adj (vs.reverse ++ found) ∧ s'.trail = []
  | [], _, s, _, h, ht => ⟨s, rfl, h, ht⟩
  | v :: vs, found, s, hvs, h, ht => by
    obtain ⟨s', heq, h', ht'⟩ := searchFrom_spec hr h ht (hvs v List.mem_cons_self)
    rw [List.foldlM_cons, heq, List.reverse_cons, List.append_assoc]
    exact searchAll_spec hr vs (v :: found) s' (fun x hx => hvs x (List.mem_cons_of_mem v hx)) h' ht'

theorem sound_unsearched (adj : Adjacency) : adj.unsearched.Sound adj := by
  have hnumber : ∀ v, adj.unsearched.number v = none := fun v => by
    rw [number, unsearched, Array.getElem?_replicate]
    split <;> rfl
  have hnot : ∀ v, ¬ adj.unsearched.Found v := fun v hv => by
    rw [Found, hnumber] at hv
    cases hv
  have hmark : ∀ v : Nat, adj.noMarks[v]? ≠ some true := fun v hv => by
    rw [noMarks, Array.getElem?_replicate] at hv
    split at hv <;> cases hv
  refine ⟨⟨?_, fun v hv => absurd hv (hnot v), .nil, fun v => ?_, fun v _ hv => absurd hv (hnot v),
    List.nodup_nil, fun v => ?_, fun c hc => absurd hc List.not_mem_nil, fun v => ?_⟩, rfl⟩
  · constructor <;> simp [unsearched, noMarks]
  · exact iff_of_false (hmark v) List.not_mem_nil
  · exact iff_of_false (hnot v) (by simp [unsearched])
  · exact iff_of_false (hmark v) (by simp [unsearched])

/-- **The search does not fail**, and in the end every vertex has a component. -/
theorem search?_spec (hr : adj.InRange) : ∃ s, adj.search? = some s ∧ s.Consistent adj ∧
    s.components.flatten.Perm (List.range adj.size) := by
  obtain ⟨s, heq, h, ht⟩ := searchAll_spec hr (List.range adj.size) [] adj.unsearched
    (fun v hv => List.mem_range.mp hv) ⟨sound_unsearched adj, nofun⟩ rfl
  refine ⟨s, heq, h.sound.toConsistent, ?_⟩
  have hstack := h.sound.stack_eq_nil ht
  have hnodup := h.sound.nodup
  rw [hstack, List.append_nil] at hnodup
  rw [List.perm_ext_iff_of_nodup hnodup List.nodup_range]
  intro v
  rw [List.mem_range]
  constructor
  · exact fun hv => h.sound.lt ((h.sound.found v).mpr (.inl hv))
  · intro hv
    refine ((h.sound.found v).mp (h.found v (by simpa using hv))).resolve_right ?_
    rw [hstack]
    exact List.not_mem_nil

theorem size_cyclic (hr : adj.InRange) : adj.cyclic.size = adj.size := by
  obtain ⟨s, heq, h, -⟩ := search?_spec hr
  rw [cyclic, heq]
  exact h.sized.cyclic

/-- **A vertex is marked if and only if it is on a cycle.** -/
theorem mem_cyclic_iff (hr : adj.InRange) (v : Nat) :
    adj.cyclic[v]? = some true ↔ TransGen adj.Edge v v := by
  obtain ⟨s, heq, h, hp⟩ := search?_spec hr
  rw [cyclic, heq, Option.map_some, Option.getD_some, h.cyclic, hp.mem_iff, List.mem_range,
    and_iff_right_iff_imp]
  intro hv
  obtain ⟨w, he, -⟩ := TransGen.head'_iff.mp hv
  exact he.lt

theorem marked_cyclic (hr : adj.InRange) (hv : v < adj.size) :
    marked adj.cyclic v = true ↔ TransGen adj.Edge v v := by
  have hlt : v < adj.cyclic.size := (size_cyclic hr).symm ▸ hv
  rw [← mem_cyclic_iff hr, marked, Array.getElem?_eq_getElem hlt, Option.getD_some, Option.some_inj]

theorem not_transGen_of_not_marked (hr : adj.InRange) (hv : marked adj.cyclic v = false) :
    ¬ TransGen adj.Edge v v := fun hw => by
  obtain ⟨u, he, -⟩ := TransGen.head'_iff.mp hw
  rw [(marked_cyclic hr he.lt).mpr hw] at hv
  cases hv

/-- **Membership in cycles is exact.** No round of the search asks a table for a vertex that it does
not have, and the rounds come to an end. Every vertex is in one component, a component is a class of
vertices that reach each other, and a vertex is marked if it reaches itself by one edge or more. -/
theorem cyclic_exact (hr : adj.InRange) : ∃ s, adj.search? = some s ∧ adj.cyclic = s.cyclic ∧
    s.components.flatten.Perm (List.range adj.size) ∧
    (∀ c ∈ s.components, ∀ v ∈ c, ∀ w,
      w ∈ c ↔ ReflTransGen adj.Edge v w ∧ ReflTransGen adj.Edge w v) ∧
    adj.cyclic.size = adj.size ∧ ∀ v : Nat, adj.cyclic[v]? = some true ↔ TransGen adj.Edge v v := by
  obtain ⟨s, heq, h, hp⟩ := search?_spec hr
  exact ⟨s, heq, by rw [cyclic, heq]; rfl, hp, h.strong, size_cyclic hr, mem_cyclic_iff hr⟩

/-- A ring of three vertices leads to a vertex that is its own target, to one without targets, and
is led to from a ring of two. -/
def knot : Adjacency := #[[1, 1], [2, 3], [0, 4], [3, 4], [], [6, 1], [4, 5]]

theorem cyclic_exact_knot : knot.InRange ∧
    knot.cyclic = #[true, true, true, true, false, true, true] ∧
    (∀ v : Nat, knot.cyclic[v]? = some true ↔ TransGen knot.Edge v v) ∧
    ∃ s, knot.search? = some s ∧ s.components = [[6, 5], [2, 1, 0], [3], [4]] ∧
      s.components.flatten.Perm (List.range 7) := by
  have hr : knot.InRange := by decide
  have hparts : knot.search?.map (·.components) = some [[6, 5], [2, 1, 0], [3], [4]] := by
    decide +kernel
  obtain ⟨s, heq, -, hp, -, -, hcyclic⟩ := cyclic_exact hr
  rw [heq, Option.map_some, Option.some_inj] at hparts
  exact ⟨hr, by decide +kernel, hcyclic, s, heq, hparts, hp⟩

end Adjacency
end ReactiveTree.Graph
