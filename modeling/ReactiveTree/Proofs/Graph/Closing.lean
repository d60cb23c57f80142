import ReactiveTree.Graph.Cycles
import ReactiveTree.Proofs.Graph.Walks

/-!
# A walk meets an open vertex exactly if there is a cycle

Each open vertex is a target of the one that was opened before it, so an edge back to an open vertex
closes a cycle. A finished vertex has finished targets only, and it was finished after all of them:
no finished vertex is on a cycle. When the walk is done without an edge back, all vertices are
finished. Every round takes one vertex or one edge, so the walk is always done in time.

Key definitions: `Walk.Hangs`, `Walk.Sound`.
Key theorems: `Walk.Sound.round_spec`, `Adjacency.closes?_spec`.
-/
namespace ReactiveTree.Graph

open Relation Adjacency

variable {adj : Adjacency} {v w u i : Nat} {trail : Trail}

namespace Walk

variable {s : Walk} {colors colors' : Array Color} {above : Option Nat}

/-- The open vertices lead from one to the next. Their targets that are done are finished, but for
the vertex that was opened last. -/
def Hangs (adj : Adjacency) (colors : Array Color) : Option Nat → Trail → Prop
  | _, [] => True
  | above, (v, i) :: trail =>
    (∀ w ∈ (adj.next v).take i, colors[w]? = some Color.black ∨ above = some w) ∧
      (∀ w, above = some w → adj.Edge v w) ∧ Hangs adj colors (some v) trail

/-- What holds between rounds. -/
structure Sound (adj : Adjacency) (s : Walk) : Prop where
  size : s.colors.size = adj.size
  nodup : (s.trail.map (·.1)).Nodup
  gray : ∀ v, s.colors[v]? = some .gray ↔ v ∈ s.trail.map (·.1)
  hangs : Hangs adj s.colors none s.trail
  closed : ∀ v w, s.colors[v]? = some .black → adj.Edge v w → s.colors[w]? = some .black
  acyclic : ∀ v, s.colors[v]? = some .black → ¬ TransGen adj.Edge v v

/-! ### The trail -/

theorem Hangs.mono (h : ∀ v : Nat, colors[v]? = some Color.black → colors'[v]? = some Color.black) :
    ∀ {trail : Trail} {above : Option Nat}, Hangs adj colors above trail →
      Hangs adj colors' above trail
  | [], _, _ => trivial
  | (_, _) :: _, _, ⟨hdone, hedge, hrest⟩ =>
    ⟨fun w hw => (hdone w hw).imp_left (h w), hedge, hrest.mono h⟩

/-- A vertex hangs on the one that is opened after it no longer when that one is finished. -/
theorem Hangs.of_black (hw : colors[w]? = some .black) :
    ∀ {trail : Trail}, Hangs adj colors (some w) trail → Hangs adj colors none trail
  | [], _ => trivial
  | (_, _) :: _, ⟨hdone, _, hrest⟩ =>
    ⟨fun x hx => .inl ((hdone x hx).elim id fun he => Option.some.inj he ▸ hw), nofun, hrest⟩

/-- The open vertices reach the one that is opened after them. -/
theorem Hangs.transGen : ∀ {trail : Trail} {w : Nat}, Hangs adj colors (some w) trail →
    u ∈ trail.map (·.1) → TransGen adj.Edge u w
  | (v, _) :: _, w, ⟨_, hedge, hrest⟩, hu => by
    have he : adj.Edge v w := hedge w rfl
    rcases List.mem_cons.mp hu with rfl | hu
    · exact .single he
    · exact (hrest.transGen hu).tail he

/-- The first target of the last open vertex that is not done is done if it is finished or opened. -/
theorem Hangs.advance (hi : (adj.next v)[i]? = some w)
    (hw : colors[w]? = some .black ∨ above = some w) (ha : ∀ w, above = some w → adj.Edge v w)
    (h : Hangs adj colors none ((v, i) :: trail)) :
    Hangs adj colors above ((v, i + 1) :: trail) := by
  obtain ⟨hdone, -, hrest⟩ := h
  refine ⟨fun x hx => ?_, ha, hrest⟩
  rcases (mem_take_succ hi).mp hx with hx | rfl
  · exact .inl ((hdone x hx).resolve_right nofun)
  · exact hw

/-! ### Rounds -/

namespace Sound

theorem lt (h : s.Sound adj) {c : Color} (hc : s.colors[v]? = some c) : v < adj.size :=
  h.size ▸ (Array.getElem?_eq_some_iff.mp hc).1

/-- An edge to an open vertex closes a cycle. -/
theorem cycle_of_gray (h : s.Sound adj) (ht : s.trail = (v, i) :: trail) (he : adj.Edge v w)
    (hw : s.colors[w]? = some .gray) : TransGen adj.Edge w w := by
  have hopen := (h.gray w).mp hw
  have hangs := h.hangs
  rw [ht, List.map_cons, List.mem_cons] at hopen
  rw [ht] at hangs
  rcases hopen with rfl | hopen
  · exact .single he
  · exact (hangs.2.2.transGen hopen).tail he

/-- A target that is finished is done. -/
theorem skip (h : s.Sound adj) (ht : s.trail = (v, i) :: trail)
    (hi : (adj.next v)[i]? = some w) (hw : s.colors[w]? = some .black) :
    Sound adj { s with trail := (v, i + 1) :: trail } := by
  have hangs := ht ▸ h.hangs
  have hnodup := ht ▸ h.nodup
  have hgray := fun x => ht ▸ h.gray x
  exact ⟨h.size, hnodup, hgray, hangs.advance hi (.inl hw) nofun, h.closed, h.acyclic⟩

/-- A vertex can be opened if it is not found yet and is a target of the last open one. -/
theorem enter (h : s.Sound adj) (hw : s.colors[w]? = some .white) {trail : Trail}
    (ht : trail.map (·.1) = s.trail.map (·.1)) (hangs : Hangs adj s.colors (some w) trail) :
    Sound adj ⟨s.colors.setIfInBounds w .gray, (w, 0) :: trail⟩ := by
  have hset := getElem?_put (Array.getElem?_eq_some_iff.mp hw).1 Color.gray
  have hblack : ∀ x, (s.colors.setIfInBounds w .gray)[x]? = some Color.black ↔
      s.colors[x]? = some Color.black := fun x => by
    rw [hset]
    split
    · rename_i he
      rw [← he, hw]
      simp
    · rfl
  refine ⟨by simpa using h.size, ?_, fun x => ?_,
    ⟨fun _ hx => by simp at hx, nofun, hangs.mono fun x hx => (hblack x).mpr hx⟩, fun x y hx he => ?_,
    fun x hx => h.acyclic x ((hblack x).mp hx)⟩
  · rw [List.map_cons, List.nodup_cons, ht]
    refine ⟨fun hm => ?_, h.nodup⟩
    rw [(h.gray w).mpr hm] at hw
    cases hw
  · rw [hset, List.map_cons, List.mem_cons, ht, ← h.gray x]
    split
    · rename_i he
      simp [he]
    · rename_i he
      simp [Ne.symm he]
  · exact (hblack y).mpr (h.closed x y ((hblack x).mp hx) he)

/-- What a finished vertex leads to is finished. -/
theorem black_of_walk (h : s.Sound adj) (hv : s.colors[v]? = some .black)
    (hw : ReflTransGen adj.Edge v w) : s.colors[w]? = some .black := by
  induction hw with
  | refl => exact hv
  | tail _ he ih => exact h.closed _ _ ih he

/-- The last open vertex is finished when all its targets are done. -/
theorem finish (h : s.Sound adj) (ht : s.trail = (v, i) :: trail) (hi : (adj.next v)[i]? = none) :
    Sound adj ⟨s.colors.setIfInBounds v .black, trail⟩ := by
  have hv : s.colors[v]? = some .gray := (h.gray v).mpr (by simp [ht])
  have hset := getElem?_put (Array.getElem?_eq_some_iff.mp hv).1 Color.black
  have hmono : ∀ x, s.colors[x]? = some Color.black →
      (s.colors.setIfInBounds v .black)[x]? = some Color.black := fun x hx => by
    rw [hset, hx]
    split <;> rfl
  have hangs := ht ▸ h.hangs
  have hnodup := ht ▸ h.nodup
  rw [List.map_cons, List.nodup_cons] at hnodup
  -- all targets are done, so all of them are finished
  have htargets : ∀ w, adj.Edge v w → s.colors[w]? = some .black := fun w he => by
    have hall : (adj.next v).take i = adj.next v :=
      List.take_of_length_le (List.getElem?_eq_none_iff.mp hi)
    exact (hangs.1 w (hall.symm ▸ he)).resolve_right nofun
  refine ⟨by simpa using h.size, hnodup.2, fun x => ?_, ?_, fun x y hx he => ?_, fun x hx hc => ?_⟩
  · rw [hset]
    split
    · rename_i he
      exact ⟨nofun, fun hm => absurd (he ▸ hm) hnodup.1⟩
    · rename_i he
      rw [h.gray x, ht, List.map_cons, List.mem_cons]
      exact or_iff_right (Ne.symm he)
  · exact (hangs.2.2.mono hmono).of_black (by rw [hset, if_pos rfl])
  · rw [hset] at hx
    split at hx
    · rename_i hvx
      exact hmono y (htargets y (hvx ▸ he))
    · exact hmono y (h.closed x y hx he)
  · rw [hset] at hx
    split at hx
    · rename_i hvx
      subst hvx
      -- a cycle through the vertex would go on from a finished target and come back to it
      obtain ⟨w, hw, hwv⟩ := TransGen.head'_iff.mp hc
      rw [h.black_of_walk (htargets w hw) hwv] at hv
      cases hv
    · exact h.acyclic x hx hc

end Sound

/-! ### The walk -/

theorem look_of_white (hw : s.colors[w]? = some .white) : look w s = (s.enter w).map .again := by
  rw [look, hw]
  rfl

theorem look_of_gray (hw : s.colors[w]? = some .gray) :
    look w s = some (.done (true, s.colors)) := by
  rw [look, hw]
  rfl

theorem look_of_black (hw : s.colors[w]? = some .black) : look w s = some (.again s) := by
  rw [look, hw]
  rfl

theorem round_cons (hv : v < adj.size) (ht : s.trail = (v, i) :: trail) :
    s.round adj = match (adj.next v)[i]? with
      | some w => look w { s with trail := (v, i + 1) :: trail }
      | none => (s.finish v trail).map .again := by
  rw [round, ht]
  dsimp only
  rw [getElem?_of_lt hv]
  rfl

/-- The rounds that are left: the vertices that are white are to be opened. -/
def left (adj : Adjacency) (s : Walk) : Nat :=
  adj.toDo (fun v => s.colors[v]? == some .white) s.trail

/-- What holds between rounds, and the vertices that are found. -/
structure Finds (adj : Adjacency) (found : List Nat) (s : Walk) : Prop where
  sound : s.Sound adj
  found : ∀ v ∈ found, s.colors[v]? ≠ some .white

/-- What the walk says when it is done: there is a cycle, or it goes on without open vertices. -/
def Answers (adj : Adjacency) (found : List Nat) (r : Bool × Array Color) : Prop :=
  if r.1 then ∃ v, TransGen adj.Edge v v else Finds adj found { colors := r.2 }

/-- A vertex is opened with less to do. -/
theorem Finds.enter {found : List Nat} (h : s.Finds adj found) (hw : s.colors[w]? = some .white)
    {trail : Trail} (ht : trail.map (·.1) = s.trail.map (·.1))
    (hangs : Hangs adj s.colors (some w) trail) :
    Walk.enter w ⟨s.colors, trail⟩ = some ⟨s.colors.setIfInBounds w .gray, (w, 0) :: trail⟩ ∧
      Finds adj (w :: found) ⟨s.colors.setIfInBounds w .gray, (w, 0) :: trail⟩ ∧
      left adj ⟨s.colors.setIfInBounds w .gray, (w, 0) :: trail⟩ = left adj ⟨s.colors, trail⟩ := by
  have hlt := (Array.getElem?_eq_some_iff.mp hw).1
  have hset := getElem?_put hlt Color.gray
  refine ⟨by rw [Walk.enter, put?_of_lt hlt]; rfl,
    ⟨h.sound.enter hw ht hangs, fun x hx => ?_⟩, ?_⟩
  · rw [hset]
    split
    · nofun
    · rename_i he
      exact h.found x ((List.mem_cons.mp hx).resolve_left (Ne.symm he))
  · refine toDo_enter (h.sound.lt hw) (by simp [hw]) fun x => ?_
    rw [hset]
    split
    · rename_i he
      simp [he]
    · rename_i he
      simp [Ne.symm he]

/-- **Every round goes on with less to do, or the walk is done.** -/
theorem round_spec (hr : adj.InRange) (found : List Nat) (s : Walk) (h : s.Finds adj found) :
    (∃ s', s.round adj = some (.again s') ∧ s'.Finds adj found ∧ left adj s' < left adj s) ∨
      ∃ r, s.round adj = some (.done r) ∧ Answers adj found r := by
  cases ht : s.trail with
  | nil =>
    refine .inr ⟨(false, s.colors), by rw [round, ht], ?_⟩
    have hs : s = { colors := s.colors } := by
      cases s
      cases ht
      rfl
    exact hs ▸ h
  | cons e trail =>
    obtain ⟨v, i⟩ := e
    have hgray : s.colors[v]? = some .gray := (h.sound.gray v).mpr (by simp [ht])
    rw [round_cons (h.sound.lt hgray) ht]
    cases hi : (adj.next v)[i]? with
    | none =>
      have hlt := (Array.getElem?_eq_some_iff.mp hgray).1
      have hset := getElem?_put hlt Color.black
      refine .inl ⟨_, by rw [Walk.finish, put?_of_lt hlt]; rfl, ⟨h.sound.finish ht hi, fun x hx => ?_⟩, ?_⟩
      · rw [hset]
        split
        · nofun
        · exact h.found x hx
      · have hfresh : (fun x : Nat => (s.colors.setIfInBounds v .black)[x]? == some Color.white) =
            fun x => s.colors[x]? == some Color.white := funext fun x => by
          rw [hset]
          split
          · rename_i he
            rw [← he, hgray]
            rfl
          · rfl
        rw [left, left, ht, hfresh]
        exact toDo_leave
    | some w =>
      have he : adj.Edge v w := List.mem_of_getElem? hi
      have hlt : w < s.colors.size := h.sound.size.symm ▸ hr v w he
      have hless : left adj ⟨s.colors, (v, i + 1) :: trail⟩ < left adj s := by
        rw [left, left, ht]
        exact toDo_advance (List.getElem?_eq_some_iff.mp hi).1
      obtain ⟨c, hc⟩ : ∃ c, (Walk.mk s.colors ((v, i + 1) :: trail)).colors[w]? = some c :=
        ⟨_, Array.getElem?_eq_getElem hlt⟩
      dsimp only
      cases c with
      | white =>
        have hangs : Hangs adj s.colors (some w) ((v, i + 1) :: trail) :=
          Hangs.advance hi (.inr rfl) (fun x hx => Option.some.inj hx ▸ he) (ht ▸ h.sound.hangs)
        obtain ⟨heq, hf, hl⟩ := h.enter hc (by rw [ht]; rfl) hangs
        refine .inl ⟨_, (look_of_white hc).trans (by rw [heq]; rfl), ⟨hf.sound, fun x hx => ?_⟩, hl.trans_lt hless⟩
        exact hf.found x (List.mem_cons_of_mem w hx)
      | gray =>
        exact .inr ⟨_, look_of_gray hc, w, h.sound.cycle_of_gray ht he hc⟩
      | black =>
        exact .inl ⟨_, look_of_black hc, ⟨h.sound.skip ht hi hc, h.found⟩, hless⟩

end Walk

namespace Adjacency

open Walk

/-- **A walk from a vertex finds it**, or a cycle. -/
theorem walkFrom_spec (hr : adj.InRange) {found : List Nat} {colors : Array Color}
    (h : Finds adj found { colors }) (hv : v < adj.size) :
    ∃ r, adj.walkFrom colors v = some r ∧ Answers adj (v :: found) r := by
  have hlt : v < colors.size := h.sound.size.symm ▸ hv
  rw [walkFrom, Array.getElem?_eq_getElem hlt]
  by_cases hc : colors[v] = .white
  · have hw : colors[v]? = some .white := by rw [Array.getElem?_eq_getElem hlt, hc]
    obtain ⟨heq, hf, hl⟩ := h.enter hw rfl trivial
    rw [hc]
    change ∃ r, ((Walk.enter v { colors }).bind (loop (Walk.round adj) adj.rounds)) = some r ∧ _
    rw [heq, Option.bind_some]
    refine loop_spec (left adj) (round_spec hr (v :: found)) _ _ hf ?_
    rw [hl]
    exact toDo_lt_rounds _
  · refine ⟨(false, colors), ?_, h.sound, fun x hx => ?_⟩
    · cases hcolor : colors[v] with
      | white => exact absurd hcolor hc
      | gray => rfl
      | black => rfl
    · rcases List.mem_cons.mp hx with rfl | hx
      · rw [Array.getElem?_eq_getElem hlt]
        exact fun he => hc (Option.some.inj he)
      · exact h.found x hx

/-- Walks from vertices in turn find a cycle, or find them all. -/
theorem walkAll_spec (hr : adj.InRange) : ∀ (vs found : List Nat) (colors : Array Color),
    (∀ v ∈ vs, v < adj.size) → Finds adj found { colors } → ∃ b, adj.walkAll colors vs = some b ∧
      if b then ∃ v, TransGen adj.Edge v v
      else ∃ colors, Finds adj (vs.reverse ++ found) { colors }
  | [], _, colors, _, h => ⟨false, rfl, colors, h⟩
  | v :: vs, found, colors, hvs, h => by
    obtain ⟨⟨b, colors'⟩, heq, ha⟩ := walkFrom_spec hr h (hvs v List.mem_cons_self)
    have hall : adj.walkAll colors (v :: vs) =
        if b then some true else adj.walkAll colors' vs := by
      rw [walkAll, heq]
      rfl
    rw [hall]
    cases b with
    | true => exact ⟨true, rfl, ha⟩
    | false =>
      rw [List.reverse_cons, List.append_assoc]
      exact walkAll_spec hr vs (v :: found) colors' (fun x hx => hvs x (List.mem_cons_of_mem v hx)) ha

/-- **The walk is done, and it has met an open vertex if and only if there is a cycle.** -/
theorem closes?_spec (hr : adj.InRange) :
    ∃ b, adj.closes? = some b ∧ (b = true ↔ ∃ v, TransGen adj.Edge v v) := by
  have hstart : Finds adj [] { colors := Array.replicate adj.size .white } := by
    have hcolor : ∀ (v : Nat) (c : Color), (Array.replicate adj.size Color.white)[v]? = some c →
        c = .white := fun v c hc => by
      rw [Array.getElem?_replicate] at hc
      split at hc
      · exact (Option.some.inj hc).symm
      · cases hc
    refine ⟨⟨by simp, List.nodup_nil, fun v => ⟨fun hv => ?_, nofun⟩, trivial, fun v w hv => ?_,
      fun v hv => ?_⟩, nofun⟩
    · cases hcolor v _ hv
    · cases hcolor v _ hv
    · cases hcolor v _ hv
  obtain ⟨b, heq, hb⟩ := walkAll_spec hr (List.range adj.size) [] _
    (fun v hv => List.mem_range.mp hv) hstart
  refine ⟨b, heq, ?_⟩
  cases b with
  | true => exact ⟨fun _ => hb, fun _ => rfl⟩
  | false =>
    obtain ⟨colors, h⟩ := hb
    refine ⟨nofun, ?_⟩
    rintro ⟨v, hv⟩
    -- no vertex is white or open, so all of them are finished
    have hlt : v < adj.size := by
      obtain ⟨w, hw, -⟩ := TransGen.head'_iff.mp hv
      exact hw.lt
    have hsize : v < colors.size := h.sound.size.symm ▸ hlt
    have hget := Array.getElem?_eq_getElem hsize
    cases hc : colors[v] with
    | white =>
      exact absurd (hget.trans (congrArg some hc)) (h.found v (by simpa using hlt))
    | gray => exact absurd ((h.sound.gray v).mp (hget.trans (congrArg some hc))) List.not_mem_nil
    | black => exact absurd hv (h.sound.acyclic v (hget.trans (congrArg some hc)))

/-- **There is a cycle if and only if the walk says so.** -/
theorem hasCycle_iff (hr : adj.InRange) : adj.hasCycle = true ↔ ∃ v, TransGen adj.Edge v v := by
  obtain ⟨b, heq, hb⟩ := closes?_spec hr
  rw [hasCycle, heq, Option.getD_some, hb]

end Adjacency
end ReactiveTree.Graph
