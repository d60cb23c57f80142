import ReactiveTree.Graph.Levels
import ReactiveTree.Proofs.Graph.Walks

/-!
# Lifting the targets of a vertex

When a vertex is taken off the graph, each of its targets that takes part is lifted above it and
loses an edge, once for every edge that leads there. If the targets have as many edges to lose, then
their degrees sink by the number of edges, their levels are above that of the vertex, and those that
have no edge left come to wait in the queue, each one once (`Adjacency.Lifted`).

Key definitions: `Leveling.degree`, `Leveling.level`, `Leveling.lifted`, `Adjacency.Lifted`.
Key theorems: `Leveling.lift_of_not_marked`, `Adjacency.Lifted.of_not_marked`,
`Adjacency.foldlM_lift`.
-/
namespace ReactiveTree.Graph

namespace Leveling

/-! ### One target -/

/-- How many sources of a vertex are left. -/
def degree (s : Leveling) (v : Nat) : Nat := (s.degrees[v]?).getD 0

def level (s : Leveling) (v : Nat) : Nat := (s.levels[v]?).getD 0

variable {out : Adjacency.Marks} {s : Leveling} {v w k : Nat}

/-- A target is lifted above a level, and loses an edge. -/
def lifted (k w : Nat) (s : Leveling) : Leveling :=
  { s with
    degrees := s.degrees.setIfInBounds w (s.degree w - 1)
    levels := s.levels.setIfInBounds w (max (s.level w) (k + 1))
    queue := if s.degree w = 1 then s.queue ++ [w] else s.queue }

theorem size_degrees_lifted : (s.lifted k w).degrees.size = s.degrees.size := by simp [lifted]

theorem size_levels_lifted : (s.lifted k w).levels.size = s.levels.size := by simp [lifted]

theorem degree_lifted (hw : w < s.degrees.size) (x : Nat) :
    (s.lifted k w).degree x = if w = x then s.degree w - 1 else s.degree x := by
  rw [degree, lifted, getElem?_put hw]
  split <;> rfl

theorem level_lifted (hw : w < s.levels.size) (x : Nat) :
    (s.lifted k w).level x = if w = x then max (s.level w) (k + 1) else s.level x := by
  rw [level, lifted, getElem?_put hw]
  split <;> rfl

theorem lift_of_marked (hw : out[w]? = some true) : lift out v s w = some s := by
  rw [lift, hw]
  rfl

/-- A target that takes part is lifted if there is an edge to take off. -/
theorem lift_of_not_marked (hw : out[w]? = some false) (hv : v < s.levels.size)
    (hl : w < s.levels.size) (hd : w < s.degrees.size) (hpos : 0 < s.degree w) :
    lift out v s w = some (s.lifted (s.level v) w) := by
  have hdegree : s.degrees[w]? = some (s.degree w) := by
    rw [degree, Array.getElem?_eq_getElem hd, Option.getD_some]
  have hlevel : ∀ {x}, x < s.levels.size → s.levels[x]? = some (s.level x) := fun hx => by
    rw [level, Array.getElem?_eq_getElem hx, Option.getD_some]
  obtain ⟨left, hleft⟩ := Nat.exists_eq_add_of_lt hpos
  have hsucc : s.degree w = left + 1 := by omega
  rw [lift, hw, hlevel hl, hlevel hv, hdegree, lifted, hsucc]
  change (put? s.levels w _).bind _ = _
  rw [put?_of_lt hl, Option.bind_some]
  change (put? s.degrees w left).bind _ = _
  rw [put?_of_lt hd, Option.bind_some]
  simp

end Leveling

namespace Adjacency

open Leveling

variable {out : Marks} {s s' : Leveling} {v w level : Nat} {ws : List Nat}

theorem getElem?_of_marked (h : marked out v = true) (hv : v < out.size) : out[v]? = some true := by
  rw [marked, Array.getElem?_eq_getElem hv] at h
  rw [Array.getElem?_eq_getElem hv]
  exact congrArg some h

theorem getElem?_of_not_marked (h : marked out v = false) : out[v]? = some false := by
  have hv := lt_of_not_marked h
  rw [marked, Array.getElem?_eq_getElem hv] at h
  rw [Array.getElem?_eq_getElem hv]
  exact congrArg some h

/-! ### All targets of a vertex -/

/-- What the targets of one vertex change: degrees sink by the number of edges, levels are lifted,
and those whose last source this was join the queue. -/
structure Lifted (out : Marks) (level : Nat) (ws : List Nat) (s s' : Leveling) : Prop where
  size_degrees : s'.degrees.size = s.degrees.size
  size_levels : s'.levels.size = s.levels.size
  order : s'.order = s.order
  degree : ∀ x, marked out x = false → s'.degree x = s.degree x - ws.count x
  level : ∀ x, s'.level x =
    if x ∈ ws ∧ marked out x = false then max (s.level x) (level + 1) else s.level x
  queue : ∃ new : List Nat, s'.queue = s.queue ++ new ∧ new.Nodup ∧
    ∀ x, x ∈ new ↔ marked out x = false ∧ x ∈ ws ∧ s.degree x = ws.count x

/-- A target that is left out changes nothing. -/
theorem Lifted.of_marked (hw : marked out w = true) (h : Lifted out level ws s s') :
    Lifted out level (w :: ws) s s' := by
  have hne : ∀ x, marked out x = false → w ≠ x := fun x hx he => by
    rw [← he, hw] at hx
    cases hx
  have hcount : ∀ x, marked out x = false → (w :: ws).count x = ws.count x := fun x hx =>
    List.count_cons_of_ne (hne x hx)
  obtain ⟨new, hq, hn, hnew⟩ := h.queue
  refine ⟨h.size_degrees, h.size_levels, h.order, fun x hx => ?_, fun x => ?_, new, hq, hn,
    fun x => ?_⟩
  · rw [hcount x hx, h.degree x hx]
  · rw [h.level x]
    by_cases hx : marked out x = false
    · simp [hx, (hne x hx).symm]
    · simp [hx]
  · rw [hnew x]
    by_cases hx : marked out x = false
    · simp [hx, (hne x hx).symm, hcount x hx]
    · simp [hx]

section Target

variable (hw : marked out w = false) (hd : s.degrees.size = out.size)
  (hc : ws.count w + 1 ≤ s.degree w) (h : Lifted out level ws (s.lifted level w) s')

include hw hd hc h

/-- What joins the queue if the first target is lifted before the others. -/
theorem Lifted.queue_of_not_marked : ∃ new : List Nat, s'.queue = s.queue ++ new ∧ new.Nodup ∧
    ∀ x, x ∈ new ↔ marked out x = false ∧ x ∈ w :: ws ∧ s.degree x = (w :: ws).count x := by
  have hdeg := degree_lifted (k := level) (hd.symm ▸ lt_of_not_marked hw : w < s.degrees.size)
  obtain ⟨new, hq, hn, hnew⟩ := h.queue
  refine ⟨(if s.degree w = 1 then [w] else []) ++ new, ?_, ?_, fun x => ?_⟩
  · rw [hq, lifted]
    split <;> simp
  · rw [List.nodup_append]
    refine ⟨by split <;> simp, hn, fun a ha b hb => ?_⟩
    split at ha
    · rename_i hz
      rw [List.mem_singleton] at ha
      subst ha
      rintro rfl
      obtain ⟨-, hmem, -⟩ := (hnew a).mp hb
      have := List.count_pos_iff.mpr hmem
      omega
    · cases ha
  · rw [List.mem_append, hnew x, hdeg]
    by_cases he : w = x
    · subst he
      have hpos : w ∈ ws ↔ 0 < ws.count w := List.count_pos_iff.symm
      simp only [hw, List.mem_cons, true_or, true_and, if_true, List.count_cons_self, hpos]
      split
      · simp only [List.mem_singleton, true_or, true_iff]
        omega
      · simp only [List.not_mem_nil, false_or]
        omega
    · have hno : x ∉ (if s.degree w = 1 then [w] else []) := by
        split
        · simpa using Ne.symm he
        · simp
      rw [if_neg he]
      simp only [hno, false_or, List.mem_cons, Ne.symm he, List.count_cons_of_ne he]

theorem Lifted.of_not_marked (hl : s.levels.size = out.size) :
    Lifted out level (w :: ws) s s' := by
  have hlt := lt_of_not_marked hw
  have hdeg := degree_lifted (k := level) (hd.symm ▸ hlt : w < s.degrees.size)
  have hlev := level_lifted (k := level) (hl.symm ▸ hlt : w < s.levels.size)
  refine ⟨h.size_degrees.trans size_degrees_lifted, h.size_levels.trans size_levels_lifted, h.order,
    fun x hx => ?_, fun x => ?_, h.queue_of_not_marked hw hd hc⟩
  · rw [h.degree x hx, hdeg]
    by_cases he : w = x
    · subst he
      rw [if_pos rfl, List.count_cons_self]
      omega
    · rw [if_neg he, List.count_cons_of_ne he]
  · rw [h.level x, hlev]
    by_cases he : w = x
    · subst he
      simp only [hw, List.mem_cons, true_or, and_true, if_true]
      split <;> omega
    · simp [he, Ne.symm he]

end Target

/-- **The targets of a vertex are lifted above it and lose its edges**, if they have as many. The
vertex is none of its own targets that take part, so its level stays. -/
theorem foldlM_lift (out : Marks) (v : Nat) : ∀ (ws : List Nat) (s : Leveling),
    s.degrees.size = out.size → s.levels.size = out.size → v < out.size →
    (∀ w ∈ ws, w < out.size ∧ (marked out w = false → w ≠ v)) →
    (∀ x, marked out x = false → ws.count x ≤ s.degree x) →
      ∃ s', ws.foldlM (lift out v) s = some s' ∧ Lifted out (s.level v) ws s s'
  | [], s, _, _, _, _, _ =>
    ⟨s, rfl, rfl, rfl, rfl, fun x _ => by simp, fun x => by simp, [], by simp⟩
  | w :: ws, s, hd, hl, hv, hws, hc => by
    obtain ⟨hlt, hne⟩ := hws w List.mem_cons_self
    have hrest := fun x hx => hws x (List.mem_cons_of_mem w hx)
    rw [List.foldlM_cons]
    cases hw : marked out w with
    | true =>
      rw [lift_of_marked (getElem?_of_marked hw hlt)]
      obtain ⟨s', heq, h⟩ := foldlM_lift out v ws s hd hl hv hrest fun x hx =>
        (List.count_le_count_cons).trans (hc x hx)
      exact ⟨s', heq, h.of_marked hw⟩
    | false =>
      have hcw := hc w hw
      rw [List.count_cons_self] at hcw
      have hlevel : (s.lifted (s.level v) w).level v = s.level v := by
        rw [level_lifted (hl.symm ▸ hlt), if_neg (hne hw)]
      obtain ⟨s', heq, h⟩ := foldlM_lift out v ws (s.lifted (s.level v) w)
        (size_degrees_lifted.trans hd) (size_levels_lifted.trans hl) hv hrest fun x hx => by
          rw [degree_lifted (hd.symm ▸ hlt)]
          split
          · rename_i he
            subst he
            omega
          · rename_i he
            have := hc x hx
            rwa [List.count_cons_of_ne he] at this
      rw [lift_of_not_marked (getElem?_of_not_marked hw) (hl.symm ▸ hv) (hl.symm ▸ hlt)
        (hd.symm ▸ hlt) (by omega)]
      rw [hlevel] at h
      exact ⟨s', heq, h.of_not_marked hw hd hcw hl⟩

end Adjacency
end ReactiveTree.Graph
