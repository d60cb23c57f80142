import ReactiveTree.Proofs.Reaction.Inputs
import ReactiveTree.Reaction.Pipeline

/-!
# What an evaluation leaves alone

An evaluation writes values and errors of tasks. Seen without these, the tree is the same before
and after: it has the same nodes in the same order, with the same kinds and traits, and nodes
without an expression are untouched. Values are written for outcomes only, so a task on a cycle
keeps its value, and so does one whose turns all fail. A reaction changes the tree by its
evaluation alone.

Key definitions: `Node.given`, `Node.Kept`, `Frame`.
Key theorems: `Working.given_turn`, `given_finish`, `value_of_failing`, `evaluate_frame`.
-/
namespace ReactiveTree

/-! ### What is given -/

/-- The traits but for an error that an expression may leave. -/
def Traits.given (r : Traits) : Traits := if r.expression.isSome then r.withoutError else r

theorem Traits.given_of_expression {r : Traits} (h : r.expression.isSome = true) :
    r.given = r.withoutError := if_pos h

theorem Traits.given_of_none {r : Traits} (h : r.expression = none) : r.given = r := by
  rw [given, h]
  rfl

theorem Traits.given_withError {r : Traits} (h : r.expression.isSome = true)
    (failure : Option String) : Traits.given { r with expressionError := failure } = r.given := by
  rw [given_of_expression h]
  exact if_pos h

@[simp] theorem Traits.withoutError_given (r : Traits) : r.given.withoutError = r.withoutError := by
  rw [given]
  split <;> rfl

/-- Everything but what an evaluation may write. -/
def Node.given (n : Node) : Node := n.recast Traits.given Scalar.blank

@[simp] theorem Node.traits_given (n : Node) : n.given.traits = n.traits.given :=
  traits_recast _ _ n

theorem Node.layout_given (n : Node) : n.given.layout = n.layout := by
  have hf : (fun r : Traits => r.given.withoutError) = Traits.withoutError :=
    funext Traits.withoutError_given
  have hg : (fun v : Scalar => v.blank.blank) = Scalar.blank :=
    funext fun v => Scalar.blank_eq_of_kind v.kind_blank
  rw [layout, given, recast_recast, hf, hg]
  rfl

/-- What an evaluation keeps of a node. -/
structure Node.Kept (n n' : Node) : Prop where
  kind : n'.kind = n.kind
  traits : n'.traits.withoutError = n.traits.withoutError
  /-- A node without an expression keeps everything. -/
  plain : n.traits.expression = none → n'.traits = n.traits ∧ n'.value? = n.value?

theorem Node.kept_of_given {n n' : Node} (h : n.given = n'.given)
    (hv : n.isPrimitive = true → n.traits.expression = none → n'.value? = n.value?) :
    n.Kept n' := by
  have hl : n.layout = n'.layout := by rw [← layout_given n, h, layout_given]
  have ht := traits_eq_of_layout hl
  refine ⟨(kind_eq_of_layout hl).symm, ht.symm, fun he => ⟨?_, ?_⟩⟩
  · have he' : n'.traits.expression = none := (congrArg Traits.expression ht).symm.trans he
    rw [← Traits.given_of_none he', ← traits_given, ← h, traits_given, Traits.given_of_none he]
  · cases hp : n.isPrimitive with
    | true => exact hv hp he
    | false =>
      rw [value?_of_container hp, value?_of_container ((isPrimitive_eq_of_layout hl).symm.trans hp)]

/-- Two trees differ in nothing but what evaluations write. -/
def Tree.SameGiven (a b : Tree) : Prop := a.root.given = b.root.given

theorem Tree.SameGiven.sameLayout {a b : Tree} (h : a.SameGiven b) : a.SameLayout b := by
  rw [SameLayout, ← Node.layout_given, h, Node.layout_given]

namespace Reaction

open Snippet (Engine)
open ReactiveTree.Graph (DependencyGraph)

variable {engine : Engine} {t : Tree} {x : Task} {ts : List Task} {w : Working} {n : Nat}

/-! ### Writes of a task -/

namespace Working

/-- The node of a task has an expression in every tree of the layout. -/
theorem expression_of_sameLayout (ht : t.Valid) (hx : x ∈ tasks t (.ofTree t)) {c : Tree}
    (h : t.SameLayout c) {m : Node} (hm : c.get? x.path = some m) :
    m.traits.expression.isSome = true := by
  obtain ⟨e, he, hp, -, hs⟩ := entry_of_task hx
  obtain ⟨m', hm', hl⟩ := h.get?_eq_some (Tree.get?_of_mem_primitives ht he)
  obtain rfl := Option.some.inj ((hp ▸ hm').symm.trans hm)
  have hr := congrArg Traits.expression (Node.traits_eq_of_layout hl)
  exact Option.isSome_iff_exists.mpr ⟨x.source, hr.symm.trans hs⟩

/-- The error of a task is not given. -/
theorem given_record (ht : t.Valid) (hx : x ∈ tasks t (.ofTree t)) (h : t.SameGiven w.tree)
    (failure : Option String) : t.SameGiven (w.record x.path failure).tree := by
  obtain ⟨r, u, hn, -⟩ := (listed_of_task hx).get?_of_layout ht h.sameLayout
  have hr : r.expression.isSome = true := expression_of_sameLayout ht hx h.sameLayout hn
  refine Eq.trans h (Eq.symm (Tree.recast_modify_id hn ?_))
  exact congrArg (Node.leaf · u.blank) (Traits.given_withError hr failure)

/-- The value of a task is not given. -/
theorem given_write (ht : t.Valid) (hx : x ∈ tasks t (.ofTree t)) (h : t.SameGiven w.tree)
    {v : Scalar} (hv : v.kind = x.kind) : t.SameGiven (w.write x.path v).tree := by
  cases hsame : (w.tree.value? x.path).any (·.same v) with
  | true =>
    rw [write_of_same hsame]
    exact h
  | false =>
    obtain ⟨r, u, hn, hu⟩ := (listed_of_task hx).get?_of_layout ht h.sameLayout
    rw [write_of_not_same hsame]
    refine Eq.trans h (Eq.symm (Tree.recast_modify_id hn ?_))
    exact congrArg (Node.leaf _) (Scalar.blank_eq_of_kind (hv.trans hu.symm))

/-- **A turn writes nothing that is given.** -/
theorem given_turn (ht : t.Valid) (hx : x ∈ tasks t (.ofTree t)) (h : t.SameGiven w.tree) :
    t.SameGiven (w.turn x).tree := by
  rw [turn_eq]
  let w' : Working := { w with engine := (compute w.engine x).2 }
  have hw : t.SameGiven w'.tree := h
  cases hr : (compute w.engine x).1 with
  | error err => exact given_record ht hx hw _
  | ok v => exact given_record ht hx (given_write ht hx hw (kind_of_compute hr)) none

theorem given_reject (ht : t.Valid) : ∀ (ts : List Task) {w : Working},
    (∀ x ∈ ts, x ∈ tasks t (.ofTree t)) → t.SameGiven w.tree → t.SameGiven (reject ts w).tree
  | [], _, _, h => h
  | x :: ts, _, hts, h =>
    given_reject ht ts (fun y hy => hts y (List.mem_cons_of_mem x hy))
      (given_record ht (hts x List.mem_cons_self) h _)

end Working

/-! ### An evaluation -/

/-- **An evaluation writes nothing that is given.** -/
theorem given_finish (engine : Engine) (ht : t.Valid) (n : Nat) :
    t.SameGiven (finish engine t n).1.tree := by
  obtain ⟨hf, -⟩ := Working.begin_spec engine ht
  have hbegin : t.SameGiven (Working.begin engine t).tree :=
    Working.given_reject ht (looping t) (w := { tree := t, engine })
      (fun x hx => (mem_looping.mp hx).1) rfl
  rw [finish]
  split
  · exact hbegin
  · exact Working.settle_keeps ht listed_of_runnable n 0 _ hf
      (fun q _ _ hq hI => Working.given_turn ht (mem_runnable.mp hq).1 hI) hbegin

/-- The turns are the evaluations that the report counts, without those on cycles. -/
theorem evaluations_eq (engine : Engine) (t : Tree) (n : Nat) : (evaluate engine t n).1.evaluations =
    (looping t).length + (evaluationTurns engine t n).length := by
  have hturns := Working.length_allTurns (runnable t) n 0 (Working.begin engine t)
  rw [Nat.zero_mul, Nat.zero_add] at hturns
  cases h : (tasks t (.ofTree t)).isEmpty with
  | true =>
    obtain ⟨he, -⟩ := finish_of_no_tasks engine h n
    obtain ⟨hr, hl⟩ := nil_of_no_tasks h
    rw [he, hl, evaluationTurns, hturns, hr]
    rfl
  | false =>
    rw [evaluate_of_tasks engine h, evaluationTurns, hturns]
    dsimp only
    rw [finish]
    split
    · rename_i hr
      rw [List.isEmpty_iff.mp hr, List.length_nil, Nat.mul_zero, Nat.mul_zero]
    · rfl

/-- **A primitive keeps its value if all turns at its path fail.** -/
theorem value_of_failing (engine : Engine) (ht : t.Valid) (n : Nat) {e : Entry}
    (he : e ∈ t.primitives) (hfail : ∀ q ∈ evaluationTurns engine t n, q.2.path = e.path →
      ∃ err, (compute q.1.engine q.2).1 = .error err) :
    (finish engine t n).1.tree.value? e.path = t.value? e.path := by
  obtain ⟨hf, hcontent, -⟩ := Working.begin_spec engine ht
  rw [← hcontent.value?_eq, finish]
  split
  · rfl
  · refine Working.settle_keeps
      (I := fun c => c.value? e.path = (Working.begin engine t).tree.value? e.path)
      ht listed_of_runnable n 0 _ hf (fun q hq hfollows hmem hI => ?_) rfl
    have hturn := Working.turn_spec ht hfollows (listed_of_runnable _ hmem)
    -- A turn at the path writes no value, and one at another path does not get to the node.
    by_cases hp : q.2.path = e.path
    · obtain ⟨err, herr⟩ := hfail q hq hp
      rw [hfollows.fst_compute] at herr
      rcases hturn.value he with hv | ⟨v, hv, -⟩
      · exact hv.trans hI
      · rw [herr] at hv
        cases hv
    · have hframe := hturn.frame e he fun h => hp h.symm
      exact (congrArg (·.bind (·.value?)) hframe).trans hI

/-- Lists are related one by one if a map shows them alike and tells what is related. -/
theorem forall₂_of_map_eq {α β : Type} {F : α → β} {R : α → α → Prop} : ∀ {xs ys : List α},
    xs.map F = ys.map F → (∀ x ∈ xs, ∀ y ∈ ys, F x = F y → R x y) → List.Forall₂ R xs ys
  | [], [], _, _ => .nil
  | x :: xs, y :: ys, h, hR => by
    simp only [List.map_cons, List.cons.injEq] at h
    exact .cons (hR x List.mem_cons_self y List.mem_cons_self h.1) (forall₂_of_map_eq h.2
      fun a ha b hb => hR a (List.mem_cons_of_mem x ha) b (List.mem_cons_of_mem y hb))

/-- What an evaluation with some engine and limit of passes leaves of a tree. -/
structure Frame (engine : Engine) (n : Nat) (t t' : Tree) : Prop where
  root : t.root.Kept t'.root
  /-- The same paths in the same order, with nodes that are kept. -/
  entries : List.Forall₂ (fun e e' => e'.path = e.path ∧ e.node.Kept e'.node)
    (t.entries .everything) (t'.entries .everything)
  cyclic : ∀ p, (DependencyGraph.ofTree t).OnCycle p → t'.value? p = t.value? p
  failing : ∀ e ∈ t.primitives, (∀ q ∈ evaluationTurns engine t n, q.2.path = e.path →
    ∃ err, (compute q.1.engine q.2).1 = .error err) → t'.value? e.path = t.value? e.path

/-- A primitive without an expression has no turns. -/
theorem value_of_plain (engine : Engine) (ht : t.Valid) (n : Nat) {e : Entry}
    (he : e ∈ t.primitives) (hs : e.node.traits.expression = none) :
    (finish engine t n).1.tree.value? e.path = t.value? e.path := by
  refine value_kept engine ht n he fun x hx hp => ?_
  obtain ⟨e', he', hp', -, hs'⟩ := entry_of_task (mem_runnable.mp hx).1
  obtain rfl := List.inj_on_of_nodup_map (Tree.nodup_primitives ht) he he' (hp.trans hp'.symm)
  rw [hs] at hs'
  cases hs'

/-- Listed nodes that agree in what is given are kept. -/
theorem kept_of_mem_entries (engine : Engine) (ht : t.Valid) (n : Nat) {e e' : Entry}
    (he : e ∈ t.entries .everything) (he' : e' ∈ (finish engine t n).1.tree.entries .everything)
    (hp : e'.path = e.path) (hg : e.node.given = e'.node.given) : e.node.Kept e'.node := by
  refine Node.kept_of_given hg fun hprim hs => ?_
  have hv := value_of_plain engine ht n (Tree.mem_primitives_iff.mpr ⟨he, hprim⟩) hs
  rwa [Tree.value?, Tree.value?, Tree.get?_of_mem_entries ht he, ← hp,
    Tree.get?_of_mem_entries (finish_valid engine ht n) he'] at hv

theorem frame_finish (engine : Engine) (ht : t.Valid) (n : Nat) :
    Frame engine n t (finish engine t n).1.tree := by
  have hgiven : t.root.given = (finish engine t n).1.tree.root.given := given_finish engine ht n
  refine ⟨Node.kept_of_given hgiven fun hp _ => ?_, ?_, fun p hp => ?_, fun e he hfail => ?_⟩
  · rw [ht.isPrimitive_root] at hp
    cases hp
  · have hlist : (t.entries .everything).map (fun e => (⟨e.path, e.node.given⟩ : Entry)) =
        ((finish engine t n).1.tree.entries .everything).map fun e => ⟨e.path, e.node.given⟩ := by
      have h := congrArg (Node.entries .everything) hgiven
      rwa [Node.given, Node.given, Node.entries_recast rfl, Node.entries_recast rfl] at h
    refine forall₂_of_map_eq hlist fun e he e' he' heq => ?_
    obtain ⟨hp, hg⟩ := Entry.mk.inj heq
    exact ⟨hp.symm, kept_of_mem_entries engine ht n he he' hp.symm hg⟩
  · obtain ⟨x, hx, rfl⟩ := task_of_onCycle hp
    obtain ⟨e, he, hpath, -⟩ := entry_of_task (mem_looping.mp hx).1
    rw [← hpath]
    refine value_kept engine ht n he fun y hy hy' => (mem_runnable.mp hy).2 ?_
    rw [← hy', hpath]
    exact hp
  · exact value_of_failing engine ht n he hfail

/-- **An evaluation touches computed values and their errors only**, and so does a reaction. -/
theorem evaluate_frame (ht : t.Valid) :
    (∀ engine n, Frame engine n t (evaluate engine t n).2.1) ∧
      ∀ (p : Pipeline) (previous : Option Snapshot),
        Frame p.engine p.maxPasses t (p.react t previous).2.1 := by
  have h : ∀ engine n, Frame engine n t (evaluate engine t n).2.1 := fun engine n => by
    rw [tree_evaluate]
    exact frame_finish engine ht n
  exact ⟨h, fun p _ => h p.engine p.maxPasses⟩

/-- Two switches that read each other keep their values, and the lamp that follows one changes. -/
theorem evaluate_frame_loop : (evaluate {} loop 2).1.changes = ["lamp"] ∧
    Frame {} 2 loop (evaluate {} loop 2).2.1 ∧
    Frame {} 16 loop (({} : Pipeline).react loop none).2.1 :=
  ⟨by decide +kernel, (evaluate_frame ⟨rfl, rfl⟩).1 {} 2, (evaluate_frame ⟨rfl, rfl⟩).2 {} none⟩

end Reaction
end ReactiveTree
