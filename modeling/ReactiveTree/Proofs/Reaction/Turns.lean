import ReactiveTree.Proofs.Reaction.Outcome
import ReactiveTree.Proofs.Reaction.Tasks
import ReactiveTree.Proofs.Writes

/-!
# One turn of a task

While expressions run, the tree keeps its layout, and the engine's copy has the content of the
tree, although it misses the errors that are written (`Working.Follows`). So a turn gives the
outcome of its expression on the tree as it stands. It writes the outcome to the node of the task:
a failure, or a value unless the present one is the same, and it leaves every other primitive
(`Working.turn_spec`).

Key definitions: `Task.Listed`, `failureOf`, `Shows`, `Working.Follows`, `Working.Turned`.
Key theorems: `Working.Follows.fst_compute`, `Working.turn_spec`.
-/
namespace ReactiveTree.Reaction

open Snippet (Engine)

variable {engine : Engine} {t : Tree} {x : Task} {w : Working} {e : Entry} {path : String}

/-- The task is about a listed primitive of its kind. -/
def Task.Listed (t : Tree) (x : Task) : Prop :=
  ∃ e ∈ t.primitives, e.path = x.path ∧ e.node.kind = x.kind

theorem listed_of_task {g : Graph.DependencyGraph} (h : x ∈ tasks t g) : x.Listed t := by
  obtain ⟨e, he, hp, hk, -⟩ := entry_of_task h
  exact ⟨e, he, hp, hk⟩

/-- The node of a task is a primitive of the task's kind in every tree of the layout. -/
theorem Task.Listed.get?_of_layout (ht : t.Valid) (hx : x.Listed t) {c : Tree}
    (h : t.SameLayout c) : ∃ r v, c.get? x.path = some (.leaf r v) ∧ v.kind = x.kind := by
  obtain ⟨e, he, hp, hk⟩ := hx
  obtain ⟨m, hm, hl⟩ := h.get?_eq_some (Tree.get?_of_mem_primitives ht he)
  obtain ⟨-, -, -, -, hprim⟩ := Tree.mem_primitives.mp he
  rw [Node.isPrimitive_eq_of_layout hl] at hprim
  rw [Node.kind_eq_of_layout hl] at hk
  cases m with
  | object r cs => cases hprim
  | array r is => cases hprim
  | leaf r v => exact ⟨r, v, hp ▸ hm, hk⟩

/-- The text of the error that an outcome leaves, if it is one. -/
def failureOf : Except ExpressionError Scalar → Option String
  | .ok _ => none
  | .error e => some e.message

/-- The node at a path shows an outcome: the error is there, or the value is and no error. -/
def Shows (tree : Tree) (path : String) (r : Except ExpressionError Scalar) : Prop :=
  ∃ n, tree.get? path = some n ∧ n.traits.expressionError = failureOf r ∧
    ∀ v, r = .ok v → ∃ u, n.value? = some u ∧ u.same v = true

namespace Working

/-- What holds of the tree and of the engine's copy while expressions run. -/
structure Follows (engine : Engine) (t : Tree) (w : Working) : Prop where
  layout : t.SameLayout w.tree
  agrees : w.engine.Agrees engine
  copy : ∃ c, w.engine.tree = some c ∧ c.SameContent w.tree

/-- **A turn gives the outcome of its expression on the tree as it stands.** -/
theorem Follows.fst_compute (h : w.Follows engine t) (x : Task) :
    (compute w.engine x).1 = outcome engine w.tree x := by
  obtain ⟨c, hc, hcontent⟩ := h.copy
  have hload : w.engine.load c = w.engine := by
    rw [Engine.load, ← hc]
  rw [← outcome_agrees h.agrees hcontent, outcome, hload]

/-- The node of a task is a primitive of the task's kind. -/
theorem Follows.get?_task (ht : t.Valid) (h : w.Follows engine t) (hx : x.Listed t) :
    ∃ r v, w.tree.get? x.path = some (.leaf r v) ∧ v.kind = x.kind :=
  hx.get?_of_layout ht h.layout

/-- Changing the node of a task leaves the other primitives. -/
theorem Follows.get?_modify_ne (ht : t.Valid) (h : w.Follows engine t) (hx : x.Listed t)
    (he : e ∈ t.primitives) (hne : e.path ≠ x.path) (f : Node → Node) :
    (w.tree.modify f x.path).get? e.path = w.tree.get? e.path := by
  obtain ⟨e', he', hp, -⟩ := hx
  rw [← hp]
  exact Tree.get?_modify_ne_of_layout ht h.layout he' he (by rw [hp]; exact hne.symm) f

/-! ### Writing a failure -/

theorem tree_record (w : Working) (path : String) (failure : Option String) :
    (w.record path failure).tree = w.tree.modify
      (fun n => n.withTraits { n.traits with expressionError := failure }) path := rfl

theorem traits_withTraits (n : Node) (r : Traits) : (n.withTraits r).traits = r := by
  cases n <;> rfl

theorem content_withTraits (n : Node) (failure : Option String) :
    (n.withTraits { n.traits with expressionError := failure }).content = n.content := by
  cases n <;> rfl

theorem sameContent_record {n : Node} (hn : w.tree.get? path = some n) (failure : Option String) :
    (w.record path failure).tree.SameContent w.tree :=
  Tree.sameContent_modify hn (content_withTraits n failure)

theorem Follows.record {n : Node} (h : w.Follows engine t) (hn : w.tree.get? path = some n)
    (failure : Option String) : (w.record path failure).Follows engine t := by
  obtain ⟨c, hc, hcontent⟩ := h.copy
  have hr := (sameContent_record hn failure).symm
  exact ⟨h.layout.trans hr.sameLayout, h.agrees, c, hc, hcontent.trans hr⟩

/-! ### Writing a value -/

variable {v : Scalar}

theorem write_of_same (h : (w.tree.value? path).any (·.same v) = true) : w.write path v = w := by
  rw [Working.write, if_pos h]

theorem write_of_not_same (h : (w.tree.value? path).any (·.same v) = false) :
    w.write path v =
      { w with
        tree := w.tree.modify (fun n => (n.setValue? v).getD n) path
        engine := w.engine.update path v
        changed := true } := by
  rw [Working.write, h]
  rfl

theorem leaf_of_content {m : Node} {r : Traits} {u : Scalar}
    (h : m.content = (Node.leaf r u).content) :
    ∃ r', m = .leaf r' u ∧ r'.withoutError = r.withoutError := by
  cases m with
  | object r' cs => cases h
  | array r' is => cases h
  | leaf r' u' =>
    injection h with hr hu
    exact ⟨r', congrArg _ hu, hr⟩

/-- The engine's copy follows a value that is written to a primitive. -/
theorem content_update {c tree : Tree} {r : Traits} {u : Scalar} (hc : c.SameContent tree)
    (hn : tree.get? path = some (.leaf r u)) (v : Scalar) :
    ((c.setPrimitive path v).toOption.getD c).SameContent
      (tree.modify (fun n => (n.setValue? v).getD n) path) := by
  have hm := hc.map_get? path
  rw [hn, Option.map_some, Option.map_eq_some_iff] at hm
  obtain ⟨m, hm, hcm⟩ := hm
  obtain ⟨r', rfl, hr⟩ := leaf_of_content hcm
  have hset : c.setPrimitive path v = .ok (c.modify (fun _ => .leaf r' v) path) := by
    rw [Tree.setPrimitive, hm]
    rfl
  rw [hset]
  refine hc.modify hm hn ?_
  exact congrArg (Node.leaf · v) hr

theorem Follows.write (ht : t.Valid) (h : w.Follows engine t) (hx : x.Listed t)
    (hv : v.kind = x.kind) : (w.write x.path v).Follows engine t := by
  by_cases hsame : (w.tree.value? x.path).any (·.same v) = true
  · rw [write_of_same hsame]
    exact h
  · rw [Bool.not_eq_true] at hsame
    obtain ⟨r, u, hn, hu⟩ := h.get?_task ht hx
    obtain ⟨c, hc, hcontent⟩ := h.copy
    rw [write_of_not_same hsame]
    refine ⟨h.layout.trans (Tree.sameLayout_modify hn ?_).symm,
      (Engine.agrees_update _ _ _).trans h.agrees, _, ?_, content_update hcontent hn v⟩
    · exact congrArg (Node.leaf _) (Scalar.blank_eq_of_kind (hv.trans hu.symm))
    · rw [Engine.update, hc, Option.map_some]

/-- After a write the node has a value that is the same as the given one. -/
theorem Follows.value_write (ht : t.Valid) (h : w.Follows engine t) (hx : x.Listed t) (v : Scalar) :
    ∃ r u, (w.write x.path v).tree.get? x.path = some (.leaf r u) ∧ u.same v = true := by
  obtain ⟨r, u, hn, -⟩ := h.get?_task ht hx
  have hvalue : w.tree.value? x.path = some u := by
    rw [Tree.value?, hn]
    rfl
  by_cases hsame : u.same v = true
  · rw [write_of_same (by rw [hvalue]; exact hsame)]
    exact ⟨r, u, hn, hsame⟩
  · rw [Bool.not_eq_true] at hsame
    rw [write_of_not_same (by rw [hvalue]; exact hsame)]
    exact ⟨r, v, Tree.get?_modify_self hn, v.same_refl⟩

/-- The content stays, or the value is new and is written. -/
theorem Follows.changed_write (ht : t.Valid) (h : w.Follows engine t) (hx : x.Listed t)
    (v : Scalar) : w.write x.path v = w ∨
      (w.write x.path v).changed = true ∧ (w.write x.path v).tree.value? x.path = some v ∧
        (w.tree.value? x.path).any (·.same v) = false := by
  by_cases hsame : (w.tree.value? x.path).any (·.same v) = true
  · exact .inl (write_of_same hsame)
  · rw [Bool.not_eq_true] at hsame
    obtain ⟨r, u, hn, -⟩ := h.get?_task ht hx
    rw [write_of_not_same hsame]
    refine .inr ⟨rfl, ?_, hsame⟩
    rw [Tree.value?, Tree.get?_modify_self hn]
    rfl

theorem Follows.frame_write (ht : t.Valid) (h : w.Follows engine t) (hx : x.Listed t)
    (v : Scalar) (he : e ∈ t.primitives) (hne : e.path ≠ x.path) :
    (w.write x.path v).tree.get? e.path = w.tree.get? e.path := by
  by_cases hsame : (w.tree.value? x.path).any (·.same v) = true
  · rw [write_of_same hsame]
  · rw [Bool.not_eq_true] at hsame
    rw [write_of_not_same hsame]
    exact h.get?_modify_ne ht hx he hne _

theorem failures_write (w : Working) (path : String) (v : Scalar) :
    (w.write path v).failures = w.failures := by
  unfold Working.write
  split <;> rfl

/-! ### The turn -/

/-- What a turn of a task does. -/
structure Turned (engine : Engine) (t : Tree) (x : Task) (w w' : Working) : Prop where
  follows : w'.Follows engine t
  frame : ∀ e ∈ t.primitives, e.path ≠ x.path → w'.tree.get? e.path = w.tree.get? e.path
  shows : Shows w'.tree x.path (outcome engine w.tree x)
  /-- The content stays, or the outcome is a new value and is written. -/
  written : w'.changed = w.changed ∧ w'.tree.SameContent w.tree ∨
    w'.changed = true ∧ ∃ v, outcome engine w.tree x = .ok v ∧ w'.tree.value? x.path = some v ∧
      (w.tree.value? x.path).any (·.same v) = false
  failures : ∀ p, Json.lookup p w'.failures =
    if x.path = p then some (failureOf (outcome engine w.tree x)) else Json.lookup p w.failures

/-- A turn leaves the value of a primitive, or the outcome is that value now. -/
theorem Turned.value {w' : Working} (h : Turned engine t x w w') (he : e ∈ t.primitives) :
    w'.tree.value? e.path = w.tree.value? e.path ∨
      ∃ v, outcome engine w.tree x = .ok v ∧ w'.tree.value? e.path = some v := by
  rcases h.written with ⟨-, hc⟩ | ⟨-, v, hv, hvalue, -⟩
  · exact .inl (hc.value?_eq e.path)
  · by_cases hp : e.path = x.path
    · exact .inr ⟨v, hv, hp ▸ hvalue⟩
    · exact .inl (congrArg (·.bind (·.value?)) (h.frame e he hp))

theorem turn_eq (w : Working) (x : Task) : w.turn x =
    match (compute w.engine x).1 with
    | .ok v => (({ w with engine := (compute w.engine x).2 }).write x.path v).record x.path none
    | .error e =>
      ({ w with engine := (compute w.engine x).2 }).record x.path (some e.message) := rfl

/-- Running the expression changes neither the tree nor what the engine shows. -/
theorem Follows.compute (h : w.Follows engine t) (x : Task) :
    ({ w with engine := (compute w.engine x).2 } : Working).Follows engine t := by
  obtain ⟨c, hc, hcontent⟩ := h.copy
  obtain ⟨ha, htree⟩ := Engine.eval_snd w.engine x.source [("path", .string x.path)]
  rw [← snd_compute] at ha htree
  exact ⟨h.layout, ha.trans h.agrees, c, htree.trans hc, hcontent⟩

theorem get?_record {n : Node} (hn : w.tree.get? path = some n) (failure : Option String) :
    (w.record path failure).tree.get? path =
      some (n.withTraits { n.traits with expressionError := failure }) :=
  Tree.get?_modify_self hn

theorem lookup_record (w : Working) (path : String) (failure : Option String) (p : String) :
    Json.lookup p (w.record path failure).failures =
      if path = p then some failure else Json.lookup p w.failures :=
  Json.lookup_upsert path failure w.failures

theorem turned_of_error (ht : t.Valid) (h : w.Follows engine t) (hx : x.Listed t)
    {err : ExpressionError} (hr : outcome engine w.tree x = .error err) (e : Engine)
    (hw : ({ w with engine := e } : Working).Follows engine t) :
    Turned engine t x w (({ w with engine := e } : Working).record x.path (some err.message)) := by
  obtain ⟨r, u, hn, -⟩ := h.get?_task ht hx
  refine ⟨hw.record hn _, fun e he hne => hw.get?_modify_ne ht hx he hne _, ?_,
    .inl ⟨rfl, sameContent_record hn _⟩, fun p => ?_⟩
  · rw [hr]
    exact ⟨_, get?_record hn _, rfl, fun v hv => by cases hv⟩
  · rw [hr]
    exact lookup_record _ _ _ _

theorem turned_of_ok (ht : t.Valid) (hx : x.Listed t) {v : Scalar}
    (hr : outcome engine w.tree x = .ok v) (e : Engine)
    (hw : ({ w with engine := e } : Working).Follows engine t) :
    Turned engine t x w
      ((({ w with engine := e } : Working).write x.path v).record x.path none) := by
  have hw' := hw.write ht hx (kind_of_compute hr)
  obtain ⟨r, u, hn, hsame⟩ := hw.value_write ht hx v
  have hcontent := sameContent_record hn none
  refine ⟨hw'.record hn none, fun e he hne => ?_, ?_, ?_, fun p => ?_⟩
  · exact (hw'.get?_modify_ne ht hx he hne _).trans (hw.frame_write ht hx v he hne)
  · rw [hr]
    exact ⟨_, get?_record hn none, rfl, fun v' hv' => ⟨u, rfl, by cases hv'; exact hsame⟩⟩
  · rcases hw.changed_write ht hx v with heq | ⟨hc, hvalue, hnot⟩
    · rw [heq] at hcontent ⊢
      exact .inl ⟨rfl, hcontent⟩
    · exact .inr ⟨hc, v, hr, (hcontent.value?_eq x.path).trans hvalue, hnot⟩
  · rw [hr, lookup_record, failures_write]
    rfl

/-- **A turn writes the outcome of its expression to its node, and nothing else.** -/
theorem turn_spec (ht : t.Valid) (h : w.Follows engine t) (hx : x.Listed t) :
    Turned engine t x w (w.turn x) := by
  have hw := h.compute x
  rw [turn_eq, h.fst_compute x]
  cases hr : outcome engine w.tree x with
  | error err => exact turned_of_error ht h hx hr _ hw
  | ok v => exact turned_of_ok ht hx hr _ hw

end Working
end ReactiveTree.Reaction
