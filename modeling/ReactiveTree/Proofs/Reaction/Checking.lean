import ReactiveTree.Proofs.Reaction.Outcome
import ReactiveTree.Reaction.Validation

/-!
# Every node is checked by itself

Checking a tree goes from node to node with patterns that are kept and an engine that keeps
snippets and collects lines. What is kept is what would be made anew, so the messages of a tree are
those that its nodes give one by one (`fst_checkTree`), and checking the same tree again gives the
same messages (`checkTree_agrees`).

Key definitions: `Engine.SameView`, `Validator.Agrees`, `Validator.messageOf`.
Key theorems: `Validator.kept_checkNode`, `Validator.checkNode_agrees`, `Validator.fst_checkTree`,
`Validator.checkTree_agrees`.
-/
namespace ReactiveTree

namespace Snippet.Engine

variable {e e' : Engine}

/-- Two engines agree and show the same tree. -/
structure SameView (e e' : Engine) : Prop where
  agrees : e.Agrees e'
  tree : e.tree = e'.tree

theorem SameView.refl (e : Engine) : e.SameView e := ⟨.refl e, rfl⟩

theorem SameView.trans {e'' : Engine} (h : e.SameView e') (h' : e'.SameView e'') :
    e.SameView e'' := ⟨h.agrees.trans h'.agrees, h.tree.trans h'.tree⟩

theorem SameView.load (h : e.Agrees e') (t : Tree) : (e.load t).SameView (e'.load t) :=
  ⟨(agrees_load e t).trans (h.trans (agrees_load e' t).symm), rfl⟩

theorem SameView.fst_eval (h : e.SameView e') (source : String) (bindings : Bindings) :
    (e.eval source bindings).1 = (e'.eval source bindings).1 := by
  refine eval_agrees h.agrees (funext fun path => ?_) ?_ source bindings
  · rw [read, read, h.tree]
  · rw [root, root, h.tree]

theorem sameView_eval (e : Engine) (source : String) (bindings : Bindings) :
    (e.eval source bindings).2.SameView e :=
  ⟨(eval_snd e source bindings).1, (eval_snd e source bindings).2⟩

end Snippet.Engine

namespace Reaction

open Snippet (Engine)

namespace Validator

variable {v v' : Validator} {e e' : Engine} {t : Tree}

/-! ### Kept patterns -/

/-- Two validators make the same of every pattern. -/
def Agrees (v v' : Validator) : Prop := ∀ text, (v.pattern text).1 = (v'.pattern text).1

theorem Agrees.refl (v : Validator) : v.Agrees v := fun _ => rfl

theorem Agrees.trans {v'' : Validator} (h : v.Agrees v') (h' : v'.Agrees v'') : v.Agrees v'' :=
  fun text => (h text).trans (h' text)

theorem fst_pattern (v : Validator) (text : String) :
    (v.pattern text).1 = (Json.lookup text v.patterns).getD (Pattern.ofText text) := by
  rw [pattern]
  split <;> rename_i h <;> rw [h] <;> rfl

/-- Keeping a pattern does not change what is made of the others. -/
theorem agrees_pattern (v : Validator) (text : String) : (v.pattern text).2.Agrees v := by
  intro other
  rw [fst_pattern, fst_pattern, pattern]
  split
  · rfl
  · rename_i h
    rw [Json.lookup_append, Json.lookup_cons]
    split
    · rename_i he
      rw [← he, h]
      rfl
    · rw [Json.lookup, Option.or_none]

theorem agrees_checkPattern (v : Validator) (rules : Rules) (value : Scalar) :
    (v.checkPattern rules value).2.Agrees v := by
  unfold checkPattern
  split
  · rename_i text s _
    have h := agrees_pattern v text
    split <;> rename_i heq <;> rwa [heq] at h
  · exact .refl v

theorem checkPattern_agrees (h : v.Agrees v') (rules : Rules) (value : Scalar) :
    (v.checkPattern rules value).1 = (v'.checkPattern rules value).1 := by
  unfold checkPattern
  split
  · rename_i text s _
    have ht := h text
    rcases hw : v.pattern text with ⟨r, w⟩
    rcases hw' : v'.pattern text with ⟨r', w'⟩
    rw [hw, hw'] at ht
    obtain rfl : r = r' := ht
    cases r <;> rfl
  · rfl

/-! ### One node -/

/-- Checking a node keeps what later checks see. -/
theorem kept_checkNode (v : Validator) (e : Engine) (path : String) (value : Scalar)
    (rules : Rules) : (v.checkNode e path value rules).2.1.Agrees v ∧
      (v.checkNode e path value rules).2.2.SameView e := by
  have hp := agrees_checkPattern v rules value
  unfold checkNode
  split
  · exact ⟨.refl v, .refl e⟩
  · split
    · exact ⟨.refl v, .refl e⟩
    · split <;> rename_i heq <;> rw [heq] at hp
      · exact ⟨hp, .refl e⟩
      · split
        · exact ⟨hp, .refl e⟩
        · exact ⟨hp, Engine.sameView_eval _ _ _⟩

/-- What checking a node gives depends on what patterns and the custom snippet give. -/
theorem checkNode_agrees (hv : v.Agrees v') (he : e.SameView e') (path : String) (value : Scalar)
    (rules : Rules) :
    (v.checkNode e path value rules).1 = (v'.checkNode e' path value rules).1 := by
  have hp := checkPattern_agrees hv rules value
  unfold checkNode
  split
  · rfl
  · split
    · rfl
    · rcases hw : v.checkPattern rules value with ⟨r, w⟩
      rcases hw' : v'.checkPattern rules value with ⟨r', w'⟩
      rw [hw, hw'] at hp
      obtain rfl : r = r' := hp
      cases r with
      | some violation => rfl
      | none =>
        cases rules.custom with
        | none => rfl
        | some source => exact congrArg ofResult (he.fst_eval source _)

/-- The message that a node gives by itself, with its path. -/
def messageOf (v : Validator) (e : Engine) (entry : Entry) : Option (String × String) :=
  match entry.node.traits.validation, entry.node.value? with
  | some rules, some value =>
    (v.checkNode e entry.path value rules).1.map fun violation =>
      (entry.path, violation.message rules)
  | _, _ => none

theorem messageOf_agrees (hv : v.Agrees v') (he : e.SameView e') (entry : Entry) :
    v.messageOf e entry = v'.messageOf e' entry := by
  unfold messageOf
  split
  · rw [checkNode_agrees hv he]
  · rfl

/-! ### All nodes -/

theorem step_spec (c : Checking) (entry : Entry) : (step c entry).validator.Agrees c.validator ∧
    (step c entry).engine.SameView c.engine ∧
    (step c entry).found = (c.validator.messageOf c.engine entry).toList ++ c.found := by
  -- A node without rules or without a value is passed over.
  have hnone : ∀ {c' : Checking}, c' = c → c.validator.messageOf c.engine entry = none →
      c'.validator.Agrees c.validator ∧ c'.engine.SameView c.engine ∧
        c'.found = (c.validator.messageOf c.engine entry).toList ++ c.found := by
    rintro _ rfl hm
    rw [hm]
    exact ⟨.refl _, .refl _, rfl⟩
  cases hr : entry.node.traits.validation with
  | none => exact hnone (by simp only [step, hr]) (by simp only [messageOf, hr])
  | some rules =>
    cases hx : entry.node.value? with
    | none => exact hnone (by simp only [step, hr, hx]) (by simp only [messageOf, hr, hx])
    | some value =>
      obtain ⟨hv, he⟩ := kept_checkNode c.validator c.engine entry.path value rules
      simp only [step, messageOf, hr, hx]
      refine ⟨hv, he, ?_⟩
      cases (c.validator.checkNode c.engine entry.path value rules).1 <;> rfl

theorem foldl_step : ∀ (es : List Entry) (c : Checking),
    (es.foldl step c).validator.Agrees c.validator ∧ (es.foldl step c).engine.SameView c.engine ∧
    (es.foldl step c).found.reverse =
      c.found.reverse ++ es.filterMap (c.validator.messageOf c.engine)
  | [], c => ⟨.refl _, .refl _, (List.append_nil _).symm⟩
  | entry :: es, c => by
    obtain ⟨hv, he, hfound⟩ := step_spec c entry
    obtain ⟨hv', he', hfound'⟩ := foldl_step es (step c entry)
    have hmessages : (step c entry).validator.messageOf (step c entry).engine =
        c.validator.messageOf c.engine := funext fun _ => messageOf_agrees hv he _
    refine ⟨hv'.trans hv, he'.trans he, ?_⟩
    rw [List.foldl_cons, hfound', hmessages, hfound, List.reverse_append, List.append_assoc,
      List.filterMap_cons]
    cases c.validator.messageOf c.engine entry <;> rfl

/-- **The messages of a tree are those that its nodes give one by one.** -/
theorem fst_checkTree (v : Validator) (e : Engine) (t : Tree) :
    (v.checkTree e t).1 = t.primitives.filterMap (v.messageOf (e.load t)) :=
  (foldl_step t.primitives { validator := v, engine := e.load t }).2.2

theorem kept_checkTree (v : Validator) (e : Engine) (t : Tree) :
    (v.checkTree e t).2.1.Agrees v ∧ (v.checkTree e t).2.2.Agrees e := by
  obtain ⟨hv, he, -⟩ := foldl_step t.primitives { validator := v, engine := e.load t }
  exact ⟨hv, (Engine.agrees_unload _).trans (he.agrees.trans (Engine.agrees_load e t))⟩

/-- **The messages of a tree do not depend on what was checked before.** -/
theorem checkTree_agrees (hv : v.Agrees v') (he : e.Agrees e') (t : Tree) :
    (v.checkTree e t).1 = (v'.checkTree e' t).1 := by
  rw [fst_checkTree, fst_checkTree]
  exact congrArg (t.primitives.filterMap ·)
    (funext fun entry => messageOf_agrees hv (.load he t) entry)

end Validator
end Reaction
end ReactiveTree
