import ReactiveTree.Proofs.Layout
import ReactiveTree.Proofs.Sameness
import ReactiveTree.Proofs.Snippet.Keeping
import ReactiveTree.Reaction.Expressions

/-!
# What the outcome of an expression depends on

A run sees the tree through reads and through the whole root, and both show values only, so the
outcome of an expression is the same on trees of the same content. The engine changes as it runs:
it keeps snippets and collects lines. Neither changes what a source compiles to, so the outcome
does not depend on what ran before.

Key definitions: `Engine.Agrees`, `outcome`.
Key theorems: `Engine.eval_agrees`, `compute_agrees`, `outcome_agrees`.
-/
namespace ReactiveTree

/-! ### What snippets see -/

namespace Snippet

theorem Datum.ofNode_content (n : Node) : Datum.ofNode n.content = Datum.ofNode n := by
  cases n with
  | leaf t v => rfl
  | object t cs => exact congrArg Datum.ofJson (Node.toPlain_recast _ (.object t cs))
  | array t is => exact congrArg Datum.ofJson (Node.toPlain_recast _ (.array t is))

namespace Engine

variable {e e' : Engine} {a b : Tree}

theorem read_load (e : Engine) (t : Tree) (path : String) :
    (e.load t).read path = (((t.get? path).map Node.content).map Datum.ofNode).getD .unit := by
  rw [Option.map_map, show Datum.ofNode ∘ Node.content = Datum.ofNode from
    funext Datum.ofNode_content]
  rfl

theorem root_load (e : Engine) (t : Tree) : (e.load t).root = Datum.ofNode t.root.content := by
  rw [Datum.ofNode_content]
  rfl

/-! ### What stays as an engine runs -/

/-- Two engines make the same of every source and have the same limits. -/
structure Agrees (e e' : Engine) : Prop where
  limits : e.limits = e'.limits
  compile : ∀ source, (e.compile source).1 = (e'.compile source).1

theorem Agrees.refl (e : Engine) : e.Agrees e := ⟨rfl, fun _ => rfl⟩

theorem Agrees.symm (h : e.Agrees e') : e'.Agrees e := ⟨h.1.symm, fun s => (h.2 s).symm⟩

theorem Agrees.trans {e'' : Engine} (h : e.Agrees e') (h' : e'.Agrees e'') : e.Agrees e'' :=
  ⟨h.1.trans h'.1, fun s => (h.2 s).trans (h'.2 s)⟩

theorem fst_compile (e : Engine) (source : String) :
    (e.compile source).1 = (e.cache.compile e.limits source).1 := rfl

theorem snd_compile (e : Engine) (source : String) :
    (e.compile source).2 = { e with cache := (e.cache.compile e.limits source).2 } := rfl

theorem Agrees.of_eq (hl : e.limits = e'.limits) (hc : e.cache = e'.cache) : e.Agrees e' :=
  ⟨hl, fun source => by rw [fst_compile, fst_compile, hl, hc]⟩

theorem agrees_load (e : Engine) (t : Tree) : (e.load t).Agrees e := .of_eq rfl rfl

theorem agrees_unload (e : Engine) : e.unload.Agrees e := .of_eq rfl rfl

theorem agrees_update (e : Engine) (path : String) (v : Scalar) : (e.update path v).Agrees e :=
  .of_eq rfl rfl

theorem agrees_compile (e : Engine) (source : String) : (e.compile source).2.Agrees e :=
  ⟨rfl, fun source' => by
    rw [fst_compile, fst_compile, snd_compile, Cache.fst_compile_compile]⟩

theorem eval_of_error {source : String} {err : SnippetError}
    (h : e.compile source = (.error err, e')) (bindings : Bindings) :
    e.eval source bindings = (.error err, e') := by
  rw [eval, h]

theorem eval_of_ok {source : String} {s : Compiled} (h : e.compile source = (.ok s, e'))
    (bindings : Bindings) : e.eval source bindings =
      ((e'.run s bindings).1, { e' with log := e'.log ++ (e'.run s bindings).2 }) := by
  rw [eval, h]

/-- Running a snippet leaves the tree that the engine shows and what it makes of sources. -/
theorem eval_snd (e : Engine) (source : String) (bindings : Bindings) :
    (e.eval source bindings).2.Agrees e ∧ (e.eval source bindings).2.tree = e.tree := by
  have hc := agrees_compile e source
  have ht : (e.compile source).2.tree = e.tree := by rw [snd_compile]
  rcases h : e.compile source with ⟨r, e'⟩
  rw [h] at hc ht
  cases r with
  | error err =>
    rw [eval_of_error h]
    exact ⟨hc, ht⟩
  | ok s =>
    rw [eval_of_ok h]
    have hlog : Agrees { e' with log := e'.log ++ (e'.run s bindings).2 } e' := .of_eq rfl rfl
    exact ⟨hlog.trans hc, ht⟩

theorem run_eq (hl : e.limits = e'.limits) (hread : e.read = e'.read) (hroot : e.root = e'.root)
    (s : Compiled) (bindings : Bindings) : e.run s bindings = e'.run s bindings := by
  rw [run, run, hl, hread, hroot]

theorem fst_eval (e : Engine) (source : String) (bindings : Bindings) :
    (e.eval source bindings).1 =
      match (e.compile source).1 with
      | .error err => .error err
      | .ok s => (e.run s bindings).1 := by
  rcases h : e.compile source with ⟨r, e'⟩
  cases r with
  | error err => rw [eval_of_error h]
  | ok s =>
    have he : (e.compile source).2 = e' := by rw [h]
    have hread : e'.read = e.read := by rw [← he, snd_compile]; rfl
    have hroot : e'.root = e.root := by rw [← he, snd_compile]; rfl
    rw [eval_of_ok h]
    dsimp only
    rw [run_eq (by rw [← he, snd_compile]) hread hroot]

/-- Engines that agree and show the same give a source the same result. -/
theorem eval_agrees (h : e.Agrees e') (hread : e.read = e'.read) (hroot : e.root = e'.root)
    (source : String) (bindings : Bindings) :
    (e.eval source bindings).1 = (e'.eval source bindings).1 := by
  rw [fst_eval, fst_eval, h.compile source]
  cases (e'.compile source).1 with
  | error err => rfl
  | ok s =>
    dsimp only
    rw [run_eq h.limits hread hroot]

end Engine
end Snippet

/-! ### Outcomes -/

namespace Reaction

open Snippet (Engine)

variable {e e' : Engine} {a b : Tree}

/-- What the expression of a task gives on a tree. -/
def outcome (e : Engine) (tree : Tree) (t : Task) : Except ExpressionError Scalar :=
  (compute (e.load tree) t).1

theorem fst_compute (e : Engine) (t : Task) : (compute e t).1 =
    match (e.eval t.source [("path", .string t.path)]).1 with
    | .error err => .error (.snippet err)
    | .ok d => valueOf t.kind d := by
  unfold compute
  split <;> rename_i heq <;> rw [heq]

theorem snd_compute (e : Engine) (t : Task) :
    (compute e t).2 = (e.eval t.source [("path", .string t.path)]).2 := by
  unfold compute
  split <;> rename_i heq <;> rw [heq]

/-- **The outcome of an expression depends on what the engine shows.** -/
theorem compute_agrees (h : e.Agrees e') (hread : e.read = e'.read) (hroot : e.root = e'.root)
    (t : Task) : (compute e t).1 = (compute e' t).1 := by
  rw [fst_compute, fst_compute, Engine.eval_agrees h hread hroot]

theorem outcome_agrees (h : e.Agrees e') (hc : a.SameContent b) (t : Task) :
    outcome e a t = outcome e' b t := by
  have hload : (e.load a).Agrees (e'.load b) :=
    (Engine.agrees_load e a).trans (h.trans (Engine.agrees_load e' b).symm)
  refine compute_agrees hload (funext fun path => ?_) ?_ t
  · rw [Engine.read_load, Engine.read_load, hc.map_get? path]
  · rw [Engine.root_load, Engine.root_load]
    exact congrArg Snippet.Datum.ofNode hc

/-- An outcome depends on the path, the source and the kind of a task. -/
theorem outcome_congr {x y : Task} (hp : y.path = x.path) (hs : y.source = x.source)
    (hk : y.kind = x.kind) (e : Engine) (t : Tree) : outcome e t y = outcome e t x := by
  rw [outcome, outcome, fst_compute, fst_compute, hp, hs, hk]

/-- A value that an expression gives has the kind of its node. -/
theorem kind_of_compute {t : Task} {v : Scalar} (h : (compute e t).1 = .ok v) :
    v.kind = t.kind := by
  rw [fst_compute] at h
  split at h
  · cases h
  · unfold valueOf at h
    split at h
    · cases h
    · split at h
      · rename_i w hw
        cases h
        exact Scalar.kind_coerce? hw
      · cases h

end Reaction
end ReactiveTree
