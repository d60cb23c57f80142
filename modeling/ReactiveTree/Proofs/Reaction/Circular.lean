import ReactiveTree.Proofs.Graph.Representation
import ReactiveTree.Proofs.Graph.Scan
import ReactiveTree.Proofs.Reaction.Inputs
import ReactiveTree.Proofs.Reaction.Quiescence

/-!
# Which tasks are refused

A task is refused if its reads lead back to it: it has no turn and is left with the error of a
cycle. The reads that count are those that the scan of a source finds, by the texts of their
literals (`evaluate_refuses`). A snippet reads more than that. A literal may write the index of an
item with zeros in front, which addresses the same node but is another text, or hold escapes, or
stand after a comment or inside what the scan takes for an earlier call. A task that reads itself
in such a way is not refused, it runs, and it may never come to rest (`blinker_runs`).

Key definitions: `Tree.PlainlyReads`, `literalReads`, `Tree.LiterallyReads`.
Key theorems: `isCyclic_iff_plainlyReads`, `evaluate_refuses`, `isCyclic_of_literallyReads`,
`blinker_runs`.
-/
namespace ReactiveTree

open ReactiveTree.Graph (CallAt Passes DependencyGraph mem_dependencies mem_expressions_iff)
open Relation (TransGen)

variable {t : Tree} {p q : String}

/-! ### Reads that the scan finds -/

/-- A plain call with this path stands in the source of a node where the scan gets to. -/
def Tree.PlainlyReads (t : Tree) (p q : String) : Prop :=
  ∃ source, t.Computes p source ∧ q ≠ "" ∧
    ∃ rest after, Passes false source.toList false rest ∧ CallAt rest q.toList after

theorem plainlyReads_iff : t.PlainlyReads p q ↔ ⟨q, p⟩ ∈ (DependencyGraph.ofTree t).edges := by
  simp only [DependencyGraph.mem_edges, mem_expressions_iff, mem_dependencies, Tree.PlainlyReads]

/-- **A path is cyclic if plain reads lead from it back to itself.** -/
theorem isCyclic_iff_plainlyReads :
    (DependencyGraph.ofTree t).isCyclic p = true ↔ TransGen t.PlainlyReads p p := by
  have hswap : t.PlainlyReads =
      Function.swap (DependencyGraph.Edges (DependencyGraph.ofTree t).edges) :=
    funext₂ fun _ _ => propext plainlyReads_iff
  rw [DependencyGraph.isCyclic_iff, hswap, Relation.transGen_swap]
  rfl

namespace Reaction

open Snippet (Engine)

/-- **The tasks that are refused are those whose plain reads lead back to them.** They have no
turn, and their nodes are left with the error of a cycle. -/
theorem evaluate_refuses (ht : t.Valid) (p : String) :
    ((DependencyGraph.ofTree t).isCyclic p = true ↔ TransGen t.PlainlyReads p p) ∧
    ∀ (engine : Engine) (n : Nat), (DependencyGraph.ofTree t).isCyclic p = true →
      (∀ r ∈ evaluationTurns engine t n, r.2.path ≠ p) ∧
      (evaluate engine t n).2.1.errorAt p = some (ExpressionError.circular p).message := by
  refine ⟨isCyclic_iff_plainlyReads, fun engine n hc => ⟨?_, ?_⟩⟩
  · rintro r hr rfl
    exact (mem_runnable.mp (Working.mem_allTurns n hr)).2 (DependencyGraph.isCyclic_iff.mp hc)
  · obtain ⟨x, hx, rfl⟩ := task_of_onCycle (DependencyGraph.isCyclic_iff.mp hc)
    obtain ⟨-, m, hm, herr⟩ := finish_looping engine ht n hx
    rw [tree_evaluate, Tree.errorAt, hm, Option.bind_some, herr]

theorem evaluate_refuses_loop : (DependencyGraph.ofTree loop).isCyclic "left" = true ∧
    TransGen loop.PlainlyReads "left" "left" ∧
    (∀ r ∈ evaluationTurns {} loop 2, r.2.path ≠ "left") ∧
    (evaluate {} loop 2).2.1.errorAt "left" = some (ExpressionError.circular "left").message := by
  have hc : (DependencyGraph.ofTree loop).isCyclic "left" = true := by decide +kernel
  obtain ⟨hiff, hrefused⟩ := evaluate_refuses (t := loop) ⟨rfl, rfl⟩ "left"
  exact ⟨hc, hiff.mp hc, hrefused {} 2 hc⟩

end Reaction

/-! ### Reads that snippets make -/

section Literals

open Snippet (Limits)

/-- What stands before the name of a member. -/
def isAccess : Snippet.Token → Bool
  | .symbol s => [".", "?.", "::"].contains s
  | _ => false

/-- The texts of the literals that calls of `get` in a row of tokens have as their only arguments;
the name at the front is that of a member or not. -/
def literalCalls : Bool → List Snippet.Token → List String
  | _, [] => []
  | member, t :: ts =>
    match member, t, ts with
    | false, .name "get", .symbol "(" :: .string path :: .symbol ")" :: _ =>
      path :: literalCalls false ts
    | _, _, _ => literalCalls (isAccess t) ts

/-- The texts that a snippet passes to `get` as literals, once escapes in them are read. -/
def literalReads (limits : Limits) (source : String) : List String :=
  match Source.normalize source with
  | .error _ => []
  | .ok n =>
    match Snippet.Token.scan? limits.text n.text with
    | none => []
    | some lexemes => literalCalls false (lexemes.map (·.token))

end Literals

namespace Tree

/-- The path at which the node that a path resolves to is listed. -/
def listedAs? (t : Tree) (path : String) : Option String :=
  match Path.split path with
  | .error _ => none
  | .ok segments => (t.root.get? segments).map fun _ => Path.ofSegments "" (t.root.spellAll segments)

/-- The node at a path passes a literal to `get` that resolves to the other node, and both have
expressions. -/
def LiterallyReads (limits : Snippet.Limits) (t : Tree) (p q : String) : Prop :=
  ∃ source lit, t.Computes p source ∧ lit ∈ literalReads limits source ∧
    t.listedAs? lit = some q ∧ ∃ source', t.Computes q source'

end Tree

/-- **Where the scan sees every literal read, no cycle of them is missed.** -/
theorem isCyclic_of_literallyReads {limits : Snippet.Limits}
    (h : ∀ p q, t.LiterallyReads limits p q → t.PlainlyReads p q)
    (hp : TransGen (t.LiterallyReads limits) p p) : (DependencyGraph.ofTree t).isCyclic p = true :=
  isCyclic_iff_plainlyReads.mpr (TransGen.mono h _ _ hp)

namespace Reaction

/-- The only item of an array, that negates itself and writes its own index as `00`. -/
def blinker : Tree :=
  ⟨.object default [("items", .array default
    [.leaf { (default : Traits) with expression := some "!get('items.00')" } (.boolean true)])]⟩

/-- **A task that reads itself by another spelling runs.** It is not marked, never comes to rest and
carries no error. -/
theorem blinker_runs : blinker.Valid ∧
    TransGen (blinker.LiterallyReads {}) "items.0" "items.0" ∧
    (DependencyGraph.ofTree blinker).isCyclic "items.0" = false ∧
    (∃ r ∈ evaluationTurns {} blinker 16, r.2.path = "items.0") ∧
    (evaluate {} blinker 16).1.converged = false ∧
    (evaluate {} blinker 16).2.1.errorAt "items.0" = none := by
  have hc : blinker.Computes "items.0" "!get('items.00')" :=
    mem_expressions_iff.mp (by decide +kernel)
  have hread : "items.00" ∈ literalReads {} "!get('items.00')" := by decide +kernel
  have hlisted : blinker.listedAs? "items.00" = some "items.0" := by decide +kernel
  exact ⟨⟨rfl, rfl⟩, .single ⟨_, _, hc, hread, hlisted, _, hc⟩, by decide +kernel,
    by decide +kernel, by decide +kernel, by decide +kernel⟩

end Reaction
end ReactiveTree
