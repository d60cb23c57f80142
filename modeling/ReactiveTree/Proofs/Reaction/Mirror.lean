import ReactiveTree.Proofs.Reaction.Inputs
import ReactiveTree.Reaction.Pipeline

/-!
# Snippets read what the tree has

While expressions run there are two trees: the one that is evaluated, and the copy that the engine
shows to snippets. Values are written to both in different ways, a value that is the same as the
present one is written to neither, and errors are written to the first one alone. As the copy has
the content of the tree at every turn (`Working.Follows`), and what snippets read shows content
only, every read gives what the tree has at that moment. The copy gets values at nodes that it has,
so it never gains a node.

Key definitions: `Engine.Mirrors`, `Tree.paths`, `Working.leftBy`.
Key theorems: `finish_eq`, `Working.follows_of_mem_allTurns`, `Engine.mirrors_of_content`,
`Working.Follows.paths_update`, `evaluate_mirrors`.
-/
namespace ReactiveTree

/-- The paths of all nodes below the root. -/
def Tree.paths (t : Tree) : List String := (t.entries .everything).map (·.path)

/-- Trees of one form have the same paths, whatever their traits and values are. -/
theorem Tree.paths_of_recast {a b : Tree} {f : Traits → Traits} {g : Scalar → Scalar}
    (h : a.root.recast f g = b.root.recast f g) : a.paths = b.paths := by
  have hpaths (t : Tree) : t.paths = ((t.root.recast f g).entries .everything).map (·.path) := by
    rw [Node.entries_recast rfl, List.map_map]
    rfl
  rw [hpaths, hpaths, h]

namespace Snippet.Engine

variable {e : Engine} {c t : Tree}

/-- What snippets read is what a tree has: at every path, and as the root. -/
structure Mirrors (e : Engine) (t : Tree) : Prop where
  read : ∀ path, e.read path = ((t.get? path).map Datum.ofNode).getD .unit
  root : e.root = Datum.ofNode t.root

/-- An engine whose copy has the content of a tree mirrors the tree. -/
theorem mirrors_of_content (he : e.tree = some c) (hc : c.SameContent t) : e.Mirrors t := by
  have hload : e.load c = e := by
    rw [load, ← he]
  constructor
  · intro path
    rw [← hload, read_load, hc.map_get? path, ← read_load e t path]
    rfl
  · rw [← hload, root_load, hc, Datum.ofNode_content]

end Snippet.Engine

namespace Reaction

open Snippet (Engine)

variable {engine : Engine} {t : Tree} {x : Task} {ts : List Task} {w : Working}

namespace Working

/-! ### The turns of an evaluation -/

theorem follows_of_mem_turns (ht : t.Valid) {p : Working × Task} : ∀ {ts : List Task}
    {w : Working}, (∀ x ∈ ts, x.Listed t) → w.Follows engine t → p ∈ w.turns ts →
      p.1.Follows engine t
  | [], _, _, _, hp => (List.not_mem_nil hp).elim
  | x :: ts, w, hts, h, hp => by
    rcases List.mem_cons.mp hp with rfl | hp
    · exact h
    · have hx := turn_spec ht h (hts x List.mem_cons_self)
      exact follows_of_mem_turns ht (fun y hy => hts y (List.mem_cons_of_mem x hy)) hx.follows hp

/-- The engine's copy follows the tree at every turn of every pass. -/
theorem follows_of_mem_allTurns (ht : t.Valid) (hts : ∀ x ∈ ts, x.Listed t)
    {p : Working × Task} : ∀ (n : Nat) {w : Working}, w.Follows engine t →
      p ∈ w.allTurns ts n → p.1.Follows engine t
  | 0, _, _, hp => (List.not_mem_nil hp).elim
  | n + 1, w, h, hp => by
    rcases List.mem_append.mp hp with hp | hp
    · exact follows_of_mem_turns ht hts (h.reset false) hp
    · split at hp
      · exact follows_of_mem_allTurns ht hts n (h.pass ht hts) hp
      · exact (List.not_mem_nil hp).elim

/-- What the last of some turns leaves. -/
def leftBy (w : Working) (turns : List (Working × Task)) : Working :=
  (turns.getLast?.map fun q => q.1.turn q.2).getD w

theorem foldl_turn_eq : ∀ (ts : List Task) (w : Working),
    ts.foldl turn w = w.leftBy (w.turns ts)
  | [], _ => rfl
  | [_], _ => rfl
  | x :: y :: ts, w => by
    have ih := foldl_turn_eq (y :: ts) (w.turn x)
    rw [leftBy, turns] at ih ⊢
    rw [List.foldl_cons, ih, turns, List.getLast?_cons_cons]
    rfl

theorem leftBy_append (w : Working) (xs ys : List (Working × Task)) :
    w.leftBy (xs ++ ys) = (w.leftBy xs).leftBy ys := by
  rw [leftBy, leftBy, leftBy, List.getLast?_append]
  cases ys.getLast? <;> rfl

/-- A pass leaves what its last turn leaves. -/
theorem pass_eq (hts : ts ≠ []) (w : Working) :
    w.pass ts = w.leftBy (({ w with changed := false } : Working).turns ts) := by
  rw [Working.pass, foldl_turn_eq]
  cases ts with
  | nil => exact absurd rfl hts
  | cons x ts =>
    rw [leftBy, leftBy, turns, List.getLast?_cons]
    rfl

/-- Passes in a row leave what their last turn leaves. -/
theorem settle_eq (hts : ts ≠ []) : ∀ (n made : Nat) (w : Working),
    (settle ts w n made).1 = w.leftBy (w.allTurns ts n)
  | 0, _, _ => rfl
  | n + 1, made, w => by
    rw [settle_succ, allTurns, leftBy_append, ← pass_eq hts]
    split
    · exact settle_eq hts n (made + 1) (w.pass ts)
    · rfl

/-! ### What a snippet reads -/

theorem Follows.mirrors (h : w.Follows engine t) : w.engine.Mirrors w.tree := by
  obtain ⟨c, hc, hcontent⟩ := h.copy
  exact Engine.mirrors_of_content hc hcontent

/-- Making a snippet ready does not change what it reads. -/
theorem Follows.mirrors_compile (h : w.Follows engine t) (source : String) :
    (w.engine.compile source).2.Mirrors w.tree := by
  obtain ⟨c, hc, hcontent⟩ := h.copy
  exact Engine.mirrors_of_content hc hcontent

/-- **A value that the engine is told of adds no node to its copy.** -/
theorem Follows.paths_update (ht : t.Valid) (h : w.Follows engine t) (hx : x.Listed t)
    (v : Scalar) : ∃ c c', w.engine.tree = some c ∧ (w.engine.update x.path v).tree = some c' ∧
      c'.paths = c.paths := by
  obtain ⟨r, u, hn, -⟩ := h.get?_task ht hx
  obtain ⟨c, hc, hcontent⟩ := h.copy
  have hm := hcontent.map_get? x.path
  rw [hn, Option.map_some, Option.map_eq_some_iff] at hm
  obtain ⟨m, hm, hcm⟩ := hm
  obtain ⟨r', rfl, -⟩ := leaf_of_content hcm
  have hset : c.setPrimitive x.path v = .ok (c.modify (fun _ => .leaf r' v) x.path) := by
    rw [Tree.setPrimitive, hm]
    rfl
  refine ⟨c, c.modify (fun _ => .leaf r' v) x.path, hc, ?_, ?_⟩
  · rw [Engine.update, hc, Option.map_some, hset]
    rfl
  · exact Tree.paths_of_recast (f := id) (g := fun _ => u) (Tree.recast_modify_id hm rfl)

end Working

/-- The turns of an evaluation lead from its beginning to its end. -/
theorem finish_eq (engine : Engine) (t : Tree) (n : Nat) :
    (finish engine t n).1 =
      (Working.begin engine t).leftBy (evaluationTurns engine t n) := by
  rw [finish, evaluationTurns]
  cases hr : runnable t with
  | nil => cases n <;> rfl
  | cons x ts => exact Working.settle_eq (List.cons_ne_nil x ts) n 0 _

/-- **Snippets never read stale values.** At every turn of every pass a snippet reads what the tree
has at that moment, at every path and as the root; so it is after the turn; and a value that the
engine is told of adds no node to its copy. After a reaction the engine shows no tree. -/
theorem evaluate_mirrors (ht : t.Valid) :
    (∀ engine n, ∀ q ∈ evaluationTurns engine t n,
      (q.1.engine.compile q.2.source).2.Mirrors q.1.tree ∧
      (q.1.turn q.2).engine.Mirrors (q.1.turn q.2).tree ∧
      ∀ v, ∃ c c', q.1.engine.tree = some c ∧ (q.1.engine.update q.2.path v).tree = some c' ∧
        c'.paths = c.paths) ∧
    ∀ (p : Pipeline) (previous : Option Snapshot),
      (p.react t previous).2.2.engine.tree = none := by
  refine ⟨fun engine n q hq => ?_, fun p previous => rfl⟩
  obtain ⟨hbegin, -⟩ := Working.begin_spec engine ht
  have hfollows := Working.follows_of_mem_allTurns ht listed_of_runnable n hbegin hq
  have hlisted := listed_of_runnable q.2 (Working.mem_allTurns n hq)
  have hturn := (Working.turn_spec ht hfollows hlisted).follows
  exact ⟨hfollows.mirrors_compile _, hturn.mirrors, hfollows.paths_update ht hlisted⟩

theorem evaluate_mirrors_loop : loop.Valid ∧
    (∃ q ∈ evaluationTurns {} loop 2, q.2.path = "lamp" ∧
      (q.1.engine.compile q.2.source).2.read "left" =
        ((q.1.tree.get? "left").map Snippet.Datum.ofNode).getD .unit) ∧
    (({} : Pipeline).react loop none).2.2.engine.tree = none := by
  have hvalid : loop.Valid := ⟨rfl, rfl⟩
  have hlamp : "lamp" ∈ (evaluationTurns {} loop 2).map (·.2.path) := by decide +kernel
  obtain ⟨q, hq, hp⟩ := List.mem_map.mp hlamp
  obtain ⟨hturns, hreact⟩ := evaluate_mirrors hvalid
  exact ⟨hvalid, ⟨q, hq, hp, (hturns {} 2 q hq).1.read "left"⟩, hreact {} none⟩

end Reaction
end ReactiveTree
