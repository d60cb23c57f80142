import ReactiveTree.Graph.Adjacency

/-!
# Loops over a graph

A search of a graph is a loop that keeps tables by vertex and a trail of open vertices. A round
fails if it asks a table for a vertex that the table does not have, and the loop fails with it; it
fails too if it is not done when its fuel is used up. The fuel of a search is one round for each
vertex and each edge, and one more.

Key definitions: `put?`, `Trail`, `Round`, `loop`, `Adjacency.rounds`.
-/
namespace ReactiveTree.Graph

/-- Replace an entry of a table; none if the table does not have it. -/
def put? {α : Type} (table : Array α) (i : Nat) (x : α) : Option (Array α) :=
  if i < table.size then some (table.setIfInBounds i x) else none

/-- The open vertices, the last one first, each with the number of its targets that are done. -/
abbrev Trail := List (Nat × Nat)

/-- What a round of a loop comes to: the loop goes on, or it is done. -/
inductive Round (σ α : Type) where
  | again (s : σ)
  | done (a : α)

/-- Make rounds until the loop is done; none if a round fails, or if the fuel is used up first. -/
def loop {σ α : Type} (round : σ → Option (Round σ α)) : Nat → σ → Option α
  | 0, _ => none
  | fuel + 1, s =>
    match round s with
    | some (.again s) => loop round fuel s
    | some (.done a) => some a
    | none => none

/-- As many rounds as a search can take. -/
def Adjacency.rounds (adj : Adjacency) : Nat := adj.size + adj.edgeCount + 1

end ReactiveTree.Graph
