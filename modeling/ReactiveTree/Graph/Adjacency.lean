/-
# Adjacency lists

A graph over the vertices below `n` as the list of targets of each vertex. Targets may repeat,
and a vertex may be its own target.

Key definitions: `Adjacency`, `Adjacency.next`, `Adjacency.InRange`, `Adjacency.Marks`.
-/
namespace ReactiveTree.Graph

/-- The targets of each vertex. -/
abbrev Adjacency := Array (List Nat)

namespace Adjacency

/-- The targets of a vertex. -/
def next (adj : Adjacency) (v : Nat) : List Nat := (adj[v]?).getD []

/-- All targets are vertices. -/
def InRange (adj : Adjacency) : Prop := ∀ v, ∀ w ∈ adj.next v, w < adj.size

/-- The number of edges. -/
def edgeCount (adj : Adjacency) : Nat := adj.foldl (fun n ws => n + ws.length) 0

/-- A set of vertices as a table. -/
abbrev Marks := Array Bool

/-- A vertex is in a set; what is no vertex counts as in. -/
def marked (seen : Marks) (v : Nat) : Bool := (seen[v]?).getD true

def noMarks (adj : Adjacency) : Marks := Array.replicate adj.size false

end Adjacency
end ReactiveTree.Graph
