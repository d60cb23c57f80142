import ReactiveTree.Graph.Loop

/-!
# Levels

The level of a vertex is the length of the longest path that ends in it. It is found by taking
vertices off the graph once all their sources are off. Vertices that are left out, those on
cycles, have level zero and their edges do not count.

Key definitions: `Adjacency.inDegrees?`, `Leveling`, `Leveling.lift`, `Leveling.round`,
`Adjacency.settled?`, `Adjacency.levels`.
-/
namespace ReactiveTree.Graph

/-- How far the levels are found. -/
structure Leveling where
  /-- How many edges lead to each vertex from vertices that are not off. -/
  degrees : Array Nat
  levels : Array Nat
  /-- The vertices without a source, in the order in which they are taken off. -/
  queue : List Nat
  /-- The vertices that are off, the last one first. -/
  order : List Nat := []
deriving Repr, Inhabited

namespace Leveling

/-- Lift a target above its source and take the edge between them off; the target may be the next
vertex to be taken off. None if there is no edge to take off. -/
def lift (out : Adjacency.Marks) (v : Nat) (s : Leveling) (w : Nat) : Option Leveling := do
  if ← out[w]? then return s
  else
    let levels ← put? s.levels w (max (← s.levels[w]?) ((← s.levels[v]?) + 1))
    match ← s.degrees[w]? with
    | 0 => none
    | left + 1 =>
      let degrees ← put? s.degrees w left
      return { s with degrees, levels, queue := if left = 0 then s.queue ++ [w] else s.queue }

/-- Take the first vertex of the queue off. The search is done when the queue is empty. -/
def round (adj : Adjacency) (out : Adjacency.Marks) (s : Leveling) :
    Option (Round Leveling Leveling) :=
  match s.queue with
  | [] => some (.done s)
  | v :: queue => do
    ((← adj[v]?).foldlM (lift out v) { s with queue, order := v :: s.order }).map .again

end Leveling

namespace Adjacency

/-- Count an edge to a vertex, unless that is left out. -/
def countEdge (out : Marks) (degrees : Array Nat) (w : Nat) : Option (Array Nat) := do
  if ← out[w]? then return degrees else put? degrees w ((← degrees[w]?) + 1)

/-- Count the edges from a vertex, unless that is left out. -/
def countEdges (adj : Adjacency) (out : Marks) (degrees : Array Nat) (v : Nat) :
    Option (Array Nat) := do
  if ← out[v]? then return degrees else (← adj[v]?).foldlM (countEdge out) degrees

/-- How many edges lead to each vertex from vertices that take part. -/
def inDegrees? (adj : Adjacency) (out : Marks) : Option (Array Nat) :=
  (List.range adj.size).foldlM (adj.countEdges out) (Array.replicate adj.size 0)

/-- Where the search for levels starts. -/
def unsettled (adj : Adjacency) (out : Marks) (degrees : Array Nat) : Leveling where
  degrees
  levels := Array.replicate adj.size 0
  queue := (List.range adj.size).filter fun v => out[v]? == some false && degrees[v]? == some 0

/-- Take vertices off until the queue is empty; none if that fails. -/
def settled? (adj : Adjacency) (out : Marks) : Option Leveling := do
  loop (Leveling.round adj out) (adj.size + 1) (adj.unsettled out (← adj.inDegrees? out))

/-- The level of each vertex, without those that are left out. -/
def levels (adj : Adjacency) (out : Marks) : Array Nat :=
  ((adj.settled? out).map (·.levels)).getD (Array.replicate adj.size 0)

end Adjacency
end ReactiveTree.Graph
