import ReactiveTree.Graph.Loop

/-!
# Components

A component is a largest set of vertices that all reach each other. The search numbers the vertices
in the order in which it finds them and keeps them on a stack. Each open vertex has a low number:
the least number of a vertex on the stack that it is known to reach. When a vertex is left and its
low number is its own, it and the vertices above it on the stack are a component, which is cut off.
The vertices on cycles are those that share their component with another one, and those that are
their own target.

Key definitions: `Search`, `Search.follow`, `Search.leave`, `Search.cutOff`, `Search.round`,
`Adjacency.search?`, `Adjacency.cyclic`.
-/
namespace ReactiveTree.Graph

/-- A search for components between two rounds. -/
structure Search where
  /-- The numbers of the vertices that are found. -/
  index : Array (Option Nat)
  low : Array Nat
  onStack : Adjacency.Marks
  /-- The vertices without a component yet, the last one first. -/
  stack : List Nat := []
  cyclic : Adjacency.Marks
  /-- The next number. -/
  count : Nat := 0
  trail : Trail := []
  /-- The components that are cut off, the last one first. -/
  components : List (List Nat) := []
deriving Repr, Inhabited

namespace Search

/-- Give a vertex the next number, and open it. -/
def discover (v : Nat) (s : Search) : Option Search := do
  let index ← put? s.index v (some s.count)
  let low ← put? s.low v s.count
  let onStack ← put? s.onStack v true
  return { s with
    index, low, onStack
    stack := v :: s.stack, count := s.count + 1, trail := (v, 0) :: s.trail }

/-- A vertex reaches a vertex with a number. -/
def lower (v k : Nat) (s : Search) : Option Search := do
  let low ← put? s.low v (min (← s.low[v]?) k)
  return { s with low }

/-- Follow an edge: a target that is not found yet is opened, and one on the stack lowers the
source. -/
def follow (v w : Nat) (s : Search) : Option Search := do
  match ← s.index[w]? with
  | none => s.discover w
  | some k => if ← s.onStack[w]? then s.lower v k else return s

/-- Set a mark of some vertices. -/
def setAll (marks : Adjacency.Marks) (b : Bool) (vs : List Nat) : Option Adjacency.Marks :=
  vs.foldlM (fun marks v => put? marks v b) marks

/-- Take the vertices off a stack down to a vertex: those that are taken off, and the rest. -/
def popTo (v : Nat) : List Nat → List Nat × List Nat
  | [] => ([], [])
  | w :: stack =>
    if w = v then ([w], stack) else (w :: (popTo v stack).1, (popTo v stack).2)

/-- The marks of vertices on cycles, with those of the component of a vertex. -/
def markCyclic (adj : Adjacency) (v : Nat) (members : List Nat) (marks : Adjacency.Marks) :
    Option Adjacency.Marks := do
  let targets ← adj[v]?
  if 1 < members.length || targets.contains v then setAll marks true members else return marks

/-- Cut off the component of a vertex. -/
def cutOff (adj : Adjacency) (v : Nat) (s : Search) : Option Search := do
  let (members, stack) := popTo v s.stack
  let onStack ← setAll s.onStack false members
  let cyclic ← markCyclic adj v members s.cyclic
  return { s with onStack, stack, cyclic, components := members :: s.components }

/-- The vertex that is open below one that is left reaches what that one reaches. -/
def passDown (v : Nat) (s : Search) : Option Search := do
  match s.trail with
  | [] => return s
  | (u, _) :: _ => s.lower u (← s.low[v]?)

/-- Leave a vertex that is no longer open. -/
def leave (adj : Adjacency) (v : Nat) (s : Search) : Option Search := do
  let s ← s.passDown v
  if (← s.index[v]?) = some (← s.low[v]?) then s.cutOff adj v else return s

/-- Go on with the last open vertex, which is left if it has no target left. The search is done when
no vertex is open. -/
def round (adj : Adjacency) (s : Search) : Option (Round Search Search) :=
  match s.trail with
  | [] => some (.done s)
  | (v, i) :: trail => do
    match (← adj[v]?)[i]? with
    | some w => (follow v w { s with trail := (v, i + 1) :: trail }).map .again
    | none => (leave adj v { s with trail }).map .again

end Search

namespace Adjacency

/-- Search from a vertex, unless it is found already. -/
def searchFrom (adj : Adjacency) (s : Search) (v : Nat) : Option Search := do
  match ← s.index[v]? with
  | none => loop (Search.round adj) adj.rounds (← s.discover v)
  | some _ => return s

/-- Nothing is found yet. -/
def unsearched (adj : Adjacency) : Search where
  index := Array.replicate adj.size none
  low := Array.replicate adj.size 0
  onStack := adj.noMarks
  cyclic := adj.noMarks

/-- The search from all vertices in turn; none if it fails. -/
def search? (adj : Adjacency) : Option Search :=
  (List.range adj.size).foldlM adj.searchFrom adj.unsearched

/-- For each vertex, whether it is on a cycle. -/
def cyclic (adj : Adjacency) : Marks := (adj.search?.map (·.cyclic)).getD adj.noMarks

end Adjacency
end ReactiveTree.Graph
