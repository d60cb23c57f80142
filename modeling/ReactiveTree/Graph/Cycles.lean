import ReactiveTree.Graph.Loop

/-!
# Edges that close a cycle

A depth-first walk goes from each vertex that it has not found yet. It opens the vertices that it
comes to, and finishes them when all their targets are done. An edge back to an open vertex closes
a cycle, and the walk stops there.

Key definitions: `Walk`, `Walk.round`, `Adjacency.closes?`, `Adjacency.hasCycle`.
-/
namespace ReactiveTree.Graph

/-- How far a walk is with a vertex: not found, open, or finished. -/
inductive Color where
  | white
  | gray
  | black
deriving Repr, DecidableEq, Inhabited

/-- A depth-first walk between two rounds. -/
structure Walk where
  colors : Array Color
  trail : Trail := []
deriving Repr, Inhabited

namespace Walk

/-- Open a vertex. -/
def enter (v : Nat) (s : Walk) : Option Walk := do
  let colors ← put? s.colors v .gray
  return { colors, trail := (v, 0) :: s.trail }

/-- Finish a vertex; those below it stay open. -/
def finish (v : Nat) (trail : Trail) (s : Walk) : Option Walk := do
  let colors ← put? s.colors v .black
  return { colors, trail }

/-- Look at a target of the last open vertex. The walk is done at an open one. -/
def look (w : Nat) (s : Walk) : Option (Round Walk (Bool × Array Color)) := do
  match ← s.colors[w]? with
  | .gray => return .done (true, s.colors)
  | .white => (s.enter w).map .again
  | .black => return .again s

/-- Go on with the last open vertex, which is finished if it has no target left. The walk is done
when no vertex is open. The answer is whether an edge closes a cycle, and the colors. -/
def round (adj : Adjacency) (s : Walk) : Option (Round Walk (Bool × Array Color)) :=
  match s.trail with
  | [] => some (.done (false, s.colors))
  | (v, i) :: trail => do
    match (← adj[v]?)[i]? with
    | some w => look w { s with trail := (v, i + 1) :: trail }
    | none => (s.finish v trail).map .again

end Walk

namespace Adjacency

/-- Walk from a vertex, unless it is found already. -/
def walkFrom (adj : Adjacency) (colors : Array Color) (v : Nat) : Option (Bool × Array Color) := do
  match ← colors[v]? with
  | .white => loop (Walk.round adj) adj.rounds (← Walk.enter v { colors })
  | _ => return (false, colors)

/-- Walk from some vertices in turn, until an edge closes a cycle. -/
def walkAll (adj : Adjacency) (colors : Array Color) : List Nat → Option Bool
  | [] => some false
  | v :: vs => do
    let (closed, colors) ← adj.walkFrom colors v
    if closed then return true else walkAll adj colors vs

/-- An edge closes a cycle; none if the walk fails. -/
def closes? (adj : Adjacency) : Option Bool :=
  adj.walkAll (Array.replicate adj.size .white) (List.range adj.size)

/-- An edge closes a cycle. -/
def hasCycle (adj : Adjacency) : Bool := adj.closes?.getD false

end Adjacency
end ReactiveTree.Graph
