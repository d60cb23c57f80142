import ReactiveTree.Graph.Components
import ReactiveTree.Graph.Cycles
import ReactiveTree.Graph.Dependencies
import ReactiveTree.Graph.Levels
import ReactiveTree.Tree.Basic

/-!
# The dependency graph of a tree

The vertices are the nodes with an expression, in traversal order, each followed by the paths
that it reads for the first time. An edge leads from a path to the node that reads it. Vertices
are numbered as they come, and the graph keeps its edges three times: by path, by the number of
the source and by the number of the target. It is made anew from the tree whenever it is needed.

Key definitions: `DependencyGraph.intern`, `DependencyGraph.addEdge`, `DependencyGraph.ofTree`,
`DependencyGraph.dependenciesOf`, `DependencyGraph.dependentsOf`, `DependencyGraph.isCyclic`,
`DependencyGraph.toWire`.
-/
namespace ReactiveTree.Graph

open Json (lookup upsert)

structure Vertex where
  id : String
  /-- The longest distance from a vertex that reads nothing. -/
  level : Nat := 0
  /-- The node carries the error of its expression. -/
  hasError : Bool
  /-- The vertex is on a cycle. -/
  cyclic : Bool := false
deriving Repr, DecidableEq, Inhabited

/-- A vertex whose node may carry an error besides. -/
def Vertex.orError (v : Vertex) (hasError : Bool) : Vertex :=
  { v with hasError := v.hasError || hasError }

/-- The path `source` is read by the expression of `target`. -/
structure Edge where
  source : String
  target : String
deriving Repr, DecidableEq, Inhabited

structure DependencyGraph where
  vertices : List Vertex := []
  edges : List Edge := []
  hasCycle : Bool := false
  /-- The number of each path. -/
  index : List (String × Nat) := []
  /-- The vertices that read each vertex. -/
  readers : Adjacency := #[]
  /-- The vertices that each vertex reads. -/
  reads : Adjacency := #[]
deriving Repr, Inhabited

namespace DependencyGraph

/-- Add a vertex that neither reads nor is read. -/
def addVertex (g : DependencyGraph) (path : String) (hasError : Bool) : DependencyGraph :=
  { g with
    vertices := g.vertices ++ [{ id := path, hasError }]
    index := upsert path g.vertices.length g.index
    readers := g.readers.push []
    reads := g.reads.push [] }

/-- The number of a path, which becomes a vertex if it is none yet. -/
def intern (g : DependencyGraph) (path : String) (hasError : Bool) : DependencyGraph × Nat :=
  match lookup path g.index with
  | some i => ({ g with vertices := g.vertices.modify i (·.orError hasError) }, i)
  | none => (g.addVertex path hasError, g.vertices.length)

/-- The path with a number. -/
def idAt (g : DependencyGraph) (i : Nat) : String := ((g.vertices[i]?).map (·.id)).getD ""

/-- Add an edge from one vertex to another. -/
def putEdge (g : DependencyGraph) (i j : Nat) : DependencyGraph :=
  { g with
    edges := g.edges ++ [⟨g.idAt i, g.idAt j⟩]
    readers := g.readers.modify i (· ++ [j])
    reads := g.reads.modify j (· ++ [i]) }

/-- Add an edge that is not there yet. -/
def addEdge (g : DependencyGraph) (i j : Nat) : DependencyGraph :=
  if (g.readers.next i).contains j then g else g.putEdge i j

/-- The node at a path carries the error of its expression. -/
def carriesError (t : Tree) (path : String) : Bool :=
  (t.get? path).any fun n => n.traits.expressionError.isSome

/-- Add a path that a vertex reads. -/
def addRead (t : Tree) (j : Nat) (g : DependencyGraph) (path : String) : DependencyGraph :=
  let (g, i) := g.intern path (carriesError t path)
  g.addEdge i j

/-- Add a node and what its expression reads. -/
def addEntry (t : Tree) (g : DependencyGraph) (e : Entry) : DependencyGraph :=
  match e.node.traits.expression with
  | none => g
  | some source =>
    let (g, j) := g.intern e.path e.node.traits.expressionError.isSome
    (dependencies source).foldl (addRead t j) g

/-- The vertices and edges of a tree. -/
def collect (t : Tree) : DependencyGraph := t.primitives.foldl (addEntry t) {}

/-- Say of each vertex whether it is on a cycle, and its level. -/
def rank (g : DependencyGraph) : DependencyGraph :=
  let cyclic := g.readers.cyclic
  let levels := g.readers.levels cyclic
  { g with
    vertices := g.vertices.zipIdx.map fun (v, i) =>
      { v with level := (levels[i]?).getD 0, cyclic := (cyclic[i]?).getD false }
    hasCycle := g.readers.hasCycle }

/-- The graph of a tree. -/
def ofTree (t : Tree) : DependencyGraph := (collect t).rank

def find? (g : DependencyGraph) (path : String) : Option Vertex :=
  (lookup path g.index).bind fun i => g.vertices[i]?

/-- The paths of the vertices next to a path. -/
def neighbours (g : DependencyGraph) (adj : Adjacency) (path : String) : List String :=
  match lookup path g.index with
  | some i => (adj.next i).map g.idAt
  | none => []

/-- The paths that the expression at a path reads. -/
def dependenciesOf (g : DependencyGraph) (path : String) : List String := g.neighbours g.reads path

/-- The paths whose expressions read a path. -/
def dependentsOf (g : DependencyGraph) (path : String) : List String := g.neighbours g.readers path

def level? (g : DependencyGraph) (path : String) : Option Nat := (g.find? path).map (·.level)

/-- A path is on a cycle. -/
def isCyclic (g : DependencyGraph) (path : String) : Bool := (g.find? path).any (·.cyclic)

/-- All paths on cycles. -/
def cyclicPaths (g : DependencyGraph) : List String := (g.vertices.filter (·.cyclic)).map (·.id)

/-- The graph as JSON. -/
def toWire (g : DependencyGraph) : Json :=
  .obj [("nodes", .arr (g.vertices.map fun v =>
      .obj [("id", .str v.id), ("level", .int v.level), ("hasError", .bool v.hasError)])),
    ("edges", .arr (g.edges.map fun e => .obj [("from", .str e.source), ("to", .str e.target)])),
    ("hasCycle", .bool g.hasCycle)]

end DependencyGraph
end ReactiveTree.Graph
