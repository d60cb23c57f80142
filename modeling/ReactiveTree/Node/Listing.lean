import ReactiveTree.Node.Basic

/-!
# Listing a tree

The nodes below a node in depth-first order, parents before their descendants and siblings in
their stored order, each with its path.

Key definitions: `Entry`, `Listing`, `Node.entries`, `Node.primitives`.
-/
namespace ReactiveTree

/-- A listed node and where it stands. -/
structure Entry where
  path : String
  node : Node
deriving Inhabited

/-- Which nodes a listing shows. -/
structure Listing where
  /-- Only primitives and empty containers. -/
  leavesOnly : Bool := false
  /-- Containers that are not empty as well. -/
  includeContainers : Bool := true
  /-- Pass over global nodes and all below them. -/
  filterGlobal : Bool := false
deriving Repr, DecidableEq

namespace Listing

def everything : Listing := {}

def leaves : Listing := { leavesOnly := true }

/-- The listing shows this node. -/
def shows (l : Listing) (n : Node) : Bool :=
  n.isLeaf || (!l.leavesOnly && l.includeContainers)

end Listing

namespace Node

mutual
/-- The entries below a node that stands at `path`. -/
def entriesBelow (l : Listing) (path : String) : Node → List Entry
  | .object _ cs => entriesOfChildren l path cs
  | .array _ is => entriesOfItems l path 0 is
  | .leaf _ _ => []

def entriesOfChildren (l : Listing) (path : String) : List (String × Node) → List Entry
  | [] => []
  | (k, n) :: cs =>
    let here := Path.join path k
    let own :=
      if l.filterGlobal && n.traits.isGlobal then []
      else (if l.shows n then [⟨here, n⟩] else []) ++ entriesBelow l here n
    own ++ entriesOfChildren l path cs

def entriesOfItems (l : Listing) (path : String) (i : Nat) : List Node → List Entry
  | [] => []
  | n :: is =>
    let here := Path.join path (toString i)
    let own :=
      if l.filterGlobal && n.traits.isGlobal then []
      else (if l.shows n then [⟨here, n⟩] else []) ++ entriesBelow l here n
    own ++ entriesOfItems l path (i + 1) is
end

/-- The nodes below a root. -/
def entries (l : Listing) (root : Node) : List Entry := entriesBelow l "" root

/-- The primitive nodes below a root. -/
def primitives (root : Node) : List Entry :=
  (entries .leaves root).filter (·.node.isPrimitive)

end Node
end ReactiveTree
