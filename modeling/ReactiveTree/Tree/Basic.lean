import ReactiveTree.Node.Access
import ReactiveTree.Node.Listing
import ReactiveTree.Node.Plain
import ReactiveTree.Node.Document

/-!
# Trees

A tree is a root node; the root is always an object, every key can be addressed, and no
container carries an expression. `Tree.check` says whether that holds, and each way to make a
tree from outside goes through it.

Key definitions: `Tree`, `Tree.check`, `Tree.ofRoot`, `Tree.get?`, `Tree.entries`, `Tree.read`.
-/
namespace ReactiveTree

structure Tree where
  root : Node

namespace Tree

/-- A tree with nothing in it. -/
def empty : Tree := ⟨Node.emptyObject⟩

instance : Inhabited Tree := ⟨empty⟩

/-- The first breach of the rules of a tree. -/
def check (t : Tree) : Except PathError Unit :=
  if t.root.kind = .object then t.root.checkAt "" else .error .rootMustBeObject

/-- The tree of a root node that keeps the rules. -/
def ofRoot (root : Node) : Except PathError Tree :=
  match check ⟨root⟩ with
  | .ok () => .ok ⟨root⟩
  | .error e => .error e

/-- The node at a path; none if the path is malformed or leads nowhere. -/
def get? (t : Tree) (path : String) : Option Node :=
  match Path.split path with
  | .ok segments => t.root.get? segments
  | .error _ => none

/-- The value of the primitive at a path. -/
def value? (t : Tree) (path : String) : Option Scalar := (t.get? path).bind (·.value?)

/-- Change the node at a path; none if there is no node. -/
def modify? (f : Node → Node) (t : Tree) (path : String) : Option Tree :=
  match Path.split path with
  | .ok segments => (t.root.modify? f segments).map Tree.mk
  | .error _ => none

/-- Change the node at a path, if there is one. -/
def modify (f : Node → Node) (t : Tree) (path : String) : Tree := (t.modify? f path).getD t

/-- The nodes that a listing shows, the root left out. -/
def entries (l : Listing) (t : Tree) : List Entry := t.root.entries l

/-- The primitive nodes in the order of the listing. -/
def primitives (t : Tree) : List Entry := t.root.primitives

/-- The number of nodes below the root. -/
def size (t : Tree) : Nat := (t.entries .everything).length

def isEmpty (t : Tree) : Bool := t.root.isLeaf

/-- Read a tree; a breach of its rules is a fault of the shape. -/
def read (origin : Origin) (j : Json) : Except Fault Tree :=
  match Node.read origin j with
  | .error e => .error e
  | .ok n =>
    match ofRoot n with
    | .ok t => .ok t
    | .error _ => .error .shape

/-- Read a tree from its text. -/
def ofText (text : String) : Except Fault Tree := Json.readDocument (read .text) text

/-- The tree as a document. -/
def toWire (t : Tree) : Json := t.root.toWire

end Tree
end ReactiveTree
