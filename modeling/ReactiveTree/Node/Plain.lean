import ReactiveTree.Node.Basic

/-!
# Plain JSON of a node

The values of a node without traits: an object, an array or a scalar, the keys of objects in
ascending order. Building a node from plain JSON, `null` becomes the empty text, and keys that
no path can address are left out.

Key definitions: `Node.toPlain`, `Node.ofPlain`.
-/
namespace ReactiveTree.Node

mutual
/-- The values of a node. -/
def toPlain : Node → Json
  | .object _ cs => .obj (Json.sortMembers (plainMembers cs))
  | .array _ is => .arr (plainItems is)
  | .leaf _ v => v.toJson

def plainMembers : List (String × Node) → List (String × Json)
  | [] => []
  | (k, n) :: cs => (k, toPlain n) :: plainMembers cs

def plainItems : List Node → List Json
  | [] => []
  | n :: is => toPlain n :: plainItems is
end

mutual
/-- A node with these values. -/
def ofPlain : Json → Node
  | .obj ms => .object default (childrenOfPlain ms)
  | .arr items => .array default (itemsOfPlain items)
  | j => primitive ((Scalar.ofJson? j).getD (.string ""))

def childrenOfPlain : List (String × Json) → List (String × Node)
  | [] => []
  | (k, j) :: ms =>
    if Path.isValidKey k then (k, ofPlain j) :: childrenOfPlain ms else childrenOfPlain ms

def itemsOfPlain : List Json → List Node
  | [] => []
  | j :: js => ofPlain j :: itemsOfPlain js
end

end ReactiveTree.Node
