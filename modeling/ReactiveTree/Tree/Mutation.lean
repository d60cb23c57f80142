import ReactiveTree.Tree.Basic

/-!
# Changing a tree

Every operation gives the changed tree, or the reason why it is refused; a refusal leaves
nothing behind.

Key definitions: `Tree.set`, `Tree.setPrimitive`, `Tree.delete?`, `Tree.createChild`,
`Tree.push`, `Tree.reorder`, `Tree.setExpression`, `Tree.clearExpression`.
-/
namespace ReactiveTree.Tree

/-- Write a node at a path, creating the objects that are missing on the way. Under an array the
last segment is an index that is there, or the length. The empty path is the root. -/
def set (t : Tree) (path : String) (node : Node) : Except PathError Tree := do
  node.checkAt path
  match ← Path.split path with
  | [] => if node.kind = .object then return ⟨node⟩ else throw .rootMustBeObject
  | segments => return ⟨← Node.put path node segments t.root⟩

/-- Set the value of a primitive, which keeps its traits and takes the kind of the value; a node
that is missing is created. -/
def setPrimitive (t : Tree) (path : String) (v : Scalar) : Except PathError Tree :=
  match t.get? path with
  | some n =>
    match n.setValue? v with
    | some n => .ok (t.modify (fun _ => n) path)
    | none => .error (.notPrimitive path)
  | none => t.set path (.primitive v)

/-- Remove the node at a path: that node, and the tree without it. The root stays. -/
def delete? (t : Tree) (path : String) : Option (Node × Tree) :=
  match Path.split path with
  | .ok segments => (t.root.extract? segments).map fun (gone, root) => (gone, ⟨root⟩)
  | .error _ => none

/-- Create an empty object under a parent; the key must be free. -/
def createChild (t : Tree) (parent key : String) : Except PathError Tree :=
  let path := Path.join parent key
  if !Path.isValidKey key then .error (.malformed path)
  else if (t.get? path).isSome then .error (.alreadyExists path)
  else t.set path .emptyObject

/-- The items of the array at a path. -/
def itemsAt (t : Tree) (path : String) : Except PathError (List Node) :=
  match t.get? path with
  | none => .error (.notFound path)
  | some (.array _ items) => .ok items
  | some _ => .error (.notAnArray path)

/-- Put other items into the array at a path. -/
def withItemsAt (t : Tree) (path : String) (items : List Node) : Tree :=
  t.modify (fun n => .array n.traits items) path

/-- Append a node to the array at a path: the changed tree, and the index of the node. -/
def push (t : Tree) (path : String) (node : Node) : Except PathError (Tree × Nat) := do
  let items ← t.itemsAt path
  node.checkAt (Path.join path (toString items.length))
  return (t.withItemsAt path (items ++ [node]), items.length)

/-- Move an item of the array at a path. -/
def reorder (t : Tree) (path : String) (i j : Nat) : Except PathError Tree := do
  let items ← t.itemsAt path
  if items.length ≤ i then throw (.indexOutOfBounds path i items.length)
  if items.length ≤ j then throw (.indexOutOfBounds path j items.length)
  if i = j then return t
  return t.withItemsAt path (Node.moveItem i j items)

/-- Change the traits of the primitive at a path. -/
def modifyPrimitive (f : Traits → Traits) (t : Tree) (path : String) : Except PathError Tree :=
  match t.get? path with
  | none => .error (.notFound path)
  | some n =>
    if n.isPrimitive then .ok (t.modify (fun n => n.withTraits (f n.traits)) path)
    else .error (.expressionOnContainer path)

/-- Attach an expression to a primitive and forget the last failure; nothing is evaluated. -/
def setExpression (t : Tree) (path source : String) : Except PathError Tree :=
  t.modifyPrimitive (fun r => { r with expression := some source, expressionError := none }) path

/-- Remove the expression of a primitive and its last failure. -/
def clearExpression (t : Tree) (path : String) : Except PathError Tree :=
  t.modifyPrimitive (fun r => { r with expression := none, expressionError := none }) path

end ReactiveTree.Tree
