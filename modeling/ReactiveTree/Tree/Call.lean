import ReactiveTree.Tree.Binding

/-!
# Changing a tree in place

A tree that is held in memory is changed step by step. A call gives its answer or is refused, and
either way it leaves the tree as far as it got: to write a node it goes down along the path and
creates the objects that are missing, before it knows whether the last segment can be written.

Key definitions: `Call`, `Node.enter`, `Node.place`, `Node.write`, `Call.set`, `Call.delete`,
`Call.sync`, `Call.syncAny`, `Edit`, `Edit.perform`.
-/
namespace ReactiveTree

/-- What is done to a tree: its answer or why it is refused, and the tree that it leaves. -/
abbrev Call (α : Type) := EStateM PathError Tree α

namespace Node

open Json (lookup upsert)

/-- What is done to a node. -/
abbrev Visit := EStateM PathError Node Unit

/-- What became of a child, seen from the node that it belongs to. -/
def within (parent : Node → Node) :
    EStateM.Result PathError Node Unit → EStateM.Result PathError Node Unit
  | .ok () c => .ok () (parent c)
  | .error e c => .error e (parent c)

/-- Visit the child that a segment names. Where an object has no such child, or an array ends
just there, an empty object is created first. `path` is the text of the whole address. -/
def enter (path segment : String) (visit : Visit) : Visit
  | .object t cs =>
    within (fun c => .object t (upsert segment c cs))
      (visit ((lookup segment cs).getD emptyObject))
  | .array t is =>
    match Path.index? segment with
    | none => .error (.invalidIndex path segment) (.array t is)
    | some i =>
      let is := if i = is.length then is ++ [emptyObject] else is
      match is[i]? with
      | some item => within (fun c => .array t (is.set i c)) (visit item)
      | none => .error (.indexOutOfBounds path i is.length) (.array t is)
  | .leaf t v => .error (.traverseIntoPrimitive path segment) (.leaf t v)

/-- Put a node under a segment. -/
def place (path segment : String) (new : Node) : Visit
  | .object t cs => .ok () (.object t (upsert segment new cs))
  | .array t is =>
    match Path.index? segment with
    | none => .error (.invalidIndex path segment) (.array t is)
    | some i =>
      if i < is.length then .ok () (.array t (is.set i new))
      else if i = is.length then .ok () (.array t (is ++ [new]))
      else .error (.indexOutOfBounds path i is.length) (.array t is)
  | .leaf t v => .error (.traverseIntoPrimitive path segment) (.leaf t v)

/-- Go down along an address and put a node under its last segment. -/
def write (path : String) (new : Node) : List String → Visit
  | [] => fun _ => .ok () new
  | [s] => place path s new
  | s :: rest => enter path s (write path new rest)

end Node

namespace Call

/-- The node at a path. -/
def find? (path : String) : Call (Option Node) := return (← get).get? path

/-- Change the node at a path, if there is one. -/
def change (f : Node → Node) (path : String) : Call Unit := modify (·.modify f path)

/-- Change the root. -/
def onRoot (visit : Node.Visit) : Call Unit := fun t =>
  match visit t.root with
  | .ok () root => .ok () ⟨root⟩
  | .error e root => .error e ⟨root⟩

/-- Go on with what was found, or be refused. -/
def demand {α : Type} : Except PathError α → Call α
  | .ok a => return a
  | .error e => throw e

/-- Write a node at a path, creating the objects that are missing on the way. -/
def set (path : String) (node : Node) : Call Unit := do
  demand (node.checkAt path)
  match ← demand (Path.split path) with
  | [] => if node.kind = .object then modify fun _ => ⟨node⟩ else throw .rootMustBeObject
  | s :: rest => onRoot (node.write path (s :: rest))

/-- Set the value of a primitive, or create one. -/
def setPrimitive (path : String) (v : Scalar) : Call Unit := do
  match ← find? path with
  | some n =>
    if n.isPrimitive then change (fun n => (n.setValue? v).getD n) path
    else throw (.notPrimitive path)
  | none => set path (.primitive v)

/-- Create an empty object under a parent, which is there afterwards. -/
def createChild (parent key : String) : Call Unit := do
  let path := Path.join parent key
  if !Path.isValidKey key then throw (.malformed path)
  if (← find? path).isSome then throw (.alreadyExists path)
  set path .emptyObject
  if (← find? path).isNone then throw (.notFound path)

/-- The items of the array at a path. -/
def itemsAt (path : String) : Call (List Node) := do demand ((← get).itemsAt path)

/-- Append a node to the array at a path: the index of the node. -/
def push (path : String) (node : Node) : Call Nat := do
  let items ← itemsAt path
  demand (node.checkAt (Path.join path (toString items.length)))
  modify (·.withItemsAt path (items ++ [node]))
  return items.length

/-- Be refused if an index is none of the items'. -/
def inBounds (path : String) (items : List Node) (i : Nat) : Call Unit :=
  if items.length ≤ i then throw (.indexOutOfBounds path i items.length) else return

/-- Move an item of the array at a path. -/
def reorder (path : String) (i j : Nat) : Call Unit := do
  let items ← itemsAt path
  inBounds path items i
  inBounds path items j
  if i = j then return
  modify (·.withItemsAt path (Node.moveItem i j items))

/-- Change the traits of the primitive at a path. -/
def changeTraits (f : Traits → Traits) (path : String) : Call Unit := do
  match ← find? path with
  | none => throw (.notFound path)
  | some n =>
    if n.isPrimitive then change (fun n => n.withTraits (f n.traits)) path
    else throw (.expressionOnContainer path)

def setExpression (path source : String) : Call Unit :=
  changeTraits (fun r => { r with expression := some source, expressionError := none }) path

def clearExpression (path : String) : Call Unit :=
  changeTraits (fun r => { r with expression := none, expressionError := none }) path

/-- Remove the node at a path: its parent is found by what stands before the last point. -/
def delete (path : String) : Call (Option Node) := do
  match Path.split path, Path.parentAndKey? path with
  | .ok _, some (parent, key) =>
    match ((← find? parent).bind (·.extractChild? key)) with
    | some (gone, left) =>
      change (fun _ => left) parent
      return some gone
    | none => return none
  | _, _ => return none

/-- Bind the primitive at a path and seed its value, or create one. -/
def bind (path : String) (b : Binding) (seed : Scalar) : Call Unit := do
  match ← find? path with
  | some n =>
    if n.isPrimitive then do
      if let some v := seed.coerce? n.kind then
        change (fun n => (n.setValue? v).getD n) path
      change (fun n => n.withTraits { n.traits with binding := some b }) path
    else throw (.notPrimitive path)
  | none => set path (.leaf { binding := some b } seed)

/-- Take the binding off the node at a path: whether there was one. -/
def unbind (path : String) : Call Bool := do
  match ← find? path with
  | some n =>
    change (fun n => n.withTraits { n.traits with binding := none }) path
    return n.traits.binding.isSome
  | none => return false

/-- Refresh some bound primitives in turn: the paths of those whose values have changed. What is
answered may depend on what was asked before. -/
def refreshAll (resolve : List Binding → Binding → Option Scalar) (asked : List Binding) :
    List (String × Binding) → Call (List String)
  | [] => return []
  | (path, b) :: rest => do
    let changed ← modifyGet fun t =>
      let (t, changed) := t.refresh path (resolve asked b)
      (changed, t)
    let paths ← refreshAll resolve (asked ++ [b]) rest
    return if changed then path :: paths else paths

/-- Refresh every bound primitive. -/
def sync (resolve : List Binding → Binding → Option Scalar) : Call (List String) := do
  refreshAll resolve [] (← get).bound

/-- Refresh every bound primitive: whether any value has changed. -/
def syncAny (resolve : List Binding → Binding → Option Scalar) : Call Bool := do
  return !(← sync resolve).isEmpty

end Call

/-- What can be done to a tree in place. -/
inductive Edit where
  | set (path : String) (node : Node)
  | setPrimitive (path : String) (v : Scalar)
  | createChild (parent key : String)
  | push (path : String) (node : Node)
  | delete (path : String)
  | reorder (path : String) (i j : Nat)
  | setExpression (path source : String)
  | clearExpression (path : String)
  | bind (path : String) (b : Binding) (seed : Scalar)
  | unbind (path : String)
  | sync (resolve : List Binding → Binding → Option Scalar)

/-- Make an edit, and tell no more than whether it is refused. -/
def Edit.perform : Edit → Call Unit
  | set path node => Call.set path node
  | setPrimitive path v => Call.setPrimitive path v
  | createChild parent key => Call.createChild parent key
  | push path node => discard (Call.push path node)
  | delete path => discard (Call.delete path)
  | reorder path i j => Call.reorder path i j
  | setExpression path source => Call.setExpression path source
  | clearExpression path => Call.clearExpression path
  | bind path b seed => Call.bind path b seed
  | unbind path => discard (Call.unbind path)
  | sync resolve => discard (Call.sync resolve)

end ReactiveTree
