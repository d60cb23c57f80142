import ReactiveTree.Node.Basic

/-!
# Reaching nodes

Nodes below a node are addressed by lists of segments: a key under an object, decimal digits
under an array. Writing creates the objects that are missing on the way; under an array an
address is an item that is there, or the place after the last. Every operation gives the new
node, or refuses and gives none.

Key definitions: `Node.get?`, `Node.modify?`, `Node.put`, `Node.extract?`.
-/
namespace ReactiveTree.Node

open Json (lookup eraseKey)

/-- The child that a segment names. -/
def child? (segment : String) : Node → Option Node
  | .object _ cs => lookup segment cs
  | .array _ is => (Path.index? segment).bind (is[·]?)
  | .leaf _ _ => none

/-- The node at an address. -/
def get? : List String → Node → Option Node
  | [], n => some n
  | s :: rest, n => (n.child? s).bind (get? rest)

/-- Put another node in the place of the child that a segment names. -/
def replaceChild (n : Node) (segment : String) (child : Node) : Node :=
  match n with
  | .object t cs => .object t (Json.upsert segment child cs)
  | .array t is =>
    match Path.index? segment with
    | some i => .array t (is.set i child)
    | none => .array t is
  | n => n

/-- Change the node at an address; none if there is no node. -/
def modify? (f : Node → Node) : List String → Node → Option Node
  | [], n => some (f n)
  | s :: rest, n => do
    let c ← n.child? s
    let c ← modify? f rest c
    return n.replaceChild s c

/-- Write a node at an address, creating empty objects where there is nothing; `path` is the
text of the whole address. -/
def put (path : String) (new : Node) : List String → Node → Except PathError Node
  | [], _ => .ok new
  | s :: rest, .object t cs => do
    let c ← put path new rest ((lookup s cs).getD emptyObject)
    return .object t (Json.upsert s c cs)
  | s :: rest, .array t is =>
    match Path.index? s with
    | none => .error (.invalidIndex path s)
    | some i =>
      match is[i]? with
      | some item => do
        let c ← put path new rest item
        return .array t (is.set i c)
      | none =>
        if i = is.length then do
          let c ← put path new rest emptyObject
          return .array t (is ++ [c])
        else .error (.indexOutOfBounds path i is.length)
  | s :: _, .leaf _ _ => .error (.traverseIntoPrimitive path s)

/-- Take out the child that a segment names: the child, and the node without it. -/
def extractChild? (segment : String) : Node → Option (Node × Node)
  | .object t cs => (lookup segment cs).map fun c => (c, .object t (eraseKey segment cs))
  | .array t is => do
    let i ← Path.index? segment
    let c ← is[i]?
    return (c, .array t (is.eraseIdx i))
  | .leaf _ _ => none

/-- Take out the node at an address: that node, and what stays. -/
def extract? : List String → Node → Option (Node × Node)
  | [], _ => none
  | [s], n => n.extractChild? s
  | s :: rest, n => do
    let c ← n.child? s
    let (gone, c) ← extract? rest c
    return (gone, n.replaceChild s c)

/-- Move the item at `i` to `j`; the others keep their order. -/
def moveItem {α : Type} (i j : Nat) (items : List α) : List α :=
  match items[i]? with
  | some item => (items.eraseIdx i).insertIdx j item
  | none => items

end ReactiveTree.Node
