import ReactiveTree.Scalar
import ReactiveTree.Path

/-!
# Nodes

A node is an object with keyed children in their stored order, an array of items, or a leaf
with a value; every node has traits: an expression that computes it, rules that check it,
scripts that watch it, and a binding to the property of a component.

Key definitions: `Node`, `Traits`, `Rules`, `Binding`, `Node.create`, `Node.checkAt`.
-/
namespace ReactiveTree

/-- The component property that a node takes its value from. -/
structure Binding where
  sourceId : String
  propName : String
deriving Repr, DecidableEq, Inhabited

/-- The rules that a value is checked against, in the order of the fields. -/
structure Rules where
  required : Bool := false
  min : Option Float := none
  max : Option Float := none
  /-- A pattern that text has to match somewhere. -/
  pattern : Option String := none
  /-- A snippet; `false` and a text signal failure. -/
  custom : Option String := none
  /-- Takes the place of the built-in messages. -/
  message : Option String := none
deriving Repr, Inhabited

/-- What a node carries besides its content. -/
structure Traits where
  /-- The snippet that computes the value. -/
  expression : Option String := none
  /-- Why the expression failed when it ran last. -/
  expressionError : Option String := none
  validation : Option Rules := none
  /-- Scripts run when the value has changed. -/
  watchers : List String := []
  binding : Option Binding := none
  scope : Option String := none
  isGlobal : Bool := false
  globalKey : Option String := none
deriving Repr, Inhabited

/-- Nothing is set. -/
def Traits.isEmpty (t : Traits) : Bool :=
  t.expression.isNone && t.expressionError.isNone && t.validation.isNone && t.watchers.isEmpty &&
    t.binding.isNone && t.scope.isNone && !t.isGlobal && t.globalKey.isNone

/-- A node of the tree with everything below it. -/
inductive Node where
  | object (traits : Traits) (children : List (String × Node))
  | array (traits : Traits) (items : List Node)
  | leaf (traits : Traits) (value : Scalar)
deriving Inhabited

namespace Node

def traits : Node → Traits
  | .object t _ => t
  | .array t _ => t
  | .leaf t _ => t

def withTraits (t : Traits) : Node → Node
  | .object _ cs => .object t cs
  | .array _ is => .array t is
  | .leaf _ v => .leaf t v

def kind : Node → Kind
  | .object _ _ => .object
  | .array _ _ => .array
  | .leaf _ v => v.kind

def isPrimitive : Node → Bool
  | .leaf _ _ => true
  | _ => false

/-- A primitive, or a container with nothing in it. -/
def isLeaf : Node → Bool
  | .object _ cs => cs.isEmpty
  | .array _ is => is.isEmpty
  | .leaf _ _ => true

/-- The value of a primitive. -/
def value? : Node → Option Scalar
  | .leaf _ v => some v
  | _ => none

def children? : Node → Option (List (String × Node))
  | .object _ cs => some cs
  | _ => none

def items? : Node → Option (List Node)
  | .array _ is => some is
  | _ => none

/-- A primitive without traits. -/
def primitive (v : Scalar) : Node := .leaf default v

def emptyObject : Node := .object default []

/-- A new node of a kind, with the kind's first value. -/
def ofKind (k : Kind) : Node :=
  match k.default? with
  | some v => .leaf default v
  | none => if k = .array then .array default [] else emptyObject

/-- A new node of a kind. A value is coerced to the kind; where that fails, and for
containers, the kind's first value stands. -/
def create (k : Kind) (value : Option Scalar) (t : Traits) : Node :=
  match value.bind (·.coerce? k) with
  | some v => .leaf t v
  | none => (ofKind k).withTraits t

/-- Replace the value of a primitive, which takes the kind of the new value; nothing for
containers. -/
def setValue? (v : Scalar) : Node → Option Node
  | .leaf t _ => some (.leaf t v)
  | _ => none

/-- Put a child into an object; other nodes stay as they are. -/
def withChild (n : Node) (key : String) (child : Node) : Node :=
  match n with
  | .object t cs => .object t (Json.upsert key child cs)
  | n => n

/-- Append an item to an array; other nodes stay as they are. -/
def withItem (n item : Node) : Node :=
  match n with
  | .array t is => .array t (is ++ [item])
  | n => n

/-! ### The rules that every tree keeps -/

mutual
/-- The first breach of the rules below a node that is found at `path`: an expression on a
container, or a key that no path can address. -/
def checkAt (path : String) : Node → Except PathError Unit
  | .object t cs =>
    if t.expression.isSome then .error (.expressionOnContainer path) else checkChildren path cs
  | .array t is =>
    if t.expression.isSome then .error (.expressionOnContainer path) else checkItems path 0 is
  | .leaf _ _ => .ok ()

def checkChildren (path : String) : List (String × Node) → Except PathError Unit
  | [] => .ok ()
  | (k, n) :: cs =>
    if Path.isValidKey k then
      match checkAt (Path.join path k) n with
      | .ok () => checkChildren path cs
      | .error e => .error e
    else .error (.malformed (Path.join path k))

def checkItems (path : String) (i : Nat) : List Node → Except PathError Unit
  | [] => .ok ()
  | n :: is =>
    match checkAt (Path.join path (toString i)) n with
    | .ok () => checkItems path (i + 1) is
    | .error e => .error e
end

end Node
end ReactiveTree
