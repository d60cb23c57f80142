import ReactiveTree.Tree.Basic
import ReactiveTree.Json.Writing

/-!
# Flat maps

The older form of a property store: one entry for each property, with its kind, its value and
the global mark; containers are kept as JSON text. A flat map can be migrated to a tree, and
the top level of a tree flattened again.

Key definitions: `FlatEntry`, `FlatMap`, `FlatMap.migrate`, `Tree.flatten`, `FlatMap.read`.
-/
namespace ReactiveTree

/-- An entry of a flat map. -/
structure FlatEntry where
  kind : Kind
  value : Json
  isGlobal : Bool

/-- Properties by name, in their order. -/
abbrev FlatMap := List (String × FlatEntry)

namespace FlatEntry

/-- The plain JSON of a container entry, which may be kept as text. -/
def content? (e : FlatEntry) : Option Json :=
  match e.value with
  | .str text => Json.read? text
  | .null => none
  | j => some j

/-- The node of an entry. What does not fit the kind gives an empty container, or the first
value of the kind; a number that is `null` is NaN. -/
def toNode (e : FlatEntry) : Node :=
  match e.kind with
  | .object | .array =>
    match e.content?.map Node.ofPlain with
    | some n => if n.kind = e.kind then n else .ofKind e.kind
    | none => .ofKind e.kind
  | .number =>
    match e.value with
    | .null => .primitive (.number Decimal.nan)
    | j => .create .number (Scalar.ofJson? j) {}
  | kind => .create kind (Scalar.ofJson? e.value) {}

/-- The entry of a node. -/
def ofNode (n : Node) : FlatEntry :=
  { kind := n.kind
    value := match n.value? with
      | some v => v.toJson
      | none => .str n.toPlain.compact
    isGlobal := n.traits.isGlobal }

def toWire (e : FlatEntry) : Json :=
  .obj ([("type", .str e.kind.name), ("value", e.value)] ++ flag "global" e.isGlobal)

/-- Read the kind of an entry: a name, or an object of the name alone with `null`. -/
def readKind (origin : Origin) : Json → Except Fault Kind
  | .str s => (Kind.ofName? s).elim (.error .shape) .ok
  | .obj ms =>
    let other : Fault := if origin = .text then .notJson else .shape
    match ms with
    | [] => .error other
    | (k, j) :: rest =>
      if origin = .value ∧ rest ≠ [] then .error .shape
      else match j with
        | .broken => .error .notJson
        | .unusable => .error .notJson
        | .null =>
          match Kind.ofName? k with
          | some kind => if rest.isEmpty then .ok kind else .error other
          | none => .error .shape
        | _ => .error .shape
  | _ => .error (if origin = .text then .notJson else .shape)

def read (origin : Origin) : Json → Except Fault FlatEntry :=
  Json.readRecord origin
    [fieldOf "type" (readKind origin) (fun v e => { e with kind := v }) .everywhere,
     fieldOf "value" Json.readAny (fun v e => { e with value := v }),
     fieldOf "global" Json.readBool (fun v e => { e with isGlobal := v })]
    ⟨.object, .null, false⟩

end FlatEntry

namespace FlatMap

def read (origin : Origin) : Json → Except Fault FlatMap := Json.readMap (FlatEntry.read origin)

def ofText (text : String) : Except Fault FlatMap := Json.readDocument (read .text) text

def toWire (m : FlatMap) : Json := .obj (m.map fun (k, e) => (k, e.toWire))

/-- Build the tree of a flat map. Keys that no path can address are left out. -/
def migrate (m : FlatMap) : Tree :=
  let children := (m.filter fun (k, _) => Path.isValidKey k).map fun (k, e) =>
    let n := e.toNode
    (k, n.withTraits { n.traits with isGlobal := e.isGlobal })
  ⟨.object default children⟩

end FlatMap

/-- The flat map of a tree's top level. -/
def Tree.flatten (t : Tree) : FlatMap :=
  ((t.root.children?).getD []).map fun (k, n) => (k, FlatEntry.ofNode n)

end ReactiveTree
