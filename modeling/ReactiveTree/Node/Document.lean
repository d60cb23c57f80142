import ReactiveTree.Node.Basic
import ReactiveTree.Json.Form

/-!
# Nodes in documents

A node is written as an object with its `type`, its `children`, `items` or `value`, and its
traits under `meta` unless nothing is set there. Reading, the traits are taken as they come;
all else is looked at when the object has ended, so a fault of the text anywhere in it comes
first.

Key definitions: `Traits.toWire`, `Traits.read`, `Node.toWire`, `Node.ofWire?`, `Node.read`.
-/
namespace ReactiveTree

/-! ### Writing -/

/-- A member that is there only with a value. -/
def optional (name : String) (value : Option Json) : List (String × Json) :=
  match value with
  | some j => [(name, j)]
  | none => []

/-- A mark that is there only when it is set. -/
def flag (name : String) (b : Bool) : List (String × Json) :=
  if b then [(name, .bool true)] else []

def Binding.toWire (b : Binding) : Json :=
  .obj [("sourceId", .str b.sourceId), ("propName", .str b.propName)]

/-- The rules as JSON, with bounds written by `bound`. -/
def Rules.toWire (bound : Float → Json) (r : Rules) : Json :=
  .obj (flag "required" r.required ++ optional "min" (r.min.map bound) ++
    optional "max" (r.max.map bound) ++ optional "pattern" (r.pattern.map .str) ++
    optional "custom" (r.custom.map .str) ++ optional "message" (r.message.map .str))

/-- The traits as JSON, with bounds of rules written by `bound`. -/
def Traits.toWire (bound : Float → Json) (t : Traits) : Json :=
  .obj (optional "expression" (t.expression.map .str) ++
    optional "expressionError" (t.expressionError.map .str) ++
    optional "validation" (t.validation.map (·.toWire bound)) ++
    (if t.watchers.isEmpty then []
      else [("watchers", .arr (t.watchers.map fun s => .obj [("script", .str s)]))]) ++
    optional "ref" (t.binding.map Binding.toWire) ++
    optional "namespace" (t.scope.map .str) ++ flag "global" t.isGlobal ++
    optional "globalKey" (t.globalKey.map .str))

/-- The `meta` member of a node. -/
def Traits.member (t : Traits) : List (String × Json) :=
  if t.isEmpty then [] else [("meta", t.toWire Json.double)]

namespace Node

mutual
/-- The node as a document. -/
def toWire : Node → Json
  | .object t cs =>
    .obj ([("type", .str Kind.object.name), ("children", .obj (childrenToWire cs))] ++ t.member)
  | .array t is =>
    .obj ([("type", .str Kind.array.name), ("items", .arr (itemsToWire is))] ++ t.member)
  | .leaf t v => .obj ([("type", .str v.kind.name), ("value", v.toWire)] ++ t.member)

def childrenToWire : List (String × Node) → List (String × Json)
  | [] => []
  | (k, n) :: cs => (k, toWire n) :: childrenToWire cs

def itemsToWire : List Node → List Json
  | [] => []
  | n :: is => toWire n :: itemsToWire is
end

end Node

/-! ### Reading traits -/

open Json (readString readBool readDouble readOption readList readRecord)

/-- A field that holds a value of one type. -/
def fieldOf {σ α : Type} (name : String) (read : Json → Except Fault α) (put : α → σ → σ)
    (need : Need := .nowhere) : Field σ :=
  { name, need, read := fun j s => (read j).map (put · s) }

def Binding.read (origin : Origin) : Json → Except Fault Binding :=
  readRecord origin
    [fieldOf "sourceId" readString (fun v b => { b with sourceId := v }) .everywhere,
     fieldOf "propName" readString (fun v b => { b with propName := v }) .everywhere]
    default

def Rules.read (origin : Origin) : Json → Except Fault Rules :=
  readRecord origin
    [fieldOf "required" readBool (fun v r => { r with required := v }),
     fieldOf "min" (readOption readDouble) (fun v r => { r with min := v }),
     fieldOf "max" (readOption readDouble) (fun v r => { r with max := v }),
     fieldOf "pattern" (readOption readString) (fun v r => { r with pattern := v }),
     fieldOf "custom" (readOption readString) (fun v r => { r with custom := v }),
     fieldOf "message" (readOption readString) (fun v r => { r with message := v })]
    {}

/-- A watcher is a record of its script. -/
def readWatcher (origin : Origin) : Json → Except Fault String :=
  readRecord origin [fieldOf "script" readString (fun v _ => v) .everywhere] ""

def Traits.read (origin : Origin) : Json → Except Fault Traits :=
  readRecord origin
    [fieldOf "expression" (readOption readString) (fun v t => { t with expression := v }),
     fieldOf "expressionError" (readOption readString) (fun v t => { t with expressionError := v }),
     fieldOf "validation" (readOption (Rules.read origin)) (fun v t => { t with validation := v }),
     fieldOf "watchers" (readList (readWatcher origin)) (fun v t => { t with watchers := v }),
     fieldOf "ref" (readOption (Binding.read origin)) (fun v t => { t with binding := v }),
     fieldOf "namespace" (readOption readString) (fun v t => { t with scope := v }),
     fieldOf "global" readBool (fun v t => { t with isGlobal := v }),
     fieldOf "globalKey" (readOption readString) (fun v t => { t with globalKey := v })]
    {}

/-! ### Reading nodes -/

namespace Node

/-- The kind that a `type` member names, by its name or by its number. -/
def kindOfWire? : Json → Option Kind
  | .str s => Kind.ofName? s
  | .int n => if 0 ≤ n then Kind.all[n.natAbs]? else none
  | _ => none

/-- What the members of a node's object hold, each list in the order of the members. -/
structure Draft where
  kinds : List (Option Kind) := []
  children : List (Option (List (String × Node))) := []
  items : List (Option (List Node)) := []
  values : List Json := []
  traits : List Json := []

/-- The only member of its name, or a default if there is none. -/
def single? {α : Type} (default? : Option α) : List (Option α) → Option α
  | [] => default?
  | [a] => a
  | _ => none

/-- The value of a primitive of this kind; a `null` number is NaN. -/
def scalarOfWire? : Kind → Json → Option Scalar
  | .string, .str s => some (.string s)
  | .boolean, .bool b => some (.boolean b)
  | .number, .null => some (.number Decimal.nan)
  | .number, .int n => some (.number (Scalar.ofInt n))
  | .number, .double x => some (.number x)
  | _, _ => none

/-- The node of a draft, but for its traits. -/
def Draft.content? (d : Draft) : Option Node := do
  let kind ← single? none d.kinds
  match kind with
  | .object => return .object default (← single? (some []) d.children)
  | .array => return .array default (← single? (some []) d.items)
  | kind => return .leaf default (← single? kind.default? (d.values.map (scalarOfWire? kind)))

mutual
/-- Read a node from a value at hand. -/
def ofWire? : Json → Option Node
  | .obj ms => do
    let d := draft ms
    let t ← single? (some {}) (d.traits.map fun j => (Traits.read .value j).toOption)
    let n ← d.content?
    return n.withTraits t
  | _ => none

/-- Sort the members of a node's object by their names. -/
def draft : List (String × Json) → Draft
  | [] => {}
  | (k, j) :: ms =>
    let d := draft ms
    if k = "meta" then { d with traits := j :: d.traits }
    else if k = "type" then { d with kinds := kindOfWire? j :: d.kinds }
    else if k = "children" then { d with children := childrenOfWire? j :: d.children }
    else if k = "items" then { d with items := itemsOfWire? j :: d.items }
    else if k = "value" then { d with values := j :: d.values }
    else d

def childrenOfWire? : Json → Option (List (String × Node))
  | .obj ms => childMembers? [] ms
  | _ => none

/-- A repeated key keeps its place and takes the last node. -/
def childMembers? (acc : List (String × Node)) :
    List (String × Json) → Option (List (String × Node))
  | [] => some acc
  | (k, j) :: ms =>
    match ofWire? j with
    | some n => childMembers? (Json.upsert k n acc) ms
    | none => none

def itemsOfWire? : Json → Option (List Node)
  | .arr items => itemList? items
  | _ => none

def itemList? : List Json → Option (List Node)
  | [] => some []
  | j :: js =>
    match ofWire? j with
    | some n => (itemList? js).map (n :: ·)
    | none => none
end

/-- The traits among the members of an object that is being scanned; every other member has to
be sound. -/
def scanTraits (found : Option Traits) : List (String × Json) → Except Fault (Option Traits)
  | [] => .ok found
  | (k, j) :: ms =>
    if k = "meta" then
      if found.isSome then .error .shape
      else match Traits.read .text j with
        | .ok t => scanTraits (some t) ms
        | .error e => .error e
    else if j.isSound then scanTraits found ms
    else .error .notJson

/-- Read a node. -/
def read (origin : Origin) (j : Json) : Except Fault Node :=
  match origin, j with
  | .text, .obj ms =>
    match scanTraits none ms with
    | .error e => .error e
    | .ok t =>
      match (draft ms).content? with
      | some n => .ok (n.withTraits (t.getD {}))
      | none => .error .shape
  | .text, j => .error j.misfit
  | .value, j => (ofWire? j).elim (.error .shape) .ok

end Node
end ReactiveTree
