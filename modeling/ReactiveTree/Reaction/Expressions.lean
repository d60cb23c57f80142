import ReactiveTree.Graph.Basic
import ReactiveTree.Snippet.Engine

/-!
# Computed values

Every primitive with an expression takes its value from the other nodes. The nodes run in the
order of their levels, and full passes are repeated until no value changes, which also settles
what the dependency graph cannot see. Nodes on a cycle do not run. A failure is written to its
node, which keeps the value that it has.

Key definitions: `ExpressionError`, `Task`, `Working.turn`, `Working.pass`, `Working.settle`,
`evaluate`, `Report`.
-/
namespace ReactiveTree.Reaction

open ReactiveTree.Graph (DependencyGraph)
open Snippet (Engine Datum SnippetError)

/-- Why an expression gives its node no value. -/
inductive ExpressionError where
  | snippet (e : SnippetError)
  | circular (path : String)
  | noValue
  | cannotConvert (value : Scalar) (kind : Kind)
deriving Inhabited

def ExpressionError.message : ExpressionError → String
  | snippet e => e.message
  | circular path => "circular dependency involving '" ++ path ++ "'"
  | noValue => "expression produced no value"
  | cannotConvert v k => "cannot convert '" ++ v.text ++ "' to " ++ k.name

/-- A node whose expression takes its turn. -/
structure Task where
  path : String
  source : String
  kind : Kind
  level : Nat
  /-- The value before the first pass. -/
  start : Option Scalar
deriving Inhabited

/-- The tasks of a tree, in traversal order. -/
def tasks (t : Tree) (g : DependencyGraph) : List Task :=
  t.primitives.filterMap fun e => e.node.traits.expression.map fun source =>
    { path := e.path, source, kind := e.node.kind, level := (g.level? e.path).getD 0
      start := e.node.value? }

/-- Put a task in front of the first one whose level is not lower. -/
def Task.insert (t : Task) : List Task → List Task
  | [] => [t]
  | u :: us => if t.level ≤ u.level then t :: u :: us else u :: insert t us

/-- The order in which tasks run: by level, and in traversal order within one. -/
def schedule (ts : List Task) : List Task := ts.foldr Task.insert []

/-- The value that the result of an expression gives a node. -/
def valueOf (kind : Kind) (d : Datum) : Except ExpressionError Scalar :=
  match d.toScalar? with
  | none => .error .noValue
  | some v =>
    match v.coerce? kind with
    | some w => .ok w
    | none => .error (.cannotConvert v kind)

/-- Run an expression. -/
def compute (e : Engine) (t : Task) : Except ExpressionError Scalar × Engine :=
  match e.eval t.source [("path", .string t.path)] with
  | (.error err, e) => (.error (.snippet err), e)
  | (.ok d, e) => (valueOf t.kind d, e)

/-- What evaluation works on. -/
structure Working where
  tree : Tree
  engine : Engine
  /-- For each node that had its turn, its failure if there is one. -/
  failures : List (String × Option String) := []
  /-- A value has changed in this pass. -/
  changed : Bool := false
deriving Inhabited

namespace Working

/-- Write the outcome of an expression to its node. -/
def record (w : Working) (path : String) (failure : Option String) : Working :=
  { w with
    tree := w.tree.modify
      (fun n => n.withTraits { n.traits with expressionError := failure }) path
    failures := Json.upsert path failure w.failures }

/-- Write a value that differs from the present one to the tree and to the engine's copy. -/
def write (w : Working) (path : String) (v : Scalar) : Working :=
  if (w.tree.value? path).any (·.same v) then w
  else
    { w with
      tree := w.tree.modify (fun n => (n.setValue? v).getD n) path
      engine := w.engine.update path v
      changed := true }

/-- The turn of one task. -/
def turn (w : Working) (t : Task) : Working :=
  let (r, engine) := compute w.engine t
  let w := { w with engine }
  match r with
  | .ok v => (w.write t.path v).record t.path none
  | .error e => w.record t.path (some e.message)

/-- One turn of every task. -/
def pass (w : Working) (ts : List Task) : Working := ts.foldl turn { w with changed := false }

/-- Repeat passes until one changes nothing: how many were made, and whether the last one
changed nothing. -/
def settle (ts : List Task) (w : Working) : Nat → Nat → Working × Nat × Bool
  | 0, made => (w, made, false)
  | left + 1, made =>
    let w := w.pass ts
    if w.changed then settle ts w left (made + 1) else (w, made + 1, true)

end Working

/-- What an evaluation did. -/
structure Report where
  /-- The nodes whose value differs from the one at the start, in traversal order. -/
  changes : List String := []
  /-- How often an expression was evaluated; a node on a cycle counts once. -/
  evaluations : Nat := 0
  /-- How many nodes are on a cycle. -/
  circular : Nat := 0
  /-- The nodes left with an error, in traversal order, and its text. -/
  errors : List (String × String) := []
  passes : Nat := 0
  /-- The last pass changed nothing. -/
  converged : Bool := true
deriving Inhabited

/-- The value at the path of a task is not the one at the start. -/
def Task.hasChanged (t : Task) (tree : Tree) : Bool :=
  match t.start, tree.value? t.path with
  | some a, some b => !a.same b
  | none, none => false
  | _, _ => true

/-- Evaluate all expressions of a tree. -/
def evaluate (engine : Engine) (tree : Tree) (maxPasses : Nat) : Report × Tree × Engine :=
  let graph := DependencyGraph.ofTree tree
  let all := tasks tree graph
  if all.isEmpty then ({}, tree, engine)
  else
    let (cyclic, runnable) := (schedule all).partition fun t => graph.isCyclic t.path
    let start : Working := cyclic.foldl
      (fun w t => w.record t.path (some (ExpressionError.circular t.path).message))
      { tree, engine }
    let start := { start with engine := start.engine.load start.tree }
    let (w, passes, converged) :=
      if runnable.isEmpty then (start, 0, true) else start.settle runnable maxPasses 0
    let report : Report :=
      { changes := (all.filter (·.hasChanged w.tree)).map (·.path)
        evaluations := cyclic.length + passes * runnable.length
        circular := cyclic.length
        errors := all.filterMap fun t =>
          ((Json.lookup t.path w.failures).bind id).map fun message => (t.path, message)
        passes
        converged }
    (report, w.tree, w.engine.unload)

end ReactiveTree.Reaction
