import ReactiveTree.Tree.Mutation

/-!
# Nodes bound to component properties

A bound node takes its value from a property of a component. Syncing asks for the property of
every bound primitive, in the order of the listing, and writes the answers that can be
converted to the node's kind.

Key definitions: `Tree.bind`, `Tree.unbind?`, `Tree.sync`.
-/
namespace ReactiveTree.Tree

/-- Bind the primitive at a path and seed its value, converted to its kind if that can be done;
a node that is missing is created with the kind of the seed. -/
def bind (t : Tree) (path : String) (b : Binding) (seed : Scalar) : Except PathError Tree :=
  match t.get? path with
  | some (.leaf r v) =>
    let node := .leaf { r with binding := some b } ((seed.coerce? v.kind).getD v)
    .ok (t.modify (fun _ => node) path)
  | some _ => .error (.notPrimitive path)
  | none => t.set path (.leaf { binding := some b } seed)

/-- Drop the binding of the node at a path; none if there is no binding. -/
def unbind? (t : Tree) (path : String) : Option Tree := do
  let n ← t.get? path
  let _ ← n.traits.binding
  return t.modify (fun n => n.withTraits { n.traits with binding := none }) path

/-- The bound primitives. -/
def bound (t : Tree) : List (String × Binding) :=
  t.primitives.filterMap fun e => e.node.traits.binding.map fun b => (e.path, b)

/-- Write the answer for one bound node; true if the value has changed. -/
def refresh (t : Tree) (path : String) (answer : Option Scalar) : Tree × Bool :=
  match t.value? path, answer with
  | some v, some answer =>
    match answer.coerce? v.kind with
    | some w =>
      if v.same w then (t, false)
      else (t.modify (fun n => (n.setValue? w).getD n) path, true)
    | none => (t, false)
  | _, _ => (t, false)

/-- What syncing did. -/
structure Synced where
  tree : Tree
  /-- The nodes whose values have changed. -/
  changed : List String
  /-- The properties asked for. -/
  asked : List Binding

/-- Refresh every bound primitive from the properties that `resolve` knows. -/
def sync (resolve : Binding → Option Scalar) (t : Tree) : Synced :=
  let start : Synced := ⟨t, [], []⟩
  t.bound.foldl
    (fun s (path, b) =>
      let (tree, changed) := s.tree.refresh path (resolve b)
      ⟨tree, if changed then s.changed ++ [path] else s.changed, s.asked ++ [b]⟩)
    start

end ReactiveTree.Tree
