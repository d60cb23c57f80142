import ReactiveTree.Tree.FlatMap

/-!
# Property containers

The stored properties of one object: the tree, once there is one, and the flat map that older
readers still use.

Key definitions: `Container`, `Container.ensureTree`, `Container.syncFlat`.
-/
namespace ReactiveTree

structure Container where
  tree : Option Tree := none
  flat : Option FlatMap := none

namespace Container

/-- Make the tree if there is none, from the flat map if there is one. -/
def ensureTree (c : Container) : Container :=
  match c.tree with
  | some _ => c
  | none => { c with tree := some ((c.flat.map FlatMap.migrate).getD .empty) }

/-- Write the flat map anew from the tree. -/
def syncFlat (c : Container) : Container :=
  match c.tree with
  | some t => { c with flat := some t.flatten }
  | none => c

def toWire (c : Container) : Json :=
  .obj (optional "userPropsTree" (c.tree.map Tree.toWire) ++
    optional "userProps" (c.flat.map FlatMap.toWire))

def read (origin : Origin) : Json → Except Fault Container :=
  Json.readRecord origin
    [fieldOf "userPropsTree" (Json.readOption (Tree.read origin)) (fun v c => { c with tree := v }),
     fieldOf "userProps" (Json.readOption (FlatMap.read origin)) (fun v c => { c with flat := v })]
    {}

def ofText (text : String) : Except Fault Container := Json.readDocument (read .text) text

end Container
end ReactiveTree
