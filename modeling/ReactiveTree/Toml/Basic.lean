/-
# Settings documents in TOML

A document is a table: values under keys, where a value may be a table again. What brought a
table into being decides what may be added to it later, for no table is written twice.

Key definitions: `Toml`, `Toml.Origin`, `Toml.modifyAt`, `Toml.addSection`, `Toml.addEntry`.
-/
namespace ReactiveTree

namespace Toml

/-- What brought a table into being. -/
inductive Origin where
  /-- A value in braces. -/
  | inline
  /-- A heading of its own. -/
  | heading
  /-- The heading of a table below it. -/
  | above
  /-- A key with points in it. -/
  | dotted
deriving Repr, DecidableEq, Inhabited

end Toml

/-- A value of a document. -/
inductive Toml where
  | text (s : String)
  | int (i : Int)
  | float (x : Float)
  | bool (b : Bool)
  /-- A date, a time of the day or both, as it is written. -/
  | time (s : String)
  | array (items : List Toml)
  | table (origin : Toml.Origin) (members : List (String × Toml))
  /-- The tables of a repeated heading, the last one first. -/
  | tables (last : List (String × Toml)) (before : List (List (String × Toml)))
deriving Inhabited

namespace Toml

/-- The entries of a table. -/
abbrev Members := List (String × Toml)

namespace Members

/-- Put a value under a key, in place of the one that is there. -/
def put (ms : Members) (k : String) (v : Toml) : Members :=
  match ms with
  | [] => [(k, v)]
  | (k', v') :: rest => if k' = k then (k, v) :: rest else (k', v') :: put rest k v

end Members

/-- A table that a key with points may lead through. -/
def Origin.isOpen (o : Origin) : Bool := o == .above || o == .dotted

/-- Change the table that a path leads to, where `f` is told what brought that table into being
and `made` is what brings those into being that are not there yet. A heading leads through every
table but one in braces, a key with points only through tables without a heading; both lead to the
last table of a repeated heading. -/
def modifyAt (made : Origin) (f : Origin → Members → Option Members) (path : List String)
    (origin : Origin) (ms : Members) : Option Members :=
  match path with
  | [] => f origin ms
  | k :: path =>
    match ms.lookup k with
    | none => do
      let inner ← modifyAt made f path made []
      return ms.put k (.table made inner)
    | some (.table o inner) =>
      if o = .inline ∨ (made = .dotted ∧ ¬ o.isOpen) then none
      else do
        let inner ← modifyAt made f path o inner
        return ms.put k (.table o inner)
    | some (.tables last before) => do
      let last ← modifyAt made f path .heading last
      return ms.put k (.tables last before)
    | some _ => none

/-- Begin a table by its heading; one that was only led through before may still have it. -/
def addSection (path : List String) (document : Members) : Option Members :=
  match path.getLast? with
  | none => none
  | some k =>
    modifyAt .above (fun _ ms =>
      match ms.lookup k with
      | none => some (ms.put k (.table .heading []))
      | some (.table .above inner) => some (ms.put k (.table .heading inner))
      | some _ => none) path.dropLast .heading document

/-- Begin one more table of a repeated heading. -/
def addRepeated (path : List String) (document : Members) : Option Members :=
  match path.getLast? with
  | none => none
  | some k =>
    modifyAt .above (fun _ ms =>
      match ms.lookup k with
      | none => some (ms.put k (.tables [] []))
      | some (.tables last before) => some (ms.put k (.tables [] (last :: before)))
      | some _ => none) path.dropLast .heading document

/-- Put a value under a key, which may have points, of a table; no key is written twice, and a
key with points adds only to tables that such keys made. -/
def addEntry (key : List String) (v : Toml) (origin : Origin) (table : Members) : Option Members :=
  match key.getLast? with
  | none => none
  | some k =>
    modifyAt .dotted (fun o ms =>
      if (key.length > 1 ∧ o ≠ .dotted) ∨ (ms.lookup k).isSome then none
      else some (ms.put k v)) key.dropLast origin table

/-- Put a value under a key of the table that a heading began. -/
def addUnder (heading key : List String) (v : Toml) (document : Members) : Option Members :=
  modifyAt .above (addEntry key v) heading .heading document

end Toml

end ReactiveTree
