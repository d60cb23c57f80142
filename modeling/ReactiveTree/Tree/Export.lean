import ReactiveTree.Tree.FlatMap

/-!
# Documents with a version

A tree is exported with the version of its schema and the time. Documents of version 0 hold a
flat map under `props` and are migrated; later versions than this one are refused.

Key definitions: `ImportError`, `Tree.exportDocument`, `Tree.importDocument`.
-/
namespace ReactiveTree

/-- Why a document cannot be imported. -/
inductive ImportError where
  | malformed (fault : Fault)
  | unversioned
  | unsupportedVersion (version : Nat)
  | invalid (cause : PathError)
deriving Repr

/-- The text of a refusal. -/
def ImportError.message : ImportError → String
  | .malformed fault => "Malformed tree document: " ++ fault.word
  | .unversioned => "Tree document has no schemaVersion"
  | .unsupportedVersion v => "Unsupported tree schema version " ++ toString v
  | .invalid cause => "Invalid tree: " ++ cause.message

/-- The texts of a refusal and of what caused it. -/
def ImportError.chain (e : ImportError) : List String :=
  e.message :: match e with
    | .malformed fault => [fault.word]
    | .invalid cause => [cause.message]
    | _ => []

namespace Tree

/-- The version of exported documents. -/
def schemaVersion : Nat := 1

/-- The document of a tree that is exported at `time`. -/
def exportDocument (t : Tree) (time : String) : String :=
  Json.pretty (.obj [("schemaVersion", .int schemaVersion), ("exportedAt", .str time),
    ("tree", t.toWire)])

/-- The version of a document, if it has one. -/
def readVersion : Json → Except Fault (Option Nat) :=
  Json.readRecord .value
    [fieldOf "schemaVersion" (Json.readOption Json.readNat) (fun v _ => v) .inArrays] none

/-- The flat map of a document of version 0. -/
def readProps : Json → Except Fault FlatMap :=
  Json.readRecord .value [fieldOf "props" (FlatMap.read .value) (fun v _ => v)] []

/-- The tree of a document of this version. -/
def readCurrent : Json → Except Fault Tree :=
  Json.readRecord .value [fieldOf "tree" (Tree.read .value) (fun v _ => v) .everywhere] .empty

/-- Import a document. -/
def importDocument (text : String) : Except ImportError Tree :=
  match Json.read? text with
  | none => .error (.malformed .notJson)
  | some j =>
    match readVersion j with
    | .error e => .error (.malformed e)
    | .ok none => .error .unversioned
    | .ok (some v) =>
      let read : Except Fault Tree :=
        if v = 0 then (readProps j).map FlatMap.migrate else readCurrent j
      if schemaVersion < v then .error (.unsupportedVersion v)
      else match read with
        | .error e => .error (.malformed e)
        | .ok t =>
          match t.check with
          | .ok () => .ok t
          | .error e => .error (.invalid e)

end Tree
end ReactiveTree
