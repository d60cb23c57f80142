import ReactiveTree.Reaction.Snapshot
import ReactiveTree.Snippet.Engine

/-!
# Watching values

The scripts that watch a node run when its value differs from the one in the snapshot before, or
when that snapshot does not have it. All scripts of a node run, whatever becomes of the others.

Key definitions: `WatcherFailure`, `WatcherResult`, `isTriggered`, `runWatchers`.
-/
namespace ReactiveTree.Reaction

open Snippet (Engine Datum Bindings)

/-- A script that failed. -/
structure WatcherFailure where
  path : String
  /-- The place of the script among those of its node. -/
  index : Nat
  message : String
deriving Repr, DecidableEq, Inhabited

structure WatcherResult where
  /-- The nodes whose scripts ran, in traversal order. -/
  triggered : List String := []
  /-- The snapshot for the next run. -/
  snapshot : Snapshot := {}
  /-- How many scripts ran. -/
  runs : Nat := 0
  failures : List WatcherFailure := []
deriving Inhabited

def WatcherFailure.toWire (f : WatcherFailure) : Json :=
  .obj [("path", .str f.path), ("index", .int f.index), ("message", .str f.message)]

def WatcherResult.toWire (r : WatcherResult) : Json :=
  .obj [("triggered", .arr (r.triggered.map .str)), ("snapshot", r.snapshot.toWire),
    ("runs", .int r.runs), ("failures", .arr (r.failures.map WatcherFailure.toWire))]

/-- The value differs from the one before, or none is known. -/
def isTriggered (previous : Option Snapshot) (path : String) (v : Scalar) : Bool :=
  !((previous.bind (·.find? path)).any (·.same v))

/-- Run the scripts of a node in turn, from the one at place `index` on. -/
def runScripts (e : Engine) (path : String) (bindings : Bindings) (index : Nat) :
    List String → List WatcherFailure × Engine
  | [] => ([], e)
  | script :: scripts =>
    let (r, e) := e.eval script bindings
    let (failures, e) := runScripts e path bindings (index + 1) scripts
    match r with
    | .ok _ => (failures, e)
    | .error err => ({ path, index, message := err.message } :: failures, e)

/-- What a script sees of its node. -/
def watcherBindings (path : String) (value : Scalar) (before : Option Scalar) : Bindings :=
  [("value", Datum.ofScalar value), ("previous", Datum.ofOption before), ("path", .string path)]

/-- Run the scripts of an entry if its value has changed. -/
def watch (previous : Option Snapshot) (s : WatcherResult × Engine) (entry : Entry) :
    WatcherResult × Engine :=
  let scripts := entry.node.traits.watchers
  match scripts, entry.node.value? with
  | _ :: _, some value =>
    if isTriggered previous entry.path value then
      let before := previous.bind (·.find? entry.path)
      let (failures, e) :=
        runScripts s.2 entry.path (watcherBindings entry.path value before) 0 scripts
      ({ s.1 with
          triggered := s.1.triggered ++ [entry.path]
          runs := s.1.runs + scripts.length
          failures := s.1.failures ++ failures }, e)
    else s
  | _, _ => s

/-- Run the scripts of every node that has changed since a snapshot. -/
def runWatchers (e : Engine) (t : Tree) (previous : Option Snapshot) : WatcherResult × Engine :=
  let (r, e) := t.primitives.foldl (watch previous) ({ snapshot := Snapshot.capture t }, e.load t)
  (r, e.unload)

end ReactiveTree.Reaction
