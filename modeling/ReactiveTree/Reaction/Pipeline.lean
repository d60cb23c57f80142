import ReactiveTree.Reaction.Expressions
import ReactiveTree.Reaction.Validation
import ReactiveTree.Reaction.Watchers
import ReactiveTree.Settings
import ReactiveTree.Signal.Bus
import ReactiveTree.Signal.Telemetry

/-!
# The reaction of a tree to an edit

A reaction computes the expressions, checks the rules and runs the watchers of what has changed
since a snapshot, in this order. It is counted, and announced to all who listen.

Key definitions: `Pipeline`, `Outcome`, `Outcome.metrics`, `Hub.record`, `Pipeline.react`,
`Pipeline.reactAt`, `Pipeline.checkSnippets`.
-/
namespace ReactiveTree.Reaction

open Snippet (Engine SnippetError)
open Signal (Bus Telemetry Event Sample)

/-- The engine with its kept snippets, the settings, and the patterns that are kept. -/
structure Pipeline where
  engine : Engine := {}
  maxPasses : Nat := 16
  validator : Validator := {}
deriving Inhabited

/-- A pipeline that has not run yet. -/
def Pipeline.ofSettings (s : Settings) : Pipeline :=
  { engine := { limits := s.limits }, maxPasses := s.maxPasses }

/-- Everything that a reaction gives. -/
structure Outcome where
  report : Report := {}
  validationErrors : List (String × String) := []
  watcherResult : WatcherResult := {}
deriving Inhabited

/-- The counts of a reaction. -/
structure Metrics where
  expressionEvaluations : Nat
  expressionErrors : Nat
  expressionPasses : Nat
  validationErrors : Nat
  watchersRun : Nat
  watcherErrors : Nat
deriving Repr, DecidableEq, Inhabited

namespace Outcome

def metrics (o : Outcome) : Metrics where
  expressionEvaluations := o.report.evaluations
  expressionErrors := o.report.errors.length
  expressionPasses := o.report.passes
  validationErrors := o.validationErrors.length
  watchersRun := o.watcherResult.runs
  watcherErrors := o.watcherResult.failures.length

/-- The snapshot for the next reaction. -/
def snapshot (o : Outcome) : Snapshot := o.watcherResult.snapshot

/-- What a reaction adds to the counters. -/
def sample (o : Outcome) (took : Float) : Sample where
  expressionsEvaluated := o.metrics.expressionEvaluations
  expressionErrors := o.metrics.expressionErrors
  watchersRun := o.metrics.watchersRun
  watcherErrors := o.metrics.watcherErrors
  took

/-- How a reaction is announced. -/
def event (o : Outcome) (took : Float) (time : Timestamp) : Event where
  duration := took
  exprChanges := o.report.changes
  watchersTriggered := o.watcherResult.triggered
  validationErrorCount := o.validationErrors.length
  completedAt := time

/-- The messages by path. -/
def messagesToWire (ms : List (String × String)) : Json := .obj (ms.map fun (k, v) => (k, .str v))

/-- The outcome as JSON, with the milliseconds that it took. -/
def toWire (o : Outcome) (took : Float) : Json :=
  let m := o.metrics
  .obj [("exprChanges", .arr (o.report.changes.map .str)),
    ("expressionErrors", messagesToWire o.report.errors),
    ("validationErrors", messagesToWire o.validationErrors),
    ("watcherResult", o.watcherResult.toWire),
    ("metrics", .obj [("tookMs", .double took),
      ("expressionEvaluations", .int m.expressionEvaluations),
      ("expressionErrors", .int m.expressionErrors), ("expressionPasses", .int m.expressionPasses),
      ("validationErrors", .int m.validationErrors), ("watchersRun", .int m.watchersRun),
      ("watcherErrors", .int m.watcherErrors)]),
    ("converged", .bool o.report.converged)]

end Outcome

/-- The counters and the bus that reactions report to. -/
structure Hub where
  telemetry : Telemetry := {}
  bus : Bus := {}
deriving Inhabited

/-- Count a reaction and announce it. -/
def Hub.record (h : Hub) (o : Outcome) (took : Float) (time : Timestamp) : Hub where
  telemetry := h.telemetry.record (o.sample took) time
  bus := h.bus.publish (o.event took time)

/-- Set the counters to zero. -/
def Hub.reset (h : Hub) : Hub := { h with telemetry := {} }

/-- A snippet that is not made ready. -/
structure SnippetFault where
  /-- What the snippet is for. -/
  use : String
  path : String
  cause : SnippetError
deriving Inhabited

def SnippetFault.message (f : SnippetFault) : String :=
  f.use ++ " at '" ++ f.path ++ "': Script error: " ++ f.cause.message

/-- The texts of a fault and of what caused it. -/
def SnippetFault.chain (f : SnippetFault) : List String :=
  [f.message, "Script error: " ++ f.cause.message, f.cause.message]

namespace Pipeline

/-- React to the present state of a tree. -/
def react (p : Pipeline) (t : Tree) (previous : Option Snapshot) : Outcome × Tree × Pipeline :=
  let (report, t, engine) := evaluate p.engine t p.maxPasses
  let (validationErrors, validator, engine) := p.validator.checkTree engine t
  let (watcherResult, engine) := runWatchers engine t previous
  ({ report, validationErrors, watcherResult }, t, { p with engine, validator })

/-- React, and report the reaction to a hub. -/
def reactAt (p : Pipeline) (h : Hub) (t : Tree) (previous : Option Snapshot) (took : Float)
    (time : Timestamp) : (Outcome × Tree × Pipeline) × Hub :=
  let r := p.react t previous
  (r, h.record r.1 took time)

/-- The snippets of a node with their uses: its expression, its custom rule and its watchers. -/
def snippetsOf (n : Node) : List (String × String) :=
  n.traits.expression.toList.map (("expression", ·)) ++
    (n.traits.validation.bind (·.custom)).toList.map (("custom rule", ·)) ++
    n.traits.watchers.map (("watcher", ·))

/-- Make the snippets of a node ready, in turn. -/
def readySnippets (path : String) (e : Engine) :
    List (String × String) → Except SnippetFault Nat × Engine
  | [] => (.ok 0, e)
  | (use, source) :: rest =>
    match e.compile source with
    | (.error cause, e) => (.error { use, path, cause }, e)
    | (.ok _, e) =>
      match readySnippets path e rest with
      | (.ok n, e) => (.ok (n + 1), e)
      | (.error f, e) => (.error f, e)

/-- Make the snippets of some nodes ready, in turn. -/
def readyEntries (e : Engine) : List Entry → Except SnippetFault Nat × Engine
  | [] => (.ok 0, e)
  | entry :: rest =>
    match readySnippets entry.path e (snippetsOf entry.node) with
    | (.error f, e) => (.error f, e)
    | (.ok n, e) =>
      match readyEntries e rest with
      | (.ok m, e) => (.ok (n + m), e)
      | (.error f, e) => (.error f, e)

/-- Make every snippet of a tree ready without running it: their number, or the first that is
no program. -/
def checkSnippets (p : Pipeline) (t : Tree) : Except SnippetFault Nat × Pipeline :=
  let (r, engine) := readyEntries p.engine t.primitives
  (r, { p with engine })

end Pipeline
end ReactiveTree.Reaction
