import ReactiveTree.Json.Form
import ReactiveTree.Node.Document
import ReactiveTree.Timestamp

/-!
# Telemetry

Counters over all reactions since the last reset.

Key definitions: `Telemetry`, `Telemetry.record`, `Telemetry.average`, `Telemetry.ofText`,
`Telemetry.toWire`.
-/
namespace ReactiveTree.Signal

/-- What one reaction adds to the counters. -/
structure Sample where
  expressionsEvaluated : Nat := 0
  expressionErrors : Nat := 0
  watchersRun : Nat := 0
  watcherErrors : Nat := 0
  /-- Milliseconds. -/
  took : Float := 0.0
deriving Repr, Inhabited

structure Telemetry where
  pipelines : Nat := 0
  expressionsEvaluated : Nat := 0
  expressionErrors : Nat := 0
  watchersRun : Nat := 0
  watcherErrors : Nat := 0
  /-- Milliseconds of all reactions. -/
  total : Float := 0.0
  lastRunAt : Option Timestamp := none
deriving Repr, Inhabited

namespace Telemetry

/-- Count a reaction. -/
def record (t : Telemetry) (s : Sample) (time : Timestamp) : Telemetry where
  pipelines := t.pipelines + 1
  expressionsEvaluated := t.expressionsEvaluated + s.expressionsEvaluated
  expressionErrors := t.expressionErrors + s.expressionErrors
  watchersRun := t.watchersRun + s.watchersRun
  watcherErrors := t.watcherErrors + s.watcherErrors
  total := t.total + s.took
  lastRunAt := some time

/-- The mean duration of a reaction, zero before the first one. -/
def average (t : Telemetry) : Float :=
  if t.pipelines = 0 then 0.0 else t.total / Scalar.ofInt t.pipelines

def readTime (j : Json) : Except Fault Timestamp :=
  match j with
  | .str s =>
    match Timestamp.ofText? s with
    | some t => .ok t
    | none => .error .shape
  | j => .error j.misfit

def read (origin : Origin) : Json → Except Fault Telemetry :=
  Json.readRecord origin
    [fieldOf "pipelines" Json.readNat (fun n t => { t with pipelines := n }) .everywhere,
     fieldOf "expressionsEvaluated" Json.readNat (fun n t => { t with expressionsEvaluated := n })
       .everywhere,
     fieldOf "expressionErrors" Json.readNat (fun n t => { t with expressionErrors := n })
       .everywhere,
     fieldOf "watchersRun" Json.readNat (fun n t => { t with watchersRun := n }) .everywhere,
     fieldOf "watcherErrors" Json.readNat (fun n t => { t with watcherErrors := n }) .everywhere,
     fieldOf "totalMs" Json.readDouble (fun x t => { t with total := x }) .everywhere,
     fieldOf "lastRunAt" (Json.readOption readTime) (fun v t => { t with lastRunAt := v })
       .inArrays]
    {}

/-- The counters that a text writes. -/
def ofText (text : String) : Except Fault Telemetry := Json.readDocument (read .text) text

def toWire (t : Telemetry) : Json :=
  .obj [("pipelines", .int t.pipelines), ("expressionsEvaluated", .int t.expressionsEvaluated),
    ("expressionErrors", .int t.expressionErrors), ("watchersRun", .int t.watchersRun),
    ("watcherErrors", .int t.watcherErrors), ("totalMs", .double t.total),
    ("lastRunAt", (t.lastRunAt.map fun time => Json.str time.text).getD .null)]

end Telemetry
end ReactiveTree.Signal
