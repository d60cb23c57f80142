import ReactiveTree.Json.Writing
import ReactiveTree.Timestamp

/-!
# Events

What is announced when a reaction of the tree is complete.

Key definitions: `Event`, `Event.toWire`.
-/
namespace ReactiveTree.Signal

/-- A reaction is complete. -/
structure Event where
  /-- Milliseconds. -/
  duration : Float := 0.0
  exprChanges : List String := []
  watchersTriggered : List String := []
  validationErrorCount : Nat := 0
  completedAt : Timestamp := {}
deriving Repr, Inhabited

def Event.toWire (e : Event) : Json :=
  .obj [("type", .str "pipelineComplete"), ("durationMs", .double e.duration),
    ("exprChanges", .arr (e.exprChanges.map .str)),
    ("watchersTriggered", .arr (e.watchersTriggered.map .str)),
    ("validationErrorCount", .int e.validationErrorCount),
    ("completedAt", .str e.completedAt.text)]

end ReactiveTree.Signal
