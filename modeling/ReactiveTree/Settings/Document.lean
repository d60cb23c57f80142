import ReactiveTree.Settings
import ReactiveTree.Toml.Reading

/-!
# Settings documents

Settings are read from a TOML document: the table `scripting` has the limits of snippets, the
table `evaluation` the number of passes. What is not given keeps its default, and unknown entries
are skipped.

Key definitions: `Settings.ofText`, `Settings.text`.
-/
namespace ReactiveTree

namespace Toml

/-- The number of a setting: an integer that is not negative. -/
def setting? : Toml → Option Nat
  | .int i => if 0 ≤ i then some i.toNat else none
  | _ => none

/-- How the settings of a group are found, each by its name and its place in the group: by name in
a table, by place in an array. A time of the calendar is a group with no settings. -/
def group? : Toml → Option (String → Nat → Option Toml)
  | .table _ ms => some fun name _ => ms.lookup name
  | .array items => some fun _ place => items[place]?
  | .tables last before =>
    some fun _ place => ((last :: before).reverse[place]?).map (.table .heading)
  | .time _ => some fun _ _ => none
  | _ => none

/-- The numbers of a group, given the names and defaults of its settings in order. -/
def settings? (defaults : List (String × Nat)) (group : Option Toml) : Option (List Nat) :=
  match group with
  | none => some (defaults.map (·.2))
  | some v => do
    let find ← v.group?
    defaults.zipIdx.mapM fun ((name, default), place) =>
      match find name place with
      | none => some default
      | some v => v.setting?

end Toml

namespace Settings

/-- The settings of the group `scripting`, in order. -/
def scripting (l : Snippet.Limits) : List (String × Nat) :=
  [("max_operations", l.operations), ("timeout_ms", l.time), ("max_call_levels", l.calls),
    ("max_expr_depth", l.depth), ("max_string_size", l.text), ("max_array_size", l.items),
    ("max_map_size", l.entries)]

/-- The settings of the group `evaluation`, in order. -/
def evaluation (s : Settings) : List (String × Nat) := [("max_passes", s.maxPasses)]

/-- The settings that a document gives. -/
def ofMembers? (ms : Toml.Members) : Option Settings := do
  let limits ← match ← Toml.settings? (scripting {}) (ms.lookup "scripting") with
    | [operations, time, calls, depth, text, items, entries] =>
      some { operations, time, calls, depth, text, items, entries : Snippet.Limits }
    | _ => none
  let maxPasses ← match ← Toml.settings? (evaluation {}) (ms.lookup "evaluation") with
    | [passes] => some passes
    | _ => none
  return { limits, maxPasses }

/-- Read settings, and refuse those under which nothing runs. -/
def ofText (text : String) : Except SettingsError Settings :=
  match (Toml.read? text).bind ofMembers? with
  | none => .error .malformed
  | some s => do
    s.check
    return s

/-- The lines of a group. -/
def groupText (name : String) (entries : List (String × Nat)) : String :=
  "[" ++ name ++ "]\n" ++ String.join (entries.map fun (k, n) => k ++ " = " ++ toString n ++ "\n")

/-- Write settings as a document that gives all of them. -/
def text (s : Settings) : String :=
  groupText "scripting" (scripting s.limits) ++ "\n" ++ groupText "evaluation" s.evaluation

end Settings

end ReactiveTree
