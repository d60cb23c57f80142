import ReactiveTree.Pattern.Reading
import ReactiveTree.Snippet.Engine

/-!
# Checking values

The rules of a node are checked in the order required, least value, greatest value, pattern,
custom snippet; the first one that fails gives the message. A message of the node's own takes
the place of the built-in ones, but not of those that a custom snippet or a broken pattern
gives. Patterns are kept once they are read.

Key definitions: `Violation`, `Violation.message`, `Validator`, `Validator.checkNode`,
`Validator.checkTree`.
-/
namespace ReactiveTree.Reaction

open Snippet (Engine Datum SnippetError)

/-- A rule that a value breaks. -/
inductive Violation where
  | missing
  | below (bound : Float)
  | above (bound : Float)
  | mismatch (pattern : String)
  | badPattern (pattern : String) (fault : Pattern.Fault)
  /-- The custom snippet says no. -/
  | refused
  /-- The custom snippet says why not. -/
  | told (text : String)
  | customFailed (e : SnippetError)
deriving Inhabited

namespace Violation

/-- The message of a violation under the rules of its node. -/
def message (rules : Rules) : Violation → String
  | missing => rules.message.getD "This field is required"
  | below b => rules.message.getD ("Must be at least " ++ formatNumber b)
  | above b => rules.message.getD ("Must be at most " ++ formatNumber b)
  | mismatch p => rules.message.getD ("Does not match pattern " ++ p)
  | badPattern p fault => "Invalid pattern '" ++ p ++ "': " ++ fault.message
  | refused => "Custom validation failed"
  | told text => text
  | customFailed e => "Custom validation error: " ++ e.message

end Violation

/-- Blank text and NaN are as good as no value. -/
def isMissing : Scalar → Bool
  | .string s => Text.trim s == ""
  | .number x => x.isNaN
  | .boolean _ => false

/-- The patterns that were needed so far. -/
structure Validator where
  patterns : List (String × Except Pattern.Fault Pattern) := []
deriving Inhabited

/-- The bound that a number breaks. -/
def checkBounds (rules : Rules) : Scalar → Option Violation
  | .number x =>
    match rules.min.filter (x < ·), rules.max.filter (· < x) with
    | some b, _ => some (.below b)
    | none, some b => some (.above b)
    | none, none => none
  | _ => none

/-- What the result of a custom snippet means. -/
def ofResult : Except SnippetError Datum → Option Violation
  | .error e => some (.customFailed e)
  | .ok d =>
    match d.toScalar? with
    | some (.boolean false) => some .refused
    | some (.string text) => if text = "" then none else some (.told text)
    | _ => none

/-- Run a custom snippet. -/
def checkCustom (e : Engine) (path : String) (v : Scalar) (source : String) :
    Option Violation × Engine :=
  let (r, e) := e.eval source [("value", Datum.ofScalar v), ("path", .string path)]
  (ofResult r, e)

namespace Validator

/-- How many patterns are kept. -/
def size (v : Validator) : Nat := v.patterns.length

/-- A pattern that is kept or read now. -/
def pattern (v : Validator) (text : String) : Except Pattern.Fault Pattern × Validator :=
  match Json.lookup text v.patterns with
  | some p => (p, v)
  | none =>
    let p := Pattern.ofText text
    (p, ⟨v.patterns ++ [(text, p)]⟩)

/-- Check a text against a pattern. -/
def checkPattern (v : Validator) (rules : Rules) (value : Scalar) : Option Violation × Validator :=
  match rules.pattern, value with
  | some text, .string s =>
    match v.pattern text with
    | (.error fault, v) => (some (.badPattern text fault), v)
    | (.ok p, v) => (if p.matchesIn s then none else some (.mismatch text), v)
  | _, _ => (none, v)

/-- The first rule that the value of a node breaks. -/
def checkNode (v : Validator) (e : Engine) (path : String) (value : Scalar) (rules : Rules) :
    Option Violation × Validator × Engine :=
  if rules.required && isMissing value then (some .missing, v, e)
  else
    match checkBounds rules value with
    | some b => (some b, v, e)
    | none =>
      match v.checkPattern rules value with
      | (some b, v) => (some b, v, e)
      | (none, v) =>
        match rules.custom with
        | none => (none, v, e)
        | some source =>
          let (r, e) := checkCustom e path value source
          (r, v, e)

/-- What checking a tree works on. -/
structure Checking where
  validator : Validator
  engine : Engine
  /-- The messages by path, the last one first. -/
  found : List (String × String) := []

/-- Check the node of an entry. -/
def step (c : Checking) (entry : Entry) : Checking :=
  match entry.node.traits.validation, entry.node.value? with
  | some rules, some value =>
    let (r, validator, engine) := c.validator.checkNode c.engine entry.path value rules
    { validator, engine
      found := match r with
        | some violation => (entry.path, violation.message rules) :: c.found
        | none => c.found }
  | _, _ => c

/-- Check every primitive of a tree: the messages by path, in traversal order. -/
def checkTree (v : Validator) (e : Engine) (t : Tree) :
    List (String × String) × Validator × Engine :=
  let c := t.primitives.foldl step { validator := v, engine := e.load t }
  (c.found.reverse, c.validator, c.engine.unload)

end Validator
end ReactiveTree.Reaction
