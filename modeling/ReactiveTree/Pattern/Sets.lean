import ReactiveTree.Pattern.Escapes

/-!
# Sets in brackets

A set lists characters, ranges, classes and further sets; operators of equal rank stand between
lists, and a circumflex in front takes the complement. What is read carries how deeply it nests:
a set, a list of several items and an operator count one level each.

Key definitions: `Nested`, `readRange`, `readBracketClass`, `SetState`, `readSet`.
-/
namespace ReactiveTree.Pattern

open Text (CharSet)
open Read

/-- A part of a pattern and the levels that it nests. -/
structure Nested (α : Type) where
  value : α
  depth : Nat := 0

/-- One level around a part. -/
def Nested.deeper {α : Type} (p : Nested α) : Nested α := { p with depth := p.depth + 1 }

/-- An item of a set: a character or a class. -/
def readItem : Read (Char ⊕ CharSet) := do
  let ascii : Bool := !(← get).flags.wide
  let char (c : Char) : Read (Char ⊕ CharSet) := do
    require (!ascii || Text.isAscii c)
    return .inl c
  match ← peek with
  | none => refuse
  | some c =>
    advance
    if c = '\\' then
      match ← readEscape with
      | .char c => char c
      | .set s => return .inr s
      | .anchor _ => refuse
    else char c

/-- The first character that counts after a hyphen. A comment is not skipped but looked into. -/
def peekPastHyphen : Read (Option Char) := do
  let s ← get
  let after := s.rest.tail
  if !s.flags.verbose then return after.head?
  match Text.trimStart after with
  | '#' :: comment => return (Text.trimStart comment).head?
  | cs => return cs.head?

/-- An item of a set, or a range that starts with it. -/
def readRange : Read CharSet := do
  let first ← readItem
  skipIgnored
  let next ← peekPastHyphen
  let isRange : Bool := (← peek) == some '-' && next != some ']' && next != some '-'
  match first, isRange with
  | .inr s, false => return s
  | .inl c, false => closed (.singleton c)
  | .inr _, true => refuse
  | .inl a, true =>
    advance
    skipIgnored
    match ← readItem with
    | .inr _ => refuse
    | .inl b =>
      require (a ≤ b)
      closed (.ofRange a b)

/-- A class in brackets and colons, if one stands here. -/
def readBracketClass : Read (Option CharSet) := do
  let s ← get
  match s.rest with
  | '[' :: ':' :: rest =>
    let (inverted, rest) := match rest with
      | '^' :: r => (true, r)
      | r => (false, r)
    let (name, after) := rest.span (· != ':')
    match after, bracketClass? (String.ofList name) with
    | ':' :: ']' :: after, some found =>
      set { s with rest := after }
      let found ← closed found
      return some (← if inverted then negated found else pure found)
    | _, _ => return none
  | _ => return none

/-- An operator between sets. -/
inductive SetOp where
  | inter
  | diff
  | symmDiff

def SetOp.combine (a b : CharSet) : SetOp → CharSet
  | inter => a.inter b
  | diff => a.diff b
  | symmDiff => a.symmDiff b

/-- What was read of a set: the operand before the last operator, and the items after it. -/
structure SetState where
  before : Option (Nested CharSet × SetOp) := none
  items : CharSet := .empty
  count : Nat := 0
  /-- The levels that the deepest item nests. -/
  depth : Nat := 0

namespace SetState

/-- The set of the items. -/
def list (s : SetState) : Nested CharSet :=
  { value := s.items, depth := if s.count < 2 then s.depth else s.depth + 1 }

def value (s : SetState) : Nested CharSet :=
  match s.before with
  | some (a, op) =>
    { value := op.combine a.value s.items, depth := max a.depth s.list.depth + 1 }
  | none => s.list

def add (s : SetState) (t : Nested CharSet) : SetState :=
  { s with items := s.items.union t.value, count := s.count + 1, depth := max s.depth t.depth }

end SetState

/-- Take the hyphens with which a set starts. -/
def readHyphens (fuel : Nat) (s : SetState) : Read SetState :=
  match fuel with
  | 0 => return s
  | fuel + 1 => do
    skipIgnored
    if ← take '-' then readHyphens fuel (s.add { value := .singleton '-' }) else return s

mutual
/-- A set, after its opening bracket. -/
def readSet (fuel : Nat) : Read (Nested CharSet) :=
  match fuel with
  | 0 => refuse
  | fuel + 1 => do
    skipIgnored
    let inverted ← take '^'
    let hyphens ← readHyphens fuel {}
    let bracket ← if hyphens.count = 0 then take ']' else pure false
    let s ← readItems fuel (if bracket then hyphens.add { value := .singleton ']' } else hyphens)
    return { s with value := ← if inverted then negated s.value else pure s.value }.deeper

/-- The items of a set, up to its closing bracket. -/
def readItems (fuel : Nat) (s : SetState) : Read (Nested CharSet) :=
  match fuel with
  | 0 => refuse
  | fuel + 1 => do
    skipIgnored
    let operator (op : SetOp) : Read (Nested CharSet) := do
      advance
      advance
      readItems fuel { before := some (s.value, op) }
    match ← peek, ← peekSecond with
    | none, _ => refuse
    | some ']', _ => advance; return s.value
    | some '[', _ =>
      match ← readBracketClass with
      | some t => readItems fuel (s.add { value := t })
      | none =>
        advance
        let t ← readSet fuel
        readItems fuel (s.add t)
    | some '&', some '&' => operator .inter
    | some '-', some '-' => operator .diff
    | some '~', some '~' => operator .symmDiff
    | _, _ =>
      let t ← readRange
      readItems fuel (s.add { value := t })
end

end ReactiveTree.Pattern
