import ReactiveTree.Pattern.Folding
import ReactiveTree.Text.Blank
import ReactiveTree.Text.Letters

/-!
# Reading the text of a pattern

The text that is left, the flags that hold and the names of groups so far. Flags hold up to the
end of the group that sets them. In a verbose pattern blanks and comments do not count.

Key definitions: `Flags`, `ReadState`, `Read`, `Read.skipIgnored`.
-/
namespace ReactiveTree.Pattern

open Text (CharSet isBlank isAsciiDigit isAsciiLetter)

structure Flags where
  ignoreCase : Bool := false
  multiLine : Bool := false
  dotAll : Bool := false
  /-- Blanks and comments in the pattern do not count. -/
  verbose : Bool := false
  /-- Classes reach beyond ASCII. -/
  wide : Bool := true
  /-- A carriage return ends a line too. -/
  anyLine : Bool := false

structure ReadState where
  rest : List Char
  flags : Flags := {}
  /-- The names of groups so far. -/
  names : List (List Char) := []

abbrev Read := StateT ReadState Option

namespace Read

def refuse {α : Type} : Read α := fun _ => none

/-- Go on only where a condition holds. -/
def require (condition : Bool) : Read Unit := if condition then return () else refuse

def peek : Read (Option Char) := return (← get).rest.head?

/-- The character after the next one. -/
def peekSecond : Read (Option Char) := return (← get).rest.tail.head?

def advance : Read Unit := modify fun s => { s with rest := s.rest.tail }

/-- Take a character if it is next. -/
def take (c : Char) : Read Bool := do
  if (← peek) == some c then advance; return true else return false

def expect (c : Char) : Read Unit := do
  require (← take c)

/-- Drop the blanks and the comments before the next character of a verbose pattern. -/
def dropIgnored : Nat → List Char → List Char
  | 0, cs => cs
  | fuel + 1, c :: cs =>
    if isBlank c then dropIgnored fuel cs
    else if c = '#' then dropIgnored fuel (cs.dropWhile (· != '\n'))
    else c :: cs
  | _, [] => []

/-- Skip what does not count. -/
def skipIgnored : Read Unit :=
  modify fun s => if s.flags.verbose then { s with rest := dropIgnored s.rest.length s.rest } else s

/-- Take the characters that a condition holds for. -/
def takeWhile (p : Char → Bool) : Read (List Char) := do
  let s ← get
  set { s with rest := s.rest.dropWhile p }
  return s.rest.takeWhile p

/-- Take the characters that a condition holds for, and after each what does not count. -/
def takeCounting (p : Char → Bool) : Read (List Char) := do
  let rec go : Nat → Read (List Char)
    | 0 => return []
    | fuel + 1 => do
      match ← peek with
      | some c =>
        if p c then
          advance
          skipIgnored
          return c :: (← go fuel)
        else return []
      | none => return []
  go (← get).rest.length

end Read
end ReactiveTree.Pattern
