import ReactiveTree.Text.CharSet
import ReactiveTree.Text.Words

/-!
# Patterns and what they match

A pattern takes a text from some positions to others. A set of characters leads over one
character, an anchor stays where it holds, and a repetition goes on as long as new positions are
found. A text matches if some position is reached from any other one.

Key definitions: `Anchor`, `Pattern`, `Pattern.ends`, `Pattern.matchesIn`.
-/
namespace ReactiveTree

open Text (CharSet)

namespace Pattern

/-- A condition on the characters beside a position. -/
inductive Anchor where
  | textStart
  | textEnd
  | lineStart
  | lineEnd
  /-- The ends of lines that a carriage return may end too. -/
  | anyLineStart
  | anyLineEnd
  | wordBoundary (ascii : Bool)
  | noWordBoundary (ascii : Bool)
  | wordStart (ascii : Bool)
  | wordEnd (ascii : Bool)
  /-- No word character stands before. -/
  | wordStartHalf (ascii : Bool)
  /-- No word character follows. -/
  | wordEndHalf (ascii : Bool)
deriving Repr, DecidableEq

end Pattern

inductive Pattern where
  | empty
  | chars (s : CharSet)
  | anchor (a : Pattern.Anchor)
  | seq (p q : Pattern)
  | either (p q : Pattern)
  /-- A part in parentheses whose match could be asked for. -/
  | group (p : Pattern)
  /-- At least `least` times, and at most `most` times if there is a bound. -/
  | repeated (p : Pattern) (least : Nat) (most : Option Nat)
deriving Repr, Inhabited

namespace Pattern

/-- A word character, in ASCII or beyond. -/
def isWordAt (ascii : Bool) : Option Char → Bool
  | none => false
  | some c =>
    if ascii then Text.isAsciiWordChar c else Text.isWordChar c

/-- The anchor holds between two characters. -/
def Anchor.holds (before after : Option Char) : Anchor → Bool
  | textStart => before.isNone
  | textEnd => after.isNone
  | lineStart => before.isNone || before == some '\n'
  | lineEnd => after.isNone || after == some '\n'
  | anyLineStart =>
    before.isNone || before == some '\n' || (before == some '\r' && after != some '\n')
  | anyLineEnd =>
    after.isNone || after == some '\r' || (after == some '\n' && before != some '\r')
  | wordBoundary a => isWordAt a before != isWordAt a after
  | noWordBoundary a => isWordAt a before == isWordAt a after
  | wordStart a => !isWordAt a before && isWordAt a after
  | wordEnd a => isWordAt a before && !isWordAt a after
  | wordStartHalf a => !isWordAt a before
  | wordEndHalf a => !isWordAt a after

/-! ### Positions -/

/-- A set of positions in a text of `n` characters: one truth value for each of the `n + 1`. -/
abbrev Positions := List Bool

namespace Positions

def union (s t : Positions) : Positions := List.zipWith (· || ·) s t

def inter (s t : Positions) : Positions := List.zipWith (· && ·) s t

def isEmpty (s : Positions) : Bool := !s.contains true

/-- Every position of a text. -/
def all (text : List Char) : Positions := true :: text.map fun _ => true

/-- The positions where an anchor holds. -/
def ofAnchor (a : Anchor) (before : Option Char) : List Char → Positions
  | [] => [a.holds before none]
  | c :: cs => a.holds before (some c) :: ofAnchor a (some c) cs

/-- The positions after a character of a set. -/
def after (s : CharSet) (text : List Char) (starts : Positions) : Positions :=
  false :: List.zipWith (fun m c => m && s.contains c) starts text

/-- Apply a step a number of times; once it changes nothing, it never will. -/
def times (step : Positions → Positions) : Nat → Positions → Positions
  | 0, s => s
  | n + 1, s =>
    let t := step s
    if t == s then s else times step n t

/-- Add what a step leads to, at most a number of times, until nothing is new. -/
def closure (step : Positions → Positions) : Nat → Positions → Positions
  | 0, s => s
  | n + 1, s =>
    let t := s.union (step s)
    if t == s then s else closure step n t

end Positions

/-- The positions that a pattern leads to. -/
def ends (text : List Char) : Pattern → Positions → Positions
  | empty, s => s
  | chars c, s => Positions.after c text s
  | anchor a, s => s.inter (Positions.ofAnchor a none text)
  | seq p q, s => q.ends text (p.ends text s)
  | either p q, s => (p.ends text s).union (q.ends text s)
  | group p, s => p.ends text s
  | repeated p least most, s =>
    let start := Positions.times (p.ends text) least s
    Positions.closure (p.ends text) ((most.map (· - least)).getD (text.length + 1)) start

/-- A part of the text matches. -/
def matchesIn (p : Pattern) (text : String) : Bool :=
  !(p.ends text.toList (Positions.all text.toList)).isEmpty

end Pattern
end ReactiveTree
