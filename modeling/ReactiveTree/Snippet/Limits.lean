/-
# Limits of snippets

What a snippet may use up before it is stopped. Zero means no limit, but for the time and the
depth of calls.

Key definitions: `Limits`.
-/
namespace ReactiveTree.Snippet

structure Limits where
  operations : Nat := 100000
  /-- Milliseconds of one run. -/
  time : Nat := 250
  /-- How deep calls nest. -/
  calls : Nat := 32
  /-- How deep expressions nest in the source. -/
  depth : Nat := 64
  /-- Bytes of a text. -/
  text : Nat := 10000
  /-- Items of an array. -/
  items : Nat := 1000
  /-- Entries of a map. -/
  entries : Nat := 1000
deriving Repr, DecidableEq, Inhabited

/-- A quantity is within a limit. -/
def within (limit n : Nat) : Bool := limit == 0 || n ≤ limit

end ReactiveTree.Snippet
