import ReactiveTree.Text.CharSet

/-!
# Runs of characters with a counterpart

A table of counterparts lists runs: `61-7a:41` maps the characters of a range one by one to those
from the target on, and `101-12f/2:100` every second character of a range.

Key definitions: `CaseRun`, `CaseRun.image?`, `readRuns`.
-/
namespace ReactiveTree.Text

/-- A run of characters mapped in parallel: those of `first .. last` at distance `step`. -/
structure CaseRun where
  first : Nat
  last : Nat
  step : Nat
  target : Nat
deriving Inhabited

/-- Read one run of a case table. -/
def CaseRun.ofText? (w : String) : Option CaseRun := do
  let (left, right) := w.toList.span (· != ':')
  let target ← ofHexDigits? (right.drop 1)
  let (range, step) := left.span (· != '/')
  let (a, b) := range.span (· != '-')
  let first ← ofHexDigits? a
  let last := (ofHexDigits? (b.drop 1)).getD first
  return ⟨first, last, if step.isEmpty then 1 else 2, target⟩

/-- The image of a code point under a run. -/
def CaseRun.image? (r : CaseRun) (n : Nat) : Option Nat :=
  if r.first ≤ n ∧ n ≤ r.last ∧ (n - r.first) % r.step = 0 then some (r.target + (n - r.first))
  else none

def readRuns (s : String) : List CaseRun := (CharSet.words s).filterMap CaseRun.ofText?

/-- The code points of a run with their images. -/
def CaseRun.pairs (r : CaseRun) : List (Nat × Nat) :=
  (List.range ((r.last - r.first) / r.step + 1)).map fun k =>
    (r.first + k * r.step, r.target + k * r.step)

end ReactiveTree.Text
