import ReactiveTree.Snippet.Library.Basic

/-!
# Functions on bits

An integer is a field of 64 bits, the lowest one first. Single bits and runs of bits are read and
written; a run ends with the field.

Key definitions: `bitFunctions`, `bitAt`, `withBit`, `bitRun`, `withBitRun`.
-/
namespace ReactiveTree.Snippet

open Native

/-- The bits of an integer. -/
def wordSize : Nat := 64

/-- The position of a bit; negative ones count from the end. -/
def bitPosition (i : Int) : Except RunError Nat :=
  match position? wordSize i with
  | some i => .ok i
  | none => .error (.bitIndex i)

/-- The value of a bit of an integer. -/
def bitAt (n : Int) (i : Nat) : Bool := (Word64.toBits n).testBit i

/-- An integer with another value of a bit. -/
def withBit (n : Int) (i : Nat) (b : Bool) : Int :=
  let bits := Word64.toBits n
  Word64.ofBits (if bits.testBit i == b then bits else bits ^^^ Nat.pow 2 i)

/-- The bits of a run as a number. -/
def bitRun (n : Int) (start len : Nat) : Int :=
  Word64.ofBits (Word64.toBits n / Nat.pow 2 start % Nat.pow 2 len)

/-- An integer with other bits in a run. -/
def withBitRun (n : Int) (start len : Nat) (new : Int) : Int :=
  let bits := Word64.toBits n
  let old := bits / Nat.pow 2 start % Nat.pow 2 len
  let new := Word64.toBits new % Nat.pow 2 len
  Word64.ofBits (bits - old * Nat.pow 2 start + new * Nat.pow 2 start)

/-- The position and the length of a run of bits; none for a run of no bits. -/
def runOf (p : Part) : Except RunError (Option (Nat × Nat)) :=
  if p.len ≤ 0 then .ok none
  else do
    let i ← bitPosition p.start
    return some (i, min p.len.toNat (wordSize - i))

/-- The run that arguments describe, and those after it. -/
def bitPart? : List Datum → Option (Part × List Datum)
  | .range lo hi closed :: rest => some (.ofRangeOrNone lo hi closed, rest)
  | .int start :: .int len :: rest => some (⟨start, len⟩, rest)
  | _ => none

/-- The bits of a run one after another. -/
def bitSequence (n : Int) (p : Part) : Result := do
  let i ← bitPosition p.start
  let len := min p.len.toNat (wordSize - i)
  return .sequence (.bits ((List.range' i len).map (bitAt n)))

/-- A run of bits as a number. -/
def readRun (n : Int) (p : Part) : Result := do
  match ← runOf p with
  | some (i, len) => return .int (bitRun n i len)
  | none => return .int 0

def bitFunctions : List Native :=
  [.of "get_bit" fun
      | [.int n, .int i] => tries ((bitPosition i).map fun i => .bool (bitAt n i))
      | _ => none,
   .of "set_bit" fun
      | [.int n, .int i, .bool b] =>
        some ((bitPosition i).map fun i =>
          { value := .unit, object := some (.int (withBit n i b)) })
      | _ => none,
   .of "get_bits" fun
      | .int n :: args =>
        match bitPart? args with
        | some (p, []) => tries (readRun n p)
        | _ => none
      | _ => none,
   .of "set_bits" fun
      | .int n :: args =>
        match bitPart? args with
        | some (p, [.int new]) => some do
            match ← runOf p with
            | some (i, len) =>
              return { value := .unit, object := some (.int (withBitRun n i len new)) }
            | none => return { value := .unit, object := some (.int n) }
        | _ => none
      | _ => none,
   .of "bits" fun
      | [.int n] => tries (bitSequence n ⟨0, wordSize⟩)
      | [.int n, .int start] => tries (bitSequence n ⟨start, wordSize⟩)
      | .int n :: args =>
        match bitPart? args with
        | some (p, []) => tries (bitSequence n p)
        | _ => none
      | _ => none]

end ReactiveTree.Snippet
