import ReactiveTree.Snippet.Library.Bits
import ReactiveTree.Snippet.Library.Blobs
import ReactiveTree.Snippet.Library.Collections
import ReactiveTree.Snippet.Library.Numbers
import ReactiveTree.Snippet.Library.Texts
import ReactiveTree.Snippet.Library.Values

/-!
# Parts of values

Arrays have items, maps entries, texts characters, blobs bytes and integers bits. A part is read
by an index or a name. The items of arrays and the entries of maps stand in the value itself;
other parts are copies, and put back where they change.

Key definitions: `library`, `Datum.getter?`, `Slot`, `Datum.slot`, `Datum.withSlot`.
-/
namespace ReactiveTree.Snippet

/-- The functions that every program can call. Those for a type of values come before those that
take what is left. -/
def library : List Native :=
  let inPlace : List Native := arrayFunctions ++ mapFunctions ++ blobFunctions
  operatorFunctions ++ textFunctions ++ inPlace.map (fun f => { f with inPlace := true }) ++
    rangeFunctions ++ blobMakers ++ bitFunctions ++ numberFunctions ++ valueFunctions

/-- The functions that are properties of a value as well. -/
def getters (d : Datum) : List String :=
  match d.bare with
  | .int _ => ["is_zero", "is_odd", "is_even", "bits"]
  | .float _ =>
    ["floor", "ceiling", "round", "int", "fraction", "is_nan", "is_finite", "is_infinite",
      "is_zero"]
  | .string _ => ["len", "bytes", "is_empty", "chars"]
  | .array _ | .blob _ => ["len", "is_empty"]
  | .range _ _ _ => ["start", "end", "is_inclusive", "is_exclusive", "is_empty"]
  | .function _ _ => ["name", "is_anonymous"]
  | _ => []

/-- The property of a value that is no map. -/
def Datum.getter? (d : Datum) (name : String) : Option Result :=
  if name = "tag" then some (.ok (.int d.tag))
  else if (getters d).contains name then
    (Native.find? library {} name [d.bare]).map fun (_, r) => r.map (·.value)
  else none

def mismatch {α : Type} (d : Datum) (expected : String) : Except RunError α :=
  .error (.wrongType d.actualType expected)

/-! ### Runs of bits and characters -/

/-- A position among the bits of an integer. -/
def bitBound (i : Int) : Except RunError Nat :=
  if 0 ≤ i ∧ i < wordSize then .ok i.toNat else .error (.bitIndex i)

/-- Where the bits of a range start, and how many they are. -/
def bitSpan (lo hi : Int) (closed : Bool) : Except RunError (Nat × Nat) := do
  let start ← bitBound lo
  let stop ← bitBound hi
  return (start, if closed then stop + 1 - start else stop - start)

/-- The bits of a run as a number; the last bit of all is its sign. -/
def signedRun (n : Int) (start len : Nat) : Int :=
  let bits := bitRun n start len
  if start + len = wordSize && 0 < len && len < wordSize && bitAt n 63 then bits - Nat.pow 2 len
  else bits

/-- Where the part of a text that a range describes starts, and how many characters it has. -/
def textPart (len : Nat) (lo hi : Int) (closed : Bool) : Except RunError (Nat × Nat) :=
  let start? := if 0 ≤ lo then some lo.toNat else position? len lo
  let stop := if 0 ≤ hi then hi.toNat else (position? len hi).getD 0
  match start? with
  | none => .error (.textIndex lo len)
  | some start =>
    .ok (start, if start < stop then (if closed then stop - start + 1 else stop - start) else 0)

/-! ### Parts at an index -/

/-- What there is at an index. -/
inductive Slot where
  /-- A part of the value itself. -/
  | item (d : Datum)
  /-- A map has no such entry. -/
  | missing
  /-- What is made from the value. -/
  | copy (d : Datum)

namespace Slot

def value : Slot → Datum
  | item d => d
  | missing => .unit
  | copy d => d

/-- The part of the value itself. -/
def item? : Slot → Option Datum
  | item d => some d
  | _ => none

def isCopy : Slot → Bool
  | copy _ => true
  | _ => false

end Slot

/-- An access that values of a type do not have. -/
def accessText (d key : Datum) : String := d.typeName ++ " [" ++ key.typeName ++ "]"

/-- What there is in a value at an index. -/
def Datum.slot (d key : Datum) : Except RunError Slot :=
  match d.bare, key.bare with
  | .array xs, .int i =>
    match (position? xs.length i).bind (xs[·]?) with
    | some x => .ok (.item x)
    | none => .error (.arrayIndex i xs.length)
  | .blob bs, .int i =>
    match (position? bs.length i).bind (bs[·]?) with
    | some b => .ok (.copy (.int b.toNat))
    | none => .error (.arrayIndex i bs.length)
  | .array _, _ | .blob _, _ => mismatch key "i64"
  | .map es, .string k => .ok ((Json.lookup k es).elim .missing .item)
  | .map _, _ => mismatch key "string"
  | .string s, .int i =>
    let cs := s.toList
    match (position? cs.length i).bind (cs[·]?) with
    | some c => .ok (.copy (.char c))
    | none => .error (.textIndex i cs.length)
  | .string s, .range lo hi closed => do
    let (start, len) ← textPart s.toList.length lo hi closed
    return .copy (.string (String.ofList ((s.toList.drop start).take len)))
  | .string _, _ => mismatch key "i64"
  | .int n, .int i => (bitPosition i).map fun i => .copy (.bool (bitAt n i))
  | .int n, .range lo hi closed => do
    let (start, len) ← bitSpan lo hi closed
    return .copy (.int (signedRun n start len))
  | .int _, _ => mismatch key "i64"
  | d, key => .error (.notIndexed (accessText d key))

/-- A value with another part at an index. -/
def Datum.withSlot (d key part : Datum) : Except RunError Datum :=
  match d.bare, key.bare, part.bare with
  | .array xs, .int i, _ => .ok (.array ((position? xs.length i).elim xs (xs.set · part)))
  | .map es, .string k, _ => .ok (.map (Json.insertSorted k part es))
  | .blob bs, .int i, .int n => .ok (.blob ((position? bs.length i).elim bs (bs.set · (byteOf n))))
  | .blob _, _, _ => mismatch part "INT"
  | .string s, .int i, .char c =>
    let cs := s.toList
    .ok (.string (String.ofList ((position? cs.length i).elim cs (cs.set · c))))
  | .string s, .range lo hi closed, _ => do
    let cs := s.toList
    let (start, _) ← textPart cs.length lo hi closed
    let stop : Nat := if 0 ≤ hi then hi.toNat else (position? cs.length hi).getD 0
    let rest := cs.drop (if closed then stop + 1 else stop)
    return .string (String.ofList (cs.take start) ++ part.hostText ++ String.ofList rest)
  | .string _, _, _ => mismatch part "char"
  | .int n, .int i, .bool b => (bitPosition i).map fun i => .int (withBit n i b)
  | .int _, .int _, _ => mismatch part "bool"
  | .int n, .range lo hi closed, .int new => do
    let (start, len) ← bitSpan lo hi closed
    return .int (withBitRun n start len new)
  | .int _, _, _ => mismatch part "integer"
  | d, key, _ => .error (.notIndexed (accessText d key ++ " = " ++ part.typeName))

end ReactiveTree.Snippet
