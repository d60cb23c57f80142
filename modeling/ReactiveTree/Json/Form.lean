import ReactiveTree.Json.Reading

/-!
# Records in JSON

A record is written as an object of named fields, or as an array of its fields in their order.
Fields are read one after another, so that of two faults the one that stands first is found:
a value of the wrong shape, or a place where the text stops being JSON.

Key definitions: `Fault`, `Origin`, `Field`, `Json.readRecord`, `Json.readDocument`.
-/
namespace ReactiveTree

/-- Why a document cannot be read. -/
inductive Fault where
  /-- The text is JSON, but no document of this form. -/
  | shape
  /-- The text is not JSON, or does not end after the value. -/
  | notJson
deriving Repr, DecidableEq

/-- The word for a fault in answers. -/
def Fault.word : Fault → String
  | .shape => "data"
  | .notJson => "json"

/-- Whether a record is read while its text is scanned, or from a value at hand. -/
inductive Origin where
  | text
  | value
deriving Repr, DecidableEq

/-- Where a field may not be missing. -/
inductive Need where
  | nowhere
  | inArrays
  | everywhere
deriving Repr, DecidableEq

/-- A field of a record that is read into `σ`. -/
structure Field (σ : Type) where
  name : String
  need : Need := .nowhere
  read : Json → σ → Except Fault σ

namespace Json

/-! ### Single values -/

/-- The fault of a value that is not of the wanted form. -/
def misfit : Json → Fault
  | .broken => .notJson
  | .unusable => .notJson
  | _ => .shape

def readString : Json → Except Fault String
  | .str s => .ok s
  | j => .error j.misfit

def readBool : Json → Except Fault Bool
  | .bool b => .ok b
  | j => .error j.misfit

def readDouble : Json → Except Fault Float
  | .int n => .ok (if n < 0 then -(Float.ofNat n.natAbs) else Float.ofNat n.natAbs)
  | .double x => .ok x
  | j => .error j.misfit

/-- A whole number of 64 bits without sign. -/
def readNat : Json → Except Fault Nat
  | .int n => if 0 ≤ n then .ok n.natAbs else .error .shape
  | j => .error j.misfit

/-- A value that may be `null`. -/
def readOption {α : Type} (read : Json → Except Fault α) : Json → Except Fault (Option α)
  | .null => .ok none
  | j => (read j).map some

def readEach {α : Type} (read : Json → Except Fault α) : List Json → Except Fault (List α)
  | [] => .ok []
  | j :: js =>
    match read j with
    | .error e => .error e
    | .ok a => (readEach read js).map (a :: ·)

/-- An array of values. -/
def readList {α : Type} (read : Json → Except Fault α) : Json → Except Fault (List α)
  | .arr items => readEach read items
  | j => .error j.misfit

/-- Read the members of an object into a map; a repeated key keeps its place and takes the last
value. -/
def readEntries {α : Type} (read : Json → Except Fault α) (acc : List (String × α)) :
    List (String × Json) → Except Fault (List (String × α))
  | [] => .ok acc
  | (k, j) :: ms =>
    match read j with
    | .error e => .error e
    | .ok a => readEntries read (upsert k a acc) ms

/-- An object whose members are all of one type. -/
def readMap {α : Type} (read : Json → Except Fault α) : Json → Except Fault (List (String × α))
  | .obj members => readEntries read [] members
  | j => .error j.misfit

/-! ### Records -/

/-- Read the members of an object. An unknown member is passed over, a repeated one refused;
`seen` holds the names met so far. -/
def readFields {σ : Type} (fields : List (Field σ)) (seen : List String) (s : σ) :
    List (String × Json) → Except Fault (List String × σ)
  | [] => .ok (seen, s)
  | (k, j) :: ms =>
    match fields.find? (·.name == k) with
    | none => if j.isWellWritten then readFields fields seen s ms else .error .notJson
    | some f =>
      if seen.contains k then .error .shape
      else match f.read j s with
        | .error e => .error e
        | .ok s => readFields fields (k :: seen) s ms

/-- Read the fields of a record that is written as an array. Items beyond the fields are a fault
of the text if the array is being scanned. -/
def readRow {σ : Type} (origin : Origin) (s : σ) :
    List (Field σ) → List Json → Except Fault σ
  | [], [] => .ok s
  | [], _ :: _ => .error (if origin = .text then .notJson else .shape)
  | f :: fs, [] => if f.need = .nowhere then readRow origin s fs [] else .error .shape
  | f :: fs, j :: js =>
    match f.read j s with
    | .error e => .error e
    | .ok s => readRow origin s fs js

/-- Read a record; the fields that are missing stay as `start` has them. -/
def readRecord {σ : Type} (origin : Origin) (fields : List (Field σ)) (start : σ) :
    Json → Except Fault σ
  | .obj members =>
    match readFields fields [] start members with
    | .error e => .error e
    | .ok (seen, s) =>
      if fields.all fun f => f.need != .everywhere || seen.contains f.name then .ok s
      else .error .shape
  | .arr items => readRow origin start fields items
  | j => .error j.misfit

/-! ### Documents -/

/-- Any value, with its keys sorted. -/
def readAny (j : Json) : Except Fault Json :=
  if j.isSound then .ok j.sortKeys else .error .notJson

/-- Read a text as one document. -/
def readDocument {α : Type} (read : Json → Except Fault α) (text : String) : Except Fault α :=
  let (j, ended) := scan text
  match read j with
  | .error e => .error e
  | .ok a => if ended then .ok a else .error .notJson

end Json
end ReactiveTree
