import ReactiveTree.Snippet.Library.Basic

/-!
# Functions on blobs

A blob is an array of bytes. What is written into it is cut to bytes, and what is read from
several bytes is a number or a text; writing never makes it longer.

Key definitions: `blobFunctions`.
-/
namespace ReactiveTree.Snippet

open Native

/-- The last byte of an integer. -/
def byteOf (n : Int) : UInt8 := UInt8.ofNat (Word64.toBits n % 256)

/-- A byte as an integer, and zero where there is none. -/
def ofByte? (b : Option UInt8) : Datum := .int ((b.map fun b => (b.toNat : Int)).getD 0)

/-- The bytes of a word, the lowest one first. -/
def wordBytes (n : Nat) : List UInt8 :=
  (List.range 8).map fun i => UInt8.ofNat (n / Nat.pow 256 i % 256)

/-- The word of at most eight bytes, the lowest one first. -/
def wordOf (bytes : List UInt8) : Nat := bytes.foldr (fun b n => b.toNat + 256 * n) 0

/-- The word that the first bytes of a part are; those that miss behind them are zero. -/
def readWord (lowFirst : Bool) (p : Part) (bytes : List UInt8) : Nat :=
  let read := (p.items bytes).take 8
  let word := read ++ List.replicate (8 - read.length) 0
  wordOf (if lowFirst then word else word.reverse)

/-- Write bytes into a part, as many as it has room for. -/
def writeInto (p : Part) (new bytes : List UInt8) : List UInt8 :=
  let (i, j) := p.bounds bytes.length
  let new := new.take (j - i)
  bytes.take i ++ new ++ bytes.drop (i + new.length)

/-- Write a word into a part. -/
def writeWord (lowFirst : Bool) (p : Part) (word : Nat) (bytes : List UInt8) : List UInt8 :=
  writeInto p (if lowFirst then wordBytes word else (wordBytes word).reverse) bytes

/-- A function that reads a word from a part. -/
def readsWord (name : String) (lowFirst : Bool) (make : Nat → Datum) : Native :=
  .of name fun
    | .blob bytes :: args =>
      match partOf? args with
      | some (p, []) => gives (make (readWord lowFirst p bytes))
      | _ => none
    | _ => none

/-- A function that writes a number into a part. -/
def writesWord (name : String) (lowFirst : Bool) : Native :=
  .of name fun
    | .blob bytes :: args =>
      match partOf? args with
      | some (p, [.int n]) => becomes (.blob (writeWord lowFirst p (Word64.toBits n) bytes))
      | some (p, [.float x]) => becomes (.blob (writeWord lowFirst p x.toBits.toNat bytes))
      | _ => none
    | _ => none

/-- A function that writes a text into a part. -/
def writesText (name : String) (encode : String → List UInt8) : Native :=
  .of name fun
    | .blob bytes :: args =>
      match partOf? args with
      | some (p, [.string s]) => becomes (.blob (writeInto p (encode s) bytes))
      | _ => none
    | _ => none

/-- A new blob of a length. -/
def newBlob (limits : Limits) (len value : Int) : Option (Except RunError Outcome) :=
  if within limits.items (lengthOf len) then
    gives (.blob (List.replicate (lengthOf len) (byteOf value)))
  else fails (.tooLarge "Size of array/BLOB")

/-- Functions that make blobs. -/
def blobMakers : List Native :=
  [{ name := "blob"
     run := fun limits => fun
      | [] => gives (.blob [])
      | [.int len] => newBlob limits len 0
      | [.int len, .int value] => newBlob limits len value
      | _ => none }]

def blobFunctions : List Native :=
  [.of "len" fun | [.blob bs] => gives (.int bs.length) | _ => none,
   .of "is_empty" fun | [.blob bs] => gives (.bool bs.isEmpty) | _ => none,
   .of "to_array" fun
      | [.blob bs] => gives (.array (bs.map fun b => .int b.toNat))
      | _ => none,
   .of "as_string" fun | [.blob bs] => gives (.string (Text.decode bs)) | _ => none,
   .of "contains" fun | [c@(.blob _), d@(.int _)] => tries (contains c d) | _ => none,
   .of "get" fun | [.blob bs, .int i] => gives (ofByte? (itemAt? bs i)) | _ => none,
   .of "set" fun
      | [.blob bs, .int i, .int n] => becomes (.blob (withItemAt bs i (byteOf n)))
      | _ => none,
   .of "push" fun | [.blob bs, .int n] => becomes (.blob (bs ++ [byteOf n])) | _ => none,
   .of "append" fun
      | [.blob bs, d] => (addedBytes? d).bind fun new => becomes (.blob (bs ++ new))
      | _ => none,
   .of "insert" fun
      | [.blob bs, .int i, .int n] =>
        let place := startOf bs.length i
        becomes (.blob (bs.take place ++ byteOf n :: bs.drop place))
      | _ => none,
   { name := "pad"
     run := fun limits => fun
      | [.blob bs, .int len, .int n] =>
        if within limits.items (lengthOf len) then
          becomes (.blob (bs ++ List.replicate (lengthOf len - bs.length) (byteOf n)))
        else fails (.tooLarge "Size of array/BLOB")
      | _ => none },
   .of "pop" fun | [.blob bs] => takes (ofByte? bs.getLast?) (.blob bs.dropLast) | _ => none,
   .of "shift" fun | [.blob bs] => takes (ofByte? bs.head?) (.blob bs.tail) | _ => none,
   .of "remove" fun
      | [.blob bs, .int i] =>
        match position? bs.length i with
        | some i => takes (ofByte? (bs[i]?)) (.blob (bs.eraseIdx i))
        | none => takes (.int 0) (.blob bs)
      | _ => none,
   .of "clear" fun | [.blob _] => becomes (.blob []) | _ => none,
   .of "truncate" fun
      | [.blob bs, .int n] => becomes (.blob (bs.take (lengthOf n)))
      | _ => none,
   .of "chop" fun
      | [.blob bs, .int n] => becomes (.blob (bs.drop (bs.length - lengthOf n)))
      | _ => none,
   .of "reverse" fun | [.blob bs] => becomes (.blob bs.reverse) | _ => none,
   .of "extract" fun
      | .blob bs :: args => (tailOf? args).bind fun p => gives (.blob (p.items bs))
      | _ => none,
   .of "drain" fun
      | .blob bs :: args =>
        match partOf? args with
        | some (p, []) => takes (.blob (p.items bs)) (.blob (p.others bs))
        | _ => none
      | _ => none,
   .of "retain" fun
      | .blob bs :: args =>
        match partOf? args with
        | some (p, []) =>
          if (p.items bs).isEmpty then takes (.blob []) (.blob bs)
          else takes (.blob (p.others bs)) (.blob (p.items bs))
        | _ => none
      | _ => none,
   .of "splice" fun
      | .blob bs :: args =>
        match partOf? args with
        | some (p, [.blob new]) => becomes (.blob (p.replaced new bs))
        | _ => none
      | _ => none,
   .of "split" fun
      | [.blob bs, .int i] =>
        let place := startOf bs.length i
        takes (.blob (bs.drop place)) (.blob (bs.take place))
      | _ => none,
   readsWord "parse_le_int" true fun n => .int (Word64.ofBits n),
   readsWord "parse_be_int" false fun n => .int (Word64.ofBits n),
   readsWord "parse_le_float" true fun n => .float (Float.ofBits (UInt64.ofNat n)),
   readsWord "parse_be_float" false fun n => .float (Float.ofBits (UInt64.ofNat n)),
   writesWord "write_le" true, writesWord "write_be" false,
   writesText "write_utf8" fun s => s.toUTF8.toList,
   writesText "write_ascii" fun s =>
     (s.toList.filter fun c => c.toNat < 128).map fun c => UInt8.ofNat c.toNat]

end ReactiveTree.Snippet
