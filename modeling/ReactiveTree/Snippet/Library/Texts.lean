import ReactiveTree.Snippet.Library.Basic
import ReactiveTree.Text.Case

/-!
# Functions on texts

Positions count characters. Texts are changed in place by the functions that give no result.

Key definitions: `textFunctions`.
-/
namespace ReactiveTree.Snippet

open Native

/-- The characters of a text, or of a single character. -/
def charsOf? : Datum → Option (List Char)
  | .string s => some s.toList
  | .char c => some [c]
  | _ => none

def ofChars (cs : List Char) : Datum := .string (String.ofList cs)

/-- A function on the characters of a text. -/
def onText (name : String) (f : List Char → Datum) : Native :=
  .of name fun | [.string s] => gives (f s.toList) | _ => none

/-- A function that changes a text. -/
def changesText (name : String) (f : List Char → List Char) : Native :=
  .of name fun | [.string s] => becomes (ofChars (f s.toList)) | _ => none

/-- A function on a text and another one to look for. -/
def onTexts (name : String) (f : List Char → List Char → Datum) : Native :=
  .of name fun | [.string s, .string part] => gives (f part.toList s.toList) | _ => none

/-- Replace every occurrence of a part, also of the empty one between all characters. -/
def replaceChars (part new : List Char) : Nat → List Char → List Char
  | _, [] => if part.isEmpty then new else []
  | skip + 1, _ :: cs => replaceChars part new skip cs
  | 0, c :: cs =>
    if part.isEmpty then new ++ c :: replaceChars part new 0 cs
    else if part.isPrefixOf (c :: cs) then new ++ replaceChars part new (part.length - 1) cs
    else c :: replaceChars part new 0 cs

/-- The pieces of a text between the occurrences of a part; `acc` is the piece being read. -/
def splitChars (part : List Char) (acc : List Char) : Nat → List Char → List (List Char)
  | _, [] => [acc.reverse]
  | skip + 1, _ :: cs => splitChars part acc skip cs
  | 0, c :: cs =>
    if part ≠ [] ∧ part.isPrefixOf (c :: cs) then
      acc.reverse :: splitChars part [] (part.length - 1) cs
    else splitChars part (c :: acc) 0 cs

/-- The pieces between the occurrences of a part; the empty part stands around every character. -/
def pieces (part cs : List Char) : List (List Char) :=
  if part.isEmpty then [] :: cs.map (fun c => [c]) ++ [[]] else splitChars part [] 0 cs

/-- At most this many pieces, the last one with all that follows; at least one. -/
def firstPieces (count : Int) (part cs : List Char) : List (List Char) :=
  let all := pieces part cs
  let n := (max count 1).toNat - 1
  if all.length ≤ n + 1 then all else all.take n ++ [List.intercalate part (all.drop n)]

/-- Read a text from its end. -/
def fromEnd (split : List Char → List Char → List (List Char)) (part cs : List Char) :
    List (List Char) :=
  (split part.reverse cs.reverse).map List.reverse

def ofPieces (ps : List (List Char)) : Datum := .array (ps.map ofChars)

/-- The words of a text. -/
def textWords (cs : List Char) : List (List Char) :=
  (go [] cs).filter (· ≠ [])
where
  go (acc : List Char) : List Char → List (List Char)
    | [] => [acc.reverse]
    | c :: cs => if Text.isBlank c then acc.reverse :: go [] cs else go (c :: acc) cs

/-- The characters before and after a place; a place before the start leaves nothing before. -/
def cutAt (cs : List Char) (i : Int) : List Char × List Char :=
  cs.splitAt (if i ≤ 0 then cs.length - i.natAbs else i.toNat)

/-- Fill a text up to a length with a text. -/
def padChars (fuel len : Nat) (fill cs : List Char) : List Char :=
  match fuel with
  | 0 => cs
  | fuel + 1 =>
    if fill.isEmpty || len ≤ cs.length then cs else (padChars fuel len fill (cs ++ fill)).take len

/-- The one character that a character becomes in another case; itself if there are more. -/
def sole (c : Char) : List Char → Datum
  | [d] => .char d
  | _ => .char c

/-- Where a part occurs first in a text, from an index on. Nothing occurs behind the end, nor in
an empty text. -/
def placeIn (part cs : List Char) (start : Int) : Int :=
  if cs.isEmpty || (cs.length : Int) ≤ start then -1
  else indexOf (part.isPrefixOf ·) (startOf cs.length start) cs

/-- The characters of a part of a text one after another. -/
def charSequence (cs : List Char) (p : Part) : Datum :=
  let start := if p.start < 0 then cs.length - p.start.natAbs else p.start.toNat
  .sequence (.chars ((cs.drop start).take p.len.toNat))

def textFunctions : List Native :=
  [onText "len" fun cs => .int cs.length,
   .of "bytes" fun | [.string s] => gives (.int s.utf8ByteSize) | _ => none,
   .of "is_empty" fun | [.string s] => gives (.bool (s == "")) | _ => none,
   .of "chars" fun
      | [.string s] => gives (.sequence (.chars s.toList))
      | [.string s, .int start] => gives (charSequence s.toList ⟨start, Word64.maxInt⟩)
      | [.string s, .int start, .int len] => gives (charSequence s.toList ⟨start, len⟩)
      | [.string s, .range lo hi closed] =>
        gives (charSequence s.toList (.ofRangeOrNone lo hi closed))
      | _ => none,
   onText "to_chars" fun cs => .array (cs.map .char),
   .of "to_blob" fun | [.string s] => gives (.blob s.toUTF8.toList) | _ => none,
   .of "to_upper" fun
      | [.string s] => gives (.string (Text.toUpper s))
      | [.char c] => gives (sole c (Text.upperOf c))
      | _ => none,
   .of "to_lower" fun
      | [.string s] => gives (.string (Text.toLower s))
      | [.char c] => gives (sole c (Text.lowerOf c))
      | _ => none,
   .of "make_upper" fun
      | [.string s] => becomes (.string (Text.toUpper s))
      | [.char c] => becomes (sole c (Text.upperOf c))
      | _ => none,
   .of "make_lower" fun
      | [.string s] => becomes (.string (Text.toLower s))
      | [.char c] => becomes (sole c (Text.lowerOf c))
      | _ => none,
   changesText "trim" fun cs => Text.trimEnd (Text.trimStart cs),
   changesText "clear" fun _ => [],
   onTexts "starts_with" fun part cs => .bool (part.isPrefixOf cs),
   onTexts "ends_with" fun part cs => .bool (part.isSuffixOf cs),
   .of "contains" fun
      | [.string s, d] => (charsOf? d).bind fun part => gives (.bool (occursIn part s.toList))
      | _ => none,
   .of "index_of" fun
      | [.string s, d] => (charsOf? d).bind fun part => gives (.int (placeIn part s.toList 0))
      | [.string s, d, .int start] => (charsOf? d).bind fun part =>
          gives (.int (placeIn part s.toList start))
      | _ => none,
   .of "sub_string" fun
      | .string s :: args => (tailOf? args).bind fun p => gives (ofChars (p.items s.toList))
      | _ => none,
   .of "crop" fun
      | .string s :: args => (tailOf? args).bind fun p => becomes (ofChars (p.items s.toList))
      | _ => none,
   .of "replace" fun
      | [.string s, d, e] => do
        let part ← charsOf? d
        let new ← charsOf? e
        becomes (if s = "" then .string s else ofChars (replaceChars part new 0 s.toList))
      | _ => none,
   .of "remove" fun
      | [.string s, d] => (charsOf? d).bind fun part =>
          becomes (ofChars (removeFrom part 0 s.toList))
      | _ => none,
   .of "truncate" fun
      | [.string s, .int n] => becomes (ofChars (s.toList.take (lengthOf n)))
      | _ => none,
   { name := "pad"
     run := fun limits => fun
      | [.string s, .int n, d] => (charsOf? d).bind fun fill =>
          if within limits.text (lengthOf n) then
            becomes (ofChars (padChars (lengthOf n + 1) (lengthOf n) fill s.toList))
          else fails (.tooLarge "Length of string")
      | _ => none },
   .of "append" fun
      | [.string s, .blob bytes] => becomes (.string (s ++ Text.decode bytes))
      | [.string s, d] => through (textDepth d) (becomes (.string (s ++ d.text)))
      | _ => none,
   .of "pop" fun
      | [.string s] =>
        match s.toList.reverse with
        | [] => takes .unit (.string s)
        | c :: cs => takes (.char c) (ofChars cs.reverse)
      | [.string s, .int n] =>
        let cs := s.toList
        let keep := cs.length - lengthOf n
        takes (ofChars (cs.drop keep)) (ofChars (cs.take keep))
      | _ => none,
   .of "split" fun
      | [.string s] => gives (ofPieces (textWords s.toList))
      | [.string s, .int i] =>
        let (before, after) := cutAt s.toList i
        gives (ofPieces
          (if s.toList.length < i.natAbs ∧ i < 0 then [[], s.toList] else [before, after]))
      | [.string s, d] => (charsOf? d).bind fun part => gives (ofPieces (pieces part s.toList))
      | [.string s, d, .int n] => (charsOf? d).bind fun part =>
          gives (ofPieces (firstPieces n part s.toList))
      | _ => none,
   .of "split_rev" fun
      | [.string s, d] => (charsOf? d).bind fun part =>
          gives (ofPieces (fromEnd pieces part s.toList))
      | [.string s, d, .int n] => (charsOf? d).bind fun part =>
          gives (ofPieces (fromEnd (firstPieces n) part s.toList))
      | _ => none,
   .of "get" fun
      | [.string s, .int i] =>
        let cs := s.toList
        gives (((position? cs.length i).bind (cs[·]?)).elim .unit .char)
      | _ => none,
   .of "set" fun
      | [.string s, .int i, .char c] =>
        let cs := s.toList
        becomes (ofChars ((position? cs.length i).elim cs (cs.set · c)))
      | _ => none,
   .of "to_string" fun | [d] => through d.nesting (gives (.string d.text)) | _ => none,
   .of "to_debug" fun
      | [.char c] => gives (.string (String.singleton c))
      | [d] => through d.nesting (gives (.string d.debugText))
      | _ => none]

end ReactiveTree.Snippet
