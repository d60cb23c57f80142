import ReactiveTree.Pattern.Ages
import ReactiveTree.Pattern.Breaks
import ReactiveTree.Pattern.Properties
import ReactiveTree.Pattern.Scripts
import ReactiveTree.Text.Words

/-!
# Classes of characters

Classes that patterns name: those of a single letter, those in brackets with colons, and those of
the character database in braces: a property, a category or a script, or a value of a property
that has several.

Key definitions: `letterClass?`, `bracketClass?`, `plainName`, `namedClass?`.
-/
namespace ReactiveTree.Pattern

open Text (CharSet)

/-- The letters, the digits and the underscore of ASCII. -/
def asciiWordChars : CharSet := ⟨[(48, 57), (65, 90), (95, 95), (97, 122)]⟩

/-- The class that a letter stands for: digits, blanks and word characters. -/
def letterClass? (ascii : Bool) (c : Char) : Option CharSet :=
  if c = 'd' then if ascii then some ⟨[(48, 57)]⟩ else category? "nd"
  else if c = 's' then if ascii then some ⟨[(9, 13), (32, 32)]⟩ else property? "whitespace"
  else if c = 'w' then some (if ascii then asciiWordChars else Text.wordChars)
  else none

/-- The classes of ASCII characters that stand between colons in brackets. -/
def bracketClasses : List (String × CharSet) :=
  [("alnum", ⟨[(48, 57), (65, 90), (97, 122)]⟩), ("alpha", ⟨[(65, 90), (97, 122)]⟩),
   ("ascii", ⟨[(0, 127)]⟩), ("blank", ⟨[(9, 9), (32, 32)]⟩), ("cntrl", ⟨[(0, 31), (127, 127)]⟩),
   ("digit", ⟨[(48, 57)]⟩), ("graph", ⟨[(33, 126)]⟩), ("lower", ⟨[(97, 122)]⟩),
   ("print", ⟨[(32, 126)]⟩), ("punct", ⟨[(33, 47), (58, 64), (91, 96), (123, 126)]⟩),
   ("space", ⟨[(9, 13), (32, 32)]⟩), ("upper", ⟨[(65, 90)]⟩),
   ("word", asciiWordChars),
   ("xdigit", ⟨[(48, 57), (65, 70), (97, 102)]⟩)]

def bracketClass? (name : String) : Option CharSet := bracketClasses.lookup name

/-- The characters that do not count in the name of a class. -/
def isSeparator (c : Char) : Bool := c == ' ' || c == '_' || c == '-'

/-- A name in lower case, without a leading `is`, separators and characters beyond ASCII. The `c`
that remains of `isc` is no name: that is the name of a property. -/
def plainName (name : List Char) : String :=
  let plain (cs : List Char) : String :=
    String.ofList ((cs.filter fun c => !isSeparator c && Text.isAscii c).map Char.toLower)
  match name with
  | i :: s :: rest =>
    if i.toLower = 'i' && s.toLower = 's' then
      if plain rest = "c" then "isc" else plain rest
    else plain name
  | _ => plain name

/-- The class of a property without a value, of a category or of a script. -/
def bareClass? (name : String) : Option CharSet :=
  ((property? name).or (category? name)).or (script? name)

/-- The class of a value of a property. -/
def valueClass? (property value : String) : Option CharSet :=
  if property = "gc" || property = "generalcategory" then category? value
  else if property = "sc" || property = "script" then script? value
  else if property = "scx" || property = "scriptextensions" then extendedScript? value
  else if property = "age" then age? value
  else if property = "gcb" || property = "graphemeclusterbreak" then
    Listing.find? graphemeBreaks value
  else if property = "wb" || property = "wordbreak" then Listing.find? wordBreaks value
  else if property = "sb" || property = "sentencebreak" then Listing.find? sentenceBreaks value
  else none

/-- Split a name before the first place where a test holds, if it holds anywhere. -/
def splitWhere? (test : List Char → Bool) : List Char → Option (List Char × List Char)
  | [] => none
  | c :: cs =>
    if test (c :: cs) then some ([], c :: cs)
    else (splitWhere? test cs).map fun (a, b) => (c :: a, b)

/-- The property and the value in a name. The sign between them, which may be `!=`, `:` or `=`,
makes no difference. -/
def splitValue? (name : List Char) : Option (List Char × List Char) :=
  match splitWhere? (['!', '='].isPrefixOf ·) name with
  | some (property, rest) => some (property, rest.drop 2)
  | none =>
    ((splitWhere? ([':'].isPrefixOf ·) name).or (splitWhere? (['='].isPrefixOf ·) name)).map
      fun (property, rest) => (property, rest.drop 1)

/-- The class of a name in braces. -/
def namedClass? (name : List Char) : Option CharSet :=
  match splitValue? name with
  | some (property, value) => valueClass? (plainName property) (plainName value)
  | none => bareClass? (plainName name)

end ReactiveTree.Pattern
