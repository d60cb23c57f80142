import ReactiveTree.Pattern.Categories

/-!
# Listed classes

A class of characters that is written as whole categories with some characters more and some
fewer.

Key definitions: `Listing`, `Listing.chars`, `Listing.find?`.
-/
namespace ReactiveTree.Pattern

open Text (CharSet)

/-- A class under its names. -/
structure Listing where
  /-- The names in lower case without separators. -/
  names : List String
  categories : String := ""
  more : String := ""
  fewer : String := ""

namespace Listing

/-- The characters of a class. -/
def chars (l : Listing) : CharSet :=
  let add (s : CharSet) (name : String) : CharSet := s.union ((category? name).getD .empty)
  let whole : CharSet := (CharSet.words l.categories).foldl add .empty
  (whole.union (CharSet.ofText l.more)).diff (CharSet.ofText l.fewer)

/-- The characters of the class with a name. -/
def find? (ls : List Listing) (name : String) : Option CharSet :=
  (List.find? (fun l => l.names.contains name) ls).map chars

end Listing
end ReactiveTree.Pattern
