import ReactiveTree.Snippet.Engine
import ReactiveTree.Proofs.Plain
import ReactiveTree.Proofs.Documents.Snapshots

/-!
# Two views of a tree

A snippet sees a node by itself, at its path, and inside the value of the whole tree. A primitive
by itself is a text, a truth value or a float, while inside a container it has been plain JSON in
between, where a whole number of 64 bits is an integer. Walking down the value of the tree goes
where the tree goes (`Datum.walk?_ofPlain`), and what stands there agrees with the node by itself
(`Datum.shows_ofNode`), so the two views differ in nothing but the kinds of equal numbers.

Key definitions: `Datum.part?`, `Datum.walk?`, `Datum.Shows`, `Engine.OneTree`.
Key theorems: `Datum.part?_ofPlain`, `Datum.walk?_ofPlain`, `Engine.oneTree`.
-/
namespace ReactiveTree.Snippet

open Json (lookup sortMembers)

namespace Datum

/-- The entry of a map or the element of an array that a segment names. -/
def part? (segment : String) : Datum → Option Datum
  | .map entries => lookup segment entries
  | .array items => (Path.index? segment).bind (items[·]?)
  | _ => none

/-- What segments lead to inside a value. -/
def walk? : List String → Datum → Option Datum
  | [], d => some d
  | s :: rest, d => (d.part? s).bind (walk? rest)

/-- What stands inside a container agrees with what a node is by itself: texts, truth values, maps
and arrays are the same, and numbers are equal. -/
inductive Shows : Datum → Datum → Prop where
  | bool (b : Bool) : Shows (.bool b) (.bool b)
  | string (s : String) : Shows (.string s) (.string s)
  | float (x : Float) (hx : x.isFinite = true) : Shows (.float x) (.float x)
  | int (n : Int) (x : Float) (hn : Word64.inRange n = true)
      (hx : (Decimal.Dyadic.ofFloat? x).map (·.signedValue) = some (n : ℚ)) :
    Shows (.int n) (.float x)
  | array (items : List Datum) : Shows (.array items) (.array items)
  | map (entries : List (String × Datum)) : Shows (.map entries) (.map entries)

/-! ### Plain JSON as data -/

theorem itemsOfJson_eq : ∀ js : List Json, itemsOfJson js = js.map ofJson
  | [] => rfl
  | j :: js => by rw [itemsOfJson, itemsOfJson_eq js, List.map_cons]

theorem entriesOfJson_eq : ∀ ms : List (String × Json),
    entriesOfJson ms = ms.map fun m => (m.1, ofJson m.2)
  | [] => rfl
  | (k, j) :: ms => by rw [entriesOfJson, entriesOfJson_eq ms, List.map_cons]

variable {n m : Node} {r : Traits}

theorem ofPlain_object (r : Traits) (cs : List (String × Node)) :
    ofJson (Node.object r cs).toPlain =
      .map (sortMembers (cs.map fun c => (c.1, ofJson c.2.toPlain))) := by
  have hsort := Json.sortMembers_map ofJson (cs.map fun c => (c.1, c.2.toPlain))
  rw [List.map_map] at hsort
  rw [Node.toPlain, ofJson, entriesOfJson_eq, Node.plainMembers_eq, ← hsort]
  rfl

theorem ofPlain_array (r : Traits) (is : List Node) :
    ofJson (Node.array r is).toPlain = .array (is.map fun c => ofJson c.toPlain) := by
  rw [Node.toPlain, ofJson, itemsOfJson_eq, Node.plainItems_eq, List.map_map]
  rfl

/-- A primitive has no parts. -/
theorem part?_ofPlain_leaf (s : String) (v : Scalar) : (ofJson v.toJson).part? s = none := by
  cases v with
  | string text => rfl
  | boolean b => rfl
  | number x =>
    rw [Scalar.toJson]
    obtain ⟨k, -, -, hj⟩ | ⟨-, hj⟩ | ⟨-, hj⟩ := Scalar.numberToJson_cases x
    · rw [hj]
      rfl
    · rw [hj]
      rfl
    · rw [hj]
      rfl

/-- **The parts of a container's value are the values of its children.** -/
theorem part?_ofPlain (h : n.Sound) (s : String) : (ofJson n.toPlain).part? s =
    (n.child? s).map fun c => ofJson c.toPlain := by
  cases n with
  | object r cs =>
    have hkeys : (cs.map fun c => (c.1, ofJson c.2.toPlain)).map (·.1) = cs.map (·.1) := by
      rw [List.map_map]
      rfl
    have hnodup : (cs.map (·.1)).Nodup := h.nodup
    rw [ofPlain_object, part?, Json.lookup_sortMembers (by rwa [hkeys]),
      Json.lookup_map (fun c : Node => ofJson c.toPlain) cs]
    rfl
  | array r is =>
    rw [ofPlain_array, part?, Node.child?]
    cases Path.index? s with
    | none => rfl
    | some i => rw [Option.bind_some, Option.bind_some, List.getElem?_map]
  | leaf r v => exact part?_ofPlain_leaf s v

/-- **Walking down the value goes where the tree goes.** -/
theorem walk?_ofPlain : ∀ {segments : List String} {n : Node}, n.Sound →
    (ofJson n.toPlain).walk? segments = (n.get? segments).map fun m => ofJson m.toPlain
  | [], _, _ => rfl
  | s :: segments, n, h => by
    rw [walk?, part?_ofPlain h, Node.get?]
    cases hc : n.child? s with
    | none => rfl
    | some c =>
      have hkid := h.kid (Node.mem_kids_of_child? h hc)
      rw [Option.map_some, Option.bind_some, Option.bind_some]
      exact walk?_ofPlain hkid

/-- A container by itself is its plain JSON. -/
theorem ofNode_of_container (h : n.isPrimitive = false) : ofNode n = ofJson n.toPlain := by
  cases n with
  | object r cs => rfl
  | array r is => rfl
  | leaf r v => cases h

/-- **What stands inside a container agrees with the node by itself**, if a number is finite. -/
theorem shows_ofNode (hf : ∀ x, n.value? = some (.number x) → x.isFinite = true) :
    (ofJson n.toPlain).Shows (ofNode n) := by
  cases n with
  | object r cs =>
    rw [ofNode_of_container rfl, ofPlain_object]
    exact .map _
  | array r is =>
    rw [ofNode_of_container rfl, ofPlain_array]
    exact .array _
  | leaf r v =>
    rw [Node.toPlain, ofNode]
    cases v with
    | string text => exact .string text
    | boolean b => exact .bool b
    | number x =>
      have hx := hf x rfl
      rw [Scalar.toJson]
      obtain ⟨k, hk, hr, hj⟩ | ⟨-, hj⟩ | ⟨hinf, -⟩ := Scalar.numberToJson_cases x
      · obtain ⟨d, hd, hvalue⟩ := Decimal.wholeNumber?_eq_some_iff.mp hk
        rw [hj]
        exact .int k x hr (by rw [hd, Option.map_some, hvalue])
      · rw [hj]
        exact .float x hx
      · rw [hx] at hinf
        cases hinf

end Datum

namespace Engine

variable {e : Engine} {t : Tree} {n : Node} {path : String} {segments : List String}

theorem root_eq (he : e.tree = some t) (ht : t.Valid) :
    e.root = Datum.ofJson t.root.toPlain := by
  rw [root, he, Option.map_some, Option.getD_some, Datum.ofNode_of_container ht.isPrimitive_root]

theorem read_eq (he : e.tree = some t) (path : String) :
    e.read path = ((t.get? path).map Datum.ofNode).getD .unit := by
  rw [read, he, Option.bind_some]

theorem walk?_root (he : e.tree = some t) (ht : t.Valid) (hs : Path.split path = .ok segments) :
    e.root.walk? segments = (t.get? path).map fun n => Datum.ofJson n.toPlain := by
  rw [root_eq he ht, Tree.get?_eq hs, Datum.walk?_ofPlain ht.sound]

/-- What is said of the two ways in which snippets see a tree. -/
structure OneTree (e : Engine) (t : Tree) : Prop where
  /-- Along a listed path the whole value leads to what agrees with the node by itself. -/
  listed : ∀ entry ∈ t.entries .everything, ∃ segments d, Path.split entry.path = .ok segments ∧
    e.root.walk? segments = some d ∧ d.Shows (e.read entry.path)
  /-- A path without a node leads nowhere in both. -/
  nowhere : ∀ path segments, Path.split path = .ok segments → t.get? path = none →
    e.root.walk? segments = none ∧ e.read path = .unit
  /-- The keys of a map are the keys of the object, each of them once. -/
  maps : ∀ path segments r cs, Path.split path = .ok segments →
    t.get? path = some (.object r cs) → ∃ entries, e.root.walk? segments = some (.map entries) ∧
      (entries.map (·.1)).Perm (cs.map (·.1)) ∧ (entries.map (·.1)).Nodup
  /-- An array has as many elements as there are items. -/
  arrays : ∀ path segments r is, Path.split path = .ok segments →
    t.get? path = some (.array r is) → ∃ items, e.root.walk? segments = some (.array items) ∧
      items.length = is.length

/-- **A node by itself and the whole value show one tree**, if its numbers are finite. -/
theorem oneTree (he : e.tree = some t) (ht : t.Valid) (hf : t.root.NumbersFinite) :
    e.OneTree t := by
  refine ⟨?_, ?_, ?_, ?_⟩
  · intro entry hentry
    obtain ⟨s, segments, hl, hpath, -⟩ := (Tree.mem_entries rfl).mp hentry
    have hsplit : Path.split entry.path = .ok (s :: segments) := by
      rw [hpath, Path.split_ofSegments (ht.sound.validKeys hl)]
    have hnode : t.get? entry.path = some entry.node := Tree.get?_of_mem_entries ht hentry
    refine ⟨s :: segments, Datum.ofJson entry.node.toPlain, hsplit, ?_, ?_⟩
    · rw [walk?_root he ht hsplit, hnode, Option.map_some]
    · rw [read_eq he, hnode, Option.map_some, Option.getD_some]
      exact Datum.shows_ofNode fun x hx => hf _ _ x hl hx
  · intro path segments hs hnone
    constructor
    · rw [walk?_root he ht hs, hnone, Option.map_none]
    · rw [read_eq he, hnone]
      rfl
  · intro path segments r cs hs hnode
    have hsound : (Node.object r cs).Sound := by
      rw [Tree.get?_eq hs] at hnode
      exact ht.sound.of_leads (Node.leads_of_get? ht.sound hnode)
    have hkeys : (cs.map fun c => (c.1, Datum.ofJson c.2.toPlain)).map (·.1) = cs.map (·.1) := by
      rw [List.map_map]
      rfl
    have hnodup : (cs.map (·.1)).Nodup := hsound.nodup
    refine ⟨sortMembers (cs.map fun c => (c.1, Datum.ofJson c.2.toPlain)), ?_, ?_, ?_⟩
    · rw [walk?_root he ht hs, hnode, Option.map_some, Datum.ofPlain_object]
    · have hperm := (Json.perm_sortMembers (by rwa [hkeys])).map (·.1)
      rwa [hkeys] at hperm
    · exact (Json.ascending_sortMembers _).nodup
  · intro path segments r is hs hnode
    refine ⟨is.map fun c => Datum.ofJson c.toPlain, ?_, by rw [List.length_map]⟩
    rw [walk?_root he ht hs, hnode, Option.map_some, Datum.ofPlain_array]

/-- Zero without and with a sign, a fraction, and the ends of the range of integers, in an array
that stands between two keys that are not in order. -/
def gauges : Tree :=
  let number (x : Float) : Node := .leaf {} (.number x)
  ⟨.object {} [("unit", .leaf {} (.string "km")),
    ("marks", .array {} [number 0, number (-0.0), number 0.5, number 9223372036854775808,
      number (-9223372036854775808), .object {} [("0", .leaf {} (.boolean true))]]),
    ("empty", .object {} [])]⟩

/-- By themselves all the marks are floats; inside the tree the whole ones within the range are
integers. -/
theorem oneTree_gauges :
    ["marks.0", "marks.1", "marks.2", "marks.3", "marks.4"].map
        (fun path => ((({} : Engine).load gauges).read path).typeName) =
      ["f64", "f64", "f64", "f64", "f64"] ∧
    ["0", "1", "2", "3", "4"].map
        (fun i => ((({} : Engine).load gauges).root.walk? ["marks", i]).map (·.typeName)) =
      [some "i64", some "i64", some "f64", some "f64", some "i64"] ∧
    (({} : Engine).load gauges).OneTree gauges := by
  have hvalid : gauges.Valid := ⟨rfl, rfl⟩
  have hfinite : gauges.root.NumbersFinite :=
    (Snapshot.all_isFinite_capture hvalid).mp (by decide +kernel)
  exact ⟨by decide +kernel, by decide +kernel, oneTree rfl hvalid hfinite⟩

end Engine
end ReactiveTree.Snippet
