import ReactiveTree.Proofs.Documents.Traits
import ReactiveTree.Proofs.KeyOrder
import ReactiveTree.Proofs.Sameness
import ReactiveTree.Tree.Basic

/-!
# Nodes in documents

A node is read back from its document whichever way the document is read: while its text is
scanned or from a value at hand, and with the members of its objects as they were written or
sorted. The children of objects come in the order in which they stand in the document, so sorted
members make a node in key order (`ofWire?_arranged`); everything else is as it was, but that a
number that is not finite is written `null` and comes back as NaN (`Scalar.settled`).

Key definitions: `Node.body`, `Node.restored`.
Key theorems: `Node.draft_eq`, `Node.ofWire?_arranged`, `Node.read_toWire`.
-/
namespace ReactiveTree

open Json (lookup arrangeMembers)

theorem Kind.ofName?_name (k : Kind) : Kind.ofName? k.name = some k := by cases k <;> rfl

namespace Node

variable {n : Node} {cs : List (String × Node)} {sorted : Bool}

@[simp] theorem withTraits_withTraits (t r : Traits) (n : Node) :
    (n.withTraits t).withTraits r = n.withTraits r := by cases n <;> rfl

@[simp] theorem withTraits_traits (n : Node) : n.withTraits n.traits = n := by cases n <;> rfl

/-! ### Drafts -/

/-- The only member of its name, as a list. -/
theorem lookup_toList_cons {α : Type} {k name : String} {v : α} {ms : List (String × α)}
    (hk : k ∉ ms.map (·.1)) : (lookup name ((k, v) :: ms)).toList =
      if k = name then v :: (lookup name ms).toList else (lookup name ms).toList := by
  rw [Json.lookup_cons]
  split
  · rename_i h
    rw [Json.lookup_eq_none (h ▸ hk)]
    rfl
  · rfl

/-- A draft holds what is found under the names, if no name is repeated. -/
theorem draft_eq : ∀ {ms : List (String × Json)}, (ms.map (·.1)).Nodup → draft ms =
    { kinds := (lookup "type" ms).toList.map kindOfWire?
      children := (lookup "children" ms).toList.map childrenOfWire?
      items := (lookup "items" ms).toList.map itemsOfWire?
      values := (lookup "value" ms).toList
      traits := (lookup "meta" ms).toList }
  | [], _ => rfl
  | (k, j) :: ms, h => by
    rw [List.map_cons, List.nodup_cons] at h
    have ih := draft_eq h.2
    simp only [lookup_toList_cons h.1]
    rw [draft, ih]
    by_cases hmeta : k = "meta"
    · simp [hmeta]
    by_cases htype : k = "type"
    · simp [htype]
    by_cases hchildren : k = "children"
    · simp [hchildren]
    by_cases hitems : k = "items"
    · simp [hitems]
    by_cases hvalue : k = "value"
    · simp [hvalue]
    simp [hmeta, htype, hchildren, hitems, hvalue]

/-! ### Written members -/

/-- The members of a node's object but for its traits. -/
def body : Node → List (String × Json)
  | .object _ cs => [("type", .str Kind.object.name), ("children", .obj (childrenToWire cs))]
  | .array _ is => [("type", .str Kind.array.name), ("items", .arr (itemsToWire is))]
  | .leaf _ v => [("type", .str v.kind.name), ("value", v.toWire)]

theorem toWire_eq (n : Node) : n.toWire = .obj (n.body ++ n.traits.member) := by
  cases n <;> rfl

theorem childrenToWire_eq (cs : List (String × Node)) :
    childrenToWire cs = cs.map fun c => (c.1, c.2.toWire) := by
  induction cs with
  | nil => rfl
  | cons c cs ih => rw [childrenToWire, ih, List.map_cons]

theorem itemsToWire_eq (is : List Node) : itemsToWire is = is.map toWire := by
  induction is with
  | nil => rfl
  | cons n is ih => rw [itemsToWire, ih, List.map_cons]

theorem nodup_members (n : Node) : ((n.body ++ n.traits.member).map (·.1)).Nodup := by
  unfold Traits.member
  split <;> cases n <;> simp [body]

/-- What is found in a node's object, in whatever order it stands. -/
theorem lookup_arranged (sorted : Bool) (n : Node) (name : String) :
    lookup name (arrangeMembers sorted
      ((n.body ++ n.traits.member).map fun m => (m.1, m.2.arranged sorted))) =
        (lookup name (n.body ++ n.traits.member)).map (·.arranged sorted) := by
  have hnodup := n.nodup_members
  have hkeys : ((n.body ++ n.traits.member).map fun m => (m.1, m.2.arranged sorted)).map (·.1) =
      (n.body ++ n.traits.member).map (·.1) := by
    rw [List.map_map]
    rfl
  rw [← Json.lookup_map]
  unfold arrangeMembers
  split
  · exact Json.lookup_sortMembers (hkeys ▸ hnodup)
  · rfl

/-- The draft of what is written of a node. -/
theorem draft_arranged (sorted : Bool) (n : Node) : draft (arrangeMembers sorted
      ((n.body ++ n.traits.member).map fun m => (m.1, m.2.arranged sorted))) =
    { kinds := ((lookup "type" n.body).map (·.arranged sorted)).toList.map kindOfWire?
      children := ((lookup "children" n.body).map (·.arranged sorted)).toList.map childrenOfWire?
      items := ((lookup "items" n.body).map (·.arranged sorted)).toList.map itemsOfWire?
      values := ((lookup "value" n.body).map (·.arranged sorted)).toList
      traits := ((lookup "meta" n.traits.member).map (·.arranged sorted)).toList } := by
  have hkeys : (((n.body ++ n.traits.member).map fun m => (m.1, m.2.arranged sorted)).map
      (·.1)).Nodup := by
    rw [List.map_map]
    exact n.nodup_members
  have hbody : ∀ name, name ≠ "meta" →
      lookup name (n.body ++ n.traits.member) = lookup name n.body := fun name hname => by
    have hnone : lookup name n.traits.member = none := by
      unfold Traits.member
      split
      · rfl
      · rw [Json.lookup_cons, if_neg hname.symm]
        rfl
    rw [Json.lookup_append, hnone, Option.or_none]
  have hmeta : lookup "meta" (n.body ++ n.traits.member) = lookup "meta" n.traits.member := by
    have hnone : lookup "meta" n.body = none := by cases n <;> rfl
    rw [Json.lookup_append, hnone, Option.none_or]
  rw [draft_eq ((Json.perm_arrangeMembers sorted hkeys).map (·.1) |>.nodup_iff.mpr hkeys)]
  simp only [lookup_arranged, hmeta, hbody _ (by decide : "type" ≠ "meta"),
    hbody _ (by decide : "children" ≠ "meta"), hbody _ (by decide : "items" ≠ "meta"),
    hbody _ (by decide : "value" ≠ "meta")]

/-- The traits that are read from what is written of them. -/
theorem single?_member (sorted : Bool) (t : Traits) :
    single? (some {}) (((lookup "meta" t.member).map (·.arranged sorted)).toList.map fun j =>
      (Traits.read .value j).toOption) = some t := by
  unfold Traits.member
  split
  · rename_i h
    rw [Traits.eq_of_isEmpty h]
    rfl
  · have hread := Traits.read_arranged .value sorted t
    change (Traits.read .value ((t.toWire Json.double).arranged sorted)).toOption = some t
    rw [hread]
    rfl

/-! ### Reading -/

/-- Children with different keys are read in their order. -/
theorem childMembers?_eq {f : Node → Json} {g : Node → Node} :
    ∀ {cs acc : List (String × Node)}, (∀ c ∈ cs, ofWire? (f c.2) = some (g c.2)) →
      ((acc ++ cs).map (·.1)).Nodup →
        childMembers? acc (cs.map fun c => (c.1, f c.2)) =
          some (acc ++ cs.map fun c => (c.1, g c.2))
  | [], acc, _, _ => by
    rw [List.map_nil, List.map_nil, List.append_nil]
    rfl
  | (k, n) :: cs, acc, h, hnodup => by
    have hk : k ∉ acc.map (·.1) := fun hmem => by
      rw [List.map_append, List.nodup_append] at hnodup
      exact hnodup.2.2 k hmem k (by simp) rfl
    rw [List.map_cons, childMembers?, h _ List.mem_cons_self]
    dsimp only
    rw [Json.upsert_of_new _ hk, childMembers?_eq (fun c hc => h c (List.mem_cons_of_mem _ hc)),
      List.append_assoc]
    · rfl
    · rw [List.append_assoc]
      simpa using hnodup

theorem itemList?_eq {f : Node → Json} {g : Node → Node} :
    ∀ {is : List Node}, (∀ c ∈ is, ofWire? (f c) = some (g c)) →
      itemList? (is.map f) = some (is.map g)
  | [], _ => rfl
  | n :: is, h => by
    rw [List.map_cons, itemList?, h n List.mem_cons_self]
    dsimp only
    rw [itemList?_eq fun c hc => h c (List.mem_cons_of_mem _ hc)]
    rfl

/-- What comes back for a node whose document is read in this order. -/
def restored (sorted : Bool) (n : Node) : Node := (n.recast id Scalar.settled).arranged sorted

theorem restored_object (sorted : Bool) (t : Traits) (h : (cs.map (·.1)).Nodup) :
    (object t cs).restored sorted =
      object t ((arrangeMembers sorted cs).map fun c => (c.1, c.2.restored sorted)) :=
  arranged_recast_object id Scalar.settled sorted t h

theorem restored_array (sorted : Bool) (t : Traits) (is : List Node) :
    (array t is).restored sorted = array t (is.map (restored sorted)) :=
  arranged_recast_array id Scalar.settled sorted t is

theorem restored_leaf (sorted : Bool) (t : Traits) (v : Scalar) :
    (leaf t v).restored sorted = leaf t v.settled := arranged_leaf sorted _ _

theorem traits_restored (sorted : Bool) (n : Node) : (n.restored sorted).traits = n.traits := by
  unfold restored arranged
  split <;> simp

/-- The value of a primitive comes back settled. -/
theorem scalarOfWire?_toWire (sorted : Bool) (v : Scalar) :
    scalarOfWire? v.kind (v.toWire.arranged sorted) = some v.settled := by
  cases v with
  | number x =>
    rw [Scalar.toWire, Scalar.settled]
    split <;> cases sorted <;> rfl
  | string s => cases sorted <;> rfl
  | boolean b => cases sorted <;> rfl

theorem childrenOfWire?_arranged (h : (cs.map (·.1)).Nodup)
    (hread : ∀ c ∈ cs, ofWire? (c.2.toWire.arranged sorted) = some (c.2.restored sorted)) :
    childrenOfWire? ((Json.obj (childrenToWire cs)).arranged sorted) =
      some ((arrangeMembers sorted cs).map fun c => (c.1, c.2.restored sorted)) := by
  have hperm := Json.perm_arrangeMembers sorted h
  rw [Json.arranged_obj, childrenToWire_eq, List.map_map]
  change childrenOfWire? (.obj (arrangeMembers sorted
    (cs.map fun c => (c.1, (c.2.toWire).arranged sorted)))) = _
  rw [Json.arrangeMembers_map sorted fun n : Node => n.toWire.arranged sorted, childrenOfWire?]
  exact childMembers?_eq (f := fun n => n.toWire.arranged sorted) (g := restored sorted)
    (fun c hc => hread c (hperm.mem_iff.mp hc)) ((hperm.map (·.1)).nodup_iff.mpr h)

theorem itemsOfWire?_arranged (is : List Node)
    (hread : ∀ c ∈ is, ofWire? (c.toWire.arranged sorted) = some (c.restored sorted)) :
    itemsOfWire? ((Json.arr (itemsToWire is)).arranged sorted) =
      some (is.map (restored sorted)) := by
  rw [Json.arranged_arr, itemsToWire_eq, List.map_map, itemsOfWire?]
  exact itemList?_eq hread

/-- The content of the draft of what is written of a node, once its children can be read. -/
theorem content?_arranged (sorted : Bool) (h : n.isRegular = true) (hread : ∀ s c, (s, c) ∈ n.kids →
      ofWire? (c.toWire.arranged sorted) = some (c.restored sorted)) :
    (draft (arrangeMembers sorted
        ((n.body ++ n.traits.member).map fun m => (m.1, m.2.arranged sorted)))).content? =
      some ((n.restored sorted).withTraits {}) := by
  have hkind : ∀ k : Kind, kindOfWire? ((Json.str k.name).arranged sorted) = some k := fun k => by
    cases sorted <;> exact k.ofName?_name
  have hdefault : (default : Traits) = {} := rfl
  rw [draft_arranged, Draft.content?]
  cases n with
  | object t cs =>
    have hchildren := childrenOfWire?_arranged (nodup_of_isRegular h) fun c hc => hread c.1 c.2 hc
    rw [restored_object sorted t (nodup_of_isRegular h)]
    simp [body, Json.lookup_cons, hkind, single?, hchildren, withTraits, hdefault]
  | array t is =>
    have hitems := itemsOfWire?_arranged is fun c hc => by
      obtain ⟨s, hs⟩ := exists_mem_kids_of_mem (t := t) hc
      exact hread s c hs
    rw [restored_array]
    simp [body, Json.lookup_cons, hkind, single?, hitems, withTraits, hdefault]
  | leaf t v =>
    have hvalue := scalarOfWire?_toWire sorted v
    rw [restored_leaf]
    cases v <;> rw [Scalar.kind] at hvalue <;>
      simp [body, Json.lookup_cons, hkind, single?, hvalue, withTraits, hdefault, Scalar.kind]

/-- **A node is read back from its document**, in the order of its members. -/
theorem ofWire?_arranged (sorted : Bool) (n : Node) : n.isRegular = true →
    ofWire? (n.toWire.arranged sorted) = some (n.restored sorted) := by
  induction n using induct with
  | step n ih =>
    intro h
    have hcontent := content?_arranged sorted h fun s c hc => ih s c hc (isRegular_of_mem_kids h hc)
    rw [toWire_eq, Json.arranged_obj, ofWire?]
    simp only [hcontent]
    simp only [draft_arranged, single?_member, Option.bind_eq_bind, Option.bind_some,
      Option.pure_def, withTraits_withTraits]
    rw [← traits_restored sorted n, withTraits_traits]

/-- Sound members with other names are passed over. -/
theorem scanTraits_append {found : Option Traits} {rest : List (String × Json)} :
    ∀ {ms : List (String × Json)}, "meta" ∉ ms.map (·.1) → Json.membersSound ms = true →
      scanTraits found (ms ++ rest) = scanTraits found rest
  | [], _, _ => rfl
  | (k, j) :: ms, hname, hsound => by
    rw [List.map_cons, List.mem_cons, not_or] at hname
    rw [Json.membersSound, Bool.and_eq_true] at hsound
    rw [List.cons_append, scanTraits, if_neg (Ne.symm hname.1), if_pos hsound.1]
    exact scanTraits_append hname.2 hsound.2

theorem membersSound_append : ∀ ms rest : List (String × Json),
    Json.membersSound (ms ++ rest) = (Json.membersSound ms && Json.membersSound rest)
  | [], _ => rfl
  | (k, j) :: ms, rest => by
    rw [List.cons_append, Json.membersSound, Json.membersSound, membersSound_append ms,
      Bool.and_assoc]

/-- The traits that are met while what is written of a node is scanned. -/
theorem scanTraits_toWire (h : n.toWire.isSound = true) :
    (scanTraits none (n.body ++ n.traits.member)).map (·.getD {}) = .ok n.traits := by
  have hsound : Json.membersSound n.body = true := by
    rw [toWire_eq, Json.isSound, membersSound_append, Bool.and_eq_true] at h
    exact h.1
  rw [scanTraits_append (by cases n <;> simp [body]) hsound]
  unfold Traits.member
  split
  · rename_i hempty
    rw [Traits.eq_of_isEmpty hempty]
    rfl
  · have hread : Traits.read .text (n.traits.toWire Json.double) = .ok n.traits :=
      Traits.read_arranged .text false n.traits
    simp [scanTraits, hread, Except.map]

/-- **A node is read back from its document while the text of it is scanned**, if the text can
be scanned to its end. -/
theorem read_toWire (h : n.isRegular = true) (hsound : n.toWire.isSound = true) :
    read .text n.toWire = .ok (n.restored false) := by
  have hcontent := content?_arranged false h fun s c hc =>
    ofWire?_arranged false c (isRegular_of_mem_kids h hc)
  have hmembers : arrangeMembers false ((n.body ++ n.traits.member).map fun m =>
      (m.1, m.2.arranged false)) = n.body ++ n.traits.member := List.map_id _
  rw [hmembers] at hcontent
  have htraits := scanTraits_toWire hsound
  rw [toWire_eq, read]
  cases hscan : scanTraits none (n.body ++ n.traits.member) with
  | error e => rw [hscan] at htraits; cases htraits
  | ok t =>
    rw [hscan] at htraits
    have ht : t.getD {} = (n.restored false).traits :=
      (Except.ok.inj htraits).trans (traits_restored false n).symm
    dsimp only
    rw [hcontent]
    dsimp only
    rw [withTraits_withTraits, ht, withTraits_traits]

end Node
end ReactiveTree
