import ReactiveTree.Proofs.Json.Sorting
import ReactiveTree.Proofs.Layout
import ReactiveTree.Proofs.Rules

/-!
# Trees in the order of their keys

A node has the same places when the children of every object are put in the order of their keys:
what an address leads to is the node that it led to before, in the same order (`leads_inKeyOrder`,
`leads_of_inKeyOrder`). So kinds, traits and values stay, and so do the rules.

Key definitions: `Node.inKeyOrder`.
Key theorems: `Node.kids_inKeyOrder`, `Node.leads_inKeyOrder`, `Node.leads_of_inKeyOrder`,
`Node.Lawful.inKeyOrder`.
-/
namespace ReactiveTree.Node

open Json (arrangeMembers sortMembers)

/-- Which of two children stands first. -/
def keyLe (a b : String × Node) : Bool := decide (a.1 ≤ b.1)

mutual
/-- The node with the children of every object in the order of their keys. -/
def inKeyOrder : Node → Node
  | .object t cs => .object t ((childrenInKeyOrder cs).mergeSort keyLe)
  | .array t is => .array t (itemsInKeyOrder is)
  | .leaf t v => .leaf t v

def childrenInKeyOrder : List (String × Node) → List (String × Node)
  | [] => []
  | (k, n) :: cs => (k, inKeyOrder n) :: childrenInKeyOrder cs

def itemsInKeyOrder : List Node → List Node
  | [] => []
  | n :: is => inKeyOrder n :: itemsInKeyOrder is
end

variable {n m : Node} {cs : List (String × Node)}

/-- Two children that stand the wrong way round. -/
theorem mergeSort_pair {a b : String × Node} (h : b.1 < a.1) :
    [a, b].mergeSort keyLe = [b, a] := by
  simp [List.mergeSort, List.MergeSort.Internal.splitInTwo, keyLe, not_le.mpr h]

theorem childrenInKeyOrder_eq (cs : List (String × Node)) :
    childrenInKeyOrder cs = cs.map fun c => (c.1, c.2.inKeyOrder) := by
  induction cs with
  | nil => rfl
  | cons c cs ih => rw [childrenInKeyOrder, ih, List.map_cons]

theorem itemsInKeyOrder_eq (is : List Node) : itemsInKeyOrder is = is.map inKeyOrder := by
  induction is with
  | nil => rfl
  | cons n is ih => rw [itemsInKeyOrder, ih, List.map_cons]

@[simp] theorem traits_inKeyOrder (n : Node) : n.inKeyOrder.traits = n.traits := by
  cases n <;> rfl

@[simp] theorem value?_inKeyOrder (n : Node) : n.inKeyOrder.value? = n.value? := by
  cases n <;> rfl

@[simp] theorem kind_inKeyOrder (n : Node) : n.inKeyOrder.kind = n.kind := by
  cases n <;> rfl

/-- The children are those that there were, each in key order itself. -/
theorem kids_inKeyOrder (n : Node) :
    n.inKeyOrder.kids.Perm (n.kids.map fun c => (c.1, c.2.inKeyOrder)) := by
  cases n with
  | object t cs =>
    rw [inKeyOrder, kids, kids, childrenInKeyOrder_eq]
    exact List.mergeSort_perm _ _
  | array t is =>
    rw [inKeyOrder, kids, kids, itemsInKeyOrder_eq, numbered_map]
  | leaf t v => exact List.Perm.refl _

theorem leads_inKeyOrder : ∀ {segments : List String} {n m : Node}, n.Leads segments m →
    n.inKeyOrder.Leads segments m.inKeyOrder
  | [], _, _, h => congrArg inKeyOrder h
  | s :: _, n, _, ⟨c, hc, h⟩ =>
    ⟨c.inKeyOrder, (kids_inKeyOrder n).mem_iff.mpr (List.mem_map.mpr ⟨(s, c), hc, rfl⟩),
      leads_inKeyOrder h⟩

theorem leads_of_inKeyOrder : ∀ {segments : List String} {n m : Node},
    n.inKeyOrder.Leads segments m → ∃ m', n.Leads segments m' ∧ m'.inKeyOrder = m
  | [], n, _, h => ⟨n, rfl, h⟩
  | s :: _, n, _, ⟨c, hc, h⟩ => by
    obtain ⟨⟨k, d⟩, hd, he⟩ := List.mem_map.mp ((kids_inKeyOrder n).mem_iff.mp hc)
    obtain ⟨rfl, rfl⟩ := Prod.mk.inj he
    obtain ⟨m', hm', rfl⟩ := leads_of_inKeyOrder h
    exact ⟨m', ⟨d, hd, hm'⟩, rfl⟩

theorem isPrimitive_inKeyOrder (n : Node) : n.inKeyOrder.isPrimitive = n.isPrimitive := by
  cases n <;> rfl

/-- The rules do not depend on the order of the children. -/
theorem Lawful.inKeyOrder (h : n.Lawful) : n.inKeyOrder.Lawful := fun segments m hl => by
  obtain ⟨m', hm', rfl⟩ := leads_of_inKeyOrder hl
  obtain ⟨hexpression, hkeys⟩ := h segments m' hm'
  refine ⟨fun hp => ?_, fun s c hc => ?_⟩
  · rw [traits_inKeyOrder]
    exact hexpression (isPrimitive_inKeyOrder m' ▸ hp)
  · obtain ⟨⟨k, d⟩, hd, he⟩ := List.mem_map.mp ((kids_inKeyOrder m').mem_iff.mp hc)
    exact (Prod.mk.inj he).1 ▸ hkeys k d hd

mutual
theorem isRegular_inKeyOrder : ∀ n : Node, n.inKeyOrder.isRegular = n.isRegular
  | .object t cs => by
    have hperm := List.mergeSort_perm (childrenInKeyOrder cs) keyLe
    have hkeys : (((childrenInKeyOrder cs).mergeSort keyLe).map (·.1)).Nodup ↔
        (cs.map (·.1)).Nodup := by
      rw [(hperm.map (·.1)).nodup_iff, childrenInKeyOrder_eq, List.map_map]
      rfl
    have hchildren : childrenRegular ((childrenInKeyOrder cs).mergeSort keyLe) =
        childrenRegular (childrenInKeyOrder cs) := by
      rw [Bool.eq_iff_iff, childrenRegular_iff, childrenRegular_iff]
      simp only [hperm.mem_iff]
    rw [inKeyOrder, isRegular, isRegular, hchildren, childrenRegular_inKeyOrder cs,
      decide_eq_decide.mpr hkeys]
  | .array t is => by
    rw [inKeyOrder, isRegular, isRegular, itemsRegular_inKeyOrder is, itemsInKeyOrder_eq,
      List.length_map]
  | .leaf t v => rfl

theorem childrenRegular_inKeyOrder : ∀ cs : List (String × Node),
    childrenRegular (childrenInKeyOrder cs) = childrenRegular cs
  | [] => rfl
  | (k, n) :: cs => by
    rw [childrenInKeyOrder, childrenRegular, childrenRegular, isRegular_inKeyOrder n,
      childrenRegular_inKeyOrder cs]

theorem itemsRegular_inKeyOrder : ∀ is : List Node,
    itemsRegular (itemsInKeyOrder is) = itemsRegular is
  | [] => rfl
  | n :: is => by
    rw [itemsInKeyOrder, itemsRegular, itemsRegular, isRegular_inKeyOrder n,
      itemsRegular_inKeyOrder is]
end

theorem nodup_of_isRegular {t : Traits} (h : (object t cs).isRegular = true) :
    (cs.map (·.1)).Nodup := by
  rw [isRegular, Bool.and_eq_true, decide_eq_true_eq] at h
  exact h.1

theorem isRegular_of_mem_kids {s : String} {c : Node} (h : n.isRegular = true)
    (hc : (s, c) ∈ n.kids) : c.isRegular = true := by
  cases n with
  | object t cs =>
    rw [isRegular, Bool.and_eq_true] at h
    exact (childrenRegular_iff cs).mp h.2 s c hc
  | array t is =>
    rw [isRegular, Bool.and_eq_true] at h
    obtain ⟨i, hi, -⟩ := mem_numbered.mp hc
    exact (itemsRegular_iff is).mp h.2 c (List.mem_of_getElem? hi)
  | leaf t v => exact (List.not_mem_nil hc).elim

theorem exists_mem_kids_of_mem {t : Traits} {is : List Node} {c : Node} (h : c ∈ is) :
    ∃ s, (s, c) ∈ (array t is).kids := by
  obtain ⟨i, hi⟩ := List.mem_iff_getElem?.mp h
  exact ⟨_, mem_numbered.mpr ⟨i, hi, rfl⟩⟩

theorem exists_mem_kids_of_child? {s : String} {c : Node} (h : n.child? s = some c) :
    ∃ s, (s, c) ∈ n.kids := by
  cases n with
  | object t cs => exact ⟨s, Json.mem_of_lookup h⟩
  | array t is =>
    obtain ⟨i, -, hi⟩ := Option.bind_eq_some_iff.mp h
    exact exists_mem_kids_of_mem (List.mem_of_getElem? hi)
  | leaf t v => cases h

/-! ### As it stands or in key order -/

/-- The node as it stands, or with the children of every object in the order of their keys. -/
def arranged (sorted : Bool) (n : Node) : Node := if sorted then n.inKeyOrder else n

theorem arranged_object (sorted : Bool) {t : Traits} (h : (cs.map (·.1)).Nodup) :
    (object t cs).arranged sorted =
      object t (arrangeMembers sorted (cs.map fun c => (c.1, c.2.arranged sorted))) := by
  cases sorted with
  | true =>
    have hkeys : ((childrenInKeyOrder cs).map (·.1)).Nodup := by
      rw [childrenInKeyOrder_eq, List.map_map]
      exact h
    have hsort := Json.sortMembers_eq_mergeSort hkeys
    change (object t cs).inKeyOrder = object t (sortMembers (cs.map fun c => (c.1, c.2.inKeyOrder)))
    rw [inKeyOrder, ← childrenInKeyOrder_eq, hsort]
    rfl
  | false => exact congrArg (object t) (List.map_id cs).symm

theorem arranged_array (sorted : Bool) (t : Traits) (is : List Node) :
    (array t is).arranged sorted = array t (is.map (arranged sorted)) := by
  cases sorted with
  | true => exact congrArg (array t) (itemsInKeyOrder_eq is)
  | false => exact congrArg (array t) (List.map_id is).symm

/-- Other traits and values do not change the order. -/
theorem arranged_recast_object (f : Traits → Traits) (g : Scalar → Scalar) (sorted : Bool)
    (t : Traits) (h : (cs.map (·.1)).Nodup) : ((object t cs).recast f g).arranged sorted =
      object (f t) ((arrangeMembers sorted cs).map fun c =>
        (c.1, (c.2.recast f g).arranged sorted)) := by
  have hkeys : ((recastChildren f g cs).map (·.1)).Nodup := by
    rw [recastChildren_eq, List.map_map]
    exact h
  rw [recast, arranged_object sorted hkeys, recastChildren_eq, List.map_map]
  exact congrArg (object (f t))
    (Json.arrangeMembers_map sorted (fun n : Node => (n.recast f g).arranged sorted) cs)

theorem arranged_recast_array (f : Traits → Traits) (g : Scalar → Scalar) (sorted : Bool)
    (t : Traits) (is : List Node) : ((array t is).recast f g).arranged sorted =
      array (f t) (is.map fun n => (n.recast f g).arranged sorted) := by
  rw [recast, arranged_array, recastItems_eq, List.map_map]
  rfl

theorem arranged_leaf (sorted : Bool) (t : Traits) (v : Scalar) :
    (leaf t v).arranged sorted = leaf t v := by cases sorted <;> rfl

theorem child?_inKeyOrder (h : n.isRegular = true) (s : String) :
    n.inKeyOrder.child? s = (n.child? s).map inKeyOrder := by
  cases n with
  | object t cs =>
    have hnodup := nodup_of_isRegular h
    have hkeys : ((cs.map fun c => (c.1, c.2.inKeyOrder)).map (·.1)).Nodup := by
      rw [List.map_map]
      exact hnodup
    have horder : (object t cs).inKeyOrder =
        object t (sortMembers (cs.map fun c => (c.1, c.2.inKeyOrder))) :=
      arranged_object true hnodup
    rw [horder, child?, child?, Json.lookup_sortMembers hkeys, Json.lookup_map]
  | array t is =>
    rw [inKeyOrder, itemsInKeyOrder_eq, child?, child?]
    cases Path.index? s <;> simp
  | leaf t v => rfl

/-- Every path text resolves as it did. -/
theorem get?_inKeyOrder : ∀ (segments : List String) {n : Node}, n.isRegular = true →
    n.inKeyOrder.get? segments = (n.get? segments).map inKeyOrder
  | [], _, _ => rfl
  | s :: segments, n, h => by
    rw [get?, get?, child?_inKeyOrder h]
    cases hc : n.child? s with
    | none => rfl
    | some c =>
      obtain ⟨s', hs'⟩ := exists_mem_kids_of_child? hc
      exact get?_inKeyOrder segments (isRegular_of_mem_kids h hs')

end ReactiveTree.Node
