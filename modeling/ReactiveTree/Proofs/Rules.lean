import ReactiveTree.Proofs.Listing

/-!
# The rules of a tree

A check goes through a tree in the order of the listing and stops at the first breach, so what it
accepts are the trees whose root is an object, whose containers have no expressions and whose keys
can all be addressed (`Tree.check_eq_ok_iff`). A node keeps these rules if it does itself and all
its children do, so they are kept when a child is replaced by one that keeps them, when a member
is put in under a key that can be addressed, and when a child is taken out.

Key definitions: `Node.Lawful`, `Tree.Lawful`.
Key theorems: `Node.checkAt_eq_ok_iff`, `Tree.check_eq_ok_iff`, `Node.Lawful.modify?`,
`Node.Lawful.object_upsert`, `Node.Lawful.extractChild?`.
-/
namespace ReactiveTree
namespace Node

open Json (lookup upsert)

variable {n m c d : Node} {s : String} {segments : List String} {path : String}

/-- The rules at one node: a container has no expression, and the keys can be addressed. -/
structure LawfulHere (n : Node) : Prop where
  expression : n.isPrimitive = false → n.traits.expression = none
  keys : ∀ s c, (s, c) ∈ n.kids → Path.isValidKey s = true

/-- The rules at a node and at everything below it. -/
def Lawful (n : Node) : Prop := ∀ segments m, n.Leads segments m → m.LawfulHere

theorem lawful_iff : n.Lawful ↔ n.LawfulHere ∧ ∀ s c, (s, c) ∈ n.kids → c.Lawful :=
  forall_leads_iff

theorem lawful_object {t : Traits} {cs : List (String × Node)} : (object t cs).Lawful ↔
    t.expression = none ∧ ∀ s c, (s, c) ∈ cs → Path.isValidKey s = true ∧ c.Lawful := by
  rw [lawful_iff]
  constructor
  · rintro ⟨⟨he, hk⟩, hc⟩
    exact ⟨he rfl, fun s c h => ⟨hk s c h, hc s c h⟩⟩
  · rintro ⟨he, hc⟩
    exact ⟨⟨fun _ => he, fun s c h => (hc s c h).1⟩, fun s c h => (hc s c h).2⟩

theorem lawful_array {t : Traits} {is : List Node} : (array t is).Lawful ↔
    t.expression = none ∧ ∀ c ∈ is, c.Lawful := by
  rw [lawful_iff]
  constructor
  · rintro ⟨⟨he, -⟩, hc⟩
    refine ⟨he rfl, fun c h => ?_⟩
    obtain ⟨j, hj⟩ := List.mem_iff_getElem?.mp h
    exact hc _ c (mem_numbered.mpr ⟨j, hj, rfl⟩)
  · rintro ⟨he, hc⟩
    refine ⟨⟨fun _ => he, fun s c h => ?_⟩, fun s c h => ?_⟩
    · obtain ⟨j, -, rfl⟩ := mem_numbered.mp h
      exact Path.isValidKey_toString _
    · obtain ⟨j, hj, -⟩ := mem_numbered.mp h
      exact hc c (List.mem_of_getElem? hj)

theorem lawful_leaf (t : Traits) (v : Scalar) : (leaf t v).Lawful := by
  have hkids : ∀ s c, (s, c) ∉ (leaf t v).kids := fun _ _ => List.not_mem_nil
  exact lawful_iff.mpr ⟨⟨nofun, fun s c h => absurd h (hkids s c)⟩,
    fun s c h => absurd h (hkids s c)⟩

theorem lawful_emptyObject : emptyObject.Lawful :=
  lawful_object.mpr ⟨rfl, fun _ _ h => (List.not_mem_nil h).elim⟩

/-! ### What a check accepts -/

mutual
/-- **A check accepts the nodes that keep the rules.** -/
theorem checkAt_eq_ok_iff (path : String) : ∀ n : Node, n.checkAt path = .ok () ↔ n.Lawful
  | .object t cs => by
    rw [checkAt, lawful_object, ← checkChildren_eq_ok_iff path cs]
    cases t.expression <;> simp
  | .array t is => by
    rw [checkAt, lawful_array, ← checkItems_eq_ok_iff path 0 is]
    cases t.expression <;> simp
  | .leaf t v => by simp [checkAt, lawful_leaf]

theorem checkChildren_eq_ok_iff (path : String) : ∀ cs : List (String × Node),
    checkChildren path cs = .ok () ↔ ∀ s c, (s, c) ∈ cs → Path.isValidKey s = true ∧ c.Lawful
  | [] => by simp [checkChildren]
  | (k, n) :: cs => by
    have hn := checkAt_eq_ok_iff (Path.join path k) n
    have hcs := checkChildren_eq_ok_iff path cs
    simp only [List.mem_cons, Prod.mk.injEq, or_imp, forall_and, and_imp, forall_eq_apply_imp_iff,
      forall_eq]
    simp only [forall_and] at hcs
    rw [checkChildren]
    cases hk : Path.isValidKey k with
    | false => simp
    | true =>
      cases hc : n.checkAt (Path.join path k) with
      | ok => simp_all
      | error e => simp_all

theorem checkItems_eq_ok_iff (path : String) : ∀ (i : Nat) (is : List Node),
    checkItems path i is = .ok () ↔ ∀ c ∈ is, c.Lawful
  | _, [] => by simp [checkItems]
  | i, n :: is => by
    have hn := checkAt_eq_ok_iff (Path.join path (toString i)) n
    have his := checkItems_eq_ok_iff path (i + 1) is
    rw [checkItems, List.forall_mem_cons, ← hn, ← his]
    cases n.checkAt (Path.join path (toString i)) <;> simp
end

/-! ### Changes that keep the rules -/

namespace Lawful

theorem child? (h : n.Lawful) (hc : n.child? s = some c) : c.Lawful := by
  cases n with
  | object t cs => exact ((lawful_object.mp h).2 s c (Json.mem_of_lookup hc)).2
  | array t is =>
    obtain ⟨i, -, hc⟩ := Option.bind_eq_some_iff.mp hc
    exact (lawful_array.mp h).2 c (List.mem_of_getElem? hc)
  | leaf t v => cases hc

theorem get? : ∀ {segments : List String} {n : Node}, n.Lawful → n.get? segments = some m →
    m.Lawful
  | [], _, h, hm => Option.some.inj hm ▸ h
  | _ :: _, _, h, hm => by
    obtain ⟨c, hc, hm⟩ := Option.bind_eq_some_iff.mp hm
    exact get? (h.child? hc) hm

theorem object_upsert {t : Traits} {cs : List (String × Node)} (h : (object t cs).Lawful)
    (hs : Path.isValidKey s = true) (hd : d.Lawful) : (object t (upsert s d cs)).Lawful := by
  obtain ⟨he, hc⟩ := lawful_object.mp h
  refine lawful_object.mpr ⟨he, fun k c hk => ?_⟩
  rcases Json.mem_of_mem_upsert hk with ⟨rfl, rfl⟩ | hk
  · exact ⟨hs, hd⟩
  · exact hc k c hk

theorem array_set {t : Traits} {is : List Node} (h : (array t is).Lawful) (hd : d.Lawful)
    (i : Nat) : (array t (is.set i d)).Lawful := by
  obtain ⟨he, hc⟩ := lawful_array.mp h
  refine lawful_array.mpr ⟨he, fun c hm => ?_⟩
  rcases List.mem_or_eq_of_mem_set hm with hm | rfl
  · exact hc c hm
  · exact hd

theorem array_append {t : Traits} {is : List Node} (h : (array t is).Lawful) (hd : d.Lawful) :
    (array t (is ++ [d])).Lawful := by
  obtain ⟨he, hc⟩ := lawful_array.mp h
  refine lawful_array.mpr ⟨he, fun c hm => ?_⟩
  rcases List.mem_append.mp hm with hm | hm
  · exact hc c hm
  · exact List.mem_singleton.mp hm ▸ hd

/-- The rules are kept when a child is replaced. -/
theorem replaceChild (h : n.Lawful) (hc : n.child? s = some c) (hd : d.Lawful) :
    (n.replaceChild s d).Lawful := by
  cases n with
  | object t cs =>
    exact h.object_upsert ((lawful_object.mp h).2 s c (Json.mem_of_lookup hc)).1 hd
  | array t is =>
    obtain ⟨i, hi, -⟩ := Option.bind_eq_some_iff.mp hc
    simp only [Node.replaceChild, hi]
    exact h.array_set hd i
  | leaf t v => cases hc

/-- **The rules are kept when the node at an address changes and keeps them.** -/
theorem modify? {f : Node → Node} : ∀ {segments : List String} {n n' : Node}, n.Lawful →
    (∀ m, n.get? segments = some m → (f m).Lawful) → n.modify? f segments = some n' → n'.Lawful
  | [], n, n', _, hf, hm => Option.some.inj hm ▸ hf n rfl
  | s :: segments, n, n', h, hf, hm => by
    obtain ⟨c, hc, hm⟩ := Option.bind_eq_some_iff.mp hm
    obtain ⟨c', hc', hm⟩ := Option.bind_eq_some_iff.mp hm
    obtain rfl := Option.some.inj hm
    refine h.replaceChild hc (modify? (h.child? hc) (fun m hg => hf m ?_) hc')
    rw [Node.get?, hc, Option.bind_some, hg]

/-- The rules are kept when a child is taken out. -/
theorem extractChild? {gone left : Node} (h : n.Lawful)
    (hx : n.extractChild? s = some (gone, left)) : left.Lawful := by
  cases n with
  | object t cs =>
    obtain ⟨c, -, hx⟩ := Option.map_eq_some_iff.mp hx
    obtain ⟨-, rfl⟩ := Prod.mk.inj hx
    obtain ⟨he, hc⟩ := lawful_object.mp h
    exact lawful_object.mpr ⟨he, fun k c hk => hc k c (Json.mem_of_mem_eraseKey hk)⟩
  | array t is =>
    obtain ⟨i, -, hx⟩ := Option.bind_eq_some_iff.mp hx
    obtain ⟨c, -, hx⟩ := Option.bind_eq_some_iff.mp hx
    obtain ⟨-, rfl⟩ := Prod.mk.inj (Option.some.inj hx)
    obtain ⟨he, hc⟩ := lawful_array.mp h
    exact lawful_array.mpr ⟨he, fun c hm => hc c (List.mem_of_mem_eraseIdx hm)⟩
  | leaf t v => cases hx

end Lawful

end Node

/-! ### Trees -/

namespace Tree

variable {t t' : Tree} {path : String}

/-- The rules of a tree. -/
structure Lawful (t : Tree) : Prop where
  root : t.root.kind = .object
  nodes : t.root.Lawful

/-- **A check accepts the trees that keep the rules.** -/
theorem check_eq_ok_iff : t.check = .ok () ↔ t.Lawful := by
  rw [check]
  split
  · rename_i hk
    rw [Node.checkAt_eq_ok_iff]
    exact ⟨fun h => ⟨hk, h⟩, fun h => h.nodes⟩
  · rename_i hk
    constructor
    · intro h
      cases h
    · intro h
      exact absurd h.root hk

end Tree
end ReactiveTree
