import ReactiveTree.Proofs.Removal
import Mathlib.Data.List.InsertIdx
import Mathlib.Data.List.Perm.Basic

/-!
# What a move changes

To move an item is to take it out and to put it in again at its new index, so the items in between
shift by one place, up or down as the item passes them (`Node.shifted`). The array has the same items
in the same number, the moved one stands at the new index, and without it the array is what it was
without it before. A move back undoes a move, and in the tree nothing but the array changes.

Key definitions: `Node.shifted`, `Tree.ItemMoved`.
Key theorems: `Node.perm_moveItem`, `Node.eraseIdx_moveItem`, `Node.getElem?_moveItem`,
`Node.moveItem_moveItem`, `Tree.reorder_eq_ok`, `Tree.reorder_back`, `Call.reorder_exact`.
-/
namespace ReactiveTree

namespace Node

variable {α : Type} {i j k : Nat} {items : List α}

/-! ### Moving an item of a list -/

theorem moveItem_of_lt (hi : i < items.length) (j : Nat) :
    moveItem i j items = (items.eraseIdx i).insertIdx j items[i] := by
  rw [moveItem, List.getElem?_eq_getElem hi]

/-- There is a place at `j` once an item has been taken out. -/
theorem le_length_eraseIdx (hi : i < items.length) (hj : j < items.length) :
    j ≤ (items.eraseIdx i).length := by
  rw [List.length_eraseIdx_of_lt hi]
  omega

/-- **No item is lost or doubled.** -/
theorem perm_moveItem (hi : i < items.length) (hj : j < items.length) :
    (moveItem i j items).Perm items := by
  rw [moveItem_of_lt hi]
  exact (List.perm_insertIdx _ _ (le_length_eraseIdx hi hj)).trans
    (List.getElem_cons_eraseIdx_perm hi)

theorem length_moveItem (hi : i < items.length) (hj : j < items.length) :
    (moveItem i j items).length = items.length := (perm_moveItem hi hj).length_eq

/-- The item stands at its new index. -/
theorem getElem?_moveItem_self (hi : i < items.length) (hj : j < items.length) :
    (moveItem i j items)[j]? = items[i]? := by
  rw [moveItem_of_lt hi, List.getElem?_insertIdx_self, if_pos (le_length_eraseIdx hi hj),
    List.getElem?_eq_getElem hi]

/-- **The other items keep their order.** -/
theorem eraseIdx_moveItem (hi : i < items.length) (j : Nat) :
    (moveItem i j items).eraseIdx j = items.eraseIdx i := by
  rw [moveItem_of_lt hi, List.eraseIdx_insertIdx_self]

theorem moveItem_self (hi : i < items.length) : moveItem i i items = items := by
  rw [moveItem_of_lt hi, List.insertIdx_eraseIdx_getElem hi]

/-- **A move back undoes a move.** -/
theorem moveItem_moveItem (hi : i < items.length) (hj : j < items.length) :
    moveItem j i (moveItem i j items) = items := by
  have hl : j < (moveItem i j items).length := by rw [length_moveItem hi hj]; exact hj
  have hitem : (moveItem i j items)[j] = items[i] := by
    rw [← Option.some_inj, ← List.getElem?_eq_getElem hl, getElem?_moveItem_self hi hj,
      List.getElem?_eq_getElem hi]
  rw [moveItem_of_lt hl, hitem, eraseIdx_moveItem hi j, List.insertIdx_eraseIdx_getElem hi]

/-- Where the item at `k` stands once the item at `i` has been moved to `j`. -/
def shifted (i j k : Nat) : Nat :=
  if k = i then j
  else if i < k ∧ k ≤ j then k - 1
  else if j ≤ k ∧ k < i then k + 1
  else k

/-- **Every item is found at its shifted index.** -/
theorem getElem?_moveItem (hi : i < items.length) (hj : j < items.length) (k : Nat) :
    (moveItem i j items)[shifted i j k]? = items[k]? := by
  have hle := le_length_eraseIdx hi hj
  unfold shifted
  split_ifs with hk hup hdown
  · rw [hk, getElem?_moveItem_self hi hj]
  · -- The items behind the old index and up to the new one move one place to the front.
    rw [moveItem_of_lt hi, List.getElem?_insertIdx_of_lt (by omega),
      List.getElem?_eraseIdx_of_ge (by omega), Nat.sub_add_cancel (by omega)]
  · -- Those from the new index up to the old one move one place to the back.
    rw [moveItem_of_lt hi, List.getElem?_insertIdx_of_gt (by omega), Nat.add_sub_cancel,
      List.getElem?_eraseIdx_of_lt hdown.2]
  · rw [moveItem_of_lt hi]
    rcases Nat.lt_or_ge k i with hlt | hge
    · rw [List.getElem?_insertIdx_of_lt (by omega), List.getElem?_eraseIdx_of_lt hlt]
    · rw [List.getElem?_insertIdx_of_gt (by omega), List.getElem?_eraseIdx_of_ge (by omega),
        Nat.sub_add_cancel (by omega)]

end Node

namespace Tree

variable {t t' : Tree} {path : String} {front : List String} {tr : Traits} {is : List Node}
variable {i j : Nat}

/-! ### Moving an item of an array -/

/-- The item at an index of an array has been moved to another index, and nothing else. -/
structure ItemMoved (t : Tree) (front : List String) (i j : Nat) (t' : Tree) : Prop where
  /-- The array has the same items in the same number; the moved one stands at its new index, and
  the others keep their order. -/
  array : ∀ q, t.At front q → ∃ traits items items' item,
    t.get? q = some (.array traits items) ∧ t'.get? q = some (.array traits items') ∧
    items'.Perm items ∧ items[i]? = some item ∧ items'[j]? = some item ∧
    items'.eraseIdx j = items.eraseIdx i
  /-- A path through an item leads where the path through its old index led before. -/
  through : ∀ q k s s' rest, t.At front q → Path.index? s = some k →
    Path.index? s' = some (Node.shifted i j k) → Path.ValidKeys rest →
      t'.get? (Path.ofSegments q (s' :: rest)) = t.get? (Path.ofSegments q (s :: rest))
  /-- The nodes above the array keep their outlines. -/
  above : ∀ q, t.Above front q →
    ∃ a a', t.get? q = some a ∧ t'.get? q = some a' ∧ a'.outline = a.outline
  /-- Every path outside the array leads where it led before. -/
  other : ∀ q, ¬ t.Within front q → ¬ t.Above front q → t'.get? q = t.get? q

theorem itemMoved_of_replaced (hi : i < is.length) (hj : j < is.length)
    (hr : t.Replaced front (.array tr is) (.array tr (Node.moveItem i j is)) t') :
    t.ItemMoved front i j t' where
  array q hq := by
    obtain ⟨hm, hm'⟩ := hr.self q hq
    have hitem := List.getElem?_eq_getElem hi
    exact ⟨tr, is, Node.moveItem i j is, is[i], hm, hm', Node.perm_moveItem hi hj, hitem,
      (Node.getElem?_moveItem_self hi hj).trans hitem, Node.eraseIdx_moveItem hi j⟩
  through q k s s' rest hq hs hs' hrest := by
    obtain ⟨hm, hm'⟩ := hr.self q hq
    rw [getElem?_of_get? hm hs hrest, getElem?_of_get? hm' hs' hrest,
      Node.getElem?_moveItem hi hj]
  above := hr.above
  other := hr.other

theorem itemsAt_of_get? (hm : t.get? path = some (.array tr is)) : t.itemsAt path = .ok is := by
  rw [itemsAt, hm]

/-- Other items are found once they have been put in. -/
theorem get?_withItemsAt (hm : t.get? path = some (.array tr is)) (items : List Node) :
    (t.withItemsAt path items).get? path = some (.array tr items) := get?_modify_self hm

/-- To put back the items of an array gives back the tree. -/
theorem withItemsAt_withItemsAt (hm : t.get? path = some (.array tr is)) (items : List Node) :
    (t.withItemsAt path items).withItemsAt path is = t := by
  unfold withItemsAt
  rw [modify_modify hm]
  exact modify_of_eq hm rfl

/-- What a move comes to: one that stays where it is puts in the items as they are. -/
theorem reorder_eq_ok (hm : t.get? path = some (.array tr is)) (hi : i < is.length)
    (hj : j < is.length) :
    t.reorder path i j = .ok (t.withItemsAt path (Node.moveItem i j is)) := by
  rw [reorder_of_items (itemsAt_of_get? hm), if_neg (by omega), if_neg (by omega)]
  split
  · rename_i hij
    subst hij
    rw [Node.moveItem_self hi, withItemsAt, modify_of_eq hm rfl]
  · rfl

/-- **A move back gives back the tree.** -/
theorem reorder_back (hm : t.get? path = some (.array tr is)) (hi : i < is.length)
    (hj : j < is.length) :
    (t.withItemsAt path (Node.moveItem i j is)).reorder path j i = .ok t := by
  have hl := Node.length_moveItem hi hj
  rw [reorder_eq_ok (get?_withItemsAt hm _) (hl.symm ▸ hj) (hl.symm ▸ hi),
    Node.moveItem_moveItem hi hj, withItemsAt_withItemsAt hm]

/-- **A move changes one array.** -/
theorem itemMoved (h : t.Valid) (hs : Path.split path = .ok front)
    (hm : t.get? path = some (.array tr is)) (hi : i < is.length) (hj : j < is.length) :
    t.ItemMoved front i j (t.withItemsAt path (Node.moveItem i j is)) := by
  have hx : t.root.get? front = some (.array tr is) := by rw [← get?_eq hs, hm]
  obtain ⟨r, hr, -⟩ := Node.get?_modify?_self (fun _ => .array tr (Node.moveItem i j is)) hx
  have hwith : t.withItemsAt path (Node.moveItem i j is) =
      t.modify (fun _ => .array tr (Node.moveItem i j is)) path := modify_congr hm rfl
  rw [hwith, modify_eq hs hr]
  exact itemMoved_of_replaced hi hj (replaced_of_modify? h hx hr)

/-- An index behind the items is refused, the first of the two before the second. -/
theorem reorder_of_le (hm : t.get? path = some (.array tr is))
    (h : is.length ≤ i ∨ is.length ≤ j) : t.reorder path i j =
      .error (.indexOutOfBounds path (if is.length ≤ i then i else j) is.length) := by
  rw [reorder_of_items (itemsAt_of_get? hm)]
  split_ifs with hi hj
  · rfl
  · rfl
  · exact absurd h (by omega)

/-- Without items there is nothing to move. -/
theorem reorder_of_error {e : PathError} (h : t.itemsAt path = .error e) (i j : Nat) :
    t.reorder path i j = .error e := by
  rw [reorder, h]
  rfl

theorem itemsAt_of_none (h : t.get? path = none) : t.itemsAt path = .error (.notFound path) := by
  rw [itemsAt, h]

theorem itemsAt_of_ne {n : Node} (h : t.get? path = some n) (hn : n.kind ≠ .array) :
    t.itemsAt path = .error (.notAnArray path) := by
  rw [itemsAt, h]
  cases n with
  | array tr is => exact absurd rfl hn
  | object tr cs => rfl
  | leaf tr v => rfl

end Tree

namespace Call

variable {t t' : Tree} {path : String}

/-- **A move moves one item, and can be undone.** For two indices of the items of an array, the item
at the first is moved to the second and nothing else changes: the array has the same items in the
same number, the others keep their order, the nodes above the array keep their outlines, and every
path outside the array leads where it led before. The move back gives back the tree. An index behind
the items, a node that is no array and a path that leads nowhere are refused, and leave the tree. -/
theorem reorder_exact (h : t.Valid) (path : String) (i j : Nat) :
    (∀ traits items, t.get? path = some (.array traits items) →
      i < items.length → j < items.length → ∃ front t', Path.split path = .ok front ∧
        reorder path i j t = .ok () t' ∧ t.ItemMoved front i j t' ∧
        reorder path j i t' = .ok () t) ∧
    (∀ traits items, t.get? path = some (.array traits items) →
      items.length ≤ i ∨ items.length ≤ j → reorder path i j t = .error
        (.indexOutOfBounds path (if items.length ≤ i then i else j) items.length) t) ∧
    (∀ n, t.get? path = some n → n.kind ≠ .array →
      reorder path i j t = .error (.notAnArray path) t) ∧
    (t.get? path = none → reorder path i j t = .error (.notFound path) t) := by
  refine ⟨fun traits items hm hi hj => ?_, fun traits items hm hle => ?_, fun n hm hn => ?_,
    fun hm => ?_⟩
  · obtain ⟨front, hs, -⟩ := Tree.exists_split_of_get? hm
    refine ⟨front, t.withItemsAt path (Node.moveItem i j items), hs, ?_,
      Tree.itemMoved h hs hm hi hj, ?_⟩
    · rw [reorder_eq, Tree.reorder_eq_ok hm hi hj]
      rfl
    · rw [reorder_eq, Tree.reorder_back hm hi hj]
      rfl
  · rw [reorder_eq, Tree.reorder_of_le hm hle]
    rfl
  · rw [reorder_eq, Tree.reorder_of_error (Tree.itemsAt_of_ne hm hn)]
    rfl
  · rw [reorder_eq, Tree.reorder_of_error (Tree.itemsAt_of_none hm)]
    rfl

/-- The stops of a tour, and its name. -/
def tour : Tree :=
  ⟨.object default [("stops", .array default [.primitive (.string "Rome"),
    .object default [("city", .primitive (.string "Bern"))], .primitive (.string "Oslo")]),
    ("name", .primitive (.string "North"))]⟩

/-- The first stop becomes the last, the others move up, and the tour is turned back again. -/
theorem reorder_exact_tour : tour.Valid ∧
    (∃ t', reorder "stops" 0 2 tour = .ok () t' ∧ tour.ItemMoved ["stops"] 0 2 t' ∧
      t'.get? "stops.2" = some (.primitive (.string "Rome")) ∧
      t'.get? "stops.0.city" = tour.get? "stops.01.city" ∧ reorder "stops" 2 0 t' = .ok () tour) ∧
    reorder "stops" 1 3 tour = .error (.indexOutOfBounds "stops" 3 3) tour ∧
    reorder "name" 0 0 tour = .error (.notAnArray "name") tour ∧
    reorder "stops.7" 0 0 tour = .error (.notFound "stops.7") tour := by
  have hvalid : tour.Valid := ⟨rfl, rfl⟩
  have hstops : Path.split "stops" = .ok ["stops"] := rfl
  obtain ⟨hmove, -⟩ := reorder_exact hvalid "stops" 0 2
  obtain ⟨front, t', hs, hok, hmoved, hback⟩ := hmove _ _ rfl (by decide) (by decide)
  obtain rfl := Except.ok.inj (hs.symm.trans hstops)
  have hat : tour.At ["stops"] "stops" := ⟨_, hstops, rfl⟩
  refine ⟨hvalid, ⟨t', hok, hmoved, ?_, ?_, hback⟩, ?_, ?_, ?_⟩
  · exact hmoved.through "stops" 0 "0" "2" [] hat rfl rfl Path.validKeys_nil
  · exact hmoved.through "stops" 1 "01" "0" ["city"] hat rfl rfl
      (by simp [Path.ValidKeys, Path.isValidKey])
  · exact (reorder_exact hvalid "stops" 1 3).2.1 _ _ rfl (.inr (by decide))
  · exact (reorder_exact hvalid "name" 0 0).2.2.1 _ rfl (by decide)
  · exact (reorder_exact hvalid "stops.7" 0 0).2.2.2 rfl

end Call
end ReactiveTree
