import ReactiveTree.Proofs.Placement

/-!
# What a removal changes

A removal changes one node, the parent, and that node alone: a path that parts from the parent's
leads where it led before, a path to a node above the parent leads to one with the same outline, and
below the parent a path leads where it leads in the changed parent. An object is left with its other
members in their order, an array with its other items, of which those behind the removed one move up.
So a member that was written under a new key is removed without a trace.

Key definitions: `Node.outline`, `Tree.Within`, `Tree.MemberRemoved`, `Tree.ItemRemoved`.
Key theorems: `Node.get?_modify?_within`, `Node.get?_modify?_of_apart`, `Node.outline_modify?`,
`Tree.delete?_eq_some_iff`, `Tree.delete?_set`, `Call.delete_exact`.
-/
namespace ReactiveTree

namespace Node

open Json (lookup upsert eraseKey)

variable {h : Node → Node} {n n' m c c' : Node} {s s' path : String}
variable {xs ys rest : List String}

/-! ### Around a changed node -/

/-- What a node is apart from what is below its children: its kind, its traits, its value and the
segments of its children. -/
def outline (n : Node) : Kind × Traits × Option Scalar × List String :=
  (n.kind, n.traits, n.value?, n.kids.map (·.1))

theorem spell_replaceChild (n : Node) (s : String) (d : Node) (s' : String) :
    (n.replaceChild s d).spell s' = n.spell s' := by
  cases n with
  | object t cs => rfl
  | array t is =>
    simp only [replaceChild]
    cases Path.index? s <;> rfl
  | leaf t v => rfl

/-- A child that is replaced is found under every spelling of its segment. -/
theorem child?_replaceChild_of_spell (hc : n.child? s = some c) (hs : n.spell s' = n.spell s)
    (d : Node) : (n.replaceChild s d).child? s' = some d := by
  have hspell : (n.replaceChild s d).spell s' = (n.replaceChild s d).spell s := by
    rw [spell_replaceChild, spell_replaceChild, hs]
  rw [child?_congr hspell, child?_replaceChild_self hc]

/-- A node has the same outline if one of its children changes. -/
theorem outline_replaceChild (hn : n.Sound) (hc : n.child? s = some c) (d : Node) :
    (n.replaceChild s d).outline = n.outline := by
  have hlookup : lookup (n.spell s) n.kids = some c := by rw [← child?_eq_lookup hn, hc]
  have hkeys : (n.replaceChild s d).kids.map (·.1) = n.kids.map (·.1) := by
    rw [kids_replaceChild hc, Json.keys_upsert hlookup]
  rw [outline, outline, hkeys]
  cases n with
  | object t cs => rfl
  | array t is =>
    simp only [replaceChild]
    cases Path.index? s <;> rfl
  | leaf t v => rfl

/-- An address that goes on from another is spelled like it at first. -/
theorem spellAll_append : ∀ {xs : List String} {n : Node}, n.get? xs = some m →
    n.spellAll (xs ++ ys) = n.spellAll xs ++ m.spellAll ys
  | [], n, hg => by
    obtain rfl := Option.some.inj hg
    rfl
  | s :: xs, n, hg => by
    obtain ⟨c, hc, hg⟩ := Option.bind_eq_some_iff.mp hg
    rw [List.cons_append, spellAll_cons, spellAll_cons, hc, Option.getD_some, spellAll_append hg,
      List.cons_append]

theorem spellAll_eq_nil : n.spellAll xs = [] ↔ xs = [] := by
  cases xs with
  | nil => exact iff_of_true rfl rfl
  | cons s xs => exact iff_of_false (List.cons_ne_nil _ _) (List.cons_ne_nil _ _)

/-- How a node is opened along an address that resolves. -/
theorem exists_child_of_modify? (hx : n.get? (s :: xs) = some m)
    (hm : n.modify? h (s :: xs) = some n') : ∃ c c', n.child? s = some c ∧ c.get? xs = some m ∧
      c.modify? h xs = some c' ∧ n' = n.replaceChild s c' := by
  obtain ⟨c, hc, hx⟩ := Option.bind_eq_some_iff.mp hx
  rw [modify?_cons hc] at hm
  obtain ⟨c', hc', rfl⟩ := Option.map_eq_some_iff.mp hm
  exact ⟨c, c', hc, hx, hc', rfl⟩

/-- **Below a changed node, a path leads where it leads in that node.** -/
theorem get?_modify?_within : ∀ {xs ys : List String} {n n' : Node}, n.get? xs = some m →
    n.modify? h xs = some n' → n.spellAll xs <+: n.spellAll ys →
      ∃ zs, n.spellAll ys = n.spellAll xs ++ m.spellAll zs ∧ n.get? ys = m.get? zs ∧
        n'.get? ys = (h m).get? zs
  | [], ys, n, n', hx, hm, _ => by
    obtain rfl := Option.some.inj hx
    obtain rfl := Option.some.inj hm
    exact ⟨ys, rfl, rfl, rfl⟩
  | s :: xs, [], n, n', _, _, hp => by
    rw [spellAll_cons] at hp
    exact absurd (List.prefix_nil.mp hp) (List.cons_ne_nil _ _)
  | s :: xs, s' :: ys, n, n', hx, hm, hp => by
    obtain ⟨c, c', hc, hx, hc', rfl⟩ := exists_child_of_modify? hx hm
    rw [spellAll_cons, spellAll_cons, hc, Option.getD_some, List.cons_prefix_cons] at hp
    obtain ⟨hs, hp⟩ := hp
    rw [child?_congr hs.symm, hc, Option.getD_some] at hp
    obtain ⟨zs, hspell, hget, hget'⟩ := get?_modify?_within hx hc' hp
    have hchild : n.child? s' = some c := by rw [child?_congr hs.symm, hc]
    refine ⟨zs, ?_, ?_, ?_⟩
    · rw [spellAll_cons, spellAll_cons, hc, hchild, Option.getD_some, hspell, hs,
        List.cons_append]
    · rw [get?, hchild, Option.bind_some, hget]
    · rw [get?, child?_replaceChild_of_spell hc hs.symm, Option.bind_some, hget']

/-- **A path that parts from the way to a changed node leads where it led before.** -/
theorem get?_modify?_of_apart : ∀ {xs ys : List String} {n n' : Node}, n.get? xs = some m →
    n.modify? h xs = some n' → n.Apart xs ys → n'.get? ys = n.get? ys
  | [], _, _, _, _, _, hap => absurd List.nil_prefix hap.1
  | _ :: _, [], _, _, _, _, hap => absurd List.nil_prefix hap.2
  | s :: xs, s' :: ys, n, n', hx, hm, hap => by
    obtain ⟨c, c', hc, hx, hc', rfl⟩ := exists_child_of_modify? hx hm
    by_cases hs : n.spell s' = n.spell s
    · have hbelow := apart_cons hs hap
      rw [hc, Option.getD_some] at hbelow
      rw [get?, get?, child?_replaceChild_of_spell hc hs, child?_congr hs, hc, Option.bind_some,
        Option.bind_some, get?_modify?_of_apart hx hc' hbelow]
    · rw [get?, get?, child?_replaceChild_ne (Ne.symm hs)]

/-- **A node above a changed one keeps its outline.** -/
theorem outline_modify? : ∀ {xs ys : List String} {n n' : Node}, n.Sound → n.get? xs = some m →
    n.modify? h xs = some n' → n.spellAll ys <+: n.spellAll xs → n.spellAll ys ≠ n.spellAll xs →
      ∃ a a', n.get? ys = some a ∧ n'.get? ys = some a' ∧ a'.outline = a.outline
  | [], ys, n, n', _, _, _, hp, hne => absurd (List.prefix_nil.mp hp) hne
  | s :: xs, [], n, n', hn, hx, hm, _, _ => by
    obtain ⟨c, c', hc, hx, hc', rfl⟩ := exists_child_of_modify? hx hm
    exact ⟨n, _, rfl, rfl, outline_replaceChild hn hc c'⟩
  | s :: xs, s' :: ys, n, n', hn, hx, hm, hp, hne => by
    obtain ⟨c, c', hc, hx, hc', rfl⟩ := exists_child_of_modify? hx hm
    have hkid := hn.kid (mem_kids_of_child? hn hc)
    rw [spellAll_cons, spellAll_cons, hc, Option.getD_some] at hp hne
    obtain ⟨hs, hp⟩ := List.cons_prefix_cons.mp hp
    have hchild : n.child? s' = some c := by rw [child?_congr hs, hc]
    rw [hchild, Option.getD_some] at hp hne
    obtain ⟨a, a', ha, ha', ho⟩ := outline_modify? hkid hx hc' hp fun he => hne (by rw [hs, he])
    refine ⟨a, a', ?_, ?_, ho⟩
    · rw [get?, hchild, Option.bind_some, ha]
    · rw [get?, child?_replaceChild_of_spell hc hs, Option.bind_some, ha']

theorem get?_append (ys : List String) : ∀ (xs : List String) (n : Node),
    n.get? (xs ++ ys) = (n.get? xs).bind (get? ys)
  | [], n => rfl
  | x :: xs, n => by
    rw [List.cons_append, get?, get?, Option.bind_assoc]
    exact congrArg (n.child? x).bind (funext fun c => get?_append ys xs c)

theorem child?_eq_extractChild? (n : Node) (s : String) :
    n.child? s = (n.extractChild? s).map (·.1) := by
  cases n with
  | object t cs => simp [child?, extractChild?, Function.comp_def]
  | array t is =>
    rw [child?, extractChild?]
    cases Path.index? s with
    | none => rfl
    | some i => cases hi : is[i]? <;> simp [hi]
  | leaf t v => rfl

theorem put_of_child {new : Node} (hc : n.child? s = some c) (rest : List String) :
    put path new (s :: rest) n = (put path new rest c).map (n.replaceChild s) := by
  cases n with
  | object t cs =>
    have hlookup : lookup s cs = some c := hc
    rw [put_object, hlookup]
    rfl
  | array t is =>
    obtain ⟨i, hi, hc⟩ := Option.bind_eq_some_iff.mp hc
    have hreplace : (array t is).replaceChild s = fun c => array t (is.set i c) := by
      funext d
      simp only [replaceChild, hi]
    rw [put_array_some hi hc, hreplace]
  | leaf t v => cases hc

/-- To write below a node that is there is to change that node. -/
theorem put_append {new : Node} : ∀ {xs : List String} {n : Node}, n.get? xs = some m →
    put path new rest m = .ok m' →
      ∃ n', n.modify? (fun _ => m') xs = some n' ∧ put path new (xs ++ rest) n = .ok n'
  | [], n, hx, hp => by
    obtain rfl := Option.some.inj hx
    exact ⟨m', rfl, hp⟩
  | s :: xs, n, hx, hp => by
    obtain ⟨c, hc, hx⟩ := Option.bind_eq_some_iff.mp hx
    obtain ⟨c', hc', hput⟩ := put_append hx hp
    refine ⟨n.replaceChild s c', ?_, ?_⟩
    · rw [modify?_cons hc, hc', Option.map_some]
    · rw [List.cons_append, put_of_child hc, hput]
      rfl

end Node

namespace Tree

variable {t t' : Tree} {path q key : String} {front xs : List String} {n m node : Node}

/-! ### Where a path leads -/

/-- A path leads to what is at an address. -/
def At (t : Tree) (xs : List String) (q : String) : Prop :=
  ∃ ys, Path.split q = .ok ys ∧ t.root.spellAll ys = t.root.spellAll xs

/-- A path leads to what is at an address, or to something below it. -/
def Within (t : Tree) (xs : List String) (q : String) : Prop :=
  ∃ ys, Path.split q = .ok ys ∧ t.root.spellAll xs <+: t.root.spellAll ys

/-- A path leads to a node that is passed on the way to an address. -/
def Above (t : Tree) (xs : List String) (q : String) : Prop :=
  ∃ ys, Path.split q = .ok ys ∧ t.root.spellAll ys <+: t.root.spellAll xs ∧
    t.root.spellAll ys ≠ t.root.spellAll xs

/-- One node of a tree has been replaced by another. -/
structure Replaced (t : Tree) (xs : List String) (m m' : Node) (t' : Tree) : Prop where
  /-- The node is there under every path that leads to it. -/
  self : ∀ q, t.At xs q → t.get? q = some m ∧ t'.get? q = some m'
  /-- Below it a path leads where it leads in the node. -/
  below : ∀ q, t.Within xs q → ∃ ys zs, Path.split q = .ok ys ∧
    t.root.spellAll ys = t.root.spellAll xs ++ m.spellAll zs ∧
    t.get? q = m.get? zs ∧ t'.get? q = m'.get? zs
  /-- The nodes above it keep their outlines. -/
  above : ∀ q, t.Above xs q →
    ∃ a a', t.get? q = some a ∧ t'.get? q = some a' ∧ a'.outline = a.outline
  /-- Every other path leads where it led before. -/
  other : ∀ q, ¬ t.Within xs q → ¬ t.Above xs q → t'.get? q = t.get? q

/-- **A change of one node is a change of that node alone.** -/
theorem replaced_of_modify? {m' r : Node} (h : t.Valid) (hx : t.root.get? xs = some m)
    (hr : t.root.modify? (fun _ => m') xs = some r) : t.Replaced xs m m' ⟨r⟩ where
  self q hq := by
    obtain ⟨ys, hq, hs⟩ := hq
    obtain ⟨zs, hspell, hm, hm'⟩ := Node.get?_modify?_within hx hr ⟨[], by rw [List.append_nil, hs]⟩
    rw [hs, List.self_eq_append_right] at hspell
    obtain rfl := Node.spellAll_eq_nil.mp hspell
    exact ⟨(get?_eq hq).trans hm, (get?_eq hq).trans hm'⟩
  below q hq := by
    obtain ⟨ys, hq, hp⟩ := hq
    obtain ⟨zs, hspell, hm, hm'⟩ := Node.get?_modify?_within hx hr hp
    exact ⟨ys, zs, hq, hspell, (get?_eq hq).trans hm, (get?_eq hq).trans hm'⟩
  above q hq := by
    obtain ⟨ys, hq, hp, hne⟩ := hq
    obtain ⟨a, a', ha, ha', ho⟩ := Node.outline_modify? h.sound hx hr hp hne
    exact ⟨a, a', (get?_eq hq).trans ha, (get?_eq hq).trans ha', ho⟩
  other q hwithin habove := by
    unfold get?
    cases hq : Path.split q with
    | error e => rfl
    | ok ys =>
      refine Node.get?_modify?_of_apart hx hr ⟨fun hp => hwithin ⟨ys, hq, hp⟩, fun hp => ?_⟩
      have hne : t.root.spellAll ys ≠ t.root.spellAll xs := fun he =>
        hwithin ⟨ys, hq, he ▸ List.prefix_rfl⟩
      exact habove ⟨ys, hq, hp, hne⟩

/-! ### What a removal leaves -/

/-- The member under a key has been taken out of an object, and nothing else. -/
structure MemberRemoved (t : Tree) (front : List String) (key : String) (gone : Node) (t' : Tree) :
    Prop where
  /-- Neither it nor anything below it is there any more. -/
  removed : ∀ q, t.Within (front ++ [key]) q → t'.get? q = none
  /-- The other members of the object keep their order. -/
  parent : ∀ q, t.At front q → ∃ traits before after,
    t.get? q = some (.object traits (before ++ (key, gone) :: after)) ∧
    t'.get? q = some (.object traits (before ++ after))
  /-- The nodes above the object keep their outlines. -/
  above : ∀ q, t.Above front q →
    ∃ a a', t.get? q = some a ∧ t'.get? q = some a' ∧ a'.outline = a.outline
  /-- Every other path leads where it led before. -/
  other : ∀ q, ¬ t.Within (front ++ [key]) q → ¬ t.At front q → ¬ t.Above front q →
    t'.get? q = t.get? q

/-- The item at an index has been taken out of an array, and nothing else. -/
structure ItemRemoved (t : Tree) (front : List String) (i : Nat) (gone : Node) (t' : Tree) :
    Prop where
  /-- The items behind it have moved up, and those in front of it have stayed. -/
  parent : ∀ q, t.At front q → ∃ traits items items',
    t.get? q = some (.array traits items) ∧ t'.get? q = some (.array traits items') ∧
    items[i]? = some gone ∧ items'.length + 1 = items.length ∧
    (∀ j < i, items'[j]? = items[j]?) ∧ ∀ j, i ≤ j → items'[j]? = items[j + 1]?
  /-- A path through an item in front of it leads where it led before. -/
  before : ∀ q j s rest, t.At front q → Path.index? s = some j → j < i → Path.ValidKeys rest →
    t'.get? (Path.ofSegments q (s :: rest)) = t.get? (Path.ofSegments q (s :: rest))
  /-- A path through an item behind it leads where the path through the next item led before. -/
  behind : ∀ q j s s' rest, t.At front q → Path.index? s = some j →
    Path.index? s' = some (j + 1) → i ≤ j → Path.ValidKeys rest →
      t'.get? (Path.ofSegments q (s :: rest)) = t.get? (Path.ofSegments q (s' :: rest))
  /-- The nodes above the array keep their outlines. -/
  above : ∀ q, t.Above front q →
    ∃ a a', t.get? q = some a ∧ t'.get? q = some a' ∧ a'.outline = a.outline
  /-- Every path outside the array leads where it led before. -/
  other : ∀ q, ¬ t.Within front q → ¬ t.Above front q → t'.get? q = t.get? q

/-- A node has been removed from its parent. -/
def Removed (t : Tree) (front : List String) (key : String) (gone : Node) (t' : Tree) : Prop :=
  t.MemberRemoved front key gone t' ∨
    ∃ i, Path.index? key = some i ∧ t.ItemRemoved front i gone t'

/-- The paths through a member of an object begin with its key. -/
theorem within_member_iff {tr : Traits} {cs : List (String × Node)}
    (hx : t.root.get? front = some (.object tr cs)) {ys zs : List String}
    (hq : Path.split q = .ok ys)
    (hs : t.root.spellAll ys = t.root.spellAll front ++ (Node.object tr cs).spellAll zs) :
    t.Within (front ++ [key]) q ↔ ∃ rest, zs = key :: rest := by
  have hfull : t.root.spellAll (front ++ [key]) = t.root.spellAll front ++ [key] := by
    rw [Node.spellAll_append hx, Node.spellAll_cons]
    rfl
  constructor
  · rintro ⟨ys', hq', hp⟩
    obtain rfl : ys = ys' := Except.ok.inj (hq.symm.trans hq')
    rw [hfull, hs, List.prefix_append_right_inj] at hp
    cases zs with
    | nil => exact absurd (List.prefix_nil.mp hp) (List.cons_ne_nil _ _)
    | cons s rest =>
      rw [Node.spellAll_cons, List.cons_prefix_cons] at hp
      obtain rfl : key = s := hp.1
      exact ⟨rest, rfl⟩
  · rintro ⟨rest, rfl⟩
    refine ⟨ys, hq, ?_⟩
    rw [hfull, hs, List.prefix_append_right_inj, Node.spellAll_cons, List.cons_prefix_cons]
    exact ⟨rfl, List.nil_prefix⟩

theorem memberRemoved_of_replaced {tr : Traits} {cs : List (String × Node)}
    (hnodup : (cs.map (·.1)).Nodup) (hx : t.root.get? front = some (.object tr cs))
    (hkey : Json.lookup key cs = some n)
    (hr : t.Replaced front (.object tr cs) (.object tr (Json.eraseKey key cs)) t') :
    t.MemberRemoved front key n t' where
  removed q hq := by
    have hfront : t.Within front q := by
      obtain ⟨ys, hq, hp⟩ := hq
      rw [Node.spellAll_append hx] at hp
      exact ⟨ys, hq, (List.prefix_append _ _).trans hp⟩
    obtain ⟨ys, zs, hsplit, hs, -, hm'⟩ := hr.below q hfront
    obtain ⟨rest, rfl⟩ := (within_member_iff hx hsplit hs).mp hq
    rw [hm', Node.get?, Node.child?, Json.lookup_eraseKey_self hnodup, Option.bind_none]
  parent q hq := by
    obtain ⟨before, after, hcs, he⟩ := Json.eraseKey_split hkey
    obtain ⟨hm, hm'⟩ := hr.self q hq
    exact ⟨tr, before, after, hcs ▸ hm, he ▸ hm'⟩
  above := hr.above
  other q hwithin hat habove := by
    by_cases hfront : t.Within front q
    · obtain ⟨ys, zs, hsplit, hs, hm, hm'⟩ := hr.below q hfront
      rw [hm, hm']
      cases zs with
      | nil => exact absurd ⟨ys, hsplit, hs.trans (List.append_nil _)⟩ hat
      | cons s rest =>
        have hne : key ≠ s := fun he => hwithin ((within_member_iff hx hsplit hs).mpr ⟨rest, he ▸ rfl⟩)
        rw [Node.get?, Node.get?, Node.child?, Node.child?, Json.lookup_eraseKey_ne hne]
    · exact hr.other q hfront habove

/-- What is below a node is found in the node. -/
theorem get?_ofSegments (hm : t.get? q = some m) {rest : List String}
    (hrest : Path.ValidKeys rest) : t.get? (Path.ofSegments q rest) = m.get? rest := by
  obtain ⟨ys, hq, hm⟩ := exists_split_of_get? hm
  rw [get?_eq (Path.split_ofSegments_of_split hq hrest), Node.get?_append, hm, Option.bind_some]

theorem getElem?_of_get? {tr : Traits} {is : List Node} {s : String} {j : Nat}
    (hm : t.get? q = some (.array tr is)) (hs : Path.index? s = some j) {rest : List String}
    (hrest : Path.ValidKeys rest) :
    t.get? (Path.ofSegments q (s :: rest)) = is[j]?.bind (Node.get? rest) := by
  have hvalid : Path.ValidKeys (s :: rest) :=
    Path.validKeys_cons.mpr ⟨Path.isValidKey_of_index? hs, hrest⟩
  rw [get?_ofSegments hm hvalid, Node.get?, Node.child?, hs, Option.bind_some]

theorem itemRemoved_of_replaced {tr : Traits} {is : List Node} {i : Nat}
    (hi : is[i]? = some n) (hr : t.Replaced front (.array tr is) (.array tr (is.eraseIdx i)) t') :
    t.ItemRemoved front i n t' where
  parent q hq := by
    obtain ⟨hm, hm'⟩ := hr.self q hq
    have hlt := (List.getElem?_eq_some_iff.mp hi).1
    refine ⟨tr, is, is.eraseIdx i, hm, hm', hi, ?_, fun j hj => ?_, fun j hj => ?_⟩
    · rw [List.length_eraseIdx_of_lt hlt]
      omega
    · exact List.getElem?_eraseIdx_of_lt hj
    · exact List.getElem?_eraseIdx_of_ge hj
  before q j s rest hq hs hj hrest := by
    obtain ⟨hm, hm'⟩ := hr.self q hq
    rw [getElem?_of_get? hm hs hrest, getElem?_of_get? hm' hs hrest,
      List.getElem?_eraseIdx_of_lt hj]
  behind q j s s' rest hq hs hs' hj hrest := by
    obtain ⟨hm, hm'⟩ := hr.self q hq
    rw [getElem?_of_get? hm hs' hrest, getElem?_of_get? hm' hs hrest,
      List.getElem?_eraseIdx_of_ge hj]
  above := hr.above
  other := hr.other

/-! ### Trees -/

theorem split_concat (hq : Path.split q = .ok xs) (hne : q ≠ "") :
    ∃ front key, xs = front ++ [key] := by
  rcases xs.eq_nil_or_concat' with rfl | h
  · exact absurd (Path.ofSegments_of_split hq).symm hne
  · exact h

/-- **What is removed is what is found at the path.** -/
theorem delete?_eq_some_iff :
    (∃ t', t.delete? path = some (n, t')) ↔ path ≠ "" ∧ t.get? path = some n := by
  by_cases hpath : path = ""
  · subst hpath
    refine iff_of_false ?_ fun h => h.1 rfl
    rintro ⟨t', h⟩
    cases h
  cases hs : Path.split path with
  | error e =>
    have hdelete : t.delete? path = none := by rw [delete?, hs]
    have hget : t.get? path = none := by rw [get?, hs]
    simp [hdelete, hget]
  | ok segments =>
    obtain ⟨front, key, rfl⟩ := split_concat hs hpath
    have hfront := (Path.validKeys_append.mp (Path.validKeys_of_split hs)).1
    rw [delete?_concat hs, get?_eq hs, get?_eq (Path.split_ofSegments hfront), Node.get?_append]
    cases t.root.get? front with
    | none => simp
    | some m => simp [Node.get?, Node.child?_eq_extractChild?, hpath]

/-- A removal changes the parent of what is removed. -/
theorem replaced_of_delete? (h : t.Valid) (hd : t.delete? path = some (n, t')) :
    ∃ front key m m', Path.split path = .ok (front ++ [key]) ∧ t.root.get? front = some m ∧
      m.extractChild? key = some (n, m') ∧ t.Replaced front m m' t' := by
  obtain ⟨hpath, hget⟩ := delete?_eq_some_iff.mp ⟨t', hd⟩
  obtain ⟨segments, hs, -⟩ := exists_split_of_get? hget
  obtain ⟨front, key, rfl⟩ := split_concat hs hpath
  have hfront := Path.split_ofSegments (Path.validKeys_append.mp (Path.validKeys_of_split hs)).1
  rw [delete?_concat hs, get?_eq hfront] at hd
  obtain ⟨m, hm, hd⟩ := Option.bind_eq_some_iff.mp hd
  obtain ⟨⟨gone, m'⟩, hextract, hd⟩ := Option.map_eq_some_iff.mp hd
  obtain ⟨rfl, rfl⟩ := Prod.mk.inj hd
  obtain ⟨r, hr, -⟩ := Node.get?_modify?_self (fun _ => m') hm
  refine ⟨front, key, m, m', hs, hm, hextract, ?_⟩
  rw [modify_eq hfront hr]
  exact replaced_of_modify? h hm hr

/-- **A removal takes one node out of its parent.** -/
theorem removed_of_delete? (h : t.Valid) (hd : t.delete? path = some (n, t')) :
    ∃ front key, Path.split path = .ok (front ++ [key]) ∧ t.Removed front key n t' := by
  obtain ⟨front, key, m, m', hs, hm, hextract, hr⟩ := replaced_of_delete? h hd
  refine ⟨front, key, hs, ?_⟩
  cases m with
  | object tr cs =>
    obtain ⟨c, hc, he⟩ := Option.map_eq_some_iff.mp hextract
    obtain ⟨rfl, rfl⟩ := Prod.mk.inj he
    have hnodup := (h.sound.of_leads (Node.leads_of_get? h.sound hm)).nodup
    exact .inl (memberRemoved_of_replaced hnodup hm hc hr)
  | array tr is =>
    obtain ⟨i, hi, hextract⟩ := Option.bind_eq_some_iff.mp hextract
    obtain ⟨c, hc, he⟩ := Option.bind_eq_some_iff.mp hextract
    obtain ⟨rfl, rfl⟩ := Prod.mk.inj (Option.some.inj he)
    exact .inr ⟨i, hi, itemRemoved_of_replaced hc hr⟩
  | leaf tr v => cases hextract

/-- **A member that was written under a new key is removed without a trace.** -/
theorem delete?_set {tr : Traits} {cs : List (String × Node)}
    (hs : Path.split path = .ok (front ++ [key])) (hx : t.root.get? front = some (.object tr cs))
    (hfree : Json.lookup key cs = none) (hn : node.checkAt path = .ok ()) :
    ∃ t', t.set path node = .ok t' ∧ t'.delete? path = some (node, t) := by
  have hnew := Json.not_mem_keys_of_lookup hfree
  have hfront := Path.split_ofSegments (Path.validKeys_append.mp (Path.validKeys_of_split hs)).1
  -- Writing puts the member at the end of the object.
  have hput : Node.put path node [key] (.object tr cs) = .ok (.object tr (cs ++ [(key, node)])) := by
    rw [Node.put_object, hfree, ← Json.upsert_of_new node hnew]
    rfl
  obtain ⟨r, hr, hwrite⟩ := Node.put_append hx hput
  have hset : t.set path node = .ok ⟨r⟩ := by
    obtain ⟨s, rest, hcons⟩ : ∃ s rest, front ++ [key] = s :: rest :=
      List.exists_cons_of_ne_nil (by simp)
    rw [hcons] at hs hwrite
    rw [set_of_split hn hs, hwrite]
    rfl
  refine ⟨⟨r⟩, hset, ?_⟩
  -- Removing it gives the object as it was, and with it the root.
  obtain ⟨r', hr', hget⟩ := Node.get?_modify?_self (fun _ => .object tr (cs ++ [(key, node)])) hx
  obtain rfl := Option.some.inj (hr.symm.trans hr')
  have hback : r.modify? (fun _ => .object tr cs) front = some t.root := by
    rw [Node.modify?_modify? hr, Node.modify?_of_eq hx rfl]
  have hlookup : Json.lookup key (cs ++ [(key, node)]) = some node := by
    rw [Json.lookup_append, hfree, Option.none_or, Json.lookup_cons, if_pos rfl]
  rw [delete?_concat hs, get?_eq hfront, hget, Option.bind_some, Node.extractChild?, hlookup,
    Option.map_some, Option.map_some, Json.eraseKey_append_self node hnew, modify_eq hfront hback]

end Tree

namespace Call

variable {t t' : Tree} {path : String} {node n : Node}

theorem delete_eq_some_iff : delete path t = .ok (some n) t' ↔ t.delete? path = some (n, t') := by
  rw [delete_eq]
  cases t.delete? path with
  | none => simp
  | some g => simp [Prod.ext_iff]

/-- **A removal takes out one node.** What is removed is what is found at a path that is not empty.
It is taken out of its parent and nothing else changes: an object keeps its other members in their
order, and the path and everything below it lead nowhere; in an array the items behind it move up;
the nodes above the parent keep their outlines, and every other path leads where it led before. If a
node is written under a new key of an object that is there, its removal gives back the tree. -/
theorem delete_exact (h : t.Valid) (path : String) :
    (∀ n, (∃ t', delete path t = .ok (some n) t') ↔ path ≠ "" ∧ t.get? path = some n) ∧
    (∀ n t', delete path t = .ok (some n) t' →
      ∃ front key, Path.split path = .ok (front ++ [key]) ∧ t.Removed front key n t') ∧
    ∀ front key traits children node, Path.split path = .ok (front ++ [key]) →
      t.root.get? front = some (.object traits children) → t.get? path = none → node.Lawful →
        ∃ t', set path node t = .ok () t' ∧ delete path t' = .ok (some node) t := by
  refine ⟨fun n => ?_, fun n t' hd => Tree.removed_of_delete? h (delete_eq_some_iff.mp hd), ?_⟩
  · rw [← Tree.delete?_eq_some_iff]
    exact exists_congr fun t' => delete_eq_some_iff
  · intro front key traits children node hs hx hfree hn
    have hkey : Json.lookup key children = none := by
      rw [Tree.get?_eq hs, Node.get?_append, hx, Option.bind_some, Node.get?] at hfree
      exact (Option.bind_fun_some _).symm.trans hfree
    obtain ⟨t', hset, hdelete⟩ :=
      Tree.delete?_set hs hx hkey ((Node.checkAt_eq_ok_iff path node).mpr hn)
    exact ⟨t', set_eq_ok_iff.mpr hset, delete_eq_some_iff.mpr hdelete⟩

/-- The first guest leaves, and the second is found in its place; a town comes and goes. -/
theorem delete_exact_guests : guests.Valid ∧
    (∃ t', delete "guests.00" guests = .ok (some (.primitive (.string "Ann"))) t' ∧
      guests.Removed ["guests"] "00" (.primitive (.string "Ann")) t' ∧
      t'.get? "guests.0.name" = guests.get? "guests.1.name") ∧
    ∃ t', set "town" (.primitive (.string "Oslo")) guests = .ok () t' ∧
      delete "town" t' = .ok (some (.primitive (.string "Oslo"))) guests := by
  have hvalid : guests.Valid := ⟨rfl, rfl⟩
  have hlist : Path.split "guests" = .ok ["guests"] := rfl
  obtain ⟨hiff, hremoved, -⟩ := delete_exact hvalid "guests.00"
  obtain ⟨t', hdelete⟩ := (hiff (.primitive (.string "Ann"))).mpr ⟨by decide, rfl⟩
  obtain ⟨front, key, hs, hgone⟩ := hremoved _ t' hdelete
  have hsegments : ["guests"] ++ ["00"] = front ++ [key] := Except.ok.inj hs
  obtain ⟨rfl, hkey⟩ := List.append_inj' hsegments rfl
  obtain rfl := List.singleton_inj.mp hkey
  refine ⟨hvalid, ⟨t', hdelete, hgone, ?_⟩, ?_⟩
  · rcases hgone with hmember | ⟨i, hi, hitem⟩
    · obtain ⟨tr, before, after, hobject, -⟩ := hmember.parent "guests" ⟨_, hlist, rfl⟩
      cases hobject
    · obtain rfl : 0 = i := Option.some.inj hi
      exact hitem.behind "guests" 0 "0" "1" ["name"] ⟨_, hlist, rfl⟩ rfl rfl (Nat.le_refl 0)
        (by simp [Path.ValidKeys, Path.isValidKey])
  · obtain ⟨-, -, hset⟩ := delete_exact hvalid "town"
    exact hset [] "town" _ _ _ rfl rfl rfl (Node.lawful_leaf _ _)

end Call
end ReactiveTree
