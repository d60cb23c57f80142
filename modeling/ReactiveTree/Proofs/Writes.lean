import ReactiveTree.Proofs.Layout

/-!
# Changing the node at a path

A change of the node at an address replaces one child on each level. What is found at the address
afterwards is the changed node (`get?_modify_self`), a primitive that stands elsewhere is found as
before (`get?_modify_ne`), and a change that the layout or the content does not show leaves it as
it was (`recast_modify?`), and one that writes what is there changes nothing (`modify_of_eq`).

Key theorems: `Node.recast_modify?`, `Node.get?_modify?_ne`, `Tree.get?_modify_self`,
`Tree.get?_modify_ne`, `Tree.sameLayout_modify`, `Tree.sameContent_modify`,
`Tree.SameContent.modify`.
-/
namespace ReactiveTree
namespace Node

variable {h h' : Node → Node} {n m c d x y : Node} {s : String} {segments : List String}

/-! ### Replacing a child -/

theorem recast_replaceChild (f : Traits → Traits) (g : Scalar → Scalar) (n : Node) (s : String)
    (d : Node) :
    (n.replaceChild s d).recast f g = (n.recast f g).replaceChild s (d.recast f g) := by
  cases n with
  | object t cs =>
    rw [replaceChild, recast, recast, replaceChild, recastChildren_eq, recastChildren_eq,
      Json.upsert_map]
  | array t is =>
    rw [recast, replaceChild, replaceChild]
    cases Path.index? s with
    | none => rfl
    | some i => rw [recast, recastItems_eq, recastItems_eq, List.map_set]
  | leaf t v => rfl

theorem replaceChild_self (hc : n.child? s = some c) : n.replaceChild s c = n := by
  cases n with
  | object t cs => rw [replaceChild, Json.upsert_of_lookup hc]
  | array t is =>
    obtain ⟨i, hi, hc⟩ := Option.bind_eq_some_iff.mp hc
    obtain ⟨hlt, hc⟩ := List.getElem?_eq_some_iff.mp hc
    simp only [replaceChild, hi]
    rw [← hc, List.set_getElem_self]
  | leaf t v => rfl

theorem replaceChild_replaceChild (n : Node) (s : String) (c d : Node) :
    (n.replaceChild s c).replaceChild s d = n.replaceChild s d := by
  cases n with
  | object t cs => exact congrArg (object t) (Json.upsert_upsert c d cs)
  | array t is =>
    simp only [replaceChild]
    cases Path.index? s with
    | none => rfl
    | some i => exact congrArg (array t) (List.set_set ..)
  | leaf t v => rfl

theorem child?_replaceChild_self (hc : n.child? s = some c) (d : Node) :
    (n.replaceChild s d).child? s = some d := by
  cases n with
  | object t cs => exact Json.lookup_upsert_self d cs
  | array t is =>
    obtain ⟨i, hi, hc⟩ := Option.bind_eq_some_iff.mp hc
    have hlt := (List.getElem?_eq_some_iff.mp hc).1
    simp only [replaceChild, child?, hi, Option.bind_some]
    rw [List.getElem?_set_self hlt]
  | leaf t v => cases hc

/-- Another child is found as before. -/
theorem child?_replaceChild_ne {s' : String} (hne : n.spell s ≠ n.spell s') (d : Node) :
    (n.replaceChild s d).child? s' = n.child? s' := by
  cases n with
  | object t cs => exact Json.lookup_upsert_ne hne d cs
  | array t is =>
    simp only [replaceChild]
    cases hi : Path.index? s with
    | none => rfl
    | some i =>
      simp only [child?]
      cases hj : Path.index? s' with
      | none => rfl
      | some j =>
        have hij : i ≠ j := by
          rintro rfl
          simp [spell, hi, hj] at hne
        rw [Option.bind_some, Option.bind_some, List.getElem?_set_ne hij]
  | leaf t v => rfl

/-! ### Changing the node at an address -/

theorem modify?_cons (hc : n.child? s = some c) :
    n.modify? h (s :: segments) = (c.modify? h segments).map (n.replaceChild s) := by
  rw [modify?, hc]
  change (c.modify? h segments).bind (fun d => some (n.replaceChild s d)) = _
  cases c.modify? h segments <;> rfl

/-- A node that is there can be changed, and is found changed. -/
theorem get?_modify?_self (h : Node → Node) : ∀ {segments : List String} {n : Node},
    n.get? segments = some m →
      ∃ n', n.modify? h segments = some n' ∧ n'.get? segments = some (h m)
  | [], n, hg => ⟨h n, rfl, by rw [get?, Option.some.inj hg]⟩
  | s :: segments, n, hg => by
    obtain ⟨c, hc, hg⟩ := Option.bind_eq_some_iff.mp hg
    obtain ⟨c', hc', hg'⟩ := get?_modify?_self h hg
    refine ⟨n.replaceChild s c', by rw [modify?_cons hc, hc', Option.map_some], ?_⟩
    rw [get?, child?_replaceChild_self hc, Option.bind_some, hg']

/-- **A change in one reading of a node is the change of that reading.** -/
theorem recast_modify? {f : Traits → Traits} {g : Scalar → Scalar} :
    ∀ {segments : List String} {n : Node}, n.get? segments = some m →
      (h m).recast f g = h' (m.recast f g) →
      (n.modify? h segments).map (recast f g) = (n.recast f g).modify? h' segments
  | [], n, hg, hm => by
    obtain rfl := Option.some.inj hg
    exact congrArg some hm
  | s :: segments, n, hg, hm => by
    obtain ⟨c, hc, hg⟩ := Option.bind_eq_some_iff.mp hg
    have ih := recast_modify? hg hm
    have hc' : (n.recast f g).child? s = some (c.recast f g) := by
      rw [child?_recast, hc, Option.map_some]
    rw [modify?_cons hc, modify?_cons hc', ← ih, Option.map_map, Option.map_map]
    congr 1
    funext d
    exact recast_replaceChild f g n s d

/-- A change that leaves the node as it is leaves everything as it is. -/
theorem modify?_of_eq : ∀ {segments : List String} {n : Node}, n.get? segments = some m → h m = m →
    n.modify? h segments = some n
  | [], n, hg, hm => by
    obtain rfl := Option.some.inj hg
    exact congrArg some hm
  | s :: segments, n, hg, hm => by
    obtain ⟨c, hc, hg⟩ := Option.bind_eq_some_iff.mp hg
    rw [modify?_cons hc, modify?_of_eq hg hm, Option.map_some, replaceChild_self hc]

/-- Two changes at one address are one. -/
theorem modify?_modify? : ∀ {segments : List String} {n n' : Node},
    n.modify? h segments = some n' →
      n'.modify? h' segments = n.modify? (fun m => h' (h m)) segments
  | [], n, n', hm => by
    obtain rfl := Option.some.inj hm
    rfl
  | s :: segments, n, n', hm => by
    obtain ⟨c, hc, hm⟩ := Option.bind_eq_some_iff.mp hm
    obtain ⟨c', hc', hm⟩ := Option.bind_eq_some_iff.mp hm
    obtain rfl := Option.some.inj hm
    rw [modify?_cons hc, modify?_cons (child?_replaceChild_self hc c'), modify?_modify? hc']
    exact congrArg (fun f => (c.modify? _ segments).map f)
      (funext fun d => replaceChild_replaceChild n s c' d)

/-- What is done to other nodes makes no difference. -/
theorem modify?_congr : ∀ {segments : List String} {n : Node}, n.get? segments = some m →
    h m = h' m → n.modify? h segments = n.modify? h' segments
  | [], n, hg, he => by
    obtain rfl := Option.some.inj hg
    exact congrArg some he
  | s :: segments, n, hg, he => by
    obtain ⟨c, hc, hg⟩ := Option.bind_eq_some_iff.mp hg
    rw [modify?_cons hc, modify?_cons hc, modify?_congr hg he]

theorem not_leads_of_primitive (hn : n.isPrimitive = true) : ¬ n.Leads (s :: segments) m := by
  rintro ⟨c, hc, -⟩
  cases n with
  | object t cs => cases hn
  | array t is => cases hn
  | leaf t v => cases hc

/-- **A change of one primitive leaves every other one.** -/
theorem get?_modify?_ne (h : Node → Node) (hx : x.isPrimitive = true) (hy : y.isPrimitive = true) :
    ∀ {xs ys : List String} {n n' : Node}, n.Sound → n.Leads xs x → n.Leads ys y → xs ≠ ys →
      n.modify? h xs = some n' → n'.get? ys = some y
  | [], [], _, _, _, _, _, hne, _ => absurd rfl hne
  | [], _ :: _, _, _, _, hlx, hly, _, _ => by
    obtain rfl := hlx
    exact absurd hly (not_leads_of_primitive hx)
  | _ :: _, [], _, _, _, hlx, hly, _, _ => by
    obtain rfl := hly
    exact absurd hlx (not_leads_of_primitive hy)
  | s :: xs, s' :: ys, n, n', hn, ⟨c, hc, hlx⟩, ⟨d, hd, hly⟩, hne, hm => by
    have hchild := child?_of_mem hn hc
    have hchild' := child?_of_mem hn hd
    rw [modify?_cons hchild] at hm
    obtain ⟨c', hc', rfl⟩ := Option.map_eq_some_iff.mp hm
    by_cases hs : s = s'
    · subst hs
      obtain rfl : c = d := Option.some.inj (hchild.symm.trans hchild')
      rw [get?, child?_replaceChild_self hchild, Option.bind_some]
      exact get?_modify?_ne h hx hy (hn.kid hc) hlx hly (fun he => hne (he ▸ rfl)) hc'
    · have hspell : n.spell s ≠ n.spell s' := by rwa [spell_of_mem hn hc, spell_of_mem hn hd]
      rw [get?, child?_replaceChild_ne hspell, hchild', Option.bind_some]
      exact get?_of_leads (hn.kid hd) hly

end Node

namespace Tree

variable {t a b : Tree} {n m : Node} {path : String} {h h' : Node → Node} {e e' : Entry}

theorem modify_eq {segments : List String} (hs : Path.split path = .ok segments) {r : Node}
    (hr : t.root.modify? h segments = some r) : t.modify h path = ⟨r⟩ := by
  rw [modify, modify?, hs]
  simp only [hr, Option.map_some, Option.getD_some]

/-- A node that is there is found changed. -/
theorem get?_modify_self (hn : t.get? path = some n) :
    (t.modify h path).get? path = some (h n) := by
  obtain ⟨segments, hs, hn⟩ := exists_split_of_get? hn
  obtain ⟨r, hr, hg⟩ := Node.get?_modify?_self h hn
  rw [modify_eq hs hr, get?_eq hs, hg]

theorem modify_of_eq (hn : t.get? path = some n) (hm : h n = n) : t.modify h path = t := by
  obtain ⟨segments, hs, hn⟩ := exists_split_of_get? hn
  rw [modify_eq hs (Node.modify?_of_eq hn hm)]

theorem modify_congr (hn : t.get? path = some n) (he : h n = h' n) :
    t.modify h path = t.modify h' path := by
  obtain ⟨segments, hs, hn⟩ := exists_split_of_get? hn
  obtain ⟨r, hr, -⟩ := Node.get?_modify?_self h hn
  rw [modify_eq hs hr, modify_eq hs (Node.modify?_congr hn he ▸ hr)]

theorem modify_modify (hn : t.get? path = some n) :
    (t.modify h path).modify h' path = t.modify (fun m => h' (h m)) path := by
  obtain ⟨segments, hs, hn⟩ := exists_split_of_get? hn
  obtain ⟨r, hr, hg⟩ := Node.get?_modify?_self h hn
  obtain ⟨r', hr', -⟩ := Node.get?_modify?_self h' hg
  rw [modify_eq hs hr, modify_eq hs hr', modify_eq hs (Node.modify?_modify? hr ▸ hr')]

/-- **Changing one listed primitive leaves the others.** -/
theorem get?_modify_ne (ht : t.Valid) (he : e ∈ t.primitives) (he' : e' ∈ t.primitives)
    (hne : e.path ≠ e'.path) : (t.modify h e.path).get? e'.path = t.get? e'.path := by
  rw [get?_of_mem_primitives ht he']
  obtain ⟨s, xs, hl, hp, hx⟩ := mem_primitives.mp he
  obtain ⟨s', ys, hl', hp', hy⟩ := mem_primitives.mp he'
  obtain ⟨r, hr, -⟩ := Node.get?_modify?_self h (Node.get?_of_leads ht.sound hl)
  have hsplit := Path.split_ofSegments (ht.sound.validKeys hl)
  have hsplit' := Path.split_ofSegments (ht.sound.validKeys hl')
  rw [hp, hp', modify_eq hsplit hr, get?_eq hsplit']
  exact Node.get?_modify?_ne h hx hy ht.sound hl hl' (fun he => hne (by rw [hp, hp', he])) hr

/-- The same, where the primitives are listed in another tree of the layout. -/
theorem get?_modify_ne_of_layout (ha : a.Valid) (hl : a.SameLayout t) (he : e ∈ a.primitives)
    (he' : e' ∈ a.primitives) (hne : e.path ≠ e'.path) (h : Node → Node) :
    (t.modify h e.path).get? e'.path = t.get? e'.path := by
  obtain ⟨n, hn, -⟩ := hl.mem_primitives he
  obtain ⟨n', hn', -⟩ := hl.mem_primitives he'
  have := get?_modify_ne (h := h) (ha.of_sameLayout hl) hn hn' hne
  exact this

theorem recast_modify {f : Traits → Traits} {g : Scalar → Scalar} (h' : Node → Node)
    (hn : t.get? path = some n) (hm : (h n).recast f g = h' (n.recast f g)) :
    (t.modify h path).root.recast f g = ((⟨t.root.recast f g⟩ : Tree).modify h' path).root := by
  obtain ⟨segments, hs, hn⟩ := exists_split_of_get? hn
  obtain ⟨r, hr, -⟩ := Node.get?_modify?_self h hn
  have := Node.recast_modify? hn hm
  rw [hr, Option.map_some] at this
  rw [modify_eq hs hr, modify_eq hs this.symm]

theorem recast_modify_id {f : Traits → Traits} {g : Scalar → Scalar} (hn : t.get? path = some n)
    (hm : (h n).recast f g = n.recast f g) :
    (t.modify h path).root.recast f g = t.root.recast f g := by
  rw [recast_modify id hn hm]
  obtain ⟨segments, hs, hn⟩ := exists_split_of_get? hn
  have hr : (t.root.recast f g).get? segments = some (n.recast f g) := by
    rw [Node.get?_recast, hn, Option.map_some]
  rw [modify_eq hs (Node.modify?_of_eq hr rfl)]

/-- A change that the layout of the node does not show is none of the layout. -/
theorem sameLayout_modify (hn : t.get? path = some n) (hm : (h n).layout = n.layout) :
    (t.modify h path).SameLayout t :=
  recast_modify_id hn hm

/-- A change that the content of the node does not show is none of the content. -/
theorem sameContent_modify (hn : t.get? path = some n) (hm : (h n).content = n.content) :
    (t.modify h path).SameContent t :=
  recast_modify_id hn hm

/-- Trees with the same content keep it if a node changes in the same way in both. -/
theorem SameContent.modify (hab : a.SameContent b) (hn : a.get? path = some n)
    (hm : b.get? path = some m) (hc : (h n).content = (h' m).content) :
    (a.modify h path).SameContent (b.modify h' path) := by
  have ha := recast_modify (f := Traits.withoutError) (g := id) (fun _ => (h n).content) hn rfl
  have hb := recast_modify (f := Traits.withoutError) (g := id) (fun _ => (h n).content) hm
    hc.symm
  have hroot : a.root.recast Traits.withoutError id = b.root.recast Traits.withoutError id := hab
  rw [hroot] at ha
  exact ha.trans hb.symm

end Tree
end ReactiveTree
