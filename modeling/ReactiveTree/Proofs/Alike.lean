import ReactiveTree.Proofs.Layout

/-!
# Trees with the same nodes in another order

The children of an object may stand in any order: a segment leads to the same child. If every
address of a tree leads to a node of the same kind in another one, and the other way round, then
every path text, however it spells its indices, resolves in both or in neither, and to nodes at
one and the same listed path. So values that agree at the listed primitives agree at every path.

Key definitions: `Node.Covers`, `Tree.Alike`, `Tree.SameNodes`.
Key theorems: `Node.Covers.get?`, `Tree.Alike.value?_eq`, `Tree.SameNodes.alike`.
-/
namespace ReactiveTree

namespace Node

variable {n m k c x : Node} {s : String}

/-- Every address of a node leads to a node of the same kind in another one. -/
def Covers (n m : Node) : Prop :=
  ∀ segments x, n.Leads segments x → ∃ y, m.Leads segments y ∧ x.kind = y.kind

theorem Covers.trans (h : n.Covers m) (h' : m.Covers k) : n.Covers k := fun segments x hx => by
  obtain ⟨y, hy, hk⟩ := h segments x hx
  obtain ⟨z, hz, hk'⟩ := h' segments y hy
  exact ⟨z, hz, hk.trans hk'⟩

theorem Covers.of_layout (h : n.layout = m.layout) : n.Covers m := fun segments x hx => by
  have hm : m.layout.Leads segments x.layout := h ▸ leads_recast _ _ hx
  obtain ⟨y, hy, hl⟩ := leads_of_recast _ _ hm
  exact ⟨y, hy, (kind_eq_of_layout hl).symm⟩

theorem Covers.kind (h : n.Covers m) : n.kind = m.kind := by
  obtain ⟨y, hy, hk⟩ := h [] n rfl
  obtain rfl : m = y := hy
  exact hk

theorem isPrimitive_eq_of_kind (h : n.kind = m.kind) : n.isPrimitive = m.isPrimitive := by
  have hk : ∀ n : Node, n.isPrimitive = n.kind.isPrimitive := fun n => by
    cases n with
    | object t cs => rfl
    | array t is => rfl
    | leaf t v => cases v <;> rfl
  rw [hk, h, ← hk]

/-- Nodes of the same kind write a segment alike. -/
theorem spell_eq_of_kind (h : n.kind = m.kind) (s : String) : n.spell s = m.spell s := by
  have hleaf : ∀ v : Scalar, v.kind ≠ .object ∧ v.kind ≠ .array := fun v => by
    cases v <;> exact ⟨nofun, nofun⟩
  cases n with
  | object t cs =>
    cases m with
    | object t' cs' => rfl
    | array t' is => cases h
    | leaf t' v => rfl
  | array t is =>
    cases m with
    | object t' cs' => cases h
    | array t' is' => rfl
    | leaf t' v => exact absurd h.symm (hleaf v).2
  | leaf t v =>
    cases m with
    | object t' cs' => rfl
    | array t' is => exact absurd h (hleaf v).2
    | leaf t' v' => rfl

/-- Children with the same segment cover each other. -/
theorem Covers.kid (hm : m.Sound) (h : n.Covers m) (hc : (s, c) ∈ n.kids) :
    ∃ d, (s, d) ∈ m.kids ∧ c.Covers d := by
  obtain ⟨d, hd, -⟩ := h [s] c ⟨c, hc, rfl⟩
  obtain ⟨d', hd', rfl⟩ := hd
  refine ⟨d', hd', fun segments x hx => ?_⟩
  obtain ⟨y, ⟨d'', hd'', hy⟩, hk⟩ := h (s :: segments) x ⟨c, hc, hx⟩
  have hl : m.Leads [s] d' := ⟨d', hd', rfl⟩
  have hl' : m.Leads [s] d'' := ⟨d'', hd'', rfl⟩
  obtain rfl := leads_unique hm hl hl'
  exact ⟨y, hy, hk⟩

/-- **An address that resolves in a node resolves where that is covered, and is written alike.** -/
theorem Covers.get? : ∀ {segments : List String} {n m : Node}, n.Sound → m.Sound → n.Covers m →
    n.get? segments = some x → ∃ y, m.get? segments = some y ∧ x.kind = y.kind ∧
      m.spellAll segments = n.spellAll segments
  | [], n, m, _, _, h, hx => by
    obtain rfl := Option.some.inj hx
    exact ⟨m, rfl, h.kind, rfl⟩
  | s :: segments, n, m, hn, hm, h, hx => by
    obtain ⟨c, hc, hx⟩ := Option.bind_eq_some_iff.mp hx
    have hkid := mem_kids_of_child? hn hc
    obtain ⟨d, hd, hcover⟩ := h.kid hm hkid
    obtain ⟨y, hy, hk, hspell⟩ := Covers.get? (hn.kid hkid) (hm.kid hd) hcover hx
    have hs := spell_eq_of_kind h.kind s
    have hchild : m.child? s = some d := by
      rw [child?_eq_lookup hm, ← hs]
      exact Json.lookup_of_mem hm.nodup hd
    refine ⟨y, by rw [Node.get?, hchild, Option.bind_some, hy], hk, ?_⟩
    rw [spellAll, spellAll, hchild, hc, hs, Option.map_some, Option.map_some, Option.getD_some,
      Option.getD_some, hspell]

end Node

namespace Tree

variable {a b c : Tree} {e : Entry} {path : String}

/-- Every address leads to nodes of the same kind in both trees, or to none. -/
def Alike (a b : Tree) : Prop := a.root.Covers b.root ∧ b.root.Covers a.root

theorem Alike.symm (h : a.Alike b) : b.Alike a := ⟨h.2, h.1⟩

theorem Alike.trans (h : a.Alike b) (h' : b.Alike c) : a.Alike c :=
  ⟨h.1.trans h'.1, h'.2.trans h.2⟩

theorem SameLayout.alike (h : a.SameLayout b) : a.Alike b :=
  ⟨.of_layout h, .of_layout h.symm⟩

theorem Alike.get?_eq_none (ha : a.Valid) (hb : b.Valid) (h : a.Alike b)
    (hn : a.get? path = none) : b.get? path = none := by
  cases hm : b.get? path with
  | none => rfl
  | some x =>
    obtain ⟨segments, hs, hg⟩ := exists_split_of_get? hm
    obtain ⟨y, hy, -⟩ := h.2.get? hb.sound ha.sound hg
    rw [get?_eq hs, hy] at hn
    cases hn

/-- **Values that agree at the listed primitives agree at every path.** -/
theorem Alike.value?_eq (ha : a.Valid) (hb : b.Valid) (h : a.Alike b)
    (hv : ∀ e ∈ a.primitives, a.value? e.path = b.value? e.path) (path : String) :
    a.value? path = b.value? path := by
  cases hs : Path.split path with
  | error err => rw [value?, value?, get?, get?, hs]
  | ok segments =>
    cases hg : a.root.get? segments with
    | none =>
      have hn : a.get? path = none := (get?_eq hs).trans hg
      rw [value?, value?, hn, h.get?_eq_none ha hb hn]
    | some n =>
      obtain ⟨m, hm, hk, hspell⟩ := h.1.get? ha.sound hb.sound hg
      rw [value?, value?, get?_eq hs, get?_eq hs, hg, hm, Option.bind_some, Option.bind_some]
      have hp := Node.isPrimitive_eq_of_kind hk
      cases hprim : n.isPrimitive with
      | true =>
        have hl := Node.leads_of_get? ha.sound hg
        have hl' := Node.leads_of_get? hb.sound hm
        rw [hspell] at hl'
        have := hv _ (mem_primitives_of_leads ha hl hprim)
        rwa [value?, value?, get?_of_leads ha hl, get?_of_leads hb hl'] at this
      | false =>
        rw [Node.value?_of_container hprim, Node.value?_of_container (hp ▸ hprim)]

/-- The same paths are listed, of nodes of the same kinds and with the same traits, in whatever
order. -/
def SameNodes (a b : Tree) : Prop := ∀ path k r,
  (∃ e ∈ a.entries .everything, e.path = path ∧ e.node.kind = k ∧ e.node.traits = r) ↔
    ∃ e ∈ b.entries .everything, e.path = path ∧ e.node.kind = k ∧ e.node.traits = r

theorem SameNodes.symm (h : a.SameNodes b) : b.SameNodes a := fun path k r => (h path k r).symm

theorem SameNodes.leads (ha : a.Valid) (hb : b.Valid) (h : a.SameNodes b) {s : String}
    {segments : List String} {x : Node} (hx : a.root.Leads (s :: segments) x) :
    ∃ y, b.root.Leads (s :: segments) y ∧ y.kind = x.kind ∧ y.traits = x.traits := by
  have hmem : ⟨Path.ofSegments "" (s :: segments), x⟩ ∈ a.entries .everything :=
    (mem_entries rfl).mpr ⟨s, segments, hx, rfl, shows_everything x⟩
  obtain ⟨e, he, hp, hk, hr⟩ := (h _ _ _).mp ⟨_, hmem, rfl, rfl, rfl⟩
  obtain ⟨s', segments', hl, hp', -⟩ := (mem_entries rfl).mp he
  have hseg := Path.ofSegments_injective (hb.sound.validKeys hl) (ha.sound.validKeys hx)
    (hp'.symm.trans hp)
  exact ⟨e.node, hseg ▸ hl, hk, hr⟩

theorem SameNodes.alike (ha : a.Valid) (hb : b.Valid) (h : a.SameNodes b) : a.Alike b := by
  have hcover : ∀ {a b : Tree}, a.Valid → b.Valid → a.SameNodes b → a.root.Covers b.root :=
    fun ha hb h segments x hx => by
    cases segments with
    | nil =>
      obtain rfl := hx
      exact ⟨_, rfl, ha.kind_root.trans hb.kind_root.symm⟩
    | cons s segments =>
      obtain ⟨y, hy, hk, -⟩ := h.leads ha hb hx
      exact ⟨y, hy, hk.symm⟩
  exact ⟨hcover ha hb h, hcover hb ha h.symm⟩

theorem SameNodes.mem_primitives (ha : a.Valid) (hb : b.Valid) (h : a.SameNodes b)
    (he : e ∈ a.primitives) :
    ∃ n, ⟨e.path, n⟩ ∈ b.primitives ∧ n.kind = e.node.kind ∧ n.traits = e.node.traits := by
  obtain ⟨s, segments, hl, hp, hprim⟩ := Tree.mem_primitives.mp he
  obtain ⟨y, hy, hk, hr⟩ := h.leads ha hb hl
  exact ⟨y, Tree.mem_primitives.mpr ⟨s, segments, hy, hp,
    (Node.isPrimitive_eq_of_kind hk).trans hprim⟩, hk, hr⟩

end Tree
end ReactiveTree
