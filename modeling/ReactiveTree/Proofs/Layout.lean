import ReactiveTree.Node.Plain
import ReactiveTree.Proofs.Listing

/-!
# What a tree is apart from its values

A tree is read in three ways. Its layout is everything but the values of primitives, of which the
kind stays, and the errors of expressions; its content is everything but these errors. Both are
the tree with other traits and other values in its nodes (`Node.recast`), so what holds of every
such change holds of both: addresses lead to the same places, and the rules are kept or broken
alike. The values of a snippet's `get` and `root` are those of the content (`toPlain_recast`), and
two trees of one layout with the same values have the same content (`content_eq`).

Key definitions: `Node.recast`, `Node.content`, `Node.layout`.
Key theorems: `Node.get?_recast`, `Node.Sound.recast`, `Node.toPlain_recast`, `Node.content_eq`.
-/
namespace ReactiveTree

/-- The traits but for the error of the expression. -/
def Traits.withoutError (t : Traits) : Traits := { t with expressionError := none }

/-- The first value of the same kind. -/
def Scalar.blank (v : Scalar) : Scalar := v.kind.default?.getD v

theorem Scalar.blank_eq_of_kind {v w : Scalar} (h : v.kind = w.kind) : v.blank = w.blank := by
  cases v <;> cases w <;> first | rfl | cases h

@[simp] theorem Scalar.kind_blank (v : Scalar) : v.blank.kind = v.kind := by cases v <;> rfl

namespace Node

open Json (lookup upsert)

mutual
/-- The node with other traits in every node and other values in every primitive. -/
def recast (f : Traits → Traits) (g : Scalar → Scalar) : Node → Node
  | .object t cs => .object (f t) (recastChildren f g cs)
  | .array t is => .array (f t) (recastItems f g is)
  | .leaf t v => .leaf (f t) (g v)

def recastChildren (f : Traits → Traits) (g : Scalar → Scalar) :
    List (String × Node) → List (String × Node)
  | [] => []
  | (k, n) :: cs => (k, recast f g n) :: recastChildren f g cs

def recastItems (f : Traits → Traits) (g : Scalar → Scalar) : List Node → List Node
  | [] => []
  | n :: is => recast f g n :: recastItems f g is
end

/-- Everything but the errors of expressions. -/
def content (n : Node) : Node := n.recast Traits.withoutError id

/-- Everything but the values and the errors of expressions. -/
def layout (n : Node) : Node := n.recast Traits.withoutError Scalar.blank

variable {f f' : Traits → Traits} {g g' : Scalar → Scalar} {n m : Node}

theorem recastChildren_eq (f : Traits → Traits) (g : Scalar → Scalar) :
    ∀ cs : List (String × Node), recastChildren f g cs = cs.map fun c => (c.1, c.2.recast f g)
  | [] => rfl
  | (k, n) :: cs => by rw [recastChildren, recastChildren_eq f g cs]; rfl

theorem recastItems_eq (f : Traits → Traits) (g : Scalar → Scalar) :
    ∀ is : List Node, recastItems f g is = is.map (recast f g)
  | [] => rfl
  | n :: is => by rw [recastItems, recastItems_eq f g is]; rfl

@[simp] theorem traits_recast (f : Traits → Traits) (g : Scalar → Scalar) (n : Node) :
    (n.recast f g).traits = f n.traits := by cases n <;> rfl

@[simp] theorem value?_recast (f : Traits → Traits) (g : Scalar → Scalar) (n : Node) :
    (n.recast f g).value? = n.value?.map g := by cases n <;> rfl

@[simp] theorem isPrimitive_recast (f : Traits → Traits) (g : Scalar → Scalar) (n : Node) :
    (n.recast f g).isPrimitive = n.isPrimitive := by cases n <;> rfl

theorem kind_recast (f : Traits → Traits) (hg : ∀ v, (g v).kind = v.kind) (n : Node) :
    (n.recast f g).kind = n.kind := by
  cases n with
  | object t cs => rfl
  | array t is => rfl
  | leaf t v => exact hg v

mutual
theorem recast_recast (f f' : Traits → Traits) (g g' : Scalar → Scalar) :
    ∀ n : Node, (n.recast f g).recast f' g' = n.recast (fun t => f' (f t)) (fun v => g' (g v))
  | .object t cs => by rw [recast, recast, recast, recastChildren_recast f f' g g' cs]
  | .array t is => by rw [recast, recast, recast, recastItems_recast f f' g g' is]
  | .leaf t v => rfl

theorem recastChildren_recast (f f' : Traits → Traits) (g g' : Scalar → Scalar) :
    ∀ cs : List (String × Node), recastChildren f' g' (recastChildren f g cs) =
      recastChildren (fun t => f' (f t)) (fun v => g' (g v)) cs
  | [] => rfl
  | (k, n) :: cs => by
    rw [recastChildren, recastChildren, recastChildren, recast_recast f f' g g' n,
      recastChildren_recast f f' g g' cs]

theorem recastItems_recast (f f' : Traits → Traits) (g g' : Scalar → Scalar) :
    ∀ is : List Node, recastItems f' g' (recastItems f g is) =
      recastItems (fun t => f' (f t)) (fun v => g' (g v)) is
  | [] => rfl
  | n :: is => by
    rw [recastItems, recastItems, recastItems, recast_recast f f' g g' n,
      recastItems_recast f f' g g' is]
end

/-! ### Children and addresses -/

theorem kids_recast (f : Traits → Traits) (g : Scalar → Scalar) (n : Node) :
    (n.recast f g).kids = n.kids.map fun c => (c.1, c.2.recast f g) := by
  cases n with
  | object t cs => rw [recast, kids, kids, recastChildren_eq]
  | array t is => rw [recast, kids, kids, recastItems_eq, numbered_map]
  | leaf t v => rfl

theorem child?_recast (f : Traits → Traits) (g : Scalar → Scalar) (s : String) (n : Node) :
    (n.recast f g).child? s = (n.child? s).map (recast f g) := by
  cases n with
  | object t cs => rw [recast, child?, child?, recastChildren_eq, Json.lookup_map]
  | array t is =>
    rw [recast, child?, child?, recastItems_eq]
    cases Path.index? s <;> simp
  | leaf t v => rfl

/-- A change of traits and values commutes with reaching a node. -/
theorem get?_recast (f : Traits → Traits) (g : Scalar → Scalar) :
    ∀ (segments : List String) (n : Node),
      (n.recast f g).get? segments = (n.get? segments).map (recast f g)
  | [], n => rfl
  | s :: segments, n => by
    rw [get?, get?, child?_recast]
    cases n.child? s with
    | none => rfl
    | some c => exact get?_recast f g segments c

theorem leads_recast (f : Traits → Traits) (g : Scalar → Scalar) :
    ∀ {segments : List String} {n m : Node}, n.Leads segments m →
      (n.recast f g).Leads segments (m.recast f g)
  | [], _, _, h => congrArg (recast f g) h
  | s :: segments, n, m, ⟨c, hc, h⟩ => by
    refine ⟨c.recast f g, ?_, leads_recast f g h⟩
    rw [kids_recast]
    exact List.mem_map.mpr ⟨(s, c), hc, rfl⟩

theorem leads_of_recast (f : Traits → Traits) (g : Scalar → Scalar) :
    ∀ {segments : List String} {n m : Node}, (n.recast f g).Leads segments m →
      ∃ m', n.Leads segments m' ∧ m'.recast f g = m
  | [], n, _, h => ⟨n, rfl, h⟩
  | s :: segments, n, m, ⟨c, hc, h⟩ => by
    rw [kids_recast] at hc
    obtain ⟨⟨k, d⟩, hd, he⟩ := List.mem_map.mp hc
    obtain ⟨rfl, rfl⟩ := Prod.mk.inj he
    obtain ⟨m', hm', rfl⟩ := leads_of_recast f g h
    exact ⟨m', ⟨d, hd, hm'⟩, rfl⟩

/-! ### Listing -/

theorem isLeaf_recast (f : Traits → Traits) (g : Scalar → Scalar) (n : Node) :
    (n.recast f g).isLeaf = n.isLeaf := by
  cases n with
  | object t cs => cases cs <;> rfl
  | array t is => cases is <;> rfl
  | leaf t v => rfl

theorem entriesBelow_recast_of_kids {l : Listing}
    (h : ∀ c ∈ n.kids, ∀ path, (c.2.recast f g).entriesFrom l path =
      (c.2.entriesFrom l path).map fun e => ⟨e.path, e.node.recast f g⟩) (path : String) :
    (n.recast f g).entriesBelow l path =
      (n.entriesBelow l path).map fun e => ⟨e.path, e.node.recast f g⟩ := by
  rw [entriesBelow_eq, entriesBelow_eq, kids_recast, List.flatMap_map, List.map_flatMap]
  exact List.flatMap_congr fun c hc => h c hc _

/-- A change of traits and values commutes with the listing. -/
theorem entriesFrom_recast {l : Listing} (hf : l.filterGlobal = false) (f : Traits → Traits)
    (g : Scalar → Scalar) (n : Node) : ∀ path : String, (n.recast f g).entriesFrom l path =
      (n.entriesFrom l path).map fun e => ⟨e.path, e.node.recast f g⟩ := by
  induction n using induct with
  | step n ih =>
    intro path
    have hshows : l.shows (n.recast f g) = l.shows n := by
      rw [Listing.shows, isLeaf_recast, Listing.shows]
    rw [entriesFrom, entriesFrom, hf, Bool.false_and, if_neg Bool.false_ne_true, Bool.false_and,
      if_neg Bool.false_ne_true, hshows, entriesBelow_recast_of_kids (fun c hc => ih c.1 c.2 hc),
      List.map_append]
    split <;> rfl

theorem entries_recast {l : Listing} (hf : l.filterGlobal = false) (f : Traits → Traits)
    (g : Scalar → Scalar) (n : Node) : (n.recast f g).entries l =
      (n.entries l).map fun e => ⟨e.path, e.node.recast f g⟩ :=
  entriesBelow_recast_of_kids (fun c _ => entriesFrom_recast hf f g c.2) ""

theorem primitives_recast (f : Traits → Traits) (g : Scalar → Scalar) (n : Node) :
    (n.recast f g).primitives = n.primitives.map fun e => ⟨e.path, e.node.recast f g⟩ := by
  rw [primitives, primitives, entries_recast rfl, List.filter_map]
  refine congrArg _ (List.filter_congr fun e _ => ?_)
  exact isPrimitive_recast f g e.node

/-! ### Rules -/

mutual
theorem isRegular_recast (f : Traits → Traits) (g : Scalar → Scalar) :
    ∀ n : Node, (n.recast f g).isRegular = n.isRegular
  | .object t cs => by
    have hk : (recastChildren f g cs).map (·.1) = cs.map (·.1) := by
      rw [recastChildren_eq, List.map_map]; rfl
    rw [recast, isRegular, isRegular, childrenRegular_recast f g cs, hk]
  | .array t is => by
    rw [recast, isRegular, isRegular, itemsRegular_recast f g is, recastItems_eq, List.length_map]
  | .leaf t v => rfl

theorem childrenRegular_recast (f : Traits → Traits) (g : Scalar → Scalar) :
    ∀ cs : List (String × Node), childrenRegular (recastChildren f g cs) = childrenRegular cs
  | [] => rfl
  | (k, n) :: cs => by
    rw [recastChildren, childrenRegular, childrenRegular, isRegular_recast f g n,
      childrenRegular_recast f g cs]

theorem itemsRegular_recast (f : Traits → Traits) (g : Scalar → Scalar) :
    ∀ is : List Node, itemsRegular (recastItems f g is) = itemsRegular is
  | [] => rfl
  | n :: is => by
    rw [recastItems, itemsRegular, itemsRegular, isRegular_recast f g n, itemsRegular_recast f g is]
end

mutual
theorem checkAt_recast (hf : ∀ t, (f t).expression = t.expression) (g : Scalar → Scalar)
    (path : String) : ∀ n : Node, (n.recast f g).checkAt path = n.checkAt path
  | .object t cs => by
    rw [recast, checkAt, checkAt, hf, checkChildren_recast hf g path cs]
  | .array t is => by
    rw [recast, checkAt, checkAt, hf, checkItems_recast hf g path 0 is]
  | .leaf t v => rfl

theorem checkChildren_recast (hf : ∀ t, (f t).expression = t.expression) (g : Scalar → Scalar)
    (path : String) : ∀ cs : List (String × Node),
      checkChildren path (recastChildren f g cs) = checkChildren path cs
  | [] => rfl
  | (k, n) :: cs => by
    rw [recastChildren, checkChildren, checkChildren, checkAt_recast hf g (Path.join path k) n,
      checkChildren_recast hf g path cs]

theorem checkItems_recast (hf : ∀ t, (f t).expression = t.expression) (g : Scalar → Scalar)
    (path : String) : ∀ (i : Nat) (is : List Node),
      checkItems path i (recastItems f g is) = checkItems path i is
  | _, [] => rfl
  | i, n :: is => by
    rw [recastItems, checkItems, checkItems, checkAt_recast hf g (Path.join path (toString i)) n,
      checkItems_recast hf g path (i + 1) is]
end

/-- Other traits and values keep the rules, as long as no expression comes or goes. -/
theorem Sound.recast (hf : ∀ t, (f t).expression = t.expression) (g : Scalar → Scalar)
    (h : n.Sound) : (n.recast f g).Sound := by
  obtain ⟨⟨path, hk⟩, hr⟩ := h
  exact ⟨⟨path, (checkAt_recast hf g path n).trans hk⟩, (isRegular_recast f g n).trans hr⟩

/-! ### Values that snippets see -/

mutual
/-- The plain values of a node do not show traits. -/
theorem toPlain_recast (f : Traits → Traits) : ∀ n : Node, (n.recast f id).toPlain = n.toPlain
  | .object t cs => by rw [recast, toPlain, toPlain, plainMembers_recast f cs]
  | .array t is => by rw [recast, toPlain, toPlain, plainItems_recast f is]
  | .leaf t v => rfl

theorem plainMembers_recast (f : Traits → Traits) :
    ∀ cs : List (String × Node), plainMembers (recastChildren f id cs) = plainMembers cs
  | [] => rfl
  | (k, n) :: cs => by
    rw [recastChildren, plainMembers, plainMembers, toPlain_recast f n, plainMembers_recast f cs]

theorem plainItems_recast (f : Traits → Traits) :
    ∀ is : List Node, plainItems (recastItems f id is) = plainItems is
  | [] => rfl
  | n :: is => by
    rw [recastItems, plainItems, plainItems, toPlain_recast f n, plainItems_recast f is]
end

/-! ### Layout and content -/

theorem value?_of_container (h : n.isPrimitive = false) : n.value? = none := by
  cases n <;> first | rfl | cases h

@[simp] theorem traits_layout (n : Node) : n.layout.traits = n.traits.withoutError :=
  traits_recast _ _ n

@[simp] theorem kind_layout (n : Node) : n.layout.kind = n.kind :=
  kind_recast _ Scalar.kind_blank n

@[simp] theorem isPrimitive_layout (n : Node) : n.layout.isPrimitive = n.isPrimitive :=
  isPrimitive_recast _ _ n

@[simp] theorem traits_content (n : Node) : n.content.traits = n.traits.withoutError :=
  traits_recast _ _ n

@[simp] theorem kind_content (n : Node) : n.content.kind = n.kind :=
  kind_recast _ (fun _ => rfl) n

@[simp] theorem value?_content (n : Node) : n.content.value? = n.value? := by
  rw [content, value?_recast, Option.map_id, id]

@[simp] theorem layout_content (n : Node) : n.content.layout = n.layout :=
  recast_recast _ _ _ _ n

theorem Sound.layout (h : n.Sound) : n.layout.Sound :=
  h.recast (f := Traits.withoutError) (fun _ => rfl) _

theorem isPrimitive_eq_of_layout (h : n.layout = m.layout) : n.isPrimitive = m.isPrimitive := by
  rw [← isPrimitive_layout n, h, isPrimitive_layout]

theorem kind_eq_of_layout (h : n.layout = m.layout) : n.kind = m.kind := by
  rw [← kind_layout n, h, kind_layout]

theorem traits_eq_of_layout (h : n.layout = m.layout) :
    n.traits.withoutError = m.traits.withoutError := by
  rw [← traits_layout n, h, traits_layout]

/-- A container is made of its kind, its traits and its children. -/
theorem eq_of_kids (hn : n.isPrimitive = false) (hk : n.kind = m.kind) (ht : n.traits = m.traits)
    (hc : n.kids = m.kids) : n = m := by
  have hsnd : ∀ is : List Node, (numbered 0 is).map (·.2) = is := fun is => by
    simp [numbered, List.map_map, Function.comp_def]
  cases n with
  | object t cs =>
    cases m with
    | object t' cs' => rw [show t = t' from ht, show cs = cs' from hc]
    | array t' is' => cases hk
    | leaf t' v' => cases v' <;> cases hk
  | array t is =>
    cases m with
    | object t' cs' => cases hk
    | array t' is' =>
      have := congrArg (List.map (·.2)) hc
      rw [kids, kids, hsnd, hsnd] at this
      rw [show t = t' from ht, this]
    | leaf t' v' => cases v' <;> cases hk
  | leaf t v => cases hn

/-- Lists that agree under one map agree under another that can tell no more apart. -/
theorem map_eq_of_map_eq {α β γ : Type} {F : α → β} {G : α → γ} : ∀ {xs ys : List α},
    xs.map F = ys.map F → (∀ x ∈ xs, ∀ y ∈ ys, F x = F y → G x = G y) → xs.map G = ys.map G
  | [], [], _, _ => rfl
  | x :: xs, y :: ys, h, hG => by
    simp only [List.map_cons, List.cons.injEq] at h ⊢
    exact ⟨hG x List.mem_cons_self y List.mem_cons_self h.1, map_eq_of_map_eq h.2 fun a ha b hb =>
      hG a (List.mem_cons_of_mem x ha) b (List.mem_cons_of_mem y hb)⟩

/-- **Layout and values make the content.** -/
theorem content_eq (n : Node) : ∀ {m : Node}, n.layout = m.layout →
    (∀ segments x y, n.Leads segments x → m.Leads segments y → x.value? = y.value?) →
    n.content = m.content := by
  induction n using induct with
  | step n ih =>
    intro m hl hv
    have ht := traits_eq_of_layout hl
    cases hp : n.isPrimitive with
    | true =>
      have hp' : m.isPrimitive = true := (isPrimitive_eq_of_layout hl).symm.trans hp
      have he := hv [] n m rfl rfl
      cases n <;> cases hp
      cases m <;> cases hp'
      simp only [content, recast, id_eq, leaf.injEq]
      exact ⟨ht, Option.some.inj he⟩
    | false =>
      have hkids := congrArg kids hl
      rw [layout, layout, kids_recast, kids_recast] at hkids
      refine eq_of_kids ((isPrimitive_recast _ _ n).trans hp) ?_ ?_ ?_
      · rw [kind_content, kind_content, kind_eq_of_layout hl]
      · rw [traits_content, traits_content, ht]
      · rw [content, content, kids_recast, kids_recast]
        refine map_eq_of_map_eq hkids ?_
        rintro ⟨s, c⟩ hc ⟨s', d⟩ hd he
        obtain ⟨rfl, he⟩ := Prod.mk.inj he
        have := ih s c hc he fun segments x y hx hy =>
          hv (s :: segments) x y ⟨c, hc, hx⟩ ⟨d, hd, hy⟩
        exact Prod.ext rfl this

end Node

namespace Tree

variable {a b : Tree} {e : Entry}

/-- Two trees have the same nodes at the same places, of the same kinds and with the same traits
but for the errors of expressions. -/
def SameLayout (a b : Tree) : Prop := a.root.layout = b.root.layout

/-- Two trees differ in nothing but the errors of expressions. -/
def SameContent (a b : Tree) : Prop := a.root.content = b.root.content

theorem SameLayout.refl (a : Tree) : a.SameLayout a := rfl

theorem SameLayout.symm (h : a.SameLayout b) : b.SameLayout a := Eq.symm h

theorem SameLayout.trans {c : Tree} (h : a.SameLayout b) (h' : b.SameLayout c) : a.SameLayout c :=
  Eq.trans h h'

theorem SameContent.refl (a : Tree) : a.SameContent a := rfl

theorem SameContent.symm (h : a.SameContent b) : b.SameContent a := Eq.symm h

theorem SameContent.trans {c : Tree} (h : a.SameContent b) (h' : b.SameContent c) :
    a.SameContent c :=
  Eq.trans h h'

theorem SameContent.sameLayout (h : a.SameContent b) : a.SameLayout b := by
  rw [SameLayout, ← Node.layout_content, h, Node.layout_content]

theorem Valid.of_sameLayout (ha : a.Valid) (h : a.SameLayout b) : b.Valid := by
  have hcheck : ∀ n : Node, n.layout.checkAt "" = n.checkAt "" :=
    Node.checkAt_recast (f := Traits.withoutError) (fun _ => rfl) Scalar.blank ""
  have hregular : ∀ n : Node, n.layout.isRegular = n.isRegular := Node.isRegular_recast _ _
  constructor
  · rw [check, ← Node.kind_eq_of_layout h, ← hcheck, ← h, hcheck]
    exact ha.checked
  · rw [← hregular, ← h, hregular]
    exact ha.regular

theorem map_get?_of_recast {f : Traits → Traits} {g : Scalar → Scalar}
    (h : a.root.recast f g = b.root.recast f g) (path : String) :
    (a.get? path).map (Node.recast f g) = (b.get? path).map (Node.recast f g) := by
  unfold get?
  split
  · rw [← Node.get?_recast, ← Node.get?_recast, h]
  · rfl

theorem SameLayout.map_get? (h : a.SameLayout b) (path : String) :
    (a.get? path).map Node.layout = (b.get? path).map Node.layout :=
  map_get?_of_recast h path

theorem SameContent.map_get? (h : a.SameContent b) (path : String) :
    (a.get? path).map Node.content = (b.get? path).map Node.content :=
  map_get?_of_recast h path

theorem SameLayout.get?_eq_some (h : a.SameLayout b) {path : String} {n : Node}
    (hn : a.get? path = some n) : ∃ m, b.get? path = some m ∧ n.layout = m.layout := by
  have := h.map_get? path
  rw [hn, Option.map_some, eq_comm, Option.map_eq_some_iff] at this
  obtain ⟨m, hm, he⟩ := this
  exact ⟨m, hm, he.symm⟩

theorem SameContent.value?_eq (h : a.SameContent b) (path : String) :
    a.value? path = b.value? path := by
  have hv : ∀ o : Option Node, o.bind (·.value?) = (o.map Node.content).bind (·.value?) := by
    intro o
    cases o <;> simp
  rw [value?, value?, hv, h.map_get?, ← hv]

/-- Trees of one layout list the same primitives. -/
theorem SameLayout.mem_primitives (h : a.SameLayout b) (he : e ∈ a.primitives) :
    ∃ n, ⟨e.path, n⟩ ∈ b.primitives ∧ e.node.layout = n.layout := by
  obtain ⟨s, segments, hl, hp, hn⟩ := Tree.mem_primitives.mp he
  have hb : b.root.layout.Leads (s :: segments) e.node.layout := h ▸ Node.leads_recast _ _ hl
  obtain ⟨n, hl', hn'⟩ := Node.leads_of_recast _ _ hb
  refine ⟨n, Tree.mem_primitives.mpr ⟨s, segments, hl', hp, ?_⟩, hn'.symm⟩
  exact (Node.isPrimitive_eq_of_layout hn').trans hn

/-- **Trees of one layout with the same values have the same content.** -/
theorem SameLayout.sameContent (ha : a.Valid) (h : a.SameLayout b)
    (hv : ∀ e ∈ a.primitives, a.value? e.path = b.value? e.path) : a.SameContent b := by
  have hb := ha.of_sameLayout h
  refine Node.content_eq a.root h fun segments x y hx hy => ?_
  have hx' : a.root.layout.Leads segments x.layout := Node.leads_recast _ _ hx
  have hy' : a.root.layout.Leads segments y.layout := h ▸ Node.leads_recast _ _ hy
  have hxy := Node.leads_unique ha.sound.layout hx' hy'
  cases hp : x.isPrimitive with
  | true =>
    have := hv _ (mem_primitives_of_leads ha hx hp)
    rwa [value?, value?, get?_of_leads ha hx, get?_of_leads hb hy] at this
  | false =>
    have hp' := (Node.isPrimitive_eq_of_layout hxy).symm.trans hp
    rw [Node.value?_of_container hp, Node.value?_of_container hp']

end Tree
end ReactiveTree
