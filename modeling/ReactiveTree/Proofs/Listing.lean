import ReactiveTree.Tree.Basic
import ReactiveTree.Proofs.Children

/-!
# The listing names every node once

The listing goes down through the children of each node, and so does the address of a node
(`Node.Leads`). What is listed are the nodes that an address leads to, each under the path that the
address is written as (`mem_entriesFrom`). In a tree that keeps the rules of memory a listed path
reads back as its address, so the node found there is the listed one (`get?_of_mem_entries`) and
no path is listed twice (`nodup_entries`). Every other spelling of an address resolves to what its
listed spelling resolves to (`leads_of_get?`).

Key definitions: `Node.Leads`, `Node.spellAll`, `Node.entriesFrom`, `Tree.Valid`.
Key theorems: `Node.mem_entriesFrom`, `Node.nodup_entriesBelow`, `Tree.get?_of_mem_entries`,
`Tree.nodup_entries`, `Tree.mem_primitives`.
-/
namespace ReactiveTree
namespace Node

variable {n m c : Node} {s : String} {segments : List String} {l : Listing}

/-! ### Addresses -/

/-- Segments of the listing lead from a node down to another one. -/
def Leads : Node → List String → Node → Prop
  | n, [], m => n = m
  | n, s :: segments, m => ∃ c, (s, c) ∈ n.kids ∧ Leads c segments m

/-- What holds at a node and below it holds there and, for each child, at it and below it. -/
theorem forall_leads_iff {P : Node → Prop} : (∀ segments m, n.Leads segments m → P m) ↔
    P n ∧ ∀ s c, (s, c) ∈ n.kids → ∀ segments m, c.Leads segments m → P m := by
  constructor
  · intro h
    exact ⟨h [] n rfl, fun s c hc segments m hl => h (s :: segments) m ⟨c, hc, hl⟩⟩
  · rintro ⟨hn, hk⟩ segments m hl
    cases segments with
    | nil => exact hl ▸ hn
    | cons s segments =>
      obtain ⟨c, hc, hl⟩ := hl
      exact hk s c hc segments m hl

theorem Sound.of_leads :
    ∀ {segments : List String} {n : Node}, n.Sound → n.Leads segments m → m.Sound
  | [], _, h, hl => hl ▸ h
  | _ :: _, _, h, ⟨_, hc, hl⟩ => of_leads (h.kid hc) hl

theorem Sound.validKeys : ∀ {segments : List String} {n : Node}, n.Sound → n.Leads segments m →
    Path.ValidKeys segments
  | [], _, _, _ => Path.validKeys_nil
  | _ :: _, _, h, ⟨_, hc, hl⟩ => Path.validKeys_cons.mpr ⟨h.validKey hc, validKeys (h.kid hc) hl⟩

/-- The node that an address leads to is the node found there. -/
theorem get?_of_leads : ∀ {segments : List String} {n : Node}, n.Sound → n.Leads segments m →
    n.get? segments = some m
  | [], _, _, hl => congrArg some hl
  | s :: segments, n, h, ⟨c, hc, hl⟩ => by
    rw [get?, child?_of_mem h hc, Option.bind_some]
    exact get?_of_leads (h.kid hc) hl

theorem leads_unique {m' : Node} (h : n.Sound) (hl : n.Leads segments m)
    (hl' : n.Leads segments m') : m = m' :=
  Option.some.inj ((get?_of_leads h hl).symm.trans (get?_of_leads h hl'))

/-- An address as the listing writes it. -/
def spellAll : List String → Node → List String
  | [], _ => []
  | s :: segments, n => n.spell s :: ((n.child? s).map (spellAll segments)).getD segments

/-- Every address that resolves leads there once it is written as in the listing. -/
theorem leads_of_get? : ∀ {segments : List String} {n : Node}, n.Sound →
    n.get? segments = some m → n.Leads (n.spellAll segments) m
  | [], _, _, hg => Option.some.inj hg
  | s :: segments, n, h, hg => by
    obtain ⟨c, hc, hg⟩ := Option.bind_eq_some_iff.mp hg
    have hk := mem_kids_of_child? h hc
    rw [spellAll, hc, Option.map_some, Option.getD_some]
    exact ⟨c, hk, leads_of_get? (h.kid hk) hg⟩

/-! ### What is listed -/

/-- What a listing shows of a node that stands at a path, itself included. -/
def entriesFrom (l : Listing) (path : String) (n : Node) : List Entry :=
  if l.filterGlobal && n.traits.isGlobal then []
  else (if l.shows n then [⟨path, n⟩] else []) ++ entriesBelow l path n

theorem entriesOfChildren_eq (l : Listing) (path : String) : ∀ cs : List (String × Node),
    entriesOfChildren l path cs = cs.flatMap fun c => c.2.entriesFrom l (Path.join path c.1)
  | [] => rfl
  | (k, n) :: cs => by
    rw [entriesOfChildren, entriesOfChildren_eq l path cs]
    rfl

theorem entriesOfItems_eq (l : Listing) (path : String) : ∀ (i : Nat) (is : List Node),
    entriesOfItems l path i is =
      (numbered i is).flatMap fun c => c.2.entriesFrom l (Path.join path c.1)
  | _, [] => rfl
  | i, n :: is => by
    rw [entriesOfItems, entriesOfItems_eq l path (i + 1) is, numbered_cons]
    rfl

/-- The listing below a node is the listing of its children, one after another. -/
theorem entriesBelow_eq (l : Listing) (path : String) (n : Node) :
    n.entriesBelow l path = n.kids.flatMap fun c => c.2.entriesFrom l (Path.join path c.1) := by
  cases n with
  | object t cs => exact entriesOfChildren_eq l path cs
  | array t is => exact entriesOfItems_eq l path 0 is
  | leaf t v => rfl

/-- A listed node is one that an address leads to. -/
theorem leads_of_mem_entriesFrom (l : Listing) (n : Node) : ∀ {path : String} {e : Entry},
    e ∈ n.entriesFrom l path → ∃ segments, n.Leads segments e.node ∧
      e.path = Path.ofSegments path segments ∧ l.shows e.node = true := by
  induction n using induct with
  | step n ih =>
    intro path e he
    unfold entriesFrom at he
    split at he
    · cases he
    · rcases List.mem_append.mp he with he | he
      · split at he
        · rename_i hs
          obtain rfl := List.mem_singleton.mp he
          exact ⟨[], rfl, rfl, hs⟩
        · cases he
      · rw [entriesBelow_eq] at he
        obtain ⟨⟨s, c⟩, hc, he⟩ := List.mem_flatMap.mp he
        obtain ⟨segments, hl, hp, hs⟩ := ih s c hc he
        exact ⟨s :: segments, ⟨c, hc, hl⟩, hp, hs⟩

theorem mem_entriesFrom_of_leads (hf : l.filterGlobal = false) {e : Entry} :
    ∀ {segments : List String} {n : Node} {path : String}, n.Leads segments e.node →
      e.path = Path.ofSegments path segments → l.shows e.node = true → e ∈ n.entriesFrom l path
  | [], n, path, hl, hp, hs => by
    obtain ⟨p, m⟩ := e
    obtain rfl : n = m := hl
    obtain rfl : p = path := hp
    simp [entriesFrom, hf, show l.shows n = true from hs]
  | s :: segments, n, path, ⟨c, hc, hl⟩, hp, hs => by
    have ih := mem_entriesFrom_of_leads hf hl hp hs
    rw [entriesFrom, hf, Bool.false_and, if_neg Bool.false_ne_true, entriesBelow_eq]
    exact List.mem_append_right _ (List.mem_flatMap.mpr ⟨(s, c), hc, ih⟩)

/-- **The listing shows the nodes that an address leads to.** -/
theorem mem_entriesFrom (hf : l.filterGlobal = false) {path : String} {e : Entry} :
    e ∈ n.entriesFrom l path ↔ ∃ segments, n.Leads segments e.node ∧
      e.path = Path.ofSegments path segments ∧ l.shows e.node = true :=
  ⟨leads_of_mem_entriesFrom l n, fun ⟨_, hl, hp, hs⟩ => mem_entriesFrom_of_leads hf hl hp hs⟩

theorem mem_entriesBelow (hf : l.filterGlobal = false) {path : String} {e : Entry} :
    e ∈ n.entriesBelow l path ↔ ∃ s segments, n.Leads (s :: segments) e.node ∧
      e.path = Path.ofSegments path (s :: segments) ∧ l.shows e.node = true := by
  rw [entriesBelow_eq, List.mem_flatMap]
  constructor
  · rintro ⟨⟨s, c⟩, hc, he⟩
    obtain ⟨segments, hl, hp, hs⟩ := (mem_entriesFrom hf).mp he
    exact ⟨s, segments, ⟨c, hc, hl⟩, hp, hs⟩
  · rintro ⟨s, segments, ⟨c, hc, hl⟩, hp, hs⟩
    exact ⟨(s, c), hc, (mem_entriesFrom hf).mpr ⟨segments, hl, hp, hs⟩⟩

/-! ### No path twice -/

/-- The paths listed from a node that stands at an address. -/
def pathsFrom (l : Listing) (front : List String) (n : Node) : List String :=
  (n.entriesFrom l (Path.ofSegments "" front)).map (·.path)

theorem pathsFrom_eq (l : Listing) (front : List String) (n : Node) : n.pathsFrom l front =
    if l.filterGlobal && n.traits.isGlobal then []
    else (if l.shows n then [Path.ofSegments "" front] else []) ++
      n.kids.flatMap fun c => c.2.pathsFrom l (front ++ [c.1]) := by
  have hj : ∀ s, Path.ofSegments "" (front ++ [s]) = Path.join (Path.ofSegments "" front) s :=
    fun s => Path.ofSegments_append "" front [s]
  unfold pathsFrom
  rw [entriesFrom, entriesBelow_eq]
  simp only [hj]
  split
  · rfl
  · rw [List.map_append, List.map_flatMap]
    split <;> rfl

theorem eq_of_mem_pathsFrom (h : n.Sound) {front : List String} {p : String}
    (hp : p ∈ n.pathsFrom l front) :
    ∃ segments, Path.ValidKeys segments ∧ p = Path.ofSegments "" (front ++ segments) := by
  obtain ⟨e, he, rfl⟩ := List.mem_map.mp hp
  obtain ⟨segments, hl, hp, -⟩ := leads_of_mem_entriesFrom l n he
  refine ⟨segments, h.validKeys hl, ?_⟩
  rw [hp, Path.ofSegments_append]

theorem Sound.validKeys_kid (h : n.Sound) {front : List String} (hf : Path.ValidKeys front)
    (hc : (s, c) ∈ n.kids) : Path.ValidKeys (front ++ [s]) :=
  Path.validKeys_append.mpr ⟨hf, Path.validKeys_cons.mpr ⟨h.validKey hc, Path.validKeys_nil⟩⟩

/-- Paths below different children differ in the segment after the front. -/
theorem nodup_kidPaths (h : n.Sound) {front : List String} (hf : Path.ValidKeys front)
    (ih : ∀ s c, (s, c) ∈ n.kids → (c.pathsFrom l (front ++ [s])).Nodup) :
    (n.kids.flatMap fun c => c.2.pathsFrom l (front ++ [c.1])).Nodup := by
  refine List.nodup_flatMap.mpr ⟨fun c hc => ih c.1 c.2 hc, ?_⟩
  refine List.Pairwise.imp_of_mem ?_ (List.pairwise_map.mp h.nodup)
  rintro ⟨s, c⟩ ⟨s', c'⟩ hc hc' hne p hp hp'
  obtain ⟨xs, hx, hxp⟩ := eq_of_mem_pathsFrom (h.kid hc) hp
  obtain ⟨ys, hy, hyp⟩ := eq_of_mem_pathsFrom (h.kid hc') hp'
  have he := Path.ofSegments_injective (Path.validKeys_append.mpr ⟨h.validKeys_kid hf hc, hx⟩)
    (Path.validKeys_append.mpr ⟨h.validKeys_kid hf hc', hy⟩) (hxp.symm.trans hyp)
  simp only [List.append_assoc, List.append_cancel_left_eq, List.cons_append, List.cons.injEq] at he
  exact hne he.1

theorem nodup_pathsFrom (l : Listing) (n : Node) : ∀ {front : List String}, n.Sound →
    Path.ValidKeys front → (n.pathsFrom l front).Nodup := by
  induction n using induct with
  | step n ih =>
    intro front h hf
    have hbelow := nodup_kidPaths (l := l) h hf fun s c hc =>
      ih s c hc (h.kid hc) (h.validKeys_kid hf hc)
    rw [pathsFrom_eq]
    split
    · exact List.nodup_nil
    · refine List.Nodup.append (by split <;> simp) hbelow fun p hp hp' => ?_
      obtain rfl : p = Path.ofSegments "" front := by
        split at hp
        · exact List.mem_singleton.mp hp
        · cases hp
      obtain ⟨⟨s, c⟩, hc, hp'⟩ := List.mem_flatMap.mp hp'
      obtain ⟨xs, hx, hxp⟩ := eq_of_mem_pathsFrom (h.kid hc) hp'
      have he := Path.ofSegments_injective hf
        (Path.validKeys_append.mpr ⟨h.validKeys_kid hf hc, hx⟩) hxp
      simp at he

theorem nodup_entriesBelow (h : n.Sound) (l : Listing) :
    ((n.entriesBelow l "").map (·.path)).Nodup := by
  rw [entriesBelow_eq, List.map_flatMap]
  refine nodup_kidPaths h Path.validKeys_nil fun s c hc => ?_
  exact nodup_pathsFrom l c (h.kid hc) (h.validKeys_kid Path.validKeys_nil hc)

end Node

/-! ### Trees -/

namespace Tree

variable {t : Tree} {e : Entry} {n : Node} {path : String} {l : Listing}

/-- A tree that keeps its rules, as it is in memory. -/
structure Valid (t : Tree) : Prop where
  checked : t.check = .ok ()
  regular : t.root.isRegular = true

namespace Valid

theorem kind_root (h : t.Valid) : t.root.kind = .object := by
  have := h.checked
  unfold check at this
  split at this
  · assumption
  · cases this

theorem isPrimitive_root (h : t.Valid) : t.root.isPrimitive = false := by
  have hk := h.kind_root
  generalize t.root = r at hk
  cases r with
  | object t cs => rfl
  | array t is => rfl
  | leaf t v => cases v <;> cases hk

theorem sound (h : t.Valid) : t.root.Sound := by
  have := h.checked
  rw [check, if_pos h.kind_root] at this
  exact ⟨⟨"", this⟩, h.regular⟩

end Valid

theorem get?_eq {segments : List String} (h : Path.split path = .ok segments) :
    t.get? path = t.root.get? segments := by
  rw [get?, h]

/-- A path that leads to a node is well formed. -/
theorem exists_split_of_get? (hn : t.get? path = some n) :
    ∃ segments, Path.split path = .ok segments ∧ t.root.get? segments = some n := by
  unfold get? at hn
  split at hn
  · rename_i segments hs
    exact ⟨segments, hs, hn⟩
  · cases hn

theorem get?_of_leads {segments : List String} (h : t.Valid) (hl : t.root.Leads segments n) :
    t.get? (Path.ofSegments "" segments) = some n := by
  rw [get?_eq (Path.split_ofSegments (h.sound.validKeys hl))]
  exact Node.get?_of_leads h.sound hl

/-- **The node at a listed path is the listed node.** -/
theorem get?_of_mem_entries (h : t.Valid) (he : e ∈ t.entries l) : t.get? e.path = some e.node := by
  rw [entries, Node.entries, Node.entriesBelow_eq] at he
  obtain ⟨⟨s, c⟩, hc, he⟩ := List.mem_flatMap.mp he
  obtain ⟨segments, hl, hp, -⟩ := Node.leads_of_mem_entriesFrom l c he
  have hlead : t.root.Leads (s :: segments) e.node := ⟨c, hc, hl⟩
  exact hp ▸ get?_of_leads h hlead

/-- **No path is listed twice.** -/
theorem nodup_entries (h : t.Valid) (l : Listing) : ((t.entries l).map (·.path)).Nodup :=
  Node.nodup_entriesBelow h.sound l

theorem mem_entries (hf : l.filterGlobal = false) :
    e ∈ t.entries l ↔ ∃ s segments, t.root.Leads (s :: segments) e.node ∧
      e.path = Path.ofSegments "" (s :: segments) ∧ l.shows e.node = true :=
  Node.mem_entriesBelow hf

/-- The primitives of a tree are the primitive nodes that an address leads to. -/
theorem mem_primitives : e ∈ t.primitives ↔ ∃ s segments, t.root.Leads (s :: segments) e.node ∧
    e.path = Path.ofSegments "" (s :: segments) ∧ e.node.isPrimitive = true := by
  rw [primitives, Node.primitives, List.mem_filter]
  have hs : e.node.isPrimitive = true → Listing.leaves.shows e.node = true := by
    cases e.node <;> simp [Node.isPrimitive, Listing.shows, Node.isLeaf]
  constructor
  · rintro ⟨he, hp⟩
    obtain ⟨s, segments, hl, he, -⟩ := (Node.mem_entriesBelow rfl).mp he
    exact ⟨s, segments, hl, he, hp⟩
  · rintro ⟨s, segments, hl, he, hp⟩
    exact ⟨(Node.mem_entriesBelow rfl).mpr ⟨s, segments, hl, he, hs hp⟩, hp⟩

/-- The root is no primitive, so a primitive stands at the end of a path. -/
theorem shows_everything (n : Node) : Listing.everything.shows n = true := by
  simp [Listing.shows, Listing.everything]

theorem mem_primitives_iff :
    e ∈ t.primitives ↔ e ∈ t.entries .everything ∧ e.node.isPrimitive = true := by
  rw [mem_primitives, mem_entries rfl]
  constructor
  · rintro ⟨s, segments, hl, hp, hprim⟩
    exact ⟨⟨s, segments, hl, hp, shows_everything e.node⟩, hprim⟩
  · rintro ⟨⟨s, segments, hl, hp, -⟩, hprim⟩
    exact ⟨s, segments, hl, hp, hprim⟩

theorem mem_primitives_of_leads {segments : List String} (h : t.Valid)
    (hl : t.root.Leads segments n) (hn : n.isPrimitive = true) :
    ⟨Path.ofSegments "" segments, n⟩ ∈ t.primitives := by
  cases segments with
  | nil =>
    obtain rfl : t.root = n := hl
    rw [h.isPrimitive_root] at hn
    cases hn
  | cons s segments => exact mem_primitives.mpr ⟨s, segments, hl, rfl, hn⟩

theorem nodup_primitives (h : t.Valid) : (t.primitives.map (·.path)).Nodup :=
  (nodup_entries h .leaves).sublist (List.filter_sublist.map _)

theorem get?_of_mem_primitives (h : t.Valid) (he : e ∈ t.primitives) :
    t.get? e.path = some e.node :=
  get?_of_mem_entries (l := .leaves) h (List.mem_filter.mp he).1

end Tree
end ReactiveTree
