import ReactiveTree.Proofs.Listing
import Mathlib.Data.List.Flatten
import Mathlib.Data.List.Perm.Subperm

/-!
# The listing and the resolution of paths describe one tree

A path text that resolves is a listed path once every segment under an array is written as the
listing writes it, and a listed path resolves to the listed node. In the full listing each node
stands in front of what is below it, which is listed in the order of its children. What any other
listing shows is the full listing without the nodes that it leaves out.

Key definitions: `Tree.spell`, `Path.isWithin`, `Listing.admits`, `Tree.ListedAsResolved`.
Key theorems: `Node.get?_of_leads_spellAll`, `Node.entriesFrom_sublist`, `Tree.mem_entries_iff`,
`Tree.Valid.listedAsResolved`.
-/
namespace ReactiveTree

/-! ### Spelling -/

namespace Node

variable {n m c : Node} {s : String} {segments : List String} {l : Listing} {path : String}

theorem isValidKey_spell (hs : Path.isValidKey s = true) (n : Node) :
    Path.isValidKey (n.spell s) = true := by
  cases n with
  | object t cs => exact hs
  | array t is =>
    rw [spell]
    cases Path.index? s with
    | none => exact hs
    | some i => exact Path.isValidKey_toString i
  | leaf t v => exact hs

theorem validKeys_spellAll : ∀ {segments : List String} (n : Node), Path.ValidKeys segments →
    Path.ValidKeys (n.spellAll segments)
  | [], _, _ => Path.validKeys_nil
  | s :: segments, n, h => by
    obtain ⟨hs, h⟩ := Path.validKeys_cons.mp h
    rw [spellAll]
    refine Path.validKeys_cons.mpr ⟨isValidKey_spell hs n, ?_⟩
    cases n.child? s with
    | none => exact h
    | some c => exact validKeys_spellAll c h

/-- What the spelling of an address leads to is found at the address. -/
theorem get?_of_leads_spellAll : ∀ {segments : List String} {n : Node}, n.Sound →
    n.Leads (n.spellAll segments) m → n.get? segments = some m
  | [], _, _, hl => congrArg some hl
  | s :: segments, n, h, ⟨c, hc, hl⟩ => by
    have hchild : n.child? s = some c := by
      rw [child?_eq_lookup h]
      exact Json.lookup_of_mem h.nodup hc
    rw [hchild, Option.map_some, Option.getD_some] at hl
    rw [get?, hchild, Option.bind_some]
    exact get?_of_leads_spellAll (h.kid hc) hl

/-! ### Order -/

theorem entriesFrom_everything (path : String) (n : Node) :
    n.entriesFrom .everything path = ⟨path, n⟩ :: n.entriesBelow .everything path := by
  rw [entriesFrom]
  simp [Listing.everything, Listing.shows]

/-- What is listed from a node is listed below every node that leads to it. -/
theorem entriesFrom_sublist : ∀ {segments : List String} {n : Node} {s path : String},
    n.Leads (s :: segments) m →
      (m.entriesFrom .everything (Path.ofSegments path (s :: segments))).Sublist
        (n.entriesBelow .everything path)
  | segments, n, s, path, ⟨c, hc, hl⟩ => by
    have hkid : (c.entriesFrom .everything (Path.join path s)).Sublist
        (n.entriesBelow .everything path) := by
      rw [entriesBelow_eq]
      simpa using (List.singleton_sublist.mpr hc).flatMap
        fun c => c.2.entriesFrom .everything (Path.join path c.1)
    cases segments with
    | nil =>
      obtain rfl : c = m := hl
      exact hkid
    | cons s' segments =>
      rw [entriesFrom_everything] at hkid
      exact (entriesFrom_sublist hl).trans ((List.sublist_cons_self _ _).trans hkid)

/-- The children of a node are listed in their order. -/
theorem kids_sublist (n : Node) (path : String) :
    (n.kids.map fun c => (⟨Path.join path c.1, c.2⟩ : Entry)).Sublist
      (n.entriesBelow .everything path) := by
  rw [entriesBelow_eq, List.map_eq_flatMap]
  refine List.Sublist.flatMap_right _ fun c _ => ?_
  rw [entriesFrom_everything]
  exact List.singleton_sublist.mpr List.mem_cons_self

/-- What is below a node is listed after it. -/
theorem below_sublist {xs ys : List String} {s' : String} (hm : n.Leads (s :: xs) m)
    (hc : m.Leads (s' :: ys) c) : List.Sublist
      [⟨Path.ofSegments path (s :: xs), m⟩, ⟨Path.ofSegments path (s :: xs ++ s' :: ys), c⟩]
      (n.entriesBelow .everything path) := by
  refine List.Sublist.trans ?_ (entriesFrom_sublist hm)
  rw [entriesFrom_everything]
  refine List.Sublist.cons_cons _ (List.singleton_sublist.mpr ?_)
  rw [mem_entriesBelow rfl]
  exact ⟨s', ys, hc, Path.ofSegments_append path (s :: xs) (s' :: ys), Tree.shows_everything c⟩

/-! ### What a listing leaves out -/

/-- No node that an address passes is global, nor is the last one. -/
def PlainAlong (n : Node) (segments : List String) : Prop :=
  ∀ front a, front <+: segments → n.Leads front a → a.traits.isGlobal = false

theorem plainAlong_nil : n.PlainAlong [] ↔ n.traits.isGlobal = false := by
  constructor
  · intro h
    exact h [] n List.prefix_rfl rfl
  · intro h front a hf ha
    obtain rfl := List.prefix_nil.mp hf
    exact ha ▸ h

theorem plainAlong_cons (h : n.Sound) (hc : (s, c) ∈ n.kids) :
    n.PlainAlong (s :: segments) ↔ n.traits.isGlobal = false ∧ c.PlainAlong segments := by
  constructor
  · intro hp
    refine ⟨hp [] n List.nil_prefix rfl, fun front a hf ha => ?_⟩
    exact hp (s :: front) a (List.cons_prefix_cons.mpr ⟨rfl, hf⟩) ⟨c, hc, ha⟩
  · rintro ⟨hn, hp⟩ front a hf ha
    cases front with
    | nil => exact ha ▸ hn
    | cons s' front =>
      obtain ⟨rfl, hf'⟩ := List.cons_prefix_cons.mp hf
      obtain ⟨c', hc', ha⟩ := ha
      obtain rfl := Option.some.inj ((child?_of_mem h hc).symm.trans (child?_of_mem h hc'))
      exact hp front a hf' ha

theorem entriesFrom_sublist_everything (l : Listing) (n : Node) : ∀ path : String,
    (n.entriesFrom l path).Sublist (n.entriesFrom .everything path) := by
  induction n using induct with
  | step n ih =>
    intro path
    rw [entriesFrom, entriesFrom_everything]
    split
    · exact List.nil_sublist _
    · have hbelow : (n.entriesBelow l path).Sublist (n.entriesBelow .everything path) := by
        rw [entriesBelow_eq, entriesBelow_eq]
        exact List.Sublist.flatMap_right _ fun c hc => ih c.1 c.2 hc _
      split
      · exact hbelow.cons_cons _
      · exact hbelow.cons _

theorem entriesBelow_sublist_everything (l : Listing) (n : Node) (path : String) :
    (n.entriesBelow l path).Sublist (n.entriesBelow .everything path) := by
  rw [entriesBelow_eq, entriesBelow_eq]
  exact List.Sublist.flatMap_right _ fun c _ => entriesFrom_sublist_everything l c.2 _

theorem not_hidden_iff (l : Listing) (n : Node) :
    ¬ (l.filterGlobal && n.traits.isGlobal) = true ↔
      (l.filterGlobal = true → n.traits.isGlobal = false) := by
  cases l.filterGlobal <;> simp

theorem plain_of_mem_entriesFrom (l : Listing) (n : Node) : ∀ {path : String} {e : Entry},
    n.Sound → e ∈ n.entriesFrom l path → ∃ segments, n.Leads segments e.node ∧
      e.path = Path.ofSegments path segments ∧ l.shows e.node = true ∧
      (l.filterGlobal = true → n.PlainAlong segments) := by
  induction n using induct with
  | step n ih =>
    intro path e h he
    rw [entriesFrom, entriesBelow_eq] at he
    split at he
    · cases he
    · rename_i hg
      rw [not_hidden_iff] at hg
      rcases List.mem_append.mp he with he | he
      · split at he
        · rename_i hs
          obtain rfl := List.mem_singleton.mp he
          exact ⟨[], rfl, rfl, hs, fun hf => plainAlong_nil.mpr (hg hf)⟩
        · cases he
      · obtain ⟨⟨s, c⟩, hc, he⟩ := List.mem_flatMap.mp he
        obtain ⟨segments, hl, hp, hs, ho⟩ := ih s c hc (h.kid hc) he
        exact ⟨s :: segments, ⟨c, hc, hl⟩, hp, hs,
          fun hf => (plainAlong_cons h hc).mpr ⟨hg hf, ho hf⟩⟩

theorem mem_entriesFrom_of_plain {e : Entry} (hs : l.shows e.node = true) :
    ∀ {segments : List String} {n : Node} {path : String}, n.Sound → n.Leads segments e.node →
      e.path = Path.ofSegments path segments → (l.filterGlobal = true → n.PlainAlong segments) →
      e ∈ n.entriesFrom l path
  | [], n, path, _, hl, hp, ho => by
    have hg := (not_hidden_iff l n).mpr fun hf => plainAlong_nil.mp (ho hf)
    obtain ⟨p, m⟩ := e
    obtain rfl : n = m := hl
    obtain rfl : p = path := hp
    rw [entriesFrom, if_neg hg, if_pos hs]
    exact List.mem_cons_self
  | s :: segments, n, path, h, ⟨c, hc, hl⟩, hp, ho => by
    have hsplit (hf : l.filterGlobal = true) := (plainAlong_cons h hc).mp (ho hf)
    have hg := (not_hidden_iff l n).mpr fun hf => (hsplit hf).1
    have ih := mem_entriesFrom_of_plain hs (h.kid hc) hl hp fun hf => (hsplit hf).2
    rw [entriesFrom, if_neg hg, entriesBelow_eq]
    exact List.mem_append_right _ (List.mem_flatMap.mpr ⟨(s, c), hc, ih⟩)

/-- **A listing shows the nodes of its sort that no global node hides.** -/
theorem mem_entriesFrom_plain {e : Entry} (h : n.Sound) :
    e ∈ n.entriesFrom l path ↔ ∃ segments, n.Leads segments e.node ∧
      e.path = Path.ofSegments path segments ∧ l.shows e.node = true ∧
      (l.filterGlobal = true → n.PlainAlong segments) :=
  ⟨plain_of_mem_entriesFrom l n h,
    fun ⟨_, hl, hp, hs, ho⟩ => mem_entriesFrom_of_plain hs h hl hp ho⟩

end Node

/-- Whether a path is another one or leads below it. -/
def Path.isWithin (path above : String) : Bool :=
  match Path.split path, Path.split above with
  | .ok segments, .ok front => front.isPrefixOf segments
  | _, _ => false

/-- Whether a listing shows an entry of the full listing: it is a primitive or an empty container,
or containers that are not empty are shown as well; and neither it nor a node above it below the
root is global, where global nodes are passed over. -/
def Listing.admits (l : Listing) (t : Tree) (e : Entry) : Bool :=
  (e.node.isLeaf || (!l.leavesOnly && l.includeContainers)) &&
    !(l.filterGlobal && (t.entries .everything).any fun a =>
      a.node.traits.isGlobal && Path.isWithin e.path a.path)

theorem Path.isWithin_ofSegments {xs ys : List String} (hx : Path.ValidKeys xs)
    (hy : Path.ValidKeys ys) :
    Path.isWithin (Path.ofSegments "" xs) (Path.ofSegments "" ys) = true ↔ ys <+: xs := by
  rw [isWithin, split_ofSegments hx, split_ofSegments hy]
  exact List.isPrefixOf_iff_prefix

namespace Tree

variable {t : Tree} {n c : Node} {s path : String} {segments : List String} {l : Listing}
variable {e : Entry}

/-- A path with every segment under an array written as the listing writes it. -/
def spell (t : Tree) (path : String) : String :=
  match Path.split path with
  | .ok segments => Path.ofSegments "" (t.root.spellAll segments)
  | .error _ => path

/-- **A path resolves to what its spelling lists.** -/
theorem get?_eq_some_iff (h : t.Valid) (hp : path ≠ "") :
    t.get? path = some n ↔ ⟨t.spell path, n⟩ ∈ t.entries .everything := by
  rw [mem_entries rfl, spell]
  cases hs : Path.split path with
  | error e =>
    rw [get?, hs]
    constructor
    · intro hg
      cases hg
    · rintro ⟨s, segments, hl, hq, -⟩
      rw [show path = _ from hq, Path.split_ofSegments (h.sound.validKeys hl)] at hs
      cases hs
  | ok segments =>
    obtain ⟨s, rest, rfl⟩ : ∃ s rest, segments = s :: rest := by
      cases segments with
      | nil => exact absurd (Path.ofSegments_of_split hs).symm hp
      | cons s rest => exact ⟨s, rest, rfl⟩
    have hv := Path.validKeys_of_split hs
    rw [get?_eq hs]
    constructor
    · intro hg
      have hl := Node.leads_of_get? h.sound hg
      exact ⟨_, _, hl, rfl, shows_everything n⟩
    · rintro ⟨s', segments', hl, hq, -⟩
      have heq := Path.ofSegments_injective (Node.validKeys_spellAll t.root hv)
        (h.sound.validKeys hl) hq
      exact Node.get?_of_leads_spellAll h.sound (heq ▸ hl)

/-- The nodes that an address passes below the root are the listed ones that it is within. -/
theorem plainAlong_iff (h : t.Valid) (hc : (s, c) ∈ t.root.kids) (hl : c.Leads segments n) :
    c.PlainAlong segments ↔ ∀ a ∈ t.entries .everything,
      Path.isWithin (Path.ofSegments "" (s :: segments)) a.path = true →
        a.node.traits.isGlobal = false := by
  have hlead : t.root.Leads (s :: segments) n := ⟨c, hc, hl⟩
  have hv := h.sound.validKeys hlead
  constructor
  · intro hp a ha hw
    obtain ⟨s', front, hla, hpath, -⟩ := (mem_entries rfl).mp ha
    rw [hpath, Path.isWithin_ofSegments hv (h.sound.validKeys hla)] at hw
    obtain ⟨rfl, hf⟩ := List.cons_prefix_cons.mp hw
    obtain ⟨c', hc', hla⟩ := hla
    have hchild := Node.child?_of_mem h.sound hc
    obtain rfl := Option.some.inj (hchild.symm.trans (Node.child?_of_mem h.sound hc'))
    exact hp front a.node hf hla
  · intro hp front a hf ha
    have hla : t.root.Leads (s :: front) a := ⟨c, hc, ha⟩
    refine hp ⟨_, a⟩ ((mem_entries rfl).mpr ⟨s, front, hla, rfl, shows_everything a⟩) ?_
    exact (Path.isWithin_ofSegments hv (h.sound.validKeys hla)).mpr
      (List.cons_prefix_cons.mpr ⟨rfl, hf⟩)

theorem admits_iff : l.admits t e = true ↔ l.shows e.node = true ∧ (l.filterGlobal = true →
    ∀ a ∈ t.entries .everything, Path.isWithin e.path a.path = true →
      a.node.traits.isGlobal = false) := by
  rw [Listing.admits, Bool.and_eq_true]
  refine and_congr Iff.rfl ?_
  cases l.filterGlobal with
  | false => simp
  | true =>
    simp only [Bool.true_and, Bool.not_eq_true', List.any_eq_false, Bool.and_eq_true, not_and,
      Bool.not_eq_true, forall_const]
    refine forall_congr' fun a => forall_congr' fun _ => ?_
    cases a.node.traits.isGlobal <;> simp

/-- **A listing shows what it admits of the full listing.** -/
theorem mem_entries_iff (h : t.Valid) :
    e ∈ t.entries l ↔ e ∈ t.entries .everything ∧ l.admits t e = true := by
  have heverything := mem_entries (t := t) (l := .everything) (e := e) rfl
  rw [admits_iff, heverything]
  constructor
  · intro he
    rw [entries, Node.entries, Node.entriesBelow_eq] at he
    obtain ⟨⟨s, c⟩, hc, he⟩ := List.mem_flatMap.mp he
    obtain ⟨segments, hl, hp, hs, ho⟩ := (Node.mem_entriesFrom_plain (h.sound.kid hc)).mp he
    refine ⟨⟨s, segments, ⟨c, hc, hl⟩, hp, shows_everything e.node⟩, hs, fun hf => ?_⟩
    have hpath : e.path = Path.ofSegments "" (s :: segments) := hp
    rw [hpath]
    exact (plainAlong_iff h hc hl).mp (ho hf)
  · rintro ⟨⟨s, segments, ⟨c, hc, hl⟩, hp, -⟩, hs, ho⟩
    rw [entries, Node.entries, Node.entriesBelow_eq]
    refine List.mem_flatMap.mpr ⟨(s, c), hc, ?_⟩
    rw [Node.mem_entriesFrom_plain (h.sound.kid hc)]
    exact ⟨segments, hl, hp, hs, fun hf => (plainAlong_iff h hc hl).mpr (hp ▸ ho hf)⟩

/-- A part of a list without duplicates is what it keeps of the list. -/
theorem eq_filter_of_sublist {α : Type} {p : α → Bool} {xs ys : List α} (h : xs.Sublist ys)
    (hn : ys.Nodup) (hp : ∀ a, a ∈ xs ↔ a ∈ ys ∧ p a = true) : xs = ys.filter p := by
  have hle : xs.Sublist (ys.filter p) := by
    have hself : xs.filter p = xs := List.filter_eq_self.mpr fun a ha => ((hp a).mp ha).2
    exact hself ▸ h.filter p
  refine hle.eq_of_length_le ((hn.filter p).subperm fun a ha => ?_).length_le
  exact (hp a).mpr (List.mem_filter.mp ha)

/-- **What a listing shows is the full listing without what it leaves out.** -/
theorem entries_eq_filter (h : t.Valid) (l : Listing) :
    t.entries l = (t.entries .everything).filter (l.admits t) :=
  eq_filter_of_sublist (Node.entriesBelow_sublist_everything l t.root "")
    (nodup_entries h .everything).of_map fun _ => mem_entries_iff h

/-! ### One tree -/

/-- The listing and the resolution of paths describe one tree. -/
structure ListedAsResolved (t : Tree) : Prop where
  /-- No path is listed twice. -/
  nodup : ((t.entries .everything).map (·.path)).Nodup
  /-- A listed path resolves to the listed node. -/
  listed : ∀ e ∈ t.entries .everything, t.get? e.path = some e.node
  /-- A path that is not empty resolves to what is listed under its spelling. -/
  resolves : ∀ path n, path ≠ "" →
    (t.get? path = some n ↔ ⟨t.spell path, n⟩ ∈ t.entries .everything)
  /-- A node is listed before the nodes below it. -/
  parents : ∀ (s s' : String) (xs ys : List String) (n m : Node),
    t.root.Leads (s :: xs) n → n.Leads (s' :: ys) m →
      List.Sublist [⟨Path.ofSegments "" (s :: xs), n⟩,
        ⟨Path.ofSegments "" (s :: xs ++ s' :: ys), m⟩] (t.entries .everything)
  /-- The children of a node are listed in their order. -/
  siblings : ∀ (xs : List String) (n : Node), t.root.Leads xs n →
    List.Sublist (n.kids.map fun c => ⟨Path.ofSegments "" (xs ++ [c.1]), c.2⟩)
      (t.entries .everything)
  /-- Every listing is the full one without what it leaves out. -/
  options : ∀ l : Listing, t.entries l = (t.entries .everything).filter (l.admits t)

theorem siblings_sublist (t : Tree) : ∀ (xs : List String) (n : Node), t.root.Leads xs n →
    List.Sublist (n.kids.map fun c => ⟨Path.ofSegments "" (xs ++ [c.1]), c.2⟩)
      (t.entries .everything)
  | [], n, hl => by
    obtain rfl : t.root = n := hl
    exact Node.kids_sublist t.root ""
  | s :: xs, n, hl => by
    have hfrom : (n.entriesFrom .everything (Path.ofSegments "" (s :: xs))).Sublist
        (t.entries .everything) := Node.entriesFrom_sublist hl
    rw [Node.entriesFrom_everything] at hfrom
    have hkids := Node.kids_sublist n (Path.ofSegments "" (s :: xs))
    simp only [Path.ofSegments_append]
    exact hkids.trans ((List.sublist_cons_self _ _).trans hfrom)

/-- **The listing and the resolution of paths describe one tree**, in every tree that keeps the
rules. -/
theorem Valid.listedAsResolved (h : t.Valid) : t.ListedAsResolved where
  nodup := nodup_entries h .everything
  listed _ he := get?_of_mem_entries h he
  resolves _ _ hp := get?_eq_some_iff h hp
  parents _ _ _ _ _ _ hn hm := Node.below_sublist hn hm
  siblings := siblings_sublist t
  options := entries_eq_filter h

/-- Two rooms, one of them with a global name, and a key that could be an index. -/
def rooms : Tree :=
  let name : Node := .leaf { (default : Traits) with isGlobal := true } (.string "Hall")
  ⟨.object default [("rooms", .array default [.emptyObject, .object default [("name", name)]]),
    ("01", .primitive (.boolean true))]⟩

theorem listedAsResolved_rooms : rooms.Valid ∧ rooms.ListedAsResolved ∧
    (rooms.entries .everything).map (·.path) =
      ["rooms", "rooms.0", "rooms.1", "rooms.1.name", "01"] ∧
    rooms.spell "rooms.01.name" = "rooms.1.name" ∧ rooms.spell "01" = "01" ∧
    (∃ n, rooms.get? "rooms.01.name" = some n) ∧
    (rooms.entries { leavesOnly := true, filterGlobal := true }).map (·.path) =
      ["rooms.0", "01"] := by
  have hvalid : rooms.Valid := ⟨rfl, rfl⟩
  have hlisted := hvalid.listedAsResolved
  have hspell : rooms.spell "rooms.01.name" = "rooms.1.name" := by decide +kernel
  have hname : "rooms.1.name" ∈ (rooms.entries .everything).map (·.path) := by decide +kernel
  obtain ⟨⟨_, n⟩, hn, rfl⟩ := List.mem_map.mp hname
  refine ⟨hvalid, hlisted, by decide +kernel, hspell, by decide +kernel,
    ⟨n, ?_⟩, by decide +kernel⟩
  exact (hlisted.resolves "rooms.01.name" n (by decide)).mpr (hspell ▸ hn)

end Tree
end ReactiveTree
