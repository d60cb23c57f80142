import ReactiveTree.Proofs.Plain
import ReactiveTree.Proofs.Reachable
import ReactiveTree.Tree.FlatMap

/-!
# Flat maps and trees

A flat map that is migrated to a tree and flattened again is the map that it was, if its entries
are in the form in which nodes are flattened (`FlatMap.flatten_migrate`). In the other direction
structure and values are kept: a tree that is flattened and migrated back lists the same paths, with
nodes of the same kinds and the same values; what is lost are traits other than the global flags of
the top level, and the order of children below it (`Tree.rebuiltFrom_migrate_flatten`).

Key definitions: `FlatEntry.IsCanonical`, `FlatEntry.migrated`, `Tree.regrown`, `Tree.RebuiltFrom`.
Key theorems: `FlatEntry.kind_toNode`, `FlatMap.flatten_migrate`, `FlatEntry.toNode_ofNode`,
`Tree.rebuiltFrom_migrate_flatten`.
-/
namespace ReactiveTree

/-! ### The nodes of entries -/

namespace Node

theorem kind_ofKind (k : Kind) : (ofKind k).kind = k := by cases k <;> rfl

theorem value?_of_kind {n : Node} (h : n.kind.isPrimitive = false) : n.value? = none := by
  cases n with
  | object t cs => rfl
  | array t is => rfl
  | leaf t v => cases v <;> cases h

theorem kind_create (k : Kind) (v : Option Scalar) (t : Traits) : (create k v t).kind = k := by
  unfold create
  split
  · rename_i w hw
    obtain ⟨v, -, hv⟩ := Option.bind_eq_some_iff.mp hw
    exact Scalar.kind_coerce? hv
  · rw [kind_withTraits, kind_ofKind]

end Node

namespace FlatEntry

variable {e : FlatEntry} {n : Node} {j : Json}

/-- **The node of an entry has the kind of the entry**, whatever the value is. -/
theorem kind_toNode (e : FlatEntry) : e.toNode.kind = e.kind := by
  unfold toNode
  split
  case h_1 | h_2 =>
    split
    · split
      · assumption
      · exact Node.kind_ofKind e.kind
    · exact Node.kind_ofKind e.kind
  case h_3 hk =>
    rw [hk]
    split
    · rfl
    · exact Node.kind_create _ _ _
  case h_4 => exact Node.kind_create _ _ _

/-- A container is built from its compact text, if that is read back as it is. -/
theorem toNode_of_compact (hk : (Node.ofPlain j).kind = e.kind) (hc : e.kind.isPrimitive = false)
    (hv : e.value = .str j.compact) (hread : Json.read? j.compact = some j) :
    e.toNode = Node.ofPlain j := by
  have hcontent : e.content? = some j := by rw [content?, hv]; exact hread
  unfold toNode
  cases hek : e.kind with
  | object => simp [hcontent, hk, hek]
  | array => simp [hcontent, hk, hek]
  | string => rw [hek] at hc; cases hc
  | number => rw [hek] at hc; cases hc
  | boolean => rw [hek] at hc; cases hc

/-- A number is built as it is read. -/
theorem toNode_number {x : Float} (hk : e.kind = .number)
    (hx : Scalar.ofJson? e.value = some (.number x)) : e.toNode = .leaf {} (.number x) := by
  obtain ⟨kind, value, g⟩ := e
  obtain rfl : kind = .number := hk
  cases value <;> cases hx <;> rfl

/-- The node of an entry at the top level of a tree, with the global flag of the entry. -/
def migrated (e : FlatEntry) : Node :=
  e.toNode.withTraits { e.toNode.traits with isGlobal := e.isGlobal }

theorem ofNode_withTraits (n : Node) (t : Traits) :
    ofNode (n.withTraits t) = { ofNode n with isGlobal := t.isGlobal } := by
  cases n <;> rfl

/-! ### From flat maps and back -/

/-- The entry is in the form in which nodes are flattened: containers are kept as the compact text
of canonical JSON of their kind. -/
def IsCanonical (e : FlatEntry) : Prop :=
  match e.kind with
  | .string => ∃ s, e.value = .str s
  | .boolean => ∃ b, e.value = .bool b
  | .number => e.value = .null ∨ e.value.IsSettledNumber
  | .object => ∃ ms, e.value = .str (Json.obj ms).compact ∧ (Json.obj ms).IsCanonical ∧
      (Json.obj ms).depth ≤ Json.maxDepth
  | .array => ∃ items, e.value = .str (Json.arr items).compact ∧ (Json.arr items).IsCanonical ∧
      (Json.arr items).depth ≤ Json.maxDepth

/-- The text of a container is written as it was read. -/
theorem value_ofNode_of_compact (hk : (Node.ofPlain j).kind = e.kind)
    (hc : e.kind.isPrimitive = false) (hv : e.value = .str j.compact) (hj : j.IsCanonical)
    (hdepth : j.depth ≤ Json.maxDepth) : (ofNode e.toNode).value = e.value := by
  rw [toNode_of_compact hk hc hv (hj.read?_compact hdepth), hv]
  have hnone : (Node.ofPlain j).value? = none := Node.value?_of_kind (hk ▸ hc)
  rw [ofNode]
  dsimp only
  rw [hnone, Node.toPlain_ofPlain j hj]

/-- **A canonical entry is what its node is flattened to.** -/
theorem value_ofNode_toNode (h : e.IsCanonical) : (ofNode e.toNode).value = e.value := by
  unfold IsCanonical at h
  cases hk : e.kind with
  | object =>
    rw [hk] at h
    obtain ⟨ms, hv, hj, hdepth⟩ := h
    exact value_ofNode_of_compact (by rw [hk, Node.ofPlain]; rfl) (by rw [hk]; rfl) hv hj hdepth
  | array =>
    rw [hk] at h
    obtain ⟨items, hv, hj, hdepth⟩ := h
    exact value_ofNode_of_compact (by rw [hk, Node.ofPlain]; rfl) (by rw [hk]; rfl) hv hj hdepth
  | string =>
    rw [hk] at h
    obtain ⟨s, hv⟩ := h
    simp only [toNode, hk, hv]
    rfl
  | boolean =>
    rw [hk] at h
    obtain ⟨b, hv⟩ := h
    simp only [toNode, hk, hv]
    rfl
  | number =>
    rw [hk] at h
    obtain hv | hv := h
    · simp only [toNode, hk, hv]
      have hnan : Decimal.nan.isFinite = false := by decide +kernel
      exact Scalar.toJson_of_not_isFinite hnan
    · obtain ⟨x, hx, hj⟩ := Scalar.toJson_of_isSettledNumber hv
      rw [toNode_number hk hx]
      exact hj

/-- **The entry that is flattened from what was migrated.** -/
theorem ofNode_migrated (h : e.IsCanonical) : ofNode e.migrated = e := by
  obtain ⟨kind, value, isGlobal⟩ := e
  rw [migrated, ofNode_withTraits, FlatEntry.mk.injEq]
  exact ⟨kind_toNode _, value_ofNode_toNode h, rfl⟩

end FlatEntry

theorem FlatMap.migrate_eq (m : FlatMap) : m.migrate =
    ⟨.object {} ((m.filter fun e => Path.isValidKey e.1).map fun e => (e.1, e.2.migrated))⟩ := rfl

theorem Tree.flatten_object (t : Traits) (cs : List (String × Node)) :
    flatten ⟨.object t cs⟩ = cs.map fun c => (c.1, FlatEntry.ofNode c.2) := rfl

/-- **Migrating a flat map and flattening the tree again gives the map back**, with the order of its
entries and their global flags, if its keys can be addressed and its entries are canonical. -/
theorem FlatMap.flatten_migrate {m : FlatMap} (hkeys : ∀ e ∈ m, Path.isValidKey e.1 = true)
    (hentries : ∀ e ∈ m, e.2.IsCanonical) : m.migrate.flatten = m := by
  rw [migrate_eq, Tree.flatten_object, List.filter_eq_self.mpr hkeys, List.map_map]
  calc m.map _ = m.map id := List.map_congr_left fun e he =>
        congrArg (Prod.mk e.1) (FlatEntry.ofNode_migrated (hentries e he))
    _ = m := List.map_id m

/-- Entries of every kind, with numbers at the bounds and a number beyond 64 bits in a container. -/
def inventory : FlatMap :=
  [("title", ⟨.string, .str "a.b", false⟩), ("open", ⟨.boolean, .bool true, true⟩),
    ("none", ⟨.number, .null, false⟩), ("count", ⟨.number, .int 9007199254740992, true⟩),
    ("parts", ⟨.object, .str "\x7b\"big\":1e+19,\"list\":[-3,\"é\"]\x7d", true⟩),
    ("log", ⟨.array, .str "[]", false⟩)]

theorem isCanonical_inventory : ∀ e ∈ inventory, e.2.IsCanonical := by
  have hbig : Json.IsSettledNumber (.double 1e19) := by
    have hwhole : Decimal.wholeNumber? 1e19 = some 10000000000000000000 := by decide +kernel
    refine ⟨by decide +kernel, fun n hn => ?_⟩
    obtain rfl := Option.some.inj (hwhole.symm.trans hn)
    decide
  have hsmall : Json.IsSettledNumber (.int (-3)) := by
    change (-3 : ℤ).natAbs ≤ 2 ^ 53
    decide
  have hcount : Json.IsSettledNumber (.int 9007199254740992) := by
    change (9007199254740992 : ℤ).natAbs ≤ 2 ^ 53
    decide
  have htext : (Json.obj [("big", .double 1e19), ("list", .arr [.int (-3), .str "é"])]).compact =
      "\x7b\"big\":1e+19,\"list\":[-3,\"é\"]\x7d" := by decide +kernel
  have hempty : (Json.arr []).compact = "[]" := by decide +kernel
  simp only [inventory, List.forall_mem_cons]
  exact ⟨⟨_, rfl⟩, ⟨_, rfl⟩, .inl rfl, .inr hcount,
    ⟨_, congrArg Json.str htext.symm, ⟨by decide, ⟨by decide, hbig⟩,
      ⟨by decide, hsmall, trivial, trivial⟩, trivial⟩, by decide +kernel⟩,
    ⟨[], congrArg Json.str hempty.symm, trivial, by decide⟩, nofun⟩

theorem FlatMap.flatten_migrate_inventory : (∀ e ∈ inventory, Path.isValidKey e.1 = true) ∧
    (∀ e ∈ inventory, e.2.IsCanonical) ∧ inventory.migrate.flatten = inventory := by
  have hkeys : ∀ e ∈ inventory, Path.isValidKey e.1 = true := by decide
  exact ⟨hkeys, isCanonical_inventory, flatten_migrate hkeys isCanonical_inventory⟩

/-! ### From trees and back -/

/-- What comes back for a node at the top level: its global flag is kept. -/
def Node.plainTop (n : Node) : Node := n.plain.withTraits { isGlobal := n.traits.isGlobal }

namespace FlatEntry

variable {n : Node}

theorem toNode_ofNode_number (t : Traits) (x : Float) :
    (ofNode (.leaf t (.number x))).toNode = .leaf {} (Scalar.number x).reread := by
  have hvalue : (ofNode (.leaf t (.number x))).value = (Scalar.number x).toJson := rfl
  obtain ⟨n, -, -, hj⟩ | ⟨-, hj⟩ | ⟨-, hj⟩ := Scalar.numberToJson_cases x
  · rw [toNode_number (x := Scalar.ofInt n) rfl (by rw [hvalue, Scalar.toJson, hj]; rfl),
      Scalar.reread, Scalar.toJson, hj]
    rfl
  · rw [toNode_number (x := x) rfl (by rw [hvalue, Scalar.toJson, hj]; rfl), Scalar.reread,
      Scalar.toJson, hj]
    rfl
  · have hkind : (ofNode (.leaf t (.number x))).kind = .number := rfl
    unfold toNode
    rw [hkind, hvalue, Scalar.reread, Scalar.toJson, hj]
    rfl

/-- **A node is built again from its entry.** -/
theorem toNode_ofNode (hr : n.isRegular = true) (hl : n.Lawful)
    (hf : n.isPrimitive = false → n.NumbersFinite)
    (hd : n.isPrimitive = false → n.toPlain.depth ≤ Json.maxDepth) :
    (ofNode n).toNode = n.plain := by
  cases hp : n.isPrimitive with
  | false =>
    have hplain := Node.ofPlain_toPlain n hr hl (hf hp)
    have hread : Json.read? n.toPlain.compact = some n.toPlain := by
      rw [Json.read?_of_spells (Json.spells_compact _) n.isExact_toPlain (hd hp),
        Node.sortKeys_toPlain]
    have hvalue : (ofNode n).value = .str n.toPlain.compact := by
      rw [ofNode]
      dsimp only
      rw [Node.value?_of_container hp]
    have hkind : n.kind.isPrimitive = false := by cases n <;> first | rfl | cases hp
    rw [toNode_of_compact (by rw [hplain]; exact n.kind_plain) hkind hvalue hread, hplain]
  | true =>
    cases n with
    | leaf t v =>
      cases v with
      | string s => rfl
      | boolean b => rfl
      | number x => exact toNode_ofNode_number t x
    | object t cs => cases hp
    | array t is => cases hp

theorem migrated_ofNode (hr : n.isRegular = true) (hl : n.Lawful)
    (hf : n.isPrimitive = false → n.NumbersFinite)
    (hd : n.isPrimitive = false → n.toPlain.depth ≤ Json.maxDepth) :
    (ofNode n).migrated = n.plainTop := by
  rw [migrated, toNode_ofNode hr hl hf hd, Node.traits_plain]
  rfl

end FlatEntry

namespace Node

variable {n m : Node} {s : String} {segments : List String}

/-- What comes back for a node to which these segments lead from the top level. -/
def plainAt : List String → Node → Node
  | [], n => n.plainTop
  | _ :: _, n => n.plain

@[simp] theorem kind_plainAt (segments : List String) (n : Node) :
    (n.plainAt segments).kind = n.kind := by
  cases segments with
  | nil => exact (kind_withTraits _ _).trans n.kind_plain
  | cons s segments => exact n.kind_plain

theorem kids_withTraits (n : Node) (t : Traits) : (n.withTraits t).kids = n.kids := by
  cases n <;> rfl

theorem child?_withTraits (n : Node) (t : Traits) (s : String) :
    (n.withTraits t).child? s = n.child? s := by
  cases n <;> rfl

theorem value?_withTraits (n : Node) (t : Traits) : (n.withTraits t).value? = n.value? := by
  cases n <;> rfl

@[simp] theorem value?_plainAt (segments : List String) (n : Node) :
    (n.plainAt segments).value? = n.value?.map Scalar.reread := by
  cases segments with
  | nil => exact (value?_withTraits _ _).trans n.value?_plain
  | cons s segments => exact n.value?_plain

theorem traits_withTraits (n : Node) (t : Traits) : (n.withTraits t).traits = t := by
  cases n <;> rfl

theorem leads_plainTop (h : n.Leads segments m) :
    n.plainTop.Leads segments (m.plainAt segments) := by
  cases segments with
  | nil => exact congrArg plainTop h
  | cons s segments =>
    obtain ⟨c, hc, hl⟩ := leads_plain h
    exact ⟨c, by rwa [plainTop, kids_withTraits], hl⟩

theorem leads_of_plainTop (h : n.plainTop.Leads segments m) :
    ∃ m', n.Leads segments m' ∧ m = m'.plainAt segments := by
  cases segments with
  | nil => exact ⟨n, rfl, h.symm⟩
  | cons s segments =>
    obtain ⟨c, hc, hl⟩ := h
    rw [plainTop, kids_withTraits] at hc
    exact leads_of_plain ⟨c, hc, hl⟩

theorem get?_plainTop (h : n.isRegular = true) : ∀ segments : List String,
    n.plainTop.get? segments = (n.get? segments).map (plainAt segments)
  | [] => rfl
  | s :: segments => by
    have hplain := get?_plain h (s :: segments)
    rw [get?, plainTop, child?_withTraits]
    exact hplain

/-- The children of every object that comes back are in the order of their keys. -/
theorem ascending_of_plain {r : Traits} {cs : List (String × Node)} (h : n.isRegular = true)
    (hn : n.plain = object r cs) : Json.Ascending cs := by
  cases n with
  | object t cs' =>
    have hplain : (object t cs').plain =
        object {} ((Json.sortMembers cs').map fun c => (c.1, c.2.plain)) :=
      arranged_recast_object (fun _ => {}) Scalar.reread true t (nodup_of_isRegular h)
    rw [hplain] at hn
    obtain ⟨-, rfl⟩ := object.inj hn
    rw [Json.ascending_iff, List.map_map]
    exact Json.ascending_iff.mp (Json.ascending_sortMembers cs')
  | array t is => cases hn
  | leaf t v => cases hn

theorem ascending_of_plainAt {r : Traits} {cs : List (String × Node)} (h : n.isRegular = true)
    (hn : n.plainAt segments = object r cs) : Json.Ascending cs := by
  cases segments with
  | nil =>
    rw [plainAt, plainTop] at hn
    cases hp : n.plain with
    | object r' cs' =>
      rw [hp] at hn
      obtain ⟨-, rfl⟩ := object.inj hn
      exact ascending_of_plain h hp
    | array r' is => rw [hp] at hn; cases hn
    | leaf r' v => rw [hp] at hn; cases hn
  | cons s segments => exact ascending_of_plain h hn

end Node

namespace Tree

variable {t : Tree} {s : String} {segments : List String} {n : Node}

/-- What comes back for a tree that is flattened and migrated. -/
def regrown (t : Tree) : Tree := ⟨.object {} (t.root.kids.map fun c => (c.1, c.2.plainTop))⟩

theorem leads_regrown (h : t.root.Leads (s :: segments) n) :
    t.regrown.root.Leads (s :: segments) (n.plainAt segments) := by
  obtain ⟨c, hc, hl⟩ := h
  exact ⟨c.plainTop, List.mem_map.mpr ⟨(s, c), hc, rfl⟩, Node.leads_plainTop hl⟩

theorem leads_of_regrown (h : t.regrown.root.Leads (s :: segments) n) :
    ∃ m, t.root.Leads (s :: segments) m ∧ n = m.plainAt segments := by
  obtain ⟨c', hc', hl⟩ := h
  obtain ⟨⟨k, c⟩, hc, he⟩ := List.mem_map.mp hc'
  obtain ⟨rfl, rfl⟩ := Prod.mk.inj he
  obtain ⟨m, hm, rfl⟩ := Node.leads_of_plainTop hl
  exact ⟨m, ⟨c, hc, hm⟩, rfl⟩

theorem Valid.exists_root (h : t.Valid) : ∃ r cs, t.root = .object r cs := by
  have hk := h.kind_root
  generalize t.root = root at hk
  cases root with
  | object r cs => exact ⟨r, cs, rfl⟩
  | array r is => cases hk
  | leaf r v => cases v <;> cases hk

/-- What is found in a tree that came back. -/
theorem get?_regrown (h : t.Valid) : ∀ segments : List String, t.regrown.root.get? segments =
    (t.root.get? segments).map fun n => match segments with
      | [] => t.regrown.root
      | _ :: segments => n.plainAt segments
  | [] => rfl
  | s :: segments => by
    obtain ⟨r, cs, hroot⟩ := h.exists_root
    have hchild : t.regrown.root.child? s = (t.root.child? s).map Node.plainTop := by
      rw [regrown, hroot]
      exact Json.lookup_map Node.plainTop cs
    rw [Node.get?, Node.get?, hchild]
    cases hc : t.root.child? s with
    | none => rfl
    | some c =>
      obtain ⟨s', hs'⟩ := Node.exists_mem_kids_of_child? hc
      exact Node.get?_plainTop (Node.isRegular_of_mem_kids h.regular hs') segments

/-- **Flattening a tree and migrating it back** gives the tree that is built from its plain JSON, if
the numbers in containers are finite and the containers not nested too deeply for a text. -/
theorem migrate_flatten (h : t.Valid)
    (hf : ∀ c ∈ t.root.kids, c.2.isPrimitive = false → c.2.NumbersFinite)
    (hd : ∀ c ∈ t.root.kids, c.2.isPrimitive = false → c.2.toPlain.depth ≤ Json.maxDepth) :
    t.flatten.migrate = t.regrown := by
  obtain ⟨r, cs, hroot⟩ := h.exists_root
  obtain ⟨root⟩ := t
  obtain rfl : root = .object r cs := hroot
  have hlawful := (check_eq_ok_iff.mp h.checked).nodes
  have hkeys : ∀ e ∈ cs.map fun c => (c.1, FlatEntry.ofNode c.2), Path.isValidKey e.1 = true :=
    List.forall_mem_map.mpr fun c hc => ((Node.lawful_object.mp hlawful).2 c.1 c.2 hc).1
  rw [flatten_object, FlatMap.migrate_eq, List.filter_eq_self.mpr hkeys, List.map_map, regrown]
  refine congrArg (fun cs => Tree.mk (.object {} cs)) (List.map_congr_left fun c hc =>
    congrArg (Prod.mk c.1) ?_)
  exact FlatEntry.migrated_ofNode (Node.isRegular_of_mem_kids h.regular hc)
    ((Node.lawful_object.mp hlawful).2 c.1 c.2 hc).2 (hf c hc) (hd c hc)

/-- One tree has come back for another: structure and values are kept, traits other than the global
flags of the top level are gone, and below the top level children are in the order of their keys. -/
structure RebuiltFrom (t' t : Tree) : Prop where
  top : (t'.root.kids.map fun c => (c.1, c.2.kind, c.2.traits.isGlobal)) =
    t.root.kids.map fun c => (c.1, c.2.kind, c.2.traits.isGlobal)
  paths : ∀ path, path ∈ (t'.entries .everything).map (·.path) ↔
    path ∈ (t.entries .everything).map (·.path)
  kinds : ∀ path, (t'.get? path).map (·.kind) = (t.get? path).map (·.kind)
  values : ∀ path v, t.value? path = some v →
    ∃ v', t'.value? path = some v' ∧ v'.same v.settled = true
  sorted : ∀ e ∈ t'.entries .everything, ∀ r cs, e.node = .object r cs → Json.Ascending cs
  root : t'.root.traits = {}
  traits : ∀ e ∈ t'.entries .everything,
    e.node.traits = {} ∨ (e.path, e.node) ∈ t'.root.kids ∧ e.node.traits = { isGlobal := true }

theorem mem_paths {path : String} : path ∈ (t.entries .everything).map (·.path) ↔
    ∃ s segments n, t.root.Leads (s :: segments) n ∧ path = Path.ofSegments "" (s :: segments) := by
  rw [List.mem_map]
  constructor
  · rintro ⟨e, he, rfl⟩
    obtain ⟨s, segments, hl, hp, -⟩ := (mem_entries rfl).mp he
    exact ⟨s, segments, e.node, hl, hp⟩
  · rintro ⟨s, segments, n, hl, rfl⟩
    exact ⟨⟨_, n⟩, (mem_entries rfl).mpr ⟨s, segments, hl, rfl, shows_everything n⟩, rfl⟩

theorem kind_get?_regrown (h : t.Valid) (path : String) :
    (t.regrown.get? path).map (·.kind) = (t.get? path).map (·.kind) := by
  rw [get?, get?]
  split
  · rename_i segments _
    rw [get?_regrown h, Option.map_map]
    refine Option.map_congr fun n hn => ?_
    cases segments with
    | nil =>
      obtain rfl := Option.some.inj hn
      exact h.kind_root.symm
    | cons s segments => exact n.kind_plainAt segments
  · rfl

theorem value?_regrown (h : t.Valid) {path : String} {v : Scalar} (hv : t.value? path = some v) :
    t.regrown.value? path = some v.reread := by
  obtain ⟨n, hn, hnv⟩ := Option.bind_eq_some_iff.mp hv
  obtain ⟨segments, hs, hn⟩ := exists_split_of_get? hn
  rw [value?, get?_eq hs, get?_regrown h, hn]
  cases segments with
  | nil =>
    obtain rfl := Option.some.inj hn
    rw [Node.value?_of_container h.isPrimitive_root] at hnv
    cases hnv
  | cons s segments => exact (n.value?_plainAt segments).trans (congrArg (Option.map _) hnv)

/-- The traits that come back. -/
theorem traits_plainAt (segments : List String) (n : Node) : (n.plainAt segments).traits = {} ∨
    segments = [] ∧ (n.plainAt segments).traits = { isGlobal := true } := by
  cases segments with
  | nil =>
    have htraits : n.plainTop.traits = { isGlobal := n.traits.isGlobal } :=
      Node.traits_withTraits _ _
    change n.plainTop.traits = _ ∨ _ ∧ n.plainTop.traits = _
    rw [htraits]
    cases n.traits.isGlobal with
    | false => exact .inl rfl
    | true => exact .inr ⟨rfl, rfl⟩
  | cons s segments => exact .inl n.traits_plain

theorem regrown_rebuiltFrom (h : t.Valid) : t.regrown.RebuiltFrom t where
  top := by
    change List.map _ (t.root.kids.map fun c => (c.1, c.2.plainTop)) = _
    rw [List.map_map]
    refine List.map_congr_left fun c _ => ?_
    have hflag : c.2.plainTop.traits.isGlobal = c.2.traits.isGlobal := by
      rw [Node.plainTop, Node.traits_withTraits]
    exact congrArg (Prod.mk c.1) (Prod.ext (c.2.kind_plainAt []) hflag)
  paths path := by
    rw [mem_paths, mem_paths]
    constructor
    · rintro ⟨s, segments, n, hl, rfl⟩
      obtain ⟨m, hm, -⟩ := leads_of_regrown hl
      exact ⟨s, segments, m, hm, rfl⟩
    · rintro ⟨s, segments, n, hl, rfl⟩
      exact ⟨s, segments, _, leads_regrown hl, rfl⟩
  kinds := kind_get?_regrown h
  values path v hv := ⟨v.reread, value?_regrown h hv, v.same_reread⟩
  sorted e he r cs hn := by
    obtain ⟨s, segments, hl, -, -⟩ := (mem_entries rfl).mp he
    obtain ⟨m, hm, hem⟩ := leads_of_regrown hl
    exact Node.ascending_of_plainAt (h.sound.of_leads hm).regular (hem.symm.trans hn)
  root := rfl
  traits e he := by
    obtain ⟨s, segments, hl, hp, -⟩ := (mem_entries rfl).mp he
    obtain ⟨m, hm, hem⟩ := leads_of_regrown hl
    rw [hem]
    refine (traits_plainAt segments m).imp_right ?_
    rintro ⟨rfl, htraits⟩
    obtain ⟨c, hc, hce⟩ := hl
    have hpath : e.path = s := by simpa [Path.join] using hp
    have hnode : c = m.plainAt [] := Eq.trans hce hem
    exact ⟨by rw [hpath, ← hnode]; exact hc, htraits⟩

/-- **Flattening a tree and migrating it back keeps structure and values.** -/
theorem rebuiltFrom_migrate_flatten (h : t.Valid)
    (hf : ∀ c ∈ t.root.kids, c.2.isPrimitive = false → c.2.NumbersFinite)
    (hd : ∀ c ∈ t.root.kids, c.2.isPrimitive = false → c.2.toPlain.depth ≤ Json.maxDepth) :
    t.flatten.migrate.RebuiltFrom t :=
  migrate_flatten h hf hd ▸ regrown_rebuiltFrom h

/-- A global limit that is not finite, and a watched panel whose keys are not in order. -/
def console : Tree :=
  ⟨.object {} [("limit", .leaf { isGlobal := true } (.number (-1 / 0))),
    ("panel", .object { watchers := ["value"], isGlobal := true }
      [("size", .leaf { expression := some "2" } (.number 1e22)),
        ("dots", .array {} [.leaf {} (.number (-0.0)), .object { isGlobal := true } []])])]⟩

theorem numbersFinite_console : ∀ c ∈ console.root.kids,
    c.2.isPrimitive = false → c.2.NumbersFinite := by
  refine List.forall_mem_cons.mpr ⟨nofun, List.forall_mem_singleton.mpr fun _ => ?_⟩
  refine Node.numbersFinite_iff.mpr ⟨nofun, List.forall_mem_cons.mpr ⟨?_,
    List.forall_mem_singleton.mpr ?_⟩⟩
  · refine Node.numbersFinite_iff.mpr ⟨fun x hx => ?_, nofun⟩
    cases hx
    decide +kernel
  · refine Node.numbersFinite_iff.mpr ⟨nofun, List.forall_mem_cons.mpr ⟨?_,
      List.forall_mem_singleton.mpr ?_⟩⟩
    · refine Node.numbersFinite_iff.mpr ⟨fun x hx => ?_, nofun⟩
      cases hx
      decide +kernel
    · exact Node.numbersFinite_iff.mpr ⟨nofun, nofun⟩

theorem rebuiltFrom_migrate_flatten_console : console.Valid ∧
    (∀ c ∈ console.root.kids, c.2.isPrimitive = false → c.2.NumbersFinite) ∧
    (∀ c ∈ console.root.kids, c.2.isPrimitive = false → c.2.toPlain.depth ≤ Json.maxDepth) ∧
    console.flatten.migrate.RebuiltFrom console ∧
    (console.flatten.migrate.entries .everything).map (·.path) =
      ["limit", "panel", "panel.dots", "panel.dots.0", "panel.dots.1", "panel.size"] := by
  have hvalid : console.Valid := ⟨rfl, rfl⟩
  have hdepth : ∀ c ∈ console.root.kids,
      c.2.isPrimitive = false → c.2.toPlain.depth ≤ Json.maxDepth := by decide +kernel
  exact ⟨hvalid, numbersFinite_console, hdepth,
    rebuiltFrom_migrate_flatten hvalid numbersFinite_console hdepth, by decide +kernel⟩

end Tree
end ReactiveTree
