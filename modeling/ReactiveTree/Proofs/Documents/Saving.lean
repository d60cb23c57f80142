import ReactiveTree.Proofs.Documents.Nodes
import ReactiveTree.Proofs.Json.Texts
import ReactiveTree.Tree.Export

/-!
# Saving and loading

Nothing is lost between a tree and its text. The document of a tree says all of it but for numbers
that are not finite, as long as the bounds of its rules are finite (`Node.isExact_toWire`), so what
is scanned from its text is the tree itself. An exported document is read as a value with sorted
keys, and gives the tree in key order.

Key definitions: `Rules.BoundsFinite`, `Node.BoundsFinite`.
Key theorems: `Node.isExact_toWire`, `Tree.ofText_compact_and_importDocument`.
-/
namespace ReactiveTree

open Json (membersExact_iff itemsExact_iff)

/-- The bounds are finite, if there are any. -/
structure Rules.BoundsFinite (r : Rules) : Prop where
  min : ∀ x, r.min = some x → x.isFinite = true
  max : ∀ x, r.max = some x → x.isFinite = true

/-- The bounds of the rules are finite, here and at every node below. -/
def Node.BoundsFinite (n : Node) : Prop :=
  ∀ segments m, n.Leads segments m → ∀ r, m.traits.validation = some r → r.BoundsFinite

/-! ### Documents say all -/

theorem Rules.isExact_toWire {r : Rules} (h : r.BoundsFinite) : (r.toWire .double).IsExact := by
  rw [toWire, Json.IsExact, membersExact_iff]
  rintro ⟨k, j⟩ hm
  simp only [List.mem_append, mem_optional, mem_flag, Option.map_eq_some_iff] at hm
  rcases hm with ((((⟨-, -, rfl⟩ | ⟨-, x, hx, rfl⟩) | ⟨-, x, hx, rfl⟩) | ⟨-, s, -, rfl⟩) |
    ⟨-, s, -, rfl⟩) | ⟨-, s, -, rfl⟩
  · trivial
  · exact h.min x hx
  · exact h.max x hx
  all_goals trivial

theorem Traits.isExact_toWire {t : Traits} (h : ∀ r, t.validation = some r → r.BoundsFinite) :
    (t.toWire .double).IsExact := by
  rw [toWire, watchers_member, Json.IsExact, membersExact_iff]
  rintro ⟨k, j⟩ hm
  simp only [List.mem_append, mem_optional, mem_flag, Option.map_eq_some_iff] at hm
  rcases hm with ((((((⟨-, s, -, rfl⟩ | ⟨-, s, -, rfl⟩) | ⟨-, r, hr, rfl⟩) | ⟨-, hw⟩) |
    ⟨-, b, -, rfl⟩) | ⟨-, s, -, rfl⟩) | ⟨-, -, rfl⟩) | ⟨-, s, -, rfl⟩
  · trivial
  · trivial
  · exact Rules.isExact_toWire (h r hr)
  · split at hw
    · cases hw
    · obtain rfl := Option.some.inj hw
      rw [Json.IsExact, itemsExact_iff]
      intro j hj
      obtain ⟨script, -, rfl⟩ := List.mem_map.mp hj
      exact ⟨trivial, trivial⟩
  · exact ⟨trivial, trivial, trivial⟩
  all_goals trivial

theorem Scalar.isExact_toWire (v : Scalar) : v.toWire.IsExact := by
  cases v with
  | number x =>
    rw [toWire]
    split
    · assumption
    · trivial
  | string s => trivial
  | boolean b => trivial

namespace Node

variable {n m : Node} {s : String}

/-- Here, and at every child. -/
theorem boundsFinite_iff : n.BoundsFinite ↔
    (∀ r, n.traits.validation = some r → r.BoundsFinite) ∧ ∀ c ∈ n.kids, c.2.BoundsFinite := by
  rw [Prod.forall]
  exact forall_leads_iff

theorem isExact_member {t : Traits} (h : ∀ r, t.validation = some r → r.BoundsFinite) :
    ∀ m ∈ t.member, m.2.IsExact := by
  intro m hm
  unfold Traits.member at hm
  split at hm
  · cases hm
  · exact List.mem_singleton.mp hm ▸ Traits.isExact_toWire h

/-- **A text says all of a node's document**, if the bounds of its rules are finite. -/
theorem isExact_toWire (n : Node) : n.BoundsFinite → n.toWire.IsExact := by
  induction n using induct with
  | step n ih =>
    intro h
    obtain ⟨hhere, hbelow⟩ := boundsFinite_iff.mp h
    have hkids : ∀ s c, (s, c) ∈ n.kids → c.toWire.IsExact := fun s c hc =>
      ih s c hc (hbelow (s, c) hc)
    rw [toWire_eq, Json.IsExact, membersExact_iff]
    intro m hm
    rcases List.mem_append.mp hm with hm | hm
    · cases n with
      | object t cs =>
        rcases List.mem_cons.mp hm with rfl | hm
        · trivial
        · obtain rfl := List.mem_singleton.mp hm
          rw [Json.IsExact, membersExact_iff, childrenToWire_eq, List.forall_mem_map]
          exact fun c hc => hkids c.1 c.2 hc
      | array t is =>
        rcases List.mem_cons.mp hm with rfl | hm
        · trivial
        · obtain rfl := List.mem_singleton.mp hm
          rw [Json.IsExact, itemsExact_iff, itemsToWire_eq, List.forall_mem_map]
          intro c hc
          obtain ⟨s, hs⟩ := exists_mem_kids_of_mem (t := t) hc
          exact hkids s c hs
      | leaf t v =>
        rcases List.mem_cons.mp hm with rfl | hm
        · trivial
        · obtain rfl := List.mem_singleton.mp hm
          exact v.isExact_toWire
    · exact isExact_member hhere m hm

/-- What comes back keeps the rules of a tree. -/
theorem Lawful.restored (h : n.Lawful) (sorted : Bool) : (n.restored sorted).Lawful := by
  have hrecast : (n.recast id Scalar.settled).Lawful := by
    rw [← checkAt_eq_ok_iff "", checkAt_recast (f := id) (fun _ => rfl), checkAt_eq_ok_iff]
    exact h
  cases sorted with
  | true => exact hrecast.inKeyOrder
  | false => exact hrecast

theorem kind_restored (n : Node) (sorted : Bool) : (n.restored sorted).kind = n.kind := by
  have hrecast : (n.recast id Scalar.settled).kind = n.kind :=
    kind_recast _ Scalar.kind_settled n
  cases sorted with
  | true => exact (kind_inKeyOrder _).trans hrecast
  | false => exact hrecast

end Node

/-! ### Trees -/

namespace Tree

variable {t : Tree}

/-- A tree is made of what comes back for its root. -/
theorem ofRoot_restored (h : t.Lawful) (sorted : Bool) :
    ofRoot (t.root.restored sorted) = .ok ⟨t.root.restored sorted⟩ := by
  have hcheck : check ⟨t.root.restored sorted⟩ = .ok () :=
    check_eq_ok_iff.mpr ⟨(t.root.kind_restored sorted).trans h.root, h.nodes.restored sorted⟩
  rw [ofRoot, hcheck]

theorem read_toWire (h : t.Valid) (hsound : t.toWire.isSound = true) :
    read .text t.toWire = .ok ⟨t.root.restored false⟩ := by
  have hnode : Node.read .text t.toWire = .ok (t.root.restored false) :=
    Node.read_toWire h.regular hsound
  rw [read, hnode]
  dsimp only
  rw [ofRoot_restored (check_eq_ok_iff.mp h.checked)]

theorem read_sortKeys (h : t.Valid) :
    read .value t.toWire.sortKeys = .ok ⟨t.root.restored true⟩ := by
  have hnode : Node.read .value t.toWire.sortKeys = .ok (t.root.restored true) := by
    have hwire : Node.ofWire? t.toWire.sortKeys = some (t.root.restored true) :=
      Node.ofWire?_arranged true t.root h.regular
    rw [Node.read, hwire]
    rfl
  rw [read, hnode]
  dsimp only
  rw [ofRoot_restored (check_eq_ok_iff.mp h.checked)]

/-! ### Exported documents -/

/-- An exported document, with this tree in it. -/
def exported (time : String) (tree : Json) : Json :=
  .obj [("schemaVersion", .int schemaVersion), ("exportedAt", .str time), ("tree", tree)]

theorem sortKeys_exported (time : String) (tree : Json) : (exported time tree).sortKeys =
    .obj [("exportedAt", .str time), ("schemaVersion", .int schemaVersion),
      ("tree", tree.sortKeys)] := by
  have hascending : Json.Ascending [("exportedAt", Json.str time),
      ("schemaVersion", .int schemaVersion), ("tree", tree.sortKeys)] :=
    Json.ascending_iff.mpr
      (by decide : ["exportedAt", "schemaVersion", "tree"].Pairwise (· < ·))
  exact congrArg Json.obj (Json.sortMembers_of_perm (List.Perm.swap _ _ _) hascending)

theorem readVersion_exported (time : String) {tree : Json} (h : tree.isWellWritten = true) :
    readVersion (.obj [("exportedAt", .str time), ("schemaVersion", .int schemaVersion),
      ("tree", tree)]) = .ok (some schemaVersion) := by
  simp [readVersion, Json.readRecord, Json.readFields, fieldOf, h, Json.isWellWritten,
    Json.readOption, Json.readNat, Except.map]

theorem readCurrent_exported (time : String) {tree : Json} (h : read .value tree = .ok t) :
    readCurrent (.obj [("exportedAt", .str time), ("schemaVersion", .int schemaVersion),
      ("tree", tree)]) = .ok t := by
  simp [readCurrent, Json.readRecord, Json.readFields, fieldOf, h, Json.isWellWritten, Except.map]

theorem importDocument_exported (h : t.Valid) (hb : t.root.BoundsFinite)
    (hd : t.toWire.depth < Json.maxDepth) (time : String) :
    importDocument (t.exportDocument time) = .ok ⟨t.root.restored true⟩ := by
  have hexact : t.toWire.IsExact := t.root.isExact_toWire hb
  have hdepth : (exported time t.toWire).depth ≤ Json.maxDepth := by
    simp only [exported, Json.depth, Json.membersDepth]
    omega
  have hread : Json.read? (t.exportDocument time) = some (exported time t.toWire).sortKeys :=
    Json.read?_of_spells (Json.spells_pretty (exported time t.toWire))
      ⟨⟨by decide, by decide⟩, trivial, hexact, trivial⟩ hdepth
  have hwell := Json.isWellWritten_sortKeys _ (Json.isSound_of_isExact _ hexact)
  have hlawful : Lawful ⟨t.root.restored true⟩ :=
    ⟨(t.root.kind_restored true).trans h.kind_root,
      (check_eq_ok_iff.mp h.checked).nodes.restored true⟩
  rw [importDocument, hread, sortKeys_exported]
  dsimp only
  rw [readVersion_exported time hwell]
  dsimp only
  rw [if_neg (by decide : ¬ schemaVersion = 0), if_neg (lt_irrefl schemaVersion),
    readCurrent_exported time (read_sortKeys h)]
  dsimp only
  rw [check_eq_ok_iff.mpr hlawful]

/-- **Saving and loading loses nothing.** What is read from the compact text of a tree is the tree
itself, with every kind, value and trait and the order of all children, but that numbers that are
not finite come back as NaN; what is imported from an exported document is that tree with the
children of every object in the order of their keys. -/
theorem ofText_compact_and_importDocument (h : t.Valid) (hb : t.root.BoundsFinite)
    (hd : t.toWire.depth ≤ Json.maxDepth) :
    ofText t.toWire.compact = .ok ⟨t.root.recast id Scalar.settled⟩ ∧
      (t.toWire.depth < Json.maxDepth → ∀ time, importDocument (t.exportDocument time) =
        .ok ⟨(t.root.recast id Scalar.settled).inKeyOrder⟩) := by
  have hexact : t.toWire.IsExact := t.root.isExact_toWire hb
  refine ⟨?_, importDocument_exported h hb⟩
  rw [ofText, Json.readDocument, Json.scan_of_spells (Json.spells_compact _) hexact hd]
  dsimp only
  rw [read_toWire h (Json.isSound_of_isExact _ hexact)]
  rfl

/-- The traits of a reading that is bounded and watched. -/
def reading : Traits where
  validation := some { required := true, min := some (-0.5), max := some 1e21 }
  watchers := ["value"]

/-- A gauge whose reading is not finite; its keys are not in order. -/
def gauge : Tree :=
  ⟨.object {} [("reading", .leaf reading (.number (1 / 0))),
    ("log", .array {} [.leaf {} (.string "5 °C\n"), .object {}
      [("late", .leaf {} (.boolean true)), ("by", .leaf {} (.number 0.1))]])]⟩

theorem boundsFinite_gauge : gauge.root.BoundsFinite := by
  have hplain : ∀ v, (Node.leaf {} v).BoundsFinite := fun v =>
    Node.boundsFinite_iff.mpr ⟨nofun, nofun⟩
  have hfinite : (-0.5 : Float).isFinite = true ∧ (1e21 : Float).isFinite = true := by
    decide +kernel
  refine Node.boundsFinite_iff.mpr ⟨nofun, List.forall_mem_cons.mpr
    ⟨Node.boundsFinite_iff.mpr ⟨fun r hr => ?_, nofun⟩, List.forall_mem_singleton.mpr ?_⟩⟩
  · obtain rfl := Option.some.inj hr
    exact ⟨fun x hx => Option.some.inj hx ▸ hfinite.1, fun x hx => Option.some.inj hx ▸ hfinite.2⟩
  · refine Node.boundsFinite_iff.mpr ⟨nofun, List.forall_mem_cons.mpr
      ⟨hplain _, List.forall_mem_singleton.mpr ?_⟩⟩
    exact Node.boundsFinite_iff.mpr ⟨nofun, List.forall_mem_cons.mpr
      ⟨hplain _, List.forall_mem_singleton.mpr (hplain _)⟩⟩

theorem ofText_compact_and_importDocument_gauge : gauge.Valid ∧ gauge.root.BoundsFinite ∧
    gauge.toWire.depth < Json.maxDepth ∧
    ofText gauge.toWire.compact = .ok
      ⟨.object {} [("reading", .leaf reading (.number Decimal.nan)),
        ("log", .array {} [.leaf {} (.string "5 °C\n"), .object {}
          [("late", .leaf {} (.boolean true)), ("by", .leaf {} (.number 0.1))]])]⟩ ∧
    importDocument (gauge.exportDocument "2024-01-01") = .ok
      ⟨.object {} [("log", .array {} [.leaf {} (.string "5 °C\n"), .object {}
          [("by", .leaf {} (.number 0.1)), ("late", .leaf {} (.boolean true))]]),
        ("reading", .leaf reading (.number Decimal.nan))]⟩ := by
  have hvalid : gauge.Valid := ⟨rfl, rfl⟩
  have hdepth : gauge.toWire.depth < Json.maxDepth := by decide +kernel
  have hinf : (1 / 0 : Float).isFinite = false := by decide +kernel
  have hfinite : (0.1 : Float).isFinite = true := by decide +kernel
  obtain ⟨htext, himport⟩ :=
    ofText_compact_and_importDocument hvalid boundsFinite_gauge hdepth.le
  refine ⟨hvalid, boundsFinite_gauge, hdepth, ?_, ?_⟩
  · rw [htext]
    simp [gauge, Node.recast, Node.recastChildren, Node.recastItems, Scalar.settled, hinf, hfinite]
  · rw [himport hdepth]
    simp only [gauge, Node.recast, Node.recastChildren, Node.recastItems, Node.inKeyOrder,
      Node.childrenInKeyOrder, Node.itemsInKeyOrder]
    rw [Node.mergeSort_pair (by decide), Node.mergeSort_pair (by decide)]
    simp [Scalar.settled, hinf, hfinite]

end Tree
end ReactiveTree
