import ReactiveTree.Proofs.FlatMaps
import ReactiveTree.Proofs.Json.Records

/-!
# Importing documents

Whatever text is imported, the answer is a tree that keeps the rules or a refusal of the text, of a
missing version or of a later version. That a tree which was read breaks the rules is never the
answer: a tree is checked where it is read (`Tree.lawful_of_readCurrent`), and a flat map becomes a
tree that keeps the rules whatever its keys, kinds and values are.

Key theorems: `Tree.importDocument_cases`, `FlatMap.check_migrate`, `FlatMap.top_migrate`,
`Tree.importDocument_sound`.
-/
namespace ReactiveTree

namespace FlatMap

/-- The tree of a flat map keeps the rules. -/
theorem check_migrate (m : FlatMap) : m.migrate.check = .ok () :=
  Tree.check_eq_ok_iff.mpr (Tree.lawful_migrate m)

/-- **The top level of the tree of a flat map**: the keys that can be addressed, in their order,
with the kinds and the global flags of the entries. -/
theorem top_migrate (m : FlatMap) :
    (m.migrate.root.kids.map fun c => (c.1, c.2.kind, c.2.traits.isGlobal)) =
      (m.filter fun e => Path.isValidKey e.1).map fun e => (e.1, e.2.kind, e.2.isGlobal) := by
  rw [migrate_eq]
  change List.map _ (List.map _ _) = _
  rw [List.map_map]
  refine List.map_congr_left fun e _ => congrArg (Prod.mk e.1) ?_
  have hkind : e.2.migrated.kind = e.2.kind := (Node.kind_withTraits _ _).trans e.2.kind_toNode
  have hflag : e.2.migrated.traits.isGlobal = e.2.isGlobal := by
    rw [FlatEntry.migrated, Node.traits_withTraits]
  exact Prod.ext hkind hflag

end FlatMap

namespace Tree

variable {t : Tree} {text : String}

/-- The tree of a document of this version keeps the rules. -/
theorem lawful_of_readCurrent {j : Json} (h : readCurrent j = .ok t) : t.Lawful := by
  refine Json.readRecord_invariant (P := Lawful) ⟨rfl, Node.lawful_emptyObject⟩ ?_ h
  intro f hf j s s' _ hread
  obtain rfl := List.mem_singleton.mp hf
  obtain ⟨t, ht, rfl⟩ := Json.map_eq_ok.mp hread
  exact lawful_of_read ht

/-- Whichever version a document has, the tree in it keeps the rules. -/
theorem lawful_of_version {version : Nat} {j : Json} (h : (if version = 0 then
    (readProps j).map FlatMap.migrate else readCurrent j) = .ok t) : t.Lawful := by
  split at h
  · obtain ⟨m, -, rfl⟩ := Json.map_eq_ok.mp h
    exact lawful_migrate m
  · exact lawful_of_readCurrent h

/-- **The answers of an import.** -/
theorem importDocument_cases (text : String) :
    (∃ t, importDocument text = .ok t ∧ t.check = .ok ()) ∨
      (∃ fault, importDocument text = .error (.malformed fault)) ∨
      importDocument text = .error .unversioned ∨
      ∃ v, schemaVersion < v ∧ importDocument text = .error (.unsupportedVersion v) := by
  unfold importDocument
  cases Json.read? text with
  | none => exact .inr (.inl ⟨_, rfl⟩)
  | some j =>
    dsimp only
    cases readVersion j with
    | error e => exact .inr (.inl ⟨_, rfl⟩)
    | ok version =>
      cases version with
      | none => exact .inr (.inr (.inl rfl))
      | some v =>
        dsimp only
        by_cases hv : schemaVersion < v
        · exact .inr (.inr (.inr ⟨v, hv, if_pos hv⟩))
        rw [if_neg hv]
        cases hread : (if v = 0 then (readProps j).map FlatMap.migrate else readCurrent j) with
        | error e => exact .inr (.inl ⟨e, rfl⟩)
        | ok t =>
          have hcheck := check_eq_ok_iff.mpr (lawful_of_version hread)
          refine .inl ⟨t, ?_, hcheck⟩
          dsimp only
          rw [hcheck]

/-- **Importing is sound on every text, and migrating on every flat map.** An import answers with a
tree that keeps the rules, or refuses the text as malformed, without a version or of a later one;
it never finds that a tree breaks the rules. The tree of a flat map keeps the rules, and its top
level has just the keys of the map that can be addressed, in their order, with the kinds and the
global flags of the entries. -/
theorem importDocument_sound :
    (∀ text, (∃ t, importDocument text = .ok t ∧ t.check = .ok ()) ∨
      (∃ fault, importDocument text = .error (.malformed fault)) ∨
      importDocument text = .error .unversioned ∨
      ∃ v, 1 < v ∧ importDocument text = .error (.unsupportedVersion v)) ∧
    ∀ m : FlatMap, m.migrate.check = .ok () ∧
      (m.migrate.root.kids.map fun c => (c.1, c.2.kind, c.2.traits.isGlobal)) =
        (m.filter fun e => Path.isValidKey e.1).map fun e => (e.1, e.2.kind, e.2.isGlobal) :=
  ⟨importDocument_cases, fun m => ⟨m.check_migrate, m.top_migrate⟩⟩

end Tree
end ReactiveTree
