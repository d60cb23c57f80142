import ReactiveTree.Proofs.Documents.Saving
import ReactiveTree.Proofs.Plain
import ReactiveTree.Proofs.Reaction.Watching

/-!
# Snapshots that are written and read back

A snapshot is written as one object, each value as a tree document has it, and read by the look of
the values alone. Text, truth values and finite numbers look like what they are. A number that is
not finite is written as `null`, as in a tree, but no snapshot has a value that looks so, and the
reader refuses the whole file (`Snapshot.ofText_pretty`). So the snapshot of a tree is read back if
and only if all numbers of the tree are finite (`Snapshot.ofText_capture`).

Key definitions: `Scalar.isFinite`.
Key theorems: `Snapshot.readValue_toWire`, `Snapshot.readEntries_written`,
`Snapshot.ofText_pretty`, `Snapshot.ofText_capture`.
-/
namespace ReactiveTree

/-- The value is no number, or a finite one. -/
def Scalar.isFinite : Scalar → Bool
  | .number x => x.isFinite
  | _ => true

namespace Snapshot

variable {s : Snapshot} {t : Tree}

/-! ### Values -/

/-- A value is read as itself, unless it is a number that is not finite. -/
theorem readValue_toWire (v : Scalar) :
    readValue v.toWire = if v.isFinite then .ok v else .error .shape := by
  cases v with
  | string s => rfl
  | boolean b => rfl
  | number x =>
    rw [Scalar.toWire, Scalar.isFinite]
    split <;> rfl

/-- Values are read one after another up to the first that is not finite. -/
theorem readEntries_written : ∀ (ms acc : List (String × Scalar)), ((acc ++ ms).map (·.1)).Nodup →
    Json.readEntries readValue acc (ms.map fun m => (m.1, m.2.toWire)) =
      if ms.all (·.2.isFinite) then .ok (acc ++ ms) else .error .shape
  | [], acc, _ => by
    rw [List.append_nil]
    rfl
  | (path, v) :: ms, acc, hn => by
    have hnew : path ∉ acc.map (·.1) := by
      rw [List.map_append, List.map_cons] at hn
      intro hp
      exact List.disjoint_of_nodup_append hn hp List.mem_cons_self
    have happend : acc ++ (path, v) :: ms = (acc ++ [(path, v)]) ++ ms := by simp
    rw [happend] at hn ⊢
    rw [List.map_cons, Json.readEntries, readValue_toWire, List.all_cons]
    cases hv : v.isFinite with
    | false => rfl
    | true =>
      simp only [if_true, Bool.true_and]
      rw [Json.upsert_of_new v hnew, readEntries_written ms _ hn]

/-! ### Texts -/

theorem isExact_toWire (s : Snapshot) : s.toWire.IsExact := by
  rw [toWire, Json.IsExact, Json.membersExact_iff, List.forall_mem_map]
  exact fun m _ => m.2.isExact_toWire

theorem depth_toWire (s : Snapshot) : s.toWire.depth = 1 := by
  have hvalue : ∀ v : Scalar, v.toWire.depth = 0 := by
    intro v
    cases v with
    | string s => rfl
    | boolean b => rfl
    | number x =>
      rw [Scalar.toWire]
      split <;> rfl
  have hflat : ∀ ms : List (String × Scalar),
      Json.membersDepth (ms.map fun m => (m.1, m.2.toWire)) = 0 := by
    intro ms
    induction ms with
    | nil => rfl
    | cons m ms ih =>
      rw [List.map_cons, Json.membersDepth, ih, hvalue]
      rfl
  rw [toWire, Json.depth, hflat]

/-- **A snapshot is read back from its text, unless it holds a number that is not finite.** -/
theorem ofText_pretty (hs : Json.Ascending s.values) : ofText s.toWire.pretty =
    if s.values.all (·.2.isFinite) then .ok s else .error .shape := by
  have hdepth : s.toWire.depth ≤ Json.maxDepth := by
    rw [depth_toWire]
    decide
  have hscan := Json.scan_of_spells (Json.spells_pretty s.toWire) s.isExact_toWire hdepth
  have hread : read s.toWire = if s.values.all (·.2.isFinite) then .ok s else .error .shape := by
    rw [read, toWire, Json.readMap, readEntries_written s.values [] hs.nodup, List.nil_append]
    split
    · rw [Except.map, Json.sortMembers_of_ascending hs]
    · rfl
  rw [ofText, Json.readDocument, hscan]
  dsimp only
  rw [hread]
  by_cases h : s.values.all (·.2.isFinite) = true
  · simp only [h, if_true]
  · simp only [h, if_false, Bool.false_eq_true]

/-! ### The snapshot of a tree -/

theorem mem_capture (ht : t.Valid) {m : String × Scalar} :
    m ∈ (capture t).values ↔ ∃ entry ∈ t.primitives, entry.path = m.1 ∧
      entry.node.value? = some m.2 := by
  have hmem : m ∈ (capture t).values ↔ m ∈ t.listedValues :=
    (Json.perm_sortMembers (Tree.nodup_listedValues ht)).mem_iff
  rw [hmem, Tree.listedValues, List.mem_filterMap]
  constructor
  · rintro ⟨entry, he, hm⟩
    obtain ⟨v, hv, rfl⟩ := Option.map_eq_some_iff.mp hm
    exact ⟨entry, he, rfl, hv⟩
  · rintro ⟨entry, he, hp, hv⟩
    exact ⟨entry, he, by rw [hv, hp]; rfl⟩

theorem all_isFinite_capture (ht : t.Valid) :
    (capture t).values.all (·.2.isFinite) = true ↔ t.root.NumbersFinite := by
  rw [List.all_eq_true]
  constructor
  · intro h segments n x hl hx
    have hprim : n.isPrimitive = true := by
      cases n with
      | leaf r v => rfl
      | object r cs => cases hx
      | array r is => cases hx
    have he := Tree.mem_primitives_of_leads ht hl hprim
    exact h (_, .number x) ((mem_capture ht).mpr ⟨_, he, rfl, hx⟩)
  · rintro h ⟨path, v⟩ hm
    obtain ⟨entry, he, -, hv⟩ := (mem_capture ht).mp hm
    obtain ⟨s, segments, hl, -, -⟩ := Tree.mem_primitives.mp he
    cases v with
    | string s => rfl
    | boolean b => rfl
    | number x => exact h _ _ _ hl hv

/-- **The snapshot of a tree is read back if and only if all numbers of the tree are finite.** -/
theorem ofText_capture (ht : t.Valid) :
    (t.root.NumbersFinite → ofText (capture t).toWire.pretty = .ok (capture t)) ∧
      (¬ t.root.NumbersFinite → ofText (capture t).toWire.pretty = .error .shape) := by
  have htext := ofText_pretty (s := capture t) (Json.ascending_sortMembers _)
  rw [← all_isFinite_capture ht, htext]
  constructor
  · exact fun h => if_pos h
  · exact fun h => if_neg h

end Snapshot
end ReactiveTree
