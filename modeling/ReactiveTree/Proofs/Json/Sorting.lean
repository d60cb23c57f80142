import Mathlib.Data.String.Basic
import Mathlib.Data.List.Sort
import ReactiveTree.Proofs.Members

/-!
# Members in the order of their keys

Members that are sorted stand in ascending order of their keys (`ascending_sortMembers`), are the
members that were there, if no key was repeated (`perm_sortMembers`), and stay as they are when
they are sorted once more (`sortMembers_of_ascending`). Sorting looks at keys alone, so it commutes
with every change of the values (`sortMembers_map`).

Key definitions: `Json.Ascending`.
Key theorems: `Json.ascending_sortMembers`, `Json.perm_sortMembers`,
`Json.sortMembers_of_ascending`, `Json.sortMembers_map`.
-/
namespace ReactiveTree.Json

variable {α β : Type} {key : String} {v : α} {m : String × α} {ms acc : List (String × α)}

/-- The keys ascend, so no key is repeated. -/
def Ascending (ms : List (String × α)) : Prop := ms.Pairwise fun a b => a.1 < b.1

instance (ms : List (String × α)) : Decidable (Ascending ms) :=
  inferInstanceAs (Decidable (ms.Pairwise fun a b => a.1 < b.1))

/-- Only the keys matter. -/
theorem ascending_iff : Ascending ms ↔ (ms.map (·.1)).Pairwise (· < ·) :=
  List.pairwise_map.symm

theorem Ascending.nodup (h : Ascending ms) : (ms.map (·.1)).Nodup := by
  rw [List.Nodup, List.pairwise_map]
  exact h.imp fun hlt => ne_of_lt hlt

/-! ### Insertion -/

theorem mem_of_mem_insertSorted : ∀ {ms : List (String × α)}, m ∈ insertSorted key v ms →
    m = (key, v) ∨ m ∈ ms
  | [], h => .inl (List.mem_singleton.mp h)
  | (k, w) :: ms, h => by
    unfold insertSorted at h
    split at h
    · exact (List.mem_cons.mp h).imp_right (List.mem_cons_of_mem _)
    · split at h
      · exact List.mem_cons.mp h
      · rcases List.mem_cons.mp h with h | h
        · exact .inr (h ▸ List.mem_cons_self)
        · exact (mem_of_mem_insertSorted h).imp_right (List.mem_cons_of_mem _)

theorem ascending_insertSorted (key : String) (v : α) : ∀ {ms : List (String × α)},
    Ascending ms → Ascending (insertSorted key v ms)
  | [], _ => List.pairwise_singleton _ _
  | (k, w) :: ms, h => by
    obtain ⟨hfirst, hrest⟩ := List.pairwise_cons.mp h
    unfold insertSorted
    split
    · rename_i hk
      exact List.pairwise_cons.mpr ⟨fun m hm => hk ▸ hfirst m hm, hrest⟩
    · rename_i hk
      split
      · rename_i hlt
        refine List.pairwise_cons.mpr ⟨fun m hm => ?_, h⟩
        rcases List.mem_cons.mp hm with rfl | hm
        · exact hlt
        · exact hlt.trans (hfirst m hm)
      · rename_i hlt
        refine List.pairwise_cons.mpr ⟨fun m hm => ?_, ascending_insertSorted key v hrest⟩
        rcases mem_of_mem_insertSorted hm with rfl | hm
        · exact lt_of_le_of_ne (not_lt.mp hlt) hk
        · exact hfirst m hm

/-- A new key adds a member. -/
theorem perm_insertSorted (v : α) : ∀ {ms : List (String × α)}, key ∉ ms.map (·.1) →
    (insertSorted key v ms).Perm ((key, v) :: ms)
  | [], _ => List.Perm.refl _
  | (k, w) :: ms, h => by
    rw [List.map_cons, List.mem_cons, not_or] at h
    unfold insertSorted
    rw [if_neg fun he => h.1 he.symm]
    split
    · exact List.Perm.refl _
    · exact ((perm_insertSorted v h.2).cons _).trans (List.Perm.swap _ _ _)

/-- Insertion looks at keys alone. -/
theorem insertSorted_map (f : α → β) (key : String) (v : α) : ∀ ms : List (String × α),
    insertSorted key (f v) (ms.map fun m => (m.1, f m.2)) =
      (insertSorted key v ms).map fun m => (m.1, f m.2)
  | [] => rfl
  | (k, w) :: ms => by
    simp only [List.map_cons, insertSorted]
    split
    · rfl
    · split
      · rfl
      · rw [insertSorted_map f key v ms, List.map_cons]

/-! ### Sorting -/

/-- **Sorted members stand in ascending order of their keys.** -/
theorem ascending_sortMembers (ms : List (String × α)) : Ascending (sortMembers ms) := by
  have hfold : ∀ (ms : List (String × α)) {acc}, Ascending acc →
      Ascending (ms.foldl (fun acc m => insertSorted m.1 m.2 acc) acc) := by
    intro ms
    induction ms with
    | nil => exact fun h => h
    | cons m ms ih => exact fun h => ih (ascending_insertSorted m.1 m.2 h)
  exact hfold ms List.Pairwise.nil

theorem mem_of_mem_sortMembers (h : m ∈ sortMembers ms) : m ∈ ms := by
  have hfold : ∀ (ms : List (String × α)) {acc},
      m ∈ ms.foldl (fun acc m => insertSorted m.1 m.2 acc) acc → m ∈ ms ∨ m ∈ acc := by
    intro ms
    induction ms with
    | nil => exact fun h => .inr h
    | cons m' ms ih =>
      intro acc h
      rcases ih h with h | h
      · exact .inl (List.mem_cons_of_mem _ h)
      · rcases mem_of_mem_insertSorted h with rfl | h
        · exact .inl List.mem_cons_self
        · exact .inr h
  exact (hfold ms h).resolve_right List.not_mem_nil

theorem perm_foldl_insertSorted : ∀ ms acc : List (String × α),
    ((ms ++ acc).map (·.1)).Nodup →
      (ms.foldl (fun acc m => insertSorted m.1 m.2 acc) acc).Perm (ms ++ acc)
  | [], _, _ => List.Perm.refl _
  | (k, v) :: ms, acc, h => by
    rw [List.cons_append, List.map_cons, List.nodup_cons, List.map_append, List.mem_append,
      not_or] at h
    have hinsert := perm_insertSorted v h.1.2
    have hmiddle : (ms ++ insertSorted k v acc).Perm ((k, v) :: (ms ++ acc)) :=
      (hinsert.append_left ms).trans List.perm_middle
    rw [List.foldl_cons]
    refine (perm_foldl_insertSorted ms _ ?_).trans hmiddle
    refine (hmiddle.map (·.1)).nodup_iff.mpr (List.nodup_cons.mpr ⟨?_, ?_⟩)
    · rw [List.map_append, List.mem_append, not_or]
      exact h.1
    · rw [List.map_append]
      exact h.2

/-- **Sorted members are the members that were there**, if no key is repeated. -/
theorem perm_sortMembers (h : (ms.map (·.1)).Nodup) : (sortMembers ms).Perm ms := by
  have hperm := perm_foldl_insertSorted ms [] (by rwa [List.append_nil])
  rwa [List.append_nil] at hperm

/-- There is one ascending order of members. -/
theorem sortMembers_of_perm (h : ms.Perm acc) (ha : Ascending acc) : sortMembers ms = acc :=
  have hnodup : (ms.map (·.1)).Nodup := (h.map (·.1)).nodup_iff.mpr ha.nodup
  List.Perm.eq_of_pairwise (fun a b _ _ (hab : a.1 < b.1) hba => absurd hba (lt_asymm hab))
    (ascending_sortMembers ms) ha
    ((perm_sortMembers hnodup).trans h)

/-- **Members in order stay as they are.** -/
theorem sortMembers_of_ascending (h : Ascending ms) : sortMembers ms = ms :=
  sortMembers_of_perm (List.Perm.refl ms) h

/-- **Sorting looks at keys alone.** -/
theorem sortMembers_map (f : α → β) (ms : List (String × α)) :
    sortMembers (ms.map fun m => (m.1, f m.2)) = (sortMembers ms).map fun m => (m.1, f m.2) := by
  have hfold : ∀ (ms acc : List (String × α)),
      (ms.map fun m => (m.1, f m.2)).foldl (fun acc m => insertSorted m.1 m.2 acc)
          (acc.map fun m => (m.1, f m.2)) =
        (ms.foldl (fun acc m => insertSorted m.1 m.2 acc) acc).map fun m => (m.1, f m.2) := by
    intro ms
    induction ms with
    | nil => exact fun _ => rfl
    | cons m ms ih =>
      intro acc
      rw [List.map_cons, List.foldl_cons, List.foldl_cons, ← ih]
      exact congrArg (fun acc => List.foldl _ acc _) (insertSorted_map f m.1 m.2 acc)
  exact hfold ms []

/-- Members of which no key is repeated are put into the order of their keys. -/
theorem sortMembers_eq_mergeSort (h : (ms.map (·.1)).Nodup) :
    sortMembers ms = ms.mergeSort fun a b => decide (a.1 ≤ b.1) := by
  have hperm := perm_sortMembers h
  have hmerge := List.mergeSort_perm ms fun a b => decide (a.1 ≤ b.1)
  have hsorted : (ms.mergeSort fun a b => decide (a.1 ≤ b.1)).Pairwise fun a b => a.1 ≤ b.1 :=
    (List.pairwise_mergeSort
      (fun a b c (hab : decide (a.1 ≤ b.1) = true) hbc => by
        simpa using le_trans (of_decide_eq_true hab) (of_decide_eq_true hbc))
      (fun a b => by simpa using le_total a.1 b.1) ms).imp of_decide_eq_true
  refine List.Perm.eq_of_pairwise (fun a b ha hb (hab : a.1 ≤ b.1) hba => ?_)
    ((ascending_sortMembers ms).imp fun hlt => hlt.le) hsorted
    (hperm.trans hmerge.symm)
  exact List.inj_on_of_nodup_map h (hperm.mem_iff.mp ha) (hmerge.mem_iff.mp hb)
    (le_antisymm hab hba)

/-! ### Values in key order or as they stand -/

/-- Members as they stand, or sorted. -/
def arrangeMembers (sorted : Bool) (ms : List (String × α)) : List (String × α) :=
  if sorted then sortMembers ms else ms

theorem perm_arrangeMembers (sorted : Bool) (h : (ms.map (·.1)).Nodup) :
    (arrangeMembers sorted ms).Perm ms := by
  unfold arrangeMembers
  split
  · exact perm_sortMembers h
  · exact List.Perm.refl _

theorem arrangeMembers_map (sorted : Bool) (f : α → β) (ms : List (String × α)) :
    arrangeMembers sorted (ms.map fun m => (m.1, f m.2)) =
      (arrangeMembers sorted ms).map fun m => (m.1, f m.2) := by
  unfold arrangeMembers
  split
  · exact sortMembers_map f ms
  · rfl

theorem sortItems_eq : ∀ js : List Json, sortItems js = js.map sortKeys
  | [] => rfl
  | j :: js => by rw [sortItems, sortItems_eq js]; rfl

theorem sortEach_eq : ∀ ms : List (String × Json), sortEach ms = ms.map fun m => (m.1, m.2.sortKeys)
  | [] => rfl
  | (k, j) :: ms => by rw [sortEach, sortEach_eq ms]; rfl

theorem allWellWritten_iff : ∀ items : List Json,
    allWellWritten items = true ↔ ∀ j ∈ items, j.isWellWritten = true
  | [] => by simp [allWellWritten]
  | j :: js => by
    rw [allWellWritten, Bool.and_eq_true, allWellWritten_iff js, List.forall_mem_cons]

theorem membersWellWritten_iff : ∀ members : List (String × Json),
    membersWellWritten members = true ↔ ∀ m ∈ members, m.2.isWellWritten = true
  | [] => by simp [membersWellWritten]
  | (k, j) :: ms => by
    rw [membersWellWritten, Bool.and_eq_true, membersWellWritten_iff ms, List.forall_mem_cons]

mutual
/-- Nothing gets broken when keys are sorted. -/
theorem isWellWritten_sortKeys : ∀ j : Json, j.isSound = true → j.sortKeys.isWellWritten = true
  | .arr items, h => by
    rw [sortKeys, isWellWritten, allWellWritten_iff, sortItems_eq, List.forall_mem_map]
    exact isWellWritten_sortItems items h
  | .obj members, h => by
    rw [sortKeys, isWellWritten, membersWellWritten_iff]
    intro m hm
    rw [sortEach_eq] at hm
    obtain ⟨m', hm', rfl⟩ := List.mem_map.mp (mem_of_mem_sortMembers hm)
    exact isWellWritten_sortEach members h m' hm'
  | .null, _ => rfl
  | .bool _, _ => rfl
  | .int _, _ => rfl
  | .double _, _ => rfl
  | .str _, _ => rfl

theorem isWellWritten_sortItems : ∀ items : List Json, allSound items = true →
    ∀ j ∈ items, j.sortKeys.isWellWritten = true
  | [], _ => nofun
  | j :: js, h => by
    rw [allSound, Bool.and_eq_true] at h
    exact List.forall_mem_cons.mpr
      ⟨isWellWritten_sortKeys j h.1, isWellWritten_sortItems js h.2⟩

theorem isWellWritten_sortEach : ∀ members : List (String × Json), membersSound members = true →
    ∀ m ∈ members, m.2.sortKeys.isWellWritten = true
  | [], _ => nofun
  | (k, j) :: ms, h => by
    rw [membersSound, Bool.and_eq_true] at h
    exact List.forall_mem_cons.mpr
      ⟨isWellWritten_sortKeys j h.1, isWellWritten_sortEach ms h.2⟩
end

/-- The value as it stands, or with the members of every object sorted by key. -/
def arranged (sorted : Bool) (j : Json) : Json := if sorted then j.sortKeys else j

theorem arranged_arr (sorted : Bool) (items : List Json) :
    arranged sorted (.arr items) = .arr (items.map (arranged sorted)) := by
  cases sorted with
  | true => exact congrArg arr (sortItems_eq items)
  | false => exact congrArg arr (List.map_id items).symm

theorem arranged_obj (sorted : Bool) (ms : List (String × Json)) :
    arranged sorted (.obj ms) =
      .obj (arrangeMembers sorted (ms.map fun m => (m.1, arranged sorted m.2))) := by
  cases sorted with
  | true => exact congrArg (fun ms => obj (sortMembers ms)) (sortEach_eq ms)
  | false => exact congrArg obj (List.map_id ms).symm

end ReactiveTree.Json
