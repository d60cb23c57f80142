import ReactiveTree.Json.Form
import ReactiveTree.Proofs.Json.Sorting

/-!
# Reading records

A record is read field by field, in whatever order its members stand. Of a record that is read
from what was written of it, the fields that were met are those of the record and the others are
those of the start; so when every written member was met the record is complete
(`readRecord_arranged`).

Key theorems: `Json.readFields_of_step`, `Json.readRecord_arranged`, `Json.readEach_map`,
`Json.readRecord_invariant`.
-/
namespace ReactiveTree.Json

variable {σ α : Type} {fields : List (Field σ)}

/-- A mapped answer comes from an answer. -/
theorem map_eq_ok {ε α β : Type} {x : Except ε α} {f : α → β} {b : β} :
    x.map f = .ok b ↔ ∃ a, x = .ok a ∧ f a = b := by
  cases x with
  | error e => simp [Except.map]
  | ok a => simp [Except.map]

/-- Members are read one after another, as long as each takes the record one step further. -/
theorem readFields_of_step (only : List String → σ) : ∀ (ms : List (String × Json))
    (seen : List String), (∀ k j, (k, j) ∈ ms → ∀ seen, ∃ f, fields.find? (·.name == k) = some f ∧
      f.read j (only seen) = .ok (only (k :: seen))) →
    (ms.map (·.1)).Nodup → (∀ k ∈ ms.map (·.1), k ∉ seen) →
      readFields fields seen (only seen) ms =
        .ok ((ms.map (·.1)).reverse ++ seen, only ((ms.map (·.1)).reverse ++ seen))
  | [], _, _, _, _ => rfl
  | (k, j) :: ms, seen, hstep, hnodup, hnew => by
    obtain ⟨f, hfind, hread⟩ := hstep k j List.mem_cons_self seen
    rw [List.map_cons, List.nodup_cons] at hnodup
    have hk : ¬ seen.contains k = true := by
      simpa using hnew k (by simp)
    have hrest := readFields_of_step only ms (k :: seen)
      (fun k' j' h => hstep k' j' (List.mem_cons_of_mem _ h)) hnodup.2 fun k' hk' hmem => by
        rcases List.mem_cons.mp hmem with rfl | hmem
        · exact hnodup.1 hk'
        · exact hnew k' (by simp [hk']) hmem
    rw [readFields, hfind]
    dsimp only
    rw [if_neg hk, hread]
    dsimp only
    rw [hrest, List.map_cons, List.reverse_cons, List.append_assoc, List.singleton_append]

/-- **A record is read from its members in any order.** `only seen` is the record as far as it is
known when the fields in `seen` were met. -/
theorem readRecord_arranged (origin : Origin) (sorted : Bool) (only : List String → σ)
    {start target : σ} {ms : List (String × Json)} (hnodup : (ms.map (·.1)).Nodup)
    (hstart : only [] = start)
    (hstep : ∀ k j, (k, j) ∈ ms → ∀ seen, ∃ f, fields.find? (·.name == k) = some f ∧
      f.read (j.arranged sorted) (only seen) = .ok (only (k :: seen)))
    (hend : ∀ seen, (∀ k, k ∈ seen ↔ k ∈ ms.map (·.1)) → only seen = target)
    (hneed : ∀ f ∈ fields, f.need = .everywhere → f.name ∈ ms.map (·.1)) :
    readRecord origin fields start ((Json.obj ms).arranged sorted) = .ok target := by
  obtain ⟨ms', hms'⟩ : ∃ ms', ms' = ms.map fun m => (m.1, arranged sorted m.2) := ⟨_, rfl⟩
  have hkeys : ms'.map (·.1) = ms.map (·.1) := by
    rw [hms', List.map_map]
    rfl
  have hperm : (arrangeMembers sorted ms').Perm ms' := perm_arrangeMembers sorted (hkeys ▸ hnodup)
  have hmem : ∀ k, k ∈ ((arrangeMembers sorted ms').map (·.1)).reverse ++ [] ↔ k ∈ ms.map (·.1) :=
    fun k => by rw [List.append_nil, List.mem_reverse, (hperm.map (·.1)).mem_iff, hkeys]
  have hread := readFields_of_step only (arrangeMembers sorted ms') [] (fun k j hj seen => by
      rw [hperm.mem_iff, hms'] at hj
      obtain ⟨⟨k', j'⟩, hj', he⟩ := List.mem_map.mp hj
      obtain ⟨rfl, rfl⟩ := Prod.mk.inj he
      exact hstep k' j' hj' seen)
    ((hperm.map (·.1)).nodup_iff.mpr (hkeys ▸ hnodup)) fun _ _ => List.not_mem_nil
  rw [arranged_obj, ← hms', readRecord, ← hstart, hread]
  dsimp only
  rw [if_pos, hend _ hmem]
  rw [List.all_eq_true]
  intro f hf
  by_cases hn : f.need = .everywhere
  · have := (hmem f.name).mpr (hneed f hf hn)
    simp only [List.contains_eq_mem, Bool.or_eq_true, decide_eq_true_eq]
    exact .inr this
  · simp [hn]

/-- A list is read from what was written of its items. -/
theorem readEach_map {read : Json → Except Fault α} {write : α → Json}
    (h : ∀ a, read (write a) = .ok a) : ∀ as : List α, readEach read (as.map write) = .ok as
  | [] => rfl
  | a :: as => by
    rw [List.map_cons, readEach, h a]
    dsimp only
    rw [readEach_map h as]
    rfl

/-! ### What every field keeps -/

section Invariants

variable {P : σ → Prop} {s s' : σ}

theorem readFields_invariant
    (hstep : ∀ f ∈ fields, ∀ j s s', P s → f.read j s = .ok s' → P s') :
    ∀ {ms : List (String × Json)} {seen seen' : List String} {s : σ}, P s →
      readFields fields seen s ms = .ok (seen', s') → P s'
  | [], _, _, _, hs, h => (Prod.mk.inj (Except.ok.inj h)).2 ▸ hs
  | (k, j) :: ms, seen, seen', s, hs, h => by
    rw [readFields] at h
    split at h
    · split at h
      · exact readFields_invariant hstep hs h
      · cases h
    · rename_i f hf
      split at h
      · cases h
      · split at h
        · cases h
        · rename_i hread
          exact readFields_invariant hstep (hstep f (List.mem_of_find?_eq_some hf) j _ _ hs hread) h

theorem readRow_invariant {origin : Origin}
    (hstep : ∀ f ∈ fields, ∀ j s s', P s → f.read j s = .ok s' → P s') :
    ∀ {fs : List (Field σ)} {items : List Json} {s : σ}, (∀ f ∈ fs, f ∈ fields) → P s →
      readRow origin s fs items = .ok s' → P s'
  | [], [], _, _, hs, h => Except.ok.inj h ▸ hs
  | [], _ :: _, _, _, _, h => by cases h
  | f :: fs, [], s, hfs, hs, h => by
    rw [readRow] at h
    split at h
    · exact readRow_invariant hstep (fun f hf => hfs f (List.mem_cons_of_mem _ hf)) hs h
    · cases h
  | f :: fs, j :: js, s, hfs, hs, h => by
    rw [readRow] at h
    split at h
    · cases h
    · rename_i hread
      exact readRow_invariant hstep (fun f hf => hfs f (List.mem_cons_of_mem _ hf))
        (hstep f (hfs f List.mem_cons_self) j _ _ hs hread) h

/-- **What the start has and every field keeps, the record has.** -/
theorem readRecord_invariant {origin : Origin} {start : σ} {j : Json} (hstart : P start)
    (hstep : ∀ f ∈ fields, ∀ j s s', P s → f.read j s = .ok s' → P s')
    (h : readRecord origin fields start j = .ok s) : P s := by
  unfold readRecord at h
  split at h
  · split at h
    · cases h
    · rename_i hread
      split at h
      · exact Except.ok.inj h ▸ readFields_invariant hstep hstart hread
      · cases h
  · exact readRow_invariant hstep (fun _ hf => hf) hstart h
  · cases h

end Invariants

end ReactiveTree.Json
