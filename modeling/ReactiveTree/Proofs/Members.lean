import ReactiveTree.Json.Basic
import Mathlib.Data.List.Nodup

/-!
# Members of an object

Objects of documents, children of a node and failures of an evaluation are lists of pairs of a
key and a value. Here stands what is found under a key, before and after a member is put in or taken out.

Key theorems: `Json.lookup_upsert`, `Json.upsert_of_lookup`, `Json.lookup_of_mem`,
`Json.eraseKey_split`, `Json.lookup_sortMembers`.
-/
namespace ReactiveTree.Json

variable {α β : Type} {k : String}

theorem lookup_cons (key : String) (v : α) (ms : List (String × α)) :
    lookup k ((key, v) :: ms) = if key = k then some v else lookup k ms := rfl

theorem mem_of_lookup {v : α} : ∀ {ms : List (String × α)}, lookup k ms = some v → (k, v) ∈ ms
  | (key, w) :: ms, h => by
    rw [lookup_cons] at h
    split at h
    · rename_i hk
      obtain rfl := Option.some.inj h
      exact hk ▸ List.mem_cons_self
    · exact List.mem_cons_of_mem _ (mem_of_lookup h)

theorem lookup_of_mem {v : α} : ∀ {ms : List (String × α)}, (ms.map (·.1)).Nodup → (k, v) ∈ ms →
    lookup k ms = some v
  | (key, w) :: ms, hn, h => by
    rw [List.map_cons, List.nodup_cons] at hn
    rw [lookup_cons]
    rcases List.mem_cons.mp h with h | h
    · obtain ⟨rfl, rfl⟩ := Prod.mk.inj h
      rw [if_pos rfl]
    · have hne : key ≠ k := fun he => hn.1 (he ▸ List.mem_map.mpr ⟨(k, v), h, rfl⟩)
      rw [if_neg hne]
      exact lookup_of_mem hn.2 h

theorem lookup_map (f : α → β) : ∀ ms : List (String × α),
    lookup k (ms.map fun m => (m.1, f m.2)) = (lookup k ms).map f
  | [] => rfl
  | (key, v) :: ms => by
    rw [List.map_cons, lookup_cons, lookup_cons, lookup_map f ms]
    split <;> rfl

/-- **A member that is put in is found, and nothing else changes.** -/
theorem lookup_upsert (key : String) (v : α) : ∀ ms : List (String × α),
    lookup k (upsert key v ms) = if key = k then some v else lookup k ms
  | [] => rfl
  | (k', w) :: ms => by
    unfold upsert
    by_cases h : k' = key
    · subst h
      rw [if_pos rfl, lookup_cons, lookup_cons]
      split <;> rfl
    · rw [if_neg h, lookup_cons, lookup_upsert key v ms, lookup_cons]
      by_cases hk : k' = k
      · subst hk
        rw [if_pos rfl, if_pos rfl, if_neg fun he => h he.symm]
      · rw [if_neg hk, if_neg hk]

theorem lookup_upsert_self (v : α) (ms : List (String × α)) :
    lookup k (upsert k v ms) = some v := by
  rw [lookup_upsert, if_pos rfl]

theorem lookup_upsert_ne {key : String} (h : key ≠ k) (v : α) (ms : List (String × α)) :
    lookup k (upsert key v ms) = lookup k ms := by
  rw [lookup_upsert, if_neg h]

theorem upsert_map (f : α → β) (v : α) : ∀ ms : List (String × α),
    upsert k (f v) (ms.map fun m => (m.1, f m.2)) = (upsert k v ms).map fun m => (m.1, f m.2)
  | [] => rfl
  | (key, w) :: ms => by
    simp only [List.map_cons, upsert]
    split
    · rfl
    · rw [upsert_map f v ms, List.map_cons]

/-- To put in what is there is to do nothing. -/
theorem upsert_of_lookup {v : α} : ∀ {ms : List (String × α)}, lookup k ms = some v →
    upsert k v ms = ms
  | (key, w) :: ms, h => by
    rw [lookup_cons] at h
    unfold upsert
    split at h
    · rename_i hk
      rw [if_pos hk, Option.some.inj h]
    · rename_i hk
      rw [if_neg hk, upsert_of_lookup h]

/-- A member under a new key is put at the end. -/
theorem upsert_of_new (v : α) : ∀ {ms : List (String × α)}, k ∉ ms.map (·.1) →
    upsert k v ms = ms ++ [(k, v)]
  | [], _ => rfl
  | (key, w) :: ms, h => by
    rw [List.map_cons, List.mem_cons, not_or] at h
    rw [upsert, if_neg fun he => h.1 he.symm, upsert_of_new v h.2]
    rfl

/-- Of two members put in under one key the second stays. -/
theorem upsert_upsert (v w : α) : ∀ ms : List (String × α),
    upsert k w (upsert k v ms) = upsert k w ms
  | [] => by simp [upsert]
  | (key, u) :: ms => by
    by_cases h : key = k
    · simp [upsert, h]
    · simp only [upsert, if_neg h, upsert_upsert v w ms]

/-- A member that is replaced leaves the keys as they are. -/
theorem keys_upsert {v w : α} : ∀ {ms : List (String × α)}, lookup k ms = some w →
    (upsert k v ms).map (·.1) = ms.map (·.1)
  | (key, u) :: ms, h => by
    rw [lookup_cons] at h
    unfold upsert
    split at h
    · rename_i hk
      rw [if_pos hk]
      rfl
    · rename_i hk
      rw [if_neg hk, List.map_cons, List.map_cons, keys_upsert h]

/-- A member is the one that was put in, or it was there before. -/
theorem mem_of_mem_upsert {key : String} {v w : α} : ∀ {ms : List (String × α)},
    (key, w) ∈ upsert k v ms → key = k ∧ w = v ∨ (key, w) ∈ ms
  | [], h => .inl (Prod.mk.inj (List.mem_singleton.mp h))
  | (k', u) :: ms, h => by
    unfold upsert at h
    split at h
    · rename_i hk
      rcases List.mem_cons.mp h with h | h
      · obtain ⟨hkey, hw⟩ := Prod.mk.inj h
        exact .inl ⟨hkey.trans hk, hw⟩
      · exact .inr (List.mem_cons_of_mem _ h)
    · rcases List.mem_cons.mp h with h | h
      · exact .inr (h ▸ List.mem_cons_self)
      · exact (mem_of_mem_upsert h).imp_right (List.mem_cons_of_mem _)

theorem lookup_append (ms ms' : List (String × α)) :
    lookup k (ms ++ ms') = (lookup k ms).or (lookup k ms') := by
  induction ms with
  | nil => rfl
  | cons m ms ih =>
    rw [List.cons_append, lookup_cons, lookup_cons, ih]
    split <;> rfl

theorem lookup_eq_none : ∀ {ms : List (String × α)}, k ∉ ms.map (·.1) → lookup k ms = none
  | [], _ => rfl
  | (key, v) :: ms, h => by
    rw [List.map_cons, List.mem_cons, not_or] at h
    rw [lookup_cons, if_neg fun he => h.1 he.symm, lookup_eq_none h.2]

/-! ### Members taken out -/

theorem mem_of_mem_eraseKey {m : String × α} : ∀ {ms : List (String × α)},
    m ∈ eraseKey k ms → m ∈ ms
  | (k', u) :: ms, h => by
    unfold eraseKey at h
    split at h
    · exact List.mem_cons_of_mem _ h
    · rcases List.mem_cons.mp h with h | h
      · exact h ▸ List.mem_cons_self
      · exact List.mem_cons_of_mem _ (mem_of_mem_eraseKey h)

/-- A member is taken out of the middle. -/
theorem eraseKey_split {v : α} : ∀ {ms : List (String × α)}, lookup k ms = some v →
    ∃ before after, ms = before ++ (k, v) :: after ∧ eraseKey k ms = before ++ after
  | (key, w) :: ms, h => by
    rw [lookup_cons] at h
    unfold eraseKey
    split at h
    · rename_i hk
      rw [if_pos hk, hk, Option.some.inj h]
      exact ⟨[], ms, rfl, rfl⟩
    · rename_i hk
      obtain ⟨before, after, hms, he⟩ := eraseKey_split h
      rw [if_neg hk, he, hms]
      exact ⟨(key, w) :: before, after, rfl, rfl⟩

theorem eraseKey_append_self (v : α) : ∀ {ms : List (String × α)}, k ∉ ms.map (·.1) →
    eraseKey k (ms ++ [(k, v)]) = ms
  | [], _ => if_pos rfl
  | (key, w) :: ms, h => by
    rw [List.map_cons, List.mem_cons, not_or] at h
    rw [List.cons_append, eraseKey, if_neg (Ne.symm h.1), eraseKey_append_self v h.2]

theorem lookup_eraseKey_self {ms : List (String × α)} (hn : (ms.map (·.1)).Nodup) :
    lookup k (eraseKey k ms) = none := by
  induction ms with
  | nil => rfl
  | cons m ms ih =>
    obtain ⟨key, w⟩ := m
    rw [List.map_cons, List.nodup_cons] at hn
    unfold eraseKey
    split
    · rename_i hk
      exact lookup_eq_none (hk ▸ hn.1)
    · rename_i hk
      rw [lookup_cons, if_neg hk, ih hn.2]

theorem lookup_eraseKey_ne {key : String} (hne : key ≠ k) : ∀ ms : List (String × α),
    lookup k (eraseKey key ms) = lookup k ms
  | [] => rfl
  | (key', w) :: ms => by
    unfold eraseKey
    split
    · rename_i hk
      rw [lookup_cons, if_neg (hk ▸ hne)]
    · rw [lookup_cons, lookup_cons, lookup_eraseKey_ne hne ms]

theorem not_mem_keys_of_lookup : ∀ {ms : List (String × α)}, lookup k ms = none →
    k ∉ ms.map (·.1)
  | [], _ => List.not_mem_nil
  | (key, w) :: ms, h => by
    rw [lookup_cons] at h
    split at h
    · cases h
    · rename_i hk
      rw [List.map_cons, List.mem_cons, not_or]
      exact ⟨Ne.symm hk, not_mem_keys_of_lookup h⟩

/-! ### Sorted members -/

theorem lookup_insertSorted (key : String) (v : α) : ∀ ms : List (String × α),
    lookup k (insertSorted key v ms) = if key = k then some v else lookup k ms
  | [] => rfl
  | (k', w) :: ms => by
    unfold insertSorted
    split
    · rename_i h
      subst h
      rw [lookup_cons, lookup_cons]
      split <;> rfl
    · rename_i h
      split
      · rw [lookup_cons]
      · rw [lookup_cons, lookup_insertSorted key v ms, lookup_cons]
        by_cases hk : k' = k
        · subst hk
          rw [if_pos rfl, if_pos rfl, if_neg fun he => h he.symm]
        · rw [if_neg hk, if_neg hk]

theorem lookup_foldl_insertSorted : ∀ {ms : List (String × α)}, (ms.map (·.1)).Nodup →
    ∀ acc, lookup k (ms.foldl (fun acc m => insertSorted m.1 m.2 acc) acc) =
      (lookup k ms).or (lookup k acc)
  | [], _, _ => rfl
  | (key, v) :: ms, hn, acc => by
    rw [List.map_cons, List.nodup_cons] at hn
    rw [List.foldl_cons, lookup_foldl_insertSorted hn.2, lookup_insertSorted, lookup_cons]
    split
    · rename_i h
      subst h
      rw [lookup_eq_none hn.1, Option.none_or, Option.some_or]
    · rfl

/-- **Members are found after they are sorted as before.** -/
theorem lookup_sortMembers {ms : List (String × α)} (hn : (ms.map (·.1)).Nodup) :
    lookup k (sortMembers ms) = lookup k ms := by
  rw [sortMembers, lookup_foldl_insertSorted hn]
  exact Option.or_none

end ReactiveTree.Json
