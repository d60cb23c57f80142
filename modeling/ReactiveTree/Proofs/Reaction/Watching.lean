import ReactiveTree.Proofs.Listing
import ReactiveTree.Proofs.Reaction.Outcome
import ReactiveTree.Reaction.Watchers

/-!
# Watchers and the snapshot of a tree

A run of the watchers takes a snapshot of the tree, whatever it compares the tree with. The snapshot
finds the value of every primitive, since no path is listed twice, so a tree that is compared with
its own snapshot triggers nothing (`runWatchers_capture`).

Key theorems: `Snapshot.find?_capture`, `snapshot_runWatchers`, `agrees_runWatchers`,
`runWatchers_capture`.
-/
namespace ReactiveTree

variable {t : Tree} {entry : Entry}

/-! ### Snapshots -/

/-- The values of a tree by path, as they are listed. -/
def Tree.listedValues (t : Tree) : List (String × Scalar) :=
  t.primitives.filterMap fun e => e.node.value?.map fun v => (e.path, v)

theorem Tree.nodup_listedValues (ht : t.Valid) : (t.listedValues.map (·.1)).Nodup := by
  refine (Tree.nodup_primitives ht).sublist ?_
  unfold listedValues
  induction t.primitives with
  | nil => exact .slnil
  | cons e es ih =>
    rw [List.filterMap_cons, List.map_cons]
    cases e.node.value? with
    | none => exact ih.cons _
    | some v => exact ih.cons_cons _

/-- **A snapshot finds the value of every primitive.** -/
theorem Snapshot.find?_capture (ht : t.Valid) (he : entry ∈ t.primitives) {v : Scalar}
    (hv : entry.node.value? = some v) : (capture t).find? entry.path = some v := by
  have hn := Tree.nodup_listedValues ht
  have hmem : (entry.path, v) ∈ t.listedValues :=
    List.mem_filterMap.mpr ⟨entry, he, by rw [hv]; rfl⟩
  exact (Json.lookup_sortMembers hn).trans (Json.lookup_of_mem hn hmem)

namespace Reaction

open Snippet (Engine Bindings)

variable {previous : Option Snapshot} {s : WatcherResult × Engine}

/-! ### What a run keeps -/

theorem agrees_runScripts (path : String) (bindings : Bindings) : ∀ (scripts : List String)
    (index : Nat) (e : Engine), (runScripts e path bindings index scripts).2.Agrees e
  | [], _, e => .refl e
  | script :: scripts, index, e => by
    have he := (Engine.eval_snd e script bindings).1
    have ih := agrees_runScripts path bindings scripts (index + 1) (e.eval script bindings).2
    rw [runScripts]
    dsimp only
    split <;> exact ih.trans he

theorem kept_watch (previous : Option Snapshot) (s : WatcherResult × Engine) (entry : Entry) :
    (watch previous s entry).1.snapshot = s.1.snapshot ∧
      (watch previous s entry).2.Agrees s.2 := by
  unfold watch
  dsimp only
  split
  · split
    · exact ⟨rfl, agrees_runScripts _ _ _ _ _⟩
    · exact ⟨rfl, .refl _⟩
  · exact ⟨rfl, .refl _⟩

theorem kept_foldl_watch (previous : Option Snapshot) : ∀ (es : List Entry)
    (s : WatcherResult × Engine), (es.foldl (watch previous) s).1.snapshot = s.1.snapshot ∧
      (es.foldl (watch previous) s).2.Agrees s.2
  | [], s => ⟨rfl, .refl s.2⟩
  | entry :: es, s => by
    obtain ⟨hs, he⟩ := kept_watch previous s entry
    obtain ⟨hs', he'⟩ := kept_foldl_watch previous es (watch previous s entry)
    exact ⟨hs'.trans hs, he'.trans he⟩

/-- **A run of the watchers takes the snapshot of the tree.** -/
theorem snapshot_runWatchers (e : Engine) (t : Tree) (previous : Option Snapshot) :
    (runWatchers e t previous).1.snapshot = Snapshot.capture t :=
  (kept_foldl_watch previous t.primitives ({ snapshot := Snapshot.capture t }, e.load t)).1

theorem agrees_runWatchers (e : Engine) (t : Tree) (previous : Option Snapshot) :
    (runWatchers e t previous).2.Agrees e :=
  (Engine.agrees_unload _).trans
    ((kept_foldl_watch previous t.primitives ({ snapshot := Snapshot.capture t }, e.load t)).2.trans
      (Engine.agrees_load e t))

/-! ### A tree and its own snapshot -/

theorem not_isTriggered_capture (ht : t.Valid) (he : entry ∈ t.primitives) {v : Scalar}
    (hv : entry.node.value? = some v) :
    isTriggered (some (Snapshot.capture t)) entry.path v = false := by
  rw [isTriggered, Option.bind_some, Snapshot.find?_capture ht he hv, Option.any_some, v.same_refl]
  rfl

theorem watch_capture (ht : t.Valid) (he : entry ∈ t.primitives) (s : WatcherResult × Engine) :
    watch (some (Snapshot.capture t)) s entry = s := by
  unfold watch
  dsimp only
  split
  · rename_i value _ hv
    rw [if_neg]
    rw [not_isTriggered_capture ht he hv]
    exact Bool.false_ne_true
  · rfl

theorem foldl_watch_capture (ht : t.Valid) : ∀ (es : List Entry), (∀ e ∈ es, e ∈ t.primitives) →
    ∀ s, es.foldl (watch (some (Snapshot.capture t))) s = s
  | [], _, _ => rfl
  | e :: es, hes, s => by
    rw [List.foldl_cons, watch_capture ht (hes e List.mem_cons_self)]
    exact foldl_watch_capture ht es (fun e' he => hes e' (List.mem_cons_of_mem e he)) s

/-- **A tree triggers nothing if it is compared with its own snapshot.** -/
theorem runWatchers_capture (e : Engine) (ht : t.Valid) :
    (runWatchers e t (some (Snapshot.capture t))).1 = { snapshot := Snapshot.capture t } := by
  rw [runWatchers, foldl_watch_capture ht t.primitives fun _ => id]

end Reaction
end ReactiveTree
