import ReactiveTree.Proofs.Calls
import ReactiveTree.Proofs.Sameness

/-!
# Syncing is exact and comes to rest

The bound primitives are looked up before anything is written, and then each is written by its
path. What a primitive takes from its binding depends on nothing but the primitive itself
(`Node.incoming?`), and a write leaves the other primitives and the layout as they are; so after
each step those that have been refreshed have taken what their properties give, and the others are
as they were (`Tree.Progress`). A primitive that has taken its value takes nothing more, which is
why a second sync finds nothing to do.

Key definitions: `Node.incoming?`, `Node.synced`, `Tree.Progress`, `Tree.SyncsExactly`.
Key theorems: `Node.incoming?_synced`, `Tree.Progress.step`, `Tree.progress_of_bound`,
`Tree.sync_sync`, `Tree.sync_exact`.
-/
namespace ReactiveTree
namespace Node

variable {resolve : Binding → Option Scalar} {n : Node} {tr : Traits} {v w : Scalar}

/-- The value that a primitive takes from its binding: the answer converted to the primitive's
kind, unless the primitive has it already. -/
def incoming? (resolve : Binding → Option Scalar) : Node → Option Scalar
  | .leaf tr v => ((tr.binding.bind resolve).bind (·.coerce? v.kind)).filter (!v.same ·)
  | _ => none

/-- The node with what it takes from its binding. -/
def synced (resolve : Binding → Option Scalar) (n : Node) : Node :=
  match n.incoming? resolve with
  | some w => (n.setValue? w).getD n
  | none => n

theorem synced_of_none (h : n.incoming? resolve = none) : n.synced resolve = n := by
  rw [synced, h]

theorem synced_of_some (h : (leaf tr v).incoming? resolve = some w) :
    (leaf tr v).synced resolve = leaf tr w := by
  rw [synced, h]
  rfl

/-- The answer was converted to the kind of the primitive, and it is another value. -/
theorem incoming?_eq_some (h : (leaf tr v).incoming? resolve = some w) :
    (tr.binding.bind resolve).bind (·.coerce? v.kind) = some w ∧ v.same w = false := by
  obtain ⟨hw, hsame⟩ := Option.filter_eq_some_iff.mp h
  exact ⟨hw, by simpa using hsame⟩

theorem incoming?_of_unbound (h : n.traits.binding = none) : n.incoming? resolve = none := by
  cases n with
  | object t cs => rfl
  | array t is => rfl
  | leaf tr v =>
    have hb : tr.binding = none := h
    rw [incoming?, hb]
    rfl

/-- Taking a value changes neither traits nor kinds. -/
theorem recast_synced (n : Node) :
    (n.synced resolve).recast id Scalar.blank = n.recast id Scalar.blank := by
  cases hi : n.incoming? resolve with
  | none => rw [synced_of_none hi]
  | some w =>
    cases n with
    | object t cs => cases hi
    | array t is => cases hi
    | leaf tr v =>
      obtain ⟨hw, -⟩ := incoming?_eq_some hi
      obtain ⟨answer, -, hc⟩ := Option.bind_eq_some_iff.mp hw
      rw [synced_of_some hi, recast, recast, Scalar.blank_eq_of_kind (Scalar.kind_coerce? hc)]

/-- **A primitive that has taken its value takes nothing more.** -/
theorem incoming?_synced (n : Node) : (n.synced resolve).incoming? resolve = none := by
  cases hi : n.incoming? resolve with
  | none => rwa [synced_of_none hi]
  | some w =>
    cases n with
    | object t cs => cases hi
    | array t is => cases hi
    | leaf tr v =>
      obtain ⟨hw, -⟩ := incoming?_eq_some hi
      obtain ⟨answer, -, hc⟩ := Option.bind_eq_some_iff.mp hw
      rw [synced_of_some hi, incoming?, Scalar.kind_coerce? hc, hw, Option.filter_some,
        Scalar.same_refl]
      rfl

/-- Afterwards a primitive has the answer, or a value that is the same. -/
theorem value?_synced (hw : (tr.binding.bind resolve).bind (·.coerce? v.kind) = some w) :
    ∃ u, ((leaf tr v).synced resolve).value? = some u ∧ u.same w = true := by
  cases hi : (leaf tr v).incoming? resolve with
  | some w' =>
    obtain ⟨hw', -⟩ := incoming?_eq_some hi
    obtain rfl := Option.some.inj (hw.symm.trans hw')
    exact ⟨w, by rw [synced_of_some hi]; rfl, Scalar.same_refl w⟩
  | none =>
    refine ⟨v, by rw [synced_of_none hi]; rfl, ?_⟩
    rw [incoming?, hw, Option.filter_eq_none_iff] at hi
    simpa using hi w rfl

/-- A primitive takes a value just if it then has another one. -/
theorem isSome_incoming? (n : Node) : (n.incoming? resolve).isSome =
    n.value?.any fun v => (n.synced resolve).value?.any fun w => !v.same w := by
  cases n with
  | object t cs => rfl
  | array t is => rfl
  | leaf tr v =>
    cases hi : (leaf tr v).incoming? resolve with
    | none =>
      rw [synced_of_none hi]
      simp [value?, Scalar.same_refl]
    | some w =>
      rw [synced_of_some hi]
      simp [value?, (incoming?_eq_some hi).2]

end Node

namespace Tree

variable {resolve : Binding → Option Scalar} {t : Tree} {n : Node} {path : String} {b : Binding}

/-! ### The bound primitives -/

theorem mem_bound : (path, b) ∈ t.bound ↔
    ∃ n, ⟨path, n⟩ ∈ t.primitives ∧ n.traits.binding = some b := by
  rw [bound, List.mem_filterMap]
  constructor
  · rintro ⟨⟨p, n⟩, he, hb⟩
    obtain ⟨b', hb', hp⟩ := Option.map_eq_some_iff.mp hb
    obtain ⟨rfl, rfl⟩ := Prod.mk.inj hp
    exact ⟨n, he, hb'⟩
  · rintro ⟨n, he, hb⟩
    exact ⟨⟨path, n⟩, he, by rw [hb]; rfl⟩

theorem paths_bound (t : Tree) : t.bound.map (·.1) =
    (t.primitives.filter fun e => e.node.traits.binding.isSome).map (·.path) := by
  rw [bound]
  generalize t.primitives = es
  induction es with
  | nil => rfl
  | cons e es ih =>
    cases hb : e.node.traits.binding with
    | none => simpa [List.filterMap_cons, List.filter_cons, hb] using ih
    | some b => simpa [List.filterMap_cons, List.filter_cons, hb] using ih

theorem nodup_bound (ht : t.Valid) : (t.bound.map (·.1)).Nodup := by
  rw [paths_bound]
  exact (nodup_primitives ht).sublist (List.filter_sublist.map _)

/-- The path of a bound primitive does not stand before it in the list. -/
theorem not_mem_of_bound (ht : t.Valid) {front back : List (String × Binding)}
    (hback : t.bound = front ++ (path, b) :: back) : path ∉ front.map (·.1) := by
  have hnodup := nodup_bound ht
  rw [hback, List.map_append, List.nodup_append] at hnodup
  exact fun hp => hnodup.2.2 path hp path (by simp) rfl

/-- A primitive that is not bound shares its path with no bound one. -/
theorem not_mem_bound (ht : t.Valid) {e : Entry} (he : e ∈ t.primitives)
    (hb : e.node.traits.binding = none) : e.path ∉ t.bound.map (·.1) := by
  intro hp
  obtain ⟨⟨_, b⟩, hmem, rfl⟩ := List.mem_map.mp hp
  obtain ⟨n, hn, hb'⟩ := mem_bound.mp hmem
  have hsame : some n = some e.node :=
    (get?_of_mem_primitives ht hn).symm.trans (get?_of_mem_primitives ht he)
  rw [Option.some.inj hsame, hb] at hb'
  cases hb'

/-- **One bound primitive takes what its property gives.** -/
theorem refresh_eq (resolve : Binding → Option Scalar) (hn : t.get? path = some n)
    (hp : n.isPrimitive = true) (hb : n.traits.binding = some b) : t.refresh path (resolve b) =
      (t.modify (Node.synced resolve) path, (n.incoming? resolve).isSome) := by
  have hv : t.value? path = n.value? := by rw [value?, hn]; rfl
  -- Where nothing comes in, the write puts back what is there.
  have hstay : n.incoming? resolve = none →
      (t, false) = (t.modify (Node.synced resolve) path, (n.incoming? resolve).isSome) := by
    intro hi
    rw [modify_of_eq hn (Node.synced_of_none hi), hi]
    rfl
  cases n with
  | object tr cs => cases hp
  | array tr is => cases hp
  | leaf tr v =>
    have hb : tr.binding = some b := hb
    have hi : (Node.leaf tr v).incoming? resolve =
        ((resolve b).bind (·.coerce? v.kind)).filter (!v.same ·) := by
      rw [Node.incoming?, hb, Option.bind_some]
    have hv : t.value? path = some v := hv
    unfold refresh
    rw [hv]
    cases ha : resolve b with
    | none =>
      rw [ha] at hi
      exact hstay hi
    | some answer =>
      dsimp only
      rw [ha, Option.bind_some] at hi
      cases hc : answer.coerce? v.kind with
      | none =>
        rw [hc] at hi
        exact hstay hi
      | some w =>
        rw [hc, Option.filter_some] at hi
        dsimp only
        cases hs : v.same w with
        | true =>
          rw [hs] at hi
          exact hstay hi
        | false =>
          rw [hs] at hi
          have hmodify : t.modify (fun n => (n.setValue? w).getD n) path =
              t.modify (Node.synced resolve) path :=
            modify_congr hn (by rw [Node.synced_of_some hi]; rfl)
          rw [if_neg Bool.false_ne_true, hmodify, hi]
          rfl

/-! ### The run -/

/-- What syncing has come to when the primitives in `front` have been refreshed. -/
structure Progress (resolve : Binding → Option Scalar) (t : Tree)
    (front : List (String × Binding)) (s : Synced) : Prop where
  /-- Traits, kinds and places are those of the beginning. -/
  shape : s.tree.root.recast id Scalar.blank = t.root.recast id Scalar.blank
  done : ∀ e ∈ t.primitives, e.path ∈ front.map (·.1) →
    s.tree.get? e.path = some (e.node.synced resolve)
  rest : ∀ e ∈ t.primitives, e.path ∉ front.map (·.1) → s.tree.get? e.path = some e.node
  changed : s.changed = (front.map (·.1)).filter fun p =>
    ((t.get? p).bind (Node.incoming? resolve)).isSome
  asked : s.asked = front.map (·.2)

variable {front back : List (String × Binding)} {s : Synced}

theorem sameLayout_of_recast {a : Tree}
    (h : t.root.recast id Scalar.blank = a.root.recast id Scalar.blank) : t.SameLayout a := by
  have hl := congrArg (Node.recast Traits.withoutError id) h
  rwa [Node.recast_recast, Node.recast_recast] at hl

theorem Progress.start (ht : t.Valid) : Progress resolve t [] ⟨t, [], []⟩ where
  shape := rfl
  done := fun _ _ h => absurd h List.not_mem_nil
  rest := fun _ he _ => get?_of_mem_primitives ht he
  changed := rfl
  asked := rfl

/-- **Refreshing one more primitive** changes it and nothing else. -/
theorem Progress.step (ht : t.Valid) (h : Progress resolve t front s) {e : Entry}
    (he : e ∈ t.primitives) (hb : e.node.traits.binding = some b)
    (hnew : e.path ∉ front.map (·.1)) :
    Progress resolve t (front ++ [(e.path, b)]) (syncStep resolve s (e.path, b)) := by
  have hn := h.rest e he hnew
  have hrefresh := refresh_eq resolve hn (mem_primitives_iff.mp he).2 hb
  have hlayout : t.SameLayout s.tree := sameLayout_of_recast h.shape.symm
  have hother : ∀ e' ∈ t.primitives, e'.path ≠ e.path →
      (s.tree.modify (Node.synced resolve) e.path).get? e'.path = s.tree.get? e'.path :=
    fun e' he' hne => get?_modify_ne_of_layout ht hlayout he he' hne.symm _
  have htree : (syncStep resolve s (e.path, b)).tree =
      s.tree.modify (Node.synced resolve) e.path := by rw [syncStep, hrefresh]
  have hpaths : (front ++ [(e.path, b)]).map (·.1) = front.map (·.1) ++ [e.path] := by simp
  refine ⟨?_, ?_, ?_, ?_, ?_⟩
  · rw [htree, recast_modify_id hn (Node.recast_synced e.node), h.shape]
  · intro e' he' hp
    rw [hpaths, List.mem_append, List.mem_singleton] at hp
    rw [htree]
    by_cases hpath : e'.path = e.path
    · have hsame : some e'.node = some e.node := by
        rw [← get?_of_mem_primitives ht he', hpath, get?_of_mem_primitives ht he]
      rw [hpath, get?_modify_self hn, Option.some.inj hsame]
    · rw [hother e' he' hpath]
      exact h.done e' he' (hp.resolve_right hpath)
  · intro e' he' hp
    rw [hpaths, List.mem_append, List.mem_singleton, not_or] at hp
    rw [htree, hother e' he' hp.2]
    exact h.rest e' he' hp.1
  · have hstale : ((t.get? e.path).bind (Node.incoming? resolve)).isSome =
        (e.node.incoming? resolve).isSome := by rw [get?_of_mem_primitives ht he, Option.bind_some]
    rw [hpaths, List.filter_append, ← h.changed, syncStep, hrefresh]
    dsimp only
    cases hi : (e.node.incoming? resolve).isSome with
    | true => simp [hstale, hi]
    | false => simp [hstale, hi]
  · rw [syncStep, h.asked]
    simp

/-- **The run**: syncing refreshes one bound primitive after another. -/
theorem progress_of_bound (resolve : Binding → Option Scalar) (ht : t.Valid) :
    ∀ {front back : List (String × Binding)},
    t.bound = front ++ back →
      Progress resolve t front (front.foldl (syncStep resolve) ⟨t, [], []⟩) := by
  intro front
  induction front using List.reverseRecOn with
  | nil =>
    intro back _
    exact .start ht
  | append_singleton front bound ih =>
    intro back hback
    obtain ⟨path, b⟩ := bound
    have hmem : (path, b) ∈ t.bound := by simp [hback]
    obtain ⟨n, he, hb⟩ := mem_bound.mp hmem
    rw [List.append_assoc] at hback
    rw [List.foldl_append]
    exact (ih hback).step ht he hb (not_mem_of_bound ht hback)

theorem progress_sync (resolve : Binding → Option Scalar) (ht : t.Valid) :
    Progress resolve t t.bound (t.sync resolve) := by
  rw [sync_eq]
  exact progress_of_bound resolve ht (List.append_nil t.bound).symm

/-- When nothing is left to do, every primitive has taken what its property gives. -/
theorem get?_sync (ht : t.Valid) {e : Entry} (he : e ∈ t.primitives) :
    (t.sync resolve).tree.get? e.path = some (e.node.synced resolve) := by
  have h := progress_sync resolve ht
  by_cases hp : e.path ∈ t.bound.map (·.1)
  · exact h.done e he hp
  · have hb : e.node.traits.binding = none := by
      cases hb : e.node.traits.binding with
      | none => rfl
      | some b => exact absurd (List.mem_map_of_mem (mem_bound.mpr ⟨e.node, he, hb⟩)) hp
    rw [h.rest e he hp, Node.synced_of_none (Node.incoming?_of_unbound hb)]

theorem value?_sync (ht : t.Valid) {e : Entry} (he : e ∈ t.primitives) :
    (t.sync resolve).tree.value? e.path = (e.node.synced resolve).value? := by
  rw [value?, get?_sync ht he, Option.bind_some]

theorem sameLayout_sync (resolve : Binding → Option Scalar) (ht : t.Valid) :
    (t.sync resolve).tree.SameLayout t :=
  sameLayout_of_recast (progress_sync resolve ht).shape

/-- The properties asked for are those of the bound primitives. -/
theorem asked_sync (resolve : Binding → Option Scalar) (ht : t.Valid) :
    (t.sync resolve).asked = t.primitives.filterMap (·.node.traits.binding) := by
  rw [(progress_sync resolve ht).asked, bound, List.map_filterMap]
  exact List.filterMap_congr fun e _ => by cases e.node.traits.binding <;> rfl

/-- The paths told are those where the value is another one than before. -/
theorem changed_sync (resolve : Binding → Option Scalar) (ht : t.Valid) :
    (t.sync resolve).changed = (t.primitives.filter fun e => e.node.value?.any fun v =>
      ((t.sync resolve).tree.value? e.path).any fun w => !v.same w).map (·.path) := by
  rw [(progress_sync resolve ht).changed, paths_bound, List.filter_map, List.filter_filter]
  refine congrArg _ (List.filter_congr fun e he => ?_)
  rw [value?_sync ht he, ← Node.isSome_incoming?, Function.comp_apply,
    get?_of_mem_primitives ht he, Option.bind_some]
  cases hb : e.node.traits.binding with
  | none => rw [Node.incoming?_of_unbound hb]; rfl
  | some b => simp

/-- A bound primitive is there and bound as before when its turn comes. -/
theorem found_of_bound (resolve : Binding → Option Scalar) (ht : t.Valid)
    (hback : t.bound = front ++ (path, b) :: back) :
    ∃ n, (front.foldl (syncStep resolve) ⟨t, [], []⟩).tree.get? path = some n ∧
      n.isPrimitive = true ∧ n.traits.binding = some b := by
  obtain ⟨n, he, hb⟩ := mem_bound.mp (by rw [hback]; simp : (path, b) ∈ t.bound)
  exact ⟨n, (progress_of_bound resolve ht hback).rest _ he (not_mem_of_bound ht hback),
    (mem_primitives_iff.mp he).2, hb⟩

/-! ### A second sync -/

/-- The bound primitives are seen from traits and places. -/
theorem bound_eq_of_recast {a : Tree}
    (h : t.root.recast id Scalar.blank = a.root.recast id Scalar.blank) : t.bound = a.bound := by
  have hshape : ∀ n : Node, Tree.bound ⟨n.recast id Scalar.blank⟩ = Tree.bound ⟨n⟩ := by
    intro n
    rw [bound, primitives, Node.primitives_recast, List.filterMap_map]
    exact List.filterMap_congr fun e _ => by simp
  calc t.bound = Tree.bound ⟨t.root.recast id Scalar.blank⟩ := (hshape t.root).symm
    _ = a.bound := by rw [h, hshape]

theorem foldl_of_quiet : ∀ {es : List (String × Binding)},
    (∀ x ∈ es, t.refresh x.1 (resolve x.2) = (t, false)) → ∀ asked : List Binding,
      es.foldl (syncStep resolve) ⟨t, [], asked⟩ = ⟨t, [], asked ++ es.map (·.2)⟩
  | [], _, asked => by simp
  | x :: es, h, asked => by
    have hx := h x List.mem_cons_self
    have hstep : syncStep resolve ⟨t, [], asked⟩ x = ⟨t, [], asked ++ [x.2]⟩ := by
      simp [syncStep, hx]
    rw [List.foldl_cons, hstep, foldl_of_quiet fun y hy => h y (List.mem_cons_of_mem x hy)]
    simp

/-- Where no primitive takes a value, syncing asks and does nothing. -/
theorem sync_of_quiet (ht : t.Valid)
    (h : ∀ e ∈ t.primitives, e.node.incoming? resolve = none) :
    t.sync resolve = ⟨t, [], t.bound.map (·.2)⟩ := by
  rw [sync_eq]
  refine foldl_of_quiet (fun x hx => ?_) []
  obtain ⟨path, b⟩ := x
  obtain ⟨n, he, hb⟩ := mem_bound.mp hx
  have hn := get?_of_mem_primitives ht he
  have hi := h _ he
  rw [refresh_eq resolve hn (mem_primitives_iff.mp he).2 hb, hi, modify_of_eq hn (Node.synced_of_none hi)]
  rfl

/-- **A second sync asks again and does nothing.** -/
theorem sync_sync (resolve : Binding → Option Scalar) (ht : t.Valid) :
    (t.sync resolve).tree.sync resolve =
      ⟨(t.sync resolve).tree, [], (t.sync resolve).asked⟩ := by
  have hrun := progress_sync resolve ht
  have hlayout := sameLayout_sync resolve ht
  have hvalid := ht.of_sameLayout hlayout.symm
  have hquiet : ∀ e ∈ (t.sync resolve).tree.primitives, e.node.incoming? resolve = none := by
    intro e he
    obtain ⟨n, hn, -⟩ := hlayout.mem_primitives he
    have hnode := get?_of_mem_primitives hvalid he
    rw [get?_sync ht hn] at hnode
    rw [← Option.some.inj hnode]
    exact Node.incoming?_synced n
  rw [sync_of_quiet hvalid hquiet, bound_eq_of_recast hrun.shape, hrun.asked]

end Tree

namespace Call

/-- What is answered to questions that are not asked does not count. -/
theorem refreshAll_congr {r r' : List Binding → Binding → Option Scalar} :
    ∀ {bound : List (String × Binding)} {asked : List Binding},
      (∀ front path b back, bound = front ++ (path, b) :: back →
        r (asked ++ front.map (·.2)) b = r' (asked ++ front.map (·.2)) b) →
      refreshAll r asked bound = refreshAll r' asked bound
  | [], _, _ => rfl
  | (path, b) :: rest, asked, h => by
    have hfirst : r asked b = r' asked b := by simpa using h [] path b rest rfl
    have hrest : refreshAll r (asked ++ [b]) rest = refreshAll r' (asked ++ [b]) rest := by
      refine refreshAll_congr fun front path' b' back hr => ?_
      have := h ((path, b) :: front) path' b' back (by rw [hr]; rfl)
      simpa using this
    rw [refreshAll, refreshAll, hfirst, hrest]

/-- **A source that answers in the same way comes to the same**, even if it may change its
answers: each question is asked after those before it. -/
theorem sync_of_answers {resolve : Binding → Option Scalar} {t : Tree}
    {r : List Binding → Binding → Option Scalar}
    (hr : ∀ front path b back, t.bound = front ++ (path, b) :: back →
      r (front.map (·.2)) b = resolve b) :
    sync r t = .ok (t.sync resolve).changed (t.sync resolve).tree := by
  have hcall : refreshAll r [] t.bound = refreshAll (fun _ => resolve) [] t.bound :=
    refreshAll_congr hr
  rw [← sync_eq]
  exact congrFun hcall t

theorem syncAny_eq (resolve : Binding → Option Scalar) (t : Tree) :
    syncAny (fun _ => resolve) t =
      .ok (!(t.sync resolve).changed.isEmpty) (t.sync resolve).tree := by
  change EStateM.bind (sync fun _ => resolve) _ t = _
  rw [EStateM.bind, sync_eq]
  rfl

end Call

namespace Tree

variable {resolve : Binding → Option Scalar} {t : Tree}

/-- What is said of syncing a tree. -/
structure SyncsExactly (resolve : Binding → Option Scalar) (t : Tree) : Prop where
  /-- The property of each bound primitive is asked for once, in the order of the listing. -/
  asked : (t.sync resolve).asked = t.primitives.filterMap (·.node.traits.binding)
  /-- A bound primitive is there and bound as before when its turn comes. -/
  found : ∀ front path b back, t.bound = front ++ (path, b) :: back → ∃ n,
    (front.foldl (syncStep resolve) ⟨t, [], []⟩).tree.get? path = some n ∧
      n.isPrimitive = true ∧ n.traits.binding = some b
  /-- A source that may change its answers comes to the same, if it answers these questions, each
  after those before it, in this way. -/
  inPlace : ∀ r : List Binding → Binding → Option Scalar,
    (∀ front path b back, t.bound = front ++ (path, b) :: back →
      r (front.map (·.2)) b = resolve b) →
    Call.sync r t = .ok (t.sync resolve).changed (t.sync resolve).tree
  /-- A bound primitive whose property can be converted to its kind has that value. -/
  received : ∀ e ∈ t.primitives, ∀ b v answer w, e.node.traits.binding = some b →
    e.node.value? = some v → resolve b = some answer → answer.coerce? v.kind = some w →
    ∃ u, (t.sync resolve).tree.value? e.path = some u ∧ u.same w = true
  /-- Every other primitive has the value that it had. -/
  untouched : ∀ e ∈ t.primitives,
    (∀ b v answer, e.node.traits.binding = some b → e.node.value? = some v →
      resolve b = some answer → answer.coerce? v.kind = none) →
    (t.sync resolve).tree.value? e.path = e.node.value?
  /-- Traits, kinds and places stay. -/
  shape : (t.sync resolve).tree.root.recast id Scalar.blank = t.root.recast id Scalar.blank
  /-- The paths told are those of the primitives whose values are not the same as before. -/
  changed : (t.sync resolve).changed = (t.primitives.filter fun e => e.node.value?.any fun v =>
    ((t.sync resolve).tree.value? e.path).any fun w => !v.same w).map (·.path)
  /-- A second sync asks again and does nothing. -/
  again : (t.sync resolve).tree.sync resolve =
    ⟨(t.sync resolve).tree, [], (t.sync resolve).asked⟩
  quiet : Call.syncAny (fun _ => resolve) (t.sync resolve).tree =
    .ok false (t.sync resolve).tree

/-- **Syncing is exact**: each bound primitive takes what its property gives, nothing else
changes, and a second sync finds nothing to do. -/
theorem sync_exact (resolve : Binding → Option Scalar) (ht : t.Valid) :
    t.SyncsExactly resolve where
  asked := asked_sync resolve ht
  found _ _ _ _ := found_of_bound resolve ht
  inPlace _ := Call.sync_of_answers
  received := by
    rintro ⟨path, n⟩ he b v answer w hb hv ha hc
    cases n with
    | object tr cs => cases hv
    | array tr is => cases hv
    | leaf tr v' =>
      obtain rfl : v' = v := Option.some.inj hv
      have hb : tr.binding = some b := hb
      rw [value?_sync ht he]
      exact Node.value?_synced (by rw [hb, Option.bind_some, ha, Option.bind_some, hc])
  untouched := by
    rintro ⟨path, n⟩ he hnone
    rw [value?_sync ht he]
    refine congrArg Node.value? (Node.synced_of_none ?_)
    cases n with
    | object tr cs => rfl
    | array tr is => rfl
    | leaf tr v =>
      rw [Node.incoming?, Option.filter_eq_none_iff]
      intro w hw
      obtain ⟨answer, ha, hc⟩ := Option.bind_eq_some_iff.mp hw
      obtain ⟨b, hb, ha⟩ := Option.bind_eq_some_iff.mp ha
      rw [hnone b v answer hb rfl ha] at hc
      cases hc
  shape := (progress_sync resolve ht).shape
  changed := changed_sync resolve ht
  again := sync_sync resolve ht
  quiet := by
    rw [Call.syncAny_eq, sync_sync resolve ht]
    rfl

/-- A card with bound primitives, two of them bound to one property, and a bound container. -/
def card : Tree :=
  let bound (property : String) : Traits := { binding := some ⟨"badge", property⟩ }
  ⟨.object {} [("title", .leaf (bound "label") (.string "")),
    ("shown", .leaf (bound "label") (.boolean false)),
    ("ratio", .leaf (bound "ratio") (.number (0.0 / 0.0))),
    ("size", .leaf (bound "label") (.number 3)),
    ("lost", .leaf (bound "other") (.number 3)),
    ("box", .object (bound "label") [("0", .leaf {} (.string "x"))])]⟩

/-- What the badge knows. -/
def badge (b : Binding) : Option Scalar :=
  if b = ⟨"badge", "label"⟩ then some (.string "Go")
  else if b = ⟨"badge", "ratio"⟩ then some (.string "NaN")
  else none

/-- Two values change; a NaN is kept, a text is no number, and one property is not known. -/
theorem sync_exact_card : (card.sync badge).changed = ["title", "shown"] ∧
    (card.sync badge).asked.map (·.propName) = ["label", "label", "ratio", "label", "other"] ∧
    card.SyncsExactly badge :=
  ⟨by decide +kernel, by decide +kernel, sync_exact badge ⟨rfl, rfl⟩⟩

end Tree
end ReactiveTree
