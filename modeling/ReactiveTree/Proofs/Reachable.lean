import ReactiveTree.Proofs.Calls
import ReactiveTree.Proofs.Rules
import ReactiveTree.Proofs.Reaction.Evaluation
import ReactiveTree.Reaction.Pipeline
import ReactiveTree.Tree.Export

/-!
# Every tree that is reached keeps the rules

A tree that is made, read, imported or migrated keeps the rules. An edit that goes through changes
the node at one path, and that node keeps the rules if the node that is given does, which is
checked before it is written; an edit that is refused changes nothing. A reaction writes values to
primitives and errors of expressions, none of which is against a rule. So the rules hold after
every run of edits and reactions (`Tree.check_after`). No use is made of the keys of an object
being different.

Key definitions: `Call.left`, `Tree.Made`, `Step`, `Tree.after`.
Key theorems: `Node.Lawful.put`, `Tree.Lawful.modify`, `Edit.lawful_perform`,
`Reaction.lawful_react`, `Tree.Made.lawful`, `Tree.check_after`.
-/
namespace ReactiveTree
namespace Node

open Json (lookup upsert)

variable {n m c d : Node} {s : String} {segments : List String} {path : String} {new : Node}

theorem kind_replaceChild (n : Node) (s : String) (d : Node) :
    (n.replaceChild s d).kind = n.kind := by
  cases n with
  | object t cs => rfl
  | array t is =>
    rw [replaceChild]
    split <;> rfl
  | leaf t v => rfl

theorem kind_modify? {f : Node → Node} {n' : Node} (h : n.modify? f (s :: segments) = some n') :
    n'.kind = n.kind := by
  obtain ⟨c, hc, h⟩ := Option.bind_eq_some_iff.mp h
  obtain ⟨c', hc', h⟩ := Option.bind_eq_some_iff.mp h
  obtain rfl := Option.some.inj h
  exact kind_replaceChild n s c'

theorem mem_of_mem_moveItem {α : Type} {a : α} {i j : Nat} {items : List α}
    (h : a ∈ moveItem i j items) : a ∈ items := by
  unfold moveItem at h
  cases hi : items[i]? with
  | none => rwa [hi] at h
  | some item =>
    rw [hi] at h
    rcases List.eq_or_mem_of_mem_insertIdx h with rfl | h
    · exact List.mem_of_getElem? hi
    · exact List.mem_of_mem_eraseIdx h

theorem kind_withTraits (n : Node) (r : Traits) : (n.withTraits r).kind = n.kind := by
  cases n <;> rfl

theorem kind_put {n' : Node} (h : put path new (s :: segments) n = .ok n') :
    n'.kind = n.kind := by
  obtain ⟨t, cs, c, rfl, rfl, -⟩ | ⟨t, is, i, d, c, rfl, rfl, -⟩ | ⟨t, is, c, rfl, rfl, -⟩ :=
    put_cons_ok h
  · rfl
  · rfl
  · rfl

theorem kind_extractChild? {gone left : Node} (h : n.extractChild? s = some (gone, left)) :
    left.kind = n.kind := by
  cases n with
  | object t cs =>
    obtain ⟨c, -, hx⟩ := Option.map_eq_some_iff.mp h
    obtain ⟨-, rfl⟩ := Prod.mk.inj hx
    rfl
  | array t is =>
    obtain ⟨i, -, hx⟩ := Option.bind_eq_some_iff.mp h
    obtain ⟨c, -, hx⟩ := Option.bind_eq_some_iff.mp hx
    obtain ⟨-, rfl⟩ := Prod.mk.inj (Option.some.inj hx)
    rfl
  | leaf t v => cases h

namespace Lawful

theorem withTraits {r : Traits} (h : n.Lawful) (hr : n.isPrimitive = false → r.expression = none) :
    (n.withTraits r).Lawful := by
  cases n with
  | object t cs => exact lawful_object.mpr ⟨hr rfl, (lawful_object.mp h).2⟩
  | array t is => exact lawful_array.mpr ⟨hr rfl, (lawful_array.mp h).2⟩
  | leaf t v => exact lawful_leaf r v

/-- The rules are kept when a node that keeps them is written. -/
theorem put (hnew : new.Lawful) : ∀ {segments : List String} {n n' : Node}, n.Lawful →
    Path.ValidKeys segments → Node.put path new segments n = .ok n' → n'.Lawful
  | [], _, _, _, _, h => Except.ok.inj h ▸ hnew
  | s :: rest, n, n', hn, hv, h => by
    obtain ⟨hs, hv⟩ := Path.validKeys_cons.mp hv
    obtain ⟨t, cs, c, rfl, rfl, hc⟩ | ⟨t, is, i, d, c, rfl, rfl, -, hi, hc⟩ |
      ⟨t, is, c, rfl, rfl, -, hc⟩ := put_cons_ok h
    · refine hn.object_upsert hs (put hnew ?_ hv hc)
      cases hl : lookup s cs with
      | none => exact lawful_emptyObject
      | some d => exact hn.child? hl
    · have hd : d.Lawful := (lawful_array.mp hn).2 d (List.mem_of_getElem? hi)
      exact hn.array_set (put hnew hd hv hc) i
    · exact hn.array_append (put hnew lawful_emptyObject hv hc)

end Lawful
end Node

namespace Tree

variable {t t' : Tree} {path : String} {node n : Node} {f : Node → Node}

/-! ### Changes that keep the rules -/

namespace Lawful

/-- The rules are kept when the node at a path changes, if it keeps them and an object stays one. -/
theorem modify (h : t.Lawful) (hf : ∀ n, t.get? path = some n → n.Lawful →
    (f n).Lawful ∧ (n.kind = .object → (f n).kind = .object)) : (t.modify f path).Lawful := by
  rw [Tree.modify, modify?]
  cases hs : Path.split path with
  | error e => exact h
  | ok segments =>
    cases hr : t.root.modify? f segments with
    | none => simpa [hr] using h
    | some r =>
      have hat (n : Node) (hn : t.root.get? segments = some n) (hl : n.Lawful) :=
        hf n ((get?_eq hs).trans hn) hl
      have hnodes : r.Lawful :=
        h.nodes.modify? (fun m hm => (hat m hm (h.nodes.get? hm)).1) hr
      simp only [hr]
      refine ⟨?_, hnodes⟩
      cases segments with
      | nil =>
        obtain rfl := Option.some.inj hr
        exact (hat t.root rfl h.nodes).2 h.root
      | cons s segments => exact (Node.kind_modify? hr).trans h.root

/-- A primitive may be replaced by any other. -/
theorem modify_primitive (h : t.Lawful) (hn : t.get? path = some n) (hp : n.isPrimitive = true)
    (hf : (f n).isPrimitive = true) : (t.modify f path).Lawful := by
  have hleaf : ∀ {m : Node}, m.isPrimitive = true → m.Lawful ∧ m.kind ≠ .object := by
    intro m hm
    cases m with
    | object r cs => cases hm
    | array r is => cases hm
    | leaf r v => exact ⟨Node.lawful_leaf r v, by cases v <;> nofun⟩
  refine h.modify fun m hm _ => ?_
  obtain rfl := Option.some.inj (hn.symm.trans hm)
  exact ⟨(hleaf hf).1, fun hk => absurd hk (hleaf hp).2⟩

theorem write (h : t.Lawful) (path : String) (v : Scalar) :
    (t.modify (fun n => (n.setValue? v).getD n) path).Lawful := by
  refine h.modify fun n _ hl => ?_
  cases n with
  | object r cs => exact ⟨hl, id⟩
  | array r is => exact ⟨hl, id⟩
  | leaf r u => exact ⟨Node.lawful_leaf r v, by cases u <;> nofun⟩

/-- Traits may change that are no expression. -/
theorem withTraits (h : t.Lawful) {g : Traits → Traits}
    (hg : ∀ r, (g r).expression = r.expression) (path : String) :
    (t.modify (fun n => n.withTraits (g n.traits)) path).Lawful := by
  refine h.modify fun n _ hl => ⟨hl.withTraits fun hp => ?_, (Node.kind_withTraits n _).trans⟩
  exact (hg n.traits).trans ((hl [] n rfl).expression hp)

theorem set (h : t.Lawful) (hs : t.set path node = .ok t') : t'.Lawful := by
  obtain ⟨hc, segments, hs, hp, hk⟩ := set_eq_ok hs
  have hnode : node.Lawful := (Node.checkAt_eq_ok_iff path node).mp hc
  refine ⟨?_, Node.Lawful.put hnode h.nodes (Path.validKeys_of_split hs) hp⟩
  cases segments with
  | nil => exact Except.ok.inj hp ▸ hk rfl
  | cons s segments => exact (Node.kind_put hp).trans h.root

theorem setPrimitive {v : Scalar} (h : t.Lawful) (hs : t.setPrimitive path v = .ok t') :
    t'.Lawful := by
  unfold Tree.setPrimitive at hs
  cases hn : t.get? path with
  | none =>
    rw [hn] at hs
    exact h.set hs
  | some n =>
    rw [hn] at hs
    cases n with
    | object r cs => cases hs
    | array r is => cases hs
    | leaf r u => exact Except.ok.inj hs ▸ h.modify_primitive hn rfl rfl

theorem createChild {parent key : String} (h : t.Lawful)
    (hc : t.createChild parent key = .ok t') : t'.Lawful := by
  unfold Tree.createChild at hc
  dsimp only at hc
  split at hc
  · cases hc
  · split at hc
    · cases hc
    · exact h.set hc

/-- The items of an array may be replaced by items that keep the rules. -/
theorem withItemsAt {items items' : List Node} (h : t.Lawful)
    (hi : t.itemsAt path = .ok items)
    (hl : (∀ c ∈ items, c.Lawful) → ∀ c ∈ items', c.Lawful) :
    (t.withItemsAt path items').Lawful := by
  refine h.modify fun n hn hlaw => ?_
  rw [Tree.itemsAt, hn] at hi
  cases n with
  | object r cs => cases hi
  | leaf r v => cases hi
  | array r is =>
    obtain rfl := Except.ok.inj hi
    obtain ⟨he, hc⟩ := Node.lawful_array.mp hlaw
    exact ⟨Node.lawful_array.mpr ⟨he, hl hc⟩, nofun⟩

theorem push {i : Nat} (h : t.Lawful) (hp : t.push path node = .ok (t', i)) : t'.Lawful := by
  unfold Tree.push at hp
  cases hi : t.itemsAt path with
  | error e => rw [hi] at hp; cases hp
  | ok items =>
    rw [hi] at hp
    change (node.checkAt (Path.join path (toString items.length)) >>= fun _ =>
      .ok (t.withItemsAt path (items ++ [node]), items.length)) = Except.ok (t', i) at hp
    cases hc : node.checkAt (Path.join path (toString items.length)) with
    | error e => rw [hc] at hp; cases hp
    | ok =>
      rw [hc] at hp
      obtain ⟨rfl, -⟩ := Prod.mk.inj (Except.ok.inj hp)
      refine h.withItemsAt hi fun hl c hm => ?_
      rcases List.mem_append.mp hm with hm | hm
      · exact hl c hm
      · exact List.mem_singleton.mp hm ▸ (Node.checkAt_eq_ok_iff _ node).mp hc

theorem reorder {i j : Nat} (h : t.Lawful) (hr : t.reorder path i j = .ok t') : t'.Lawful := by
  cases hi : t.itemsAt path with
  | error e => rw [Tree.reorder, hi] at hr; cases hr
  | ok items =>
    rw [reorder_of_items hi] at hr
    split at hr
    · cases hr
    · split at hr
      · cases hr
      · obtain rfl := Except.ok.inj hr
        split
        · exact h
        · exact h.withItemsAt hi fun hl c hm => hl c (Node.mem_of_mem_moveItem hm)

theorem modifyPrimitive {g : Traits → Traits} (h : t.Lawful)
    (hm : t.modifyPrimitive g path = .ok t') : t'.Lawful := by
  unfold Tree.modifyPrimitive at hm
  cases hn : t.get? path with
  | none => rw [hn] at hm; cases hm
  | some n =>
    rw [hn] at hm
    dsimp only at hm
    split at hm
    · rename_i hp
      obtain rfl := Except.ok.inj hm
      refine h.modify_primitive hn hp ?_
      cases n <;> first | rfl | cases hp
    · cases hm

theorem bind {b : Binding} {seed : Scalar} (h : t.Lawful) (hb : t.bind path b seed = .ok t') :
    t'.Lawful := by
  unfold Tree.bind at hb
  cases hn : t.get? path with
  | none =>
    rw [hn] at hb
    exact h.set hb
  | some n =>
    rw [hn] at hb
    cases n with
    | object r cs => cases hb
    | array r is => cases hb
    | leaf r u => exact Except.ok.inj hb ▸ h.modify_primitive hn rfl rfl

theorem delete? {gone : Node} (h : t.Lawful) (hd : t.delete? path = some (gone, t')) :
    t'.Lawful := by
  cases hs : Path.split path with
  | error e => rw [Tree.delete?, hs] at hd; cases hd
  | ok segments =>
    rcases segments.eq_nil_or_concat' with rfl | ⟨front, key, rfl⟩
    · rw [Tree.delete?, hs] at hd
      cases hd
    · rw [delete?_concat hs] at hd
      obtain ⟨m, hm, hd⟩ := Option.bind_eq_some_iff.mp hd
      obtain ⟨⟨gone', left⟩, hx, hd⟩ := Option.map_eq_some_iff.mp hd
      obtain ⟨-, rfl⟩ := Prod.mk.inj hd
      refine h.modify fun n hn hl => ?_
      obtain rfl := Option.some.inj (hm.symm.trans hn)
      exact ⟨hl.extractChild? hx, (Node.kind_extractChild? hx).trans⟩

theorem unbind? (h : t.Lawful) (hu : t.unbind? path = some t') : t'.Lawful := by
  obtain ⟨n, -, hu⟩ := Option.bind_eq_some_iff.mp hu
  obtain ⟨b, -, hu⟩ := Option.bind_eq_some_iff.mp hu
  obtain rfl := Option.some.inj hu
  exact h.withTraits (g := fun r => { r with binding := none }) (fun _ => rfl) path

theorem refresh (h : t.Lawful) (path : String) (answer : Option Scalar) :
    (t.refresh path answer).1.Lawful := by
  unfold Tree.refresh
  split
  · split
    · split
      · exact h
      · exact h.write path _
    · exact h
  · exact h

end Lawful
end Tree

/-! ### Edits -/

/-- The tree that a call leaves, refused or not. -/
def Call.left {α : Type} : EStateM.Result PathError Tree α → Tree
  | .ok _ t => t
  | .error _ t => t

namespace Call

variable {α : Type} {t : Tree}

/-- A call whose operation keeps the rules keeps them. -/
theorem lawful_of_reply {r : Except PathError (α × Tree)} (h : t.Lawful)
    (hr : ∀ a t', r = .ok (a, t') → t'.Lawful) : (left (reply t r)).Lawful := by
  cases r with
  | ok p => exact hr p.1 p.2 rfl
  | error e => exact h

theorem lawful_of_finished {r : Except PathError Tree} (h : t.Lawful)
    (hr : ∀ t', r = .ok t' → t'.Lawful) : (left (finished t r)).Lawful := by
  cases r with
  | ok t' => exact hr t' rfl
  | error e => exact h

theorem left_discard (c : Call α) (t : Tree) : left ((discard c : Call Unit) t) = left (c t) := by
  change left (EStateM.map (fun _ => ()) c t) = _
  rw [EStateM.map]
  cases c t <;> rfl

theorem lawful_refreshAll (resolve : List Binding → Binding → Option Scalar) :
    ∀ (bound : List (String × Binding)) (asked : List Binding) {t : Tree}, t.Lawful →
      (left (refreshAll resolve asked bound t)).Lawful
  | [], _, _, h => h
  | (path, b) :: rest, asked, t, h => by
    have hrest := lawful_refreshAll resolve rest (asked ++ [b])
      (h.refresh path (resolve asked b))
    obtain ⟨paths, t', hr⟩ := refreshAll_ok resolve rest (asked ++ [b])
      (t.refresh path (resolve asked b)).1
    rw [hr] at hrest
    rw [refreshAll_cons hr]
    exact hrest

end Call

/-- **An edit keeps the rules**, whether it is refused or not. -/
theorem Edit.lawful_perform {t : Tree} (h : t.Lawful) : ∀ edit : Edit,
    (Call.left (edit.perform t)).Lawful
  | .set path node => by
    rw [perform, Call.set_eq]
    exact Call.lawful_of_finished h fun _ => h.set
  | .setPrimitive path v => by
    rw [perform, Call.setPrimitive_eq]
    exact Call.lawful_of_finished h fun _ => h.setPrimitive
  | .createChild parent key => by
    rw [perform, Call.createChild_eq]
    exact Call.lawful_of_finished h fun _ => h.createChild
  | .push path node => by
    rw [perform, Call.left_discard, Call.push_eq]
    refine Call.lawful_of_reply h fun i t' hr => ?_
    cases hp : t.push path node with
    | error e => rw [hp] at hr; cases hr
    | ok p =>
      rw [hp] at hr
      obtain ⟨-, rfl⟩ := Prod.mk.inj (Except.ok.inj hr)
      exact h.push hp
  | .delete path => by
    rw [perform, Call.left_discard, Call.delete_eq]
    cases hd : t.delete? path with
    | none => exact h
    | some p => exact h.delete? hd
  | .reorder path i j => by
    rw [perform, Call.reorder_eq]
    exact Call.lawful_of_finished h fun _ => h.reorder
  | .setExpression path source => by
    rw [perform, Call.setExpression_eq]
    exact Call.lawful_of_finished h fun _ => h.modifyPrimitive
  | .clearExpression path => by
    rw [perform, Call.clearExpression_eq]
    exact Call.lawful_of_finished h fun _ => h.modifyPrimitive
  | .bind path b seed => by
    rw [perform, Call.bind_eq]
    exact Call.lawful_of_finished h fun _ => h.bind
  | .unbind path => by
    rw [perform, Call.left_discard, Call.unbind_eq]
    cases hu : t.unbind? path with
    | none => exact h
    | some t' => exact h.unbind? hu
  | .sync resolve => by
    rw [perform, Call.left_discard]
    exact Call.lawful_refreshAll resolve t.bound [] h

/-! ### Reactions -/

namespace Reaction

variable {w : Working}

namespace Working

theorem lawful_record (h : w.tree.Lawful) (path : String) (failure : Option String) :
    (w.record path failure).tree.Lawful :=
  h.withTraits (g := fun r => { r with expressionError := failure }) (fun _ => rfl) path

theorem lawful_write (h : w.tree.Lawful) (path : String) (v : Scalar) :
    (w.write path v).tree.Lawful := by
  unfold Working.write
  split
  · exact h
  · exact h.write path v

theorem lawful_turn (h : w.tree.Lawful) (x : Task) : (w.turn x).tree.Lawful := by
  rw [turn_eq]
  split
  · rename_i v _
    have hw := lawful_write (w := { w with engine := (compute w.engine x).2 }) h x.path v
    exact lawful_record hw x.path none
  · exact lawful_record h x.path _

theorem lawful_foldl : ∀ (xs : List Task) {w : Working}, w.tree.Lawful →
    (xs.foldl turn w).tree.Lawful
  | [], _, h => h
  | x :: xs, _, h => lawful_foldl xs (lawful_turn h x)

theorem lawful_reject : ∀ (xs : List Task) {w : Working}, w.tree.Lawful →
    (reject xs w).tree.Lawful
  | [], _, h => h
  | x :: xs, _, h => lawful_reject xs (lawful_record h x.path _)

theorem lawful_settle (xs : List Task) : ∀ (n made : Nat) {w : Working}, w.tree.Lawful →
    (settle xs w n made).1.tree.Lawful
  | 0, _, _, h => h
  | n + 1, made, w, h => by
    have hpass : (w.pass xs).tree.Lawful := lawful_foldl xs h
    rw [settle_succ]
    split
    · exact lawful_settle xs n (made + 1) hpass
    · exact hpass

end Working

/-- **A reaction keeps the rules.** -/
theorem lawful_react {t : Tree} (h : t.Lawful) (p : Pipeline) (previous : Option Snapshot) :
    (p.react t previous).2.1.Lawful := by
  change (evaluate p.engine t p.maxPasses).2.1.Lawful
  have hbegin : (Working.begin p.engine t).tree.Lawful := Working.lawful_reject (looping t) h
  rw [tree_evaluate, finish]
  split
  · exact hbegin
  · exact Working.lawful_settle _ _ _ hbegin

end Reaction

/-! ### Trees from outside -/

/-- The trees that there are before any call: the empty tree, and those that are made from a root,
read, imported or migrated. -/
inductive Tree.Made : Tree → Prop
  | empty : Made .empty
  | ofRoot {root : Node} {t : Tree} (h : Tree.ofRoot root = .ok t) : Made t
  | read {origin : Origin} {j : Json} {t : Tree} (h : Tree.read origin j = .ok t) : Made t
  | ofText {text : String} {t : Tree} (h : Tree.ofText text = .ok t) : Made t
  | importDocument {text : String} {t : Tree} (h : Tree.importDocument text = .ok t) : Made t
  | migrate (m : FlatMap) : Made m.migrate

namespace Node

mutual
theorem lawful_ofPlain : ∀ j : Json, (ofPlain j).Lawful
  | .obj ms => by
    rw [ofPlain]
    exact lawful_object.mpr ⟨rfl, lawful_childrenOfPlain ms⟩
  | .arr items => by
    rw [ofPlain]
    exact lawful_array.mpr ⟨rfl, lawful_itemsOfPlain items⟩
  | .null | .bool _ | .int _ | .double _ | .str _ | .broken | .unusable => by
    simp only [ofPlain]
    exact lawful_leaf _ _

theorem lawful_childrenOfPlain : ∀ (ms : List (String × Json)) (s : String) (c : Node),
    (s, c) ∈ childrenOfPlain ms → Path.isValidKey s = true ∧ c.Lawful
  | [], _, _, h => by
    rw [childrenOfPlain] at h
    exact (List.not_mem_nil h).elim
  | (k, j) :: ms, s, c, h => by
    rw [childrenOfPlain] at h
    split at h
    · rename_i hk
      rcases List.mem_cons.mp h with h | h
      · obtain ⟨rfl, rfl⟩ := Prod.mk.inj h
        exact ⟨hk, lawful_ofPlain j⟩
      · exact lawful_childrenOfPlain ms s c h
    · exact lawful_childrenOfPlain ms s c h

theorem lawful_itemsOfPlain : ∀ (js : List Json) (c : Node), c ∈ itemsOfPlain js → c.Lawful
  | [], _, h => by
    rw [itemsOfPlain] at h
    exact (List.not_mem_nil h).elim
  | j :: js, c, h => by
    rw [itemsOfPlain] at h
    rcases List.mem_cons.mp h with rfl | h
    · exact lawful_ofPlain j
    · exact lawful_itemsOfPlain js c h
end

theorem lawful_ofKind (k : Kind) : (ofKind k).Lawful := by
  cases k with
  | object => exact lawful_emptyObject
  | array => exact lawful_array.mpr ⟨rfl, fun _ h => (List.not_mem_nil h).elim⟩
  | string => exact lawful_leaf _ _
  | number => exact lawful_leaf _ _
  | boolean => exact lawful_leaf _ _

theorem lawful_create (k : Kind) (v : Option Scalar) {r : Traits} (hr : r.expression = none) :
    (create k v r).Lawful := by
  unfold create
  split
  · exact lawful_leaf r _
  · exact (lawful_ofKind k).withTraits fun _ => hr

end Node

/-- What an entry of a flat map becomes keeps the rules. -/
theorem FlatEntry.lawful_toNode (e : FlatEntry) : e.toNode.Lawful := by
  unfold toNode
  split
  case h_1 | h_2 =>
    split
    · rename_i n hn
      obtain ⟨j, -, rfl⟩ := Option.map_eq_some_iff.mp hn
      split
      · exact Node.lawful_ofPlain j
      · exact Node.lawful_ofKind e.kind
    · exact Node.lawful_ofKind e.kind
  case h_3 =>
    split
    · exact Node.lawful_leaf _ _
    · exact Node.lawful_create _ _ rfl
  case h_4 => exact Node.lawful_create _ _ rfl

namespace Tree

theorem lawful_migrate (m : FlatMap) : m.migrate.Lawful := by
  refine ⟨rfl, Node.lawful_object.mpr ⟨rfl, fun s c h => ?_⟩⟩
  obtain ⟨⟨k, e⟩, hm, he⟩ := List.mem_map.mp h
  obtain ⟨rfl, rfl⟩ := Prod.mk.inj he
  have hnode := e.lawful_toNode
  exact ⟨(List.mem_filter.mp hm).2,
    hnode.withTraits fun hp => (hnode [] _ rfl).expression hp⟩

theorem lawful_of_ofRoot {root : Node} {t : Tree} (h : ofRoot root = .ok t) : t.Lawful := by
  unfold ofRoot at h
  split at h
  · rename_i hc
    exact Except.ok.inj h ▸ check_eq_ok_iff.mp hc
  · cases h

theorem lawful_of_read {origin : Origin} {j : Json} {t : Tree} (h : read origin j = .ok t) :
    t.Lawful := by
  unfold read at h
  split at h
  · cases h
  · split at h
    · rename_i hr
      exact Except.ok.inj h ▸ lawful_of_ofRoot hr
    · cases h

theorem lawful_of_ofText {text : String} {t : Tree} (h : ofText text = .ok t) : t.Lawful := by
  unfold ofText Json.readDocument at h
  dsimp only at h
  split at h
  · cases h
  · rename_i hr
    split at h
    · exact Except.ok.inj h ▸ lawful_of_read hr
    · cases h

theorem lawful_of_import {text : String} {t : Tree} (h : importDocument text = .ok t) :
    t.Lawful := by
  unfold importDocument at h
  dsimp only at h
  split at h
  · cases h
  · split at h
    · cases h
    · cases h
    · split at h
      · cases h
      · split at h
        · cases h
        · split at h
          · rename_i hc
            exact Except.ok.inj h ▸ check_eq_ok_iff.mp hc
          · cases h

theorem Made.lawful {t : Tree} : t.Made → t.Lawful
  | .empty => ⟨rfl, Node.lawful_emptyObject⟩
  | .ofRoot h => lawful_of_ofRoot h
  | .read h => lawful_of_read h
  | .ofText h => lawful_of_ofText h
  | .importDocument h => lawful_of_import h
  | .migrate m => lawful_migrate m

end Tree

/-! ### Runs -/

/-- What is done to a tree: an edit is made, or the tree reacts. -/
inductive Step where
  | edit (e : Edit)
  | react (p : Reaction.Pipeline) (previous : Option Snapshot)

/-- The tree that a step leaves, refused or not. -/
def Step.left (t : Tree) : Step → Tree
  | edit e => Call.left (e.perform t)
  | react p previous => (p.react t previous).2.1

/-- A step keeps the rules. -/
theorem Step.lawful_left {t : Tree} (h : t.Lawful) : ∀ s : Step, (s.left t).Lawful
  | edit e => e.lawful_perform h
  | react p previous => Reaction.lawful_react h p previous

namespace Tree

variable {t : Tree}

/-- The tree that is left after some steps. -/
def after (t : Tree) (steps : List Step) : Tree := steps.foldl Step.left t

theorem Lawful.after : ∀ {steps : List Step} {t : Tree}, t.Lawful → (t.after steps).Lawful
  | [], _, h => h
  | s :: rest, t, h => show ((s.left t).after rest).Lawful from Lawful.after (s.lawful_left h)

/-- **Every tree that is reached keeps the rules.** Whatever is done to a tree that was made, and
whether or not it is refused, a check accepts the tree: its root is an object, no container has an
expression, and no key is empty or has a point in it. -/
theorem check_after (h : t.Made) (steps : List Step) :
    (t.after steps).check = .ok () ∧ (t.after steps).root.kind = .object ∧
      ∀ segments n, (t.after steps).root.Leads segments n →
        (n.isPrimitive = false → n.traits.expression = none) ∧
        ∀ s c, (s, c) ∈ n.kids → s ≠ "" ∧ '.' ∉ s.toList := by
  have hl : (t.after steps).Lawful := h.lawful.after
  refine ⟨check_eq_ok_iff.mpr hl, hl.root, fun segments n hn => ?_⟩
  have hhere := hl.nodes segments n hn
  exact ⟨hhere.expression, fun s c hc => Path.isValidKey_iff.mp (hhere.keys s c hc)⟩

/-- A guest list is made and filled, and two of the steps are refused. -/
def visit : List Step :=
  [.edit (.set "house.guests" (.array default [])),
    .edit (.setPrimitive "house.guests.0" (.string "Ann")),
    .edit (.setExpression "house.guests" "1"),
    .edit (.push "house.guests" (.object { (default : Traits) with expression := some "1" } [])),
    .edit (.setExpression "house.guests.0" "'Bo'"),
    .react {} none]

theorem check_after_visit : Made .empty ∧ (empty.after visit).check = .ok () ∧
    ((empty.after visit).get? "house.guests.0").isSome = true ∧
    ((empty.after visit).get? "house.guests.1").isNone = true := by
  obtain ⟨hcheck, -, -⟩ := check_after .empty visit
  exact ⟨.empty, hcheck, by decide +kernel, by decide +kernel⟩

end Tree
end ReactiveTree
