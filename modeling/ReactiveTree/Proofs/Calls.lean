import ReactiveTree.Tree.Call
import ReactiveTree.Proofs.Writes

/-!
# Refused calls leave the tree

A call that writes goes down along its path and creates what is missing, so a refusal on the way
could leave a changed tree. It does not: an object that was just created can be written to at any
address, so nothing is refused once something has been created (`Node.write_eq`). A call therefore
comes to what the operation on trees gives, and to the tree as it was if that gives none
(`Call.set_eq` and the others).

Key definitions: `Node.visited`, `Node.chain`, `Call.reply`, `Call.Steady`.
Key theorems: `Node.put_emptyObject`, `Node.write_eq`, `Node.put_cons_ok`, `Tree.get?_set`, `Call.set_eq`,
`Call.delete_eq`, `Call.sync_eq`, `Edit.steady_perform`, `Call.eq_of_refused`.
-/
namespace ReactiveTree
namespace Node

open Json (lookup upsert)

variable {n m c d : Node} {s : String} {segments : List String} {path : String} {new : Node}

/-- What a visit comes to if it goes through or leaves the node as it was. -/
def visited (n : Node) : Except PathError Node → EStateM.Result PathError Node Unit
  | .ok n' => .ok () n'
  | .error e => .error e n

/-- Objects that hold nothing but what some segments lead to. -/
def chain (new : Node) : List String → Node
  | [] => new
  | s :: rest => .object default [(s, chain new rest)]

/-- An empty object can be written to at any address. -/
theorem put_emptyObject (path : String) (new : Node) : ∀ segments : List String,
    put path new segments emptyObject = .ok (chain new segments)
  | [] => rfl
  | s :: rest => by
    rw [emptyObject, put]
    show (put path new rest emptyObject >>= _) = _
    rw [put_emptyObject path new rest]
    rfl

theorem write_cons (path : String) (new : Node) (s s' : String) (rest : List String) :
    write path new (s :: s' :: rest) = enter path s (write path new (s' :: rest)) := rfl

theorem place_eq (path : String) (new : Node) (s : String) (n : Node) :
    place path s new n = n.visited (put path new [s] n) := by
  cases n with
  | object t cs => rfl
  | array t is =>
    rw [place, put]
    cases Path.index? s with
    | none => rfl
    | some i =>
      dsimp only
      by_cases hi : i < is.length
      · rw [if_pos hi, List.getElem?_eq_getElem hi]
        rfl
      · rw [if_neg hi, List.getElem?_eq_none (by omega)]
        dsimp only
        split <;> rfl
  | leaf t v => rfl

/-- A child that stays as it was leaves its parent as it was. -/
theorem within_visited {f : Node → Node} (h : f c = n) (r : Except PathError Node) :
    within f (c.visited r) = n.visited (r.map f) := by
  cases r with
  | ok c' => rfl
  | error e => exact congrArg (EStateM.Result.error e) h

theorem put_object (path : String) (new : Node) (s : String) (rest : List String) (t : Traits)
    (cs : List (String × Node)) : put path new (s :: rest) (object t cs) =
      (put path new rest ((lookup s cs).getD emptyObject)).map
        fun c => object t (upsert s c cs) := by
  rw [put]
  cases put path new rest ((lookup s cs).getD emptyObject) <;> rfl

theorem put_array_some {i : Nat} {is : List Node} (hs : Path.index? s = some i)
    (hi : is[i]? = some c) (rest : List String) (t : Traits) :
    put path new (s :: rest) (array t is) =
      (put path new rest c).map fun c => array t (is.set i c) := by
  simp only [put, hs, hi]
  cases put path new rest c <;> rfl

theorem put_array_none {i : Nat} {is : List Node} (hs : Path.index? s = some i)
    (hi : is[i]? = none) (rest : List String) (t : Traits) :
    put path new (s :: rest) (array t is) =
      if i = is.length then (put path new rest emptyObject).map fun c => array t (is ++ [c])
      else .error (.indexOutOfBounds path i is.length) := by
  simp only [put, hs, hi]
  cases put path new rest emptyObject <;> rfl

/-- An array has an item to visit at its end once one has been created. -/
theorem enter_array_none {i : Nat} {is : List Node} (hs : Path.index? s = some i)
    (hi : is[i]? = none) (visit : Visit) (t : Traits) : enter path s visit (array t is) =
      if i = is.length then within (fun c => .array t (is ++ [c])) (visit emptyObject)
      else .error (.indexOutOfBounds path i is.length) (.array t is) := by
  simp only [enter, hs]
  by_cases hl : i = is.length
  · subst hl
    simp
  · simp [hl, hi]

/-- **Going down in place comes to the same as writing anew.** Nothing is refused once something
has been created, so a refusal leaves the node as it was. -/
theorem write_eq (path : String) (new : Node) : ∀ (rest : List String) (s : String) (n : Node),
    write path new (s :: rest) n = n.visited (put path new (s :: rest) n)
  | [], s, n => place_eq path new s n
  | s' :: rest, s, .object t cs => by
    rw [write_cons, enter, put_object, write_eq path new rest s']
    cases hc : lookup s cs with
    | some c => exact within_visited (congrArg (object t) (Json.upsert_of_lookup hc)) _
    | none =>
      rw [Option.getD_none, put_emptyObject]
      rfl
  | s' :: rest, s, .array t is => by
    rw [write_cons]
    cases hs : Path.index? s with
    | none => simp only [enter, put, hs, visited]
    | some i =>
      cases hi : is[i]? with
      | some c =>
        have hlt : i < is.length := (List.getElem?_eq_some_iff.mp hi).1
        have hset : is.set i c = is := by
          rw [← (List.getElem?_eq_some_iff.mp hi).2, List.set_getElem_self]
        simp only [enter, hs, if_neg (Nat.ne_of_lt hlt), hi]
        rw [put_array_some hs hi, write_eq path new rest s']
        exact within_visited (congrArg (array t) hset) _
      | none =>
        rw [enter_array_none hs hi, put_array_none hs hi, write_eq path new rest s', put_emptyObject]
        split <;> rfl
  | s' :: rest, s, .leaf t v => rfl


theorem exists_of_map_eq_ok {f : Node → Node} {n' : Node} :
    ∀ {r : Except PathError Node}, r.map f = .ok n' → ∃ c, n' = f c ∧ r = .ok c
  | .ok c, h => ⟨c, (Except.ok.inj h).symm, rfl⟩

/-- **What writing below a node does.** An object has the child written to, or a new object in its
place; an array has an item written to, or one more item. -/
theorem put_cons_ok {rest : List String} {n' : Node} (h : put path new (s :: rest) n = .ok n') :
    (∃ t cs c, n = .object t cs ∧ n' = .object t (upsert s c cs) ∧
      put path new rest ((lookup s cs).getD emptyObject) = .ok c) ∨
    (∃ t is i d c, n = .array t is ∧ n' = .array t (is.set i c) ∧ Path.index? s = some i ∧
      is[i]? = some d ∧ put path new rest d = .ok c) ∨
    ∃ t is c, n = .array t is ∧ n' = .array t (is ++ [c]) ∧ Path.index? s = some is.length ∧
      put path new rest emptyObject = .ok c := by
  cases n with
  | object t cs =>
    rw [put_object] at h
    obtain ⟨c, hn, hc⟩ := exists_of_map_eq_ok h
    exact .inl ⟨t, cs, c, rfl, hn, hc⟩
  | array t is =>
    refine .inr ?_
    cases hs : Path.index? s with
    | none => simp only [put, hs] at h; cases h
    | some i =>
      cases hi : is[i]? with
      | some d =>
        rw [put_array_some hs hi] at h
        obtain ⟨c, hn, hc⟩ := exists_of_map_eq_ok h
        exact .inl ⟨t, is, i, d, c, rfl, hn, rfl, hi, hc⟩
      | none =>
        rw [put_array_none hs hi] at h
        split at h
        · rename_i hl
          obtain ⟨c, hn, hc⟩ := exists_of_map_eq_ok h
          exact .inr ⟨t, is, c, rfl, hn, congrArg some hl, hc⟩
        · cases h
  | leaf t v => cases h

/-- What is written at an address is found there. -/
theorem get?_put : ∀ {segments : List String} {n n' : Node}, put path new segments n = .ok n' →
    n'.get? segments = some new
  | [], _, _, h => congrArg some (Except.ok.inj h).symm
  | s :: rest, n, n', h => by
    obtain ⟨t, cs, c, -, rfl, hc⟩ | ⟨t, is, i, d, c, -, rfl, hs, hi, hc⟩ |
      ⟨t, is, c, -, rfl, hs, hc⟩ := put_cons_ok h
    · rw [get?, child?, Json.lookup_upsert_self, Option.bind_some, get?_put hc]
    · have hlt : i < is.length := (List.getElem?_eq_some_iff.mp hi).1
      rw [get?, child?, hs, Option.bind_some, List.getElem?_set_self hlt, Option.bind_some,
        get?_put hc]
    · rw [get?, child?, hs, Option.bind_some, List.getElem?_concat_length, Option.bind_some,
        get?_put hc]

theorem extract?_cons (hs : segments ≠ []) (s : String) (n : Node) :
    n.extract? (s :: segments) = (n.child? s).bind fun c =>
      (c.extract? segments).map fun g => (g.1, n.replaceChild s g.2) := by
  obtain ⟨s', rest, rfl⟩ := List.exists_cons_of_ne_nil hs
  simp only [extract?]
  cases n.child? s with
  | none => rfl
  | some c =>
    change (c.extract? (s' :: rest)).bind _ = (c.extract? (s' :: rest)).map _
    cases c.extract? (s' :: rest) <;> rfl

/-- The node at an address is taken out of its parent. -/
theorem extract?_append (s : String) : ∀ (front : List String) (n : Node),
    n.extract? (front ++ [s]) = (n.get? front).bind fun m => (m.extractChild? s).bind fun g =>
      (n.modify? (fun _ => g.2) front).map fun left => (g.1, left)
  | [], n => by
    change n.extractChild? s = (n.extractChild? s).bind some
    rw [Option.bind_fun_some]
  | s' :: front, n => by
    rw [List.cons_append, extract?_cons (by simp), get?]
    cases hc : n.child? s' with
    | none => rfl
    | some c =>
      rw [Option.bind_some, Option.bind_some, extract?_append s front c]
      cases c.get? front with
      | none => rfl
      | some m =>
        rw [Option.bind_some, Option.bind_some]
        cases m.extractChild? s with
        | none => rfl
        | some g =>
          rw [Option.bind_some, Option.bind_some, modify?_cons hc]
          cases c.modify? (fun _ => g.2) front <;> rfl

end Node

namespace Tree

variable {t t' : Tree} {path : String} {node : Node}

/-- What it takes to write a node, and the root that is left. -/
theorem set_eq_ok (h : t.set path node = .ok t') : node.checkAt path = .ok () ∧
    ∃ segments, Path.split path = .ok segments ∧
      Node.put path node segments t.root = .ok t'.root ∧ (segments = [] → node.kind = .object) := by
  unfold set at h
  cases hc : node.checkAt path with
  | error e => rw [hc] at h; cases h
  | ok =>
    cases hs : Path.split path with
    | error e => rw [hc, hs] at h; cases h
    | ok segments =>
      rw [hc, hs] at h
      refine ⟨rfl, segments, rfl, ?_⟩
      cases segments with
      | nil =>
        change (if node.kind = .object then .ok ⟨node⟩ else .error PathError.rootMustBeObject) =
          Except.ok t' at h
        split at h
        · rename_i hk
          obtain rfl := Except.ok.inj h
          exact ⟨rfl, fun _ => hk⟩
        · cases h
      | cons s rest =>
        change (Node.put path node (s :: rest) t.root >>= fun r => .ok ⟨r⟩) = Except.ok t' at h
        refine ⟨?_, nofun⟩
        cases hp : Node.put path node (s :: rest) t.root with
        | error e => rw [hp] at h; cases h
        | ok r =>
          rw [hp] at h
          obtain rfl := Except.ok.inj h
          rfl

/-- **What is written at a path is found there.** -/
theorem get?_set (h : t.set path node = .ok t') : t'.get? path = some node := by
  obtain ⟨-, segments, hs, hp, -⟩ := set_eq_ok h
  rw [get?_eq hs, Node.get?_put hp]

/-- A node is taken out of its parent. -/
theorem delete?_concat {front : List String} {key : String}
    (hs : Path.split path = .ok (front ++ [key])) (t : Tree) :
    t.delete? path = (t.get? (Path.ofSegments "" front)).bind fun m =>
      (m.extractChild? key).map fun g =>
        (g.1, t.modify (fun _ => g.2) (Path.ofSegments "" front)) := by
  have hsplit := Path.split_ofSegments (Path.validKeys_append.mp (Path.validKeys_of_split hs)).1
  rw [delete?, hs, get?_eq hsplit]
  dsimp only
  rw [Node.extract?_append]
  cases hm : t.root.get? front with
  | none => rfl
  | some m =>
    rw [Option.bind_some, Option.bind_some]
    cases m.extractChild? key with
    | none => rfl
    | some g =>
      obtain ⟨r, hr, -⟩ := Node.get?_modify?_self (fun _ => g.2) hm
      rw [Option.bind_some, Option.map_some, hr, modify_eq hsplit hr]
      rfl

/-- What becomes of an array when an item is to be moved. -/
theorem reorder_of_items {items : List Node} (h : t.itemsAt path = .ok items) (i j : Nat) :
    t.reorder path i j =
      if items.length ≤ i then .error (.indexOutOfBounds path i items.length)
      else if items.length ≤ j then .error (.indexOutOfBounds path j items.length)
      else .ok (if i = j then t else t.withItemsAt path (Node.moveItem i j items)) := by
  rw [reorder, h]
  change (if items.length ≤ i then _ else _) = _
  split
  · rfl
  · split
    · rfl
    · change (if i = j then _ else _) = _
      split <;> rfl

/-- One bound primitive is refreshed. -/
def syncStep (resolve : Binding → Option Scalar) (s : Synced) (bound : String × Binding) :
    Synced where
  tree := (s.tree.refresh bound.1 (resolve bound.2)).1
  changed :=
    if (s.tree.refresh bound.1 (resolve bound.2)).2 then s.changed ++ [bound.1] else s.changed
  asked := s.asked ++ [bound.2]

theorem sync_eq (resolve : Binding → Option Scalar) (t : Tree) :
    t.sync resolve = t.bound.foldl (syncStep resolve) ⟨t, [], []⟩ := rfl

end Tree

/-! ### Calls -/

namespace Call

variable {α : Type} {t : Tree} {path : String} {node : Node} {e : PathError}

/-- What a call comes to that gives the changed tree or leaves the tree as it was. -/
def reply (t : Tree) : Except PathError (α × Tree) → EStateM.Result PathError Tree α
  | .ok (a, t') => .ok a t'
  | .error e => .error e t

/-- The same for a call with nothing to tell. -/
abbrev finished (t : Tree) (r : Except PathError Tree) : EStateM.Result PathError Tree Unit :=
  reply t (r.map fun t' => ((), t'))

theorem onRoot_of_visited {visit : Node.Visit} {r : Except PathError Node}
    (h : visit t.root = t.root.visited r) : onRoot visit t = finished t (r.map Tree.mk) := by
  rw [onRoot, h]
  cases r <;> rfl

/-- **To write in place is to write.** -/
theorem set_eq (path : String) (node : Node) (t : Tree) :
    set path node t = finished t (t.set path node) := by
  unfold set Tree.set
  cases node.checkAt path with
  | error e => rfl
  | ok =>
    cases Path.split path with
    | error e => rfl
    | ok segments =>
      cases segments with
      | nil =>
        by_cases hk : node.kind = .object
        · simp only [if_pos hk]
          rfl
        · simp only [if_neg hk]
          rfl
      | cons s rest =>
        refine (onRoot_of_visited (Node.write_eq path node rest s t.root)).trans ?_
        change finished t ((Node.put path node (s :: rest) t.root).map Tree.mk) =
          finished t (Node.put path node (s :: rest) t.root >>= fun r => .ok ⟨r⟩)
        cases Node.put path node (s :: rest) t.root <;> rfl

theorem find?_bind {β : Type} (f : Option Node → Call β) :
    (find? path >>= f) t = f (t.get? path) t := rfl

theorem setPrimitive_eq (path : String) (v : Scalar) (t : Tree) :
    setPrimitive path v t = finished t (t.setPrimitive path v) := by
  rw [setPrimitive, find?_bind, Tree.setPrimitive]
  cases hn : t.get? path with
  | none => exact set_eq path _ t
  | some n =>
    cases n with
    | object r cs => rfl
    | array r is => rfl
    | leaf r u =>
      have hm : t.modify (fun n => (n.setValue? v).getD n) path =
          t.modify (fun _ => .leaf r v) path := Tree.modify_congr hn rfl
      exact congrArg (EStateM.Result.ok ()) hm

/-- A call goes on with nothing to do. -/
theorem bind_of_finished {c : Call Unit} {f : Unit → Call Unit} {r : Except PathError Tree}
    (hc : c t = finished t r) (hf : ∀ t', r = .ok t' → f () t' = .ok () t') :
    (c >>= f) t = finished t r := by
  change EStateM.bind c f t = _
  rw [EStateM.bind, hc]
  cases r with
  | ok t' => exact hf t' rfl
  | error e => rfl

/-- An object that was created is there, so the last refusal never comes. -/
theorem createChild_eq (parent key : String) (t : Tree) :
    createChild parent key t = finished t (t.createChild parent key) := by
  unfold createChild Tree.createChild
  generalize Path.join parent key = path
  cases Path.isValidKey key with
  | false => rfl
  | true =>
    change (find? path >>= fun o =>
      if o.isSome then throw (.alreadyExists path) >>= _
      else set path .emptyObject >>= fun _ => _) t =
      finished t (if (t.get? path).isSome then .error (.alreadyExists path)
        else t.set path .emptyObject)
    rw [find?_bind]
    cases t.get? path with
    | some n => rfl
    | none =>
      refine bind_of_finished (set_eq _ _ t) fun t' ht' => ?_
      rw [find?_bind, Tree.get?_set ht']
      rfl

theorem push_eq (path : String) (node : Node) (t : Tree) :
    push path node t = reply t ((t.push path node).map fun (t', i) => (i, t')) := by
  unfold push Tree.push
  change (demand (t.itemsAt path) >>= _) t = _
  cases t.itemsAt path with
  | error e => rfl
  | ok items =>
    change (demand (node.checkAt (Path.join path (toString items.length))) >>= _) t =
      reply t ((node.checkAt (Path.join path (toString items.length)) >>= fun _ =>
        .ok (t.withItemsAt path (items ++ [node]), items.length)).map _)
    cases node.checkAt (Path.join path (toString items.length)) <;> rfl

theorem inBounds_bind (items : List Node) (i : Nat) (f : Unit → Call α) :
    (inBounds path items i >>= f) t =
      if items.length ≤ i then .error (.indexOutOfBounds path i items.length) t else f () t := by
  unfold inBounds
  split <;> rfl

theorem reorder_eq (path : String) (i j : Nat) (t : Tree) :
    reorder path i j t = finished t (t.reorder path i j) := by
  unfold reorder
  change (demand (t.itemsAt path) >>= _) t = _
  cases h : t.itemsAt path with
  | error e =>
    rw [Tree.reorder, h]
    rfl
  | ok items =>
    change (inBounds path items i >>= _) t = _
    rw [inBounds_bind, inBounds_bind, Tree.reorder_of_items h]
    by_cases hi : items.length ≤ i
    · rw [if_pos hi, if_pos hi]
      rfl
    · rw [if_neg hi, if_neg hi]
      by_cases hj : items.length ≤ j
      · rw [if_pos hj, if_pos hj]
        rfl
      · rw [if_neg hj, if_neg hj]
        split <;> rfl

theorem changeTraits_eq (f : Traits → Traits) (path : String) (t : Tree) :
    changeTraits f path t = finished t (t.modifyPrimitive f path) := by
  rw [changeTraits, find?_bind, Tree.modifyPrimitive]
  cases t.get? path with
  | none => rfl
  | some n =>
    cases hp : n.isPrimitive with
    | true => simp only [hp]; rfl
    | false => simp only [hp]; rfl

theorem setExpression_eq (path source : String) (t : Tree) :
    setExpression path source t = finished t (t.setExpression path source) :=
  changeTraits_eq _ path t

theorem clearExpression_eq (path : String) (t : Tree) :
    clearExpression path t = finished t (t.clearExpression path) :=
  changeTraits_eq _ path t

/-- To seed a value and to write the binding is one change of the node. -/
theorem bind_eq (path : String) (b : Binding) (seed : Scalar) (t : Tree) :
    bind path b seed t = finished t (t.bind path b seed) := by
  rw [bind, find?_bind, Tree.bind]
  cases hn : t.get? path with
  | none => exact set_eq path _ t
  | some n =>
    cases n with
    | object r cs => rfl
    | array r is => rfl
    | leaf r u =>
      have hone (h h' : Node → Node) {n : Node} (he : h (h' (.leaf r u)) = n) :
          (t.modify h' path).modify h path = t.modify (fun _ => n) path :=
        (Tree.modify_modify hn).trans (Tree.modify_congr hn he)
      cases hv : seed.coerce? u.kind with
      | none =>
        simp only [Node.isPrimitive, Node.kind, hv]
        exact congrArg (EStateM.Result.ok ()) (Tree.modify_congr hn rfl)
      | some v =>
        simp only [Node.isPrimitive, Node.kind, hv]
        exact congrArg (EStateM.Result.ok ()) (hone _ _ rfl)

theorem unbind_eq (path : String) (t : Tree) : unbind path t =
    match t.unbind? path with
    | some t' => .ok true t'
    | none => .ok false t := by
  rw [unbind, find?_bind, Tree.unbind?]
  cases hn : t.get? path with
  | none => rfl
  | some n =>
    change EStateM.Result.ok n.traits.binding.isSome _ =
      match n.traits.binding.bind fun _ => some _ with
      | some t' => EStateM.Result.ok true t'
      | none => EStateM.Result.ok false t
    cases hb : n.traits.binding with
    | some b => rfl
    | none =>
      have hsame : n.withTraits { n.traits with binding := none } = n := by
        rw [← hb]
        cases n <;> rfl
      exact congrArg (EStateM.Result.ok false) (Tree.modify_of_eq hn hsame)

/-- **To take a node out of its parent is to take it out of the tree.** -/
theorem delete_eq (path : String) (t : Tree) : delete path t =
    match t.delete? path with
    | some (gone, t') => .ok (some gone) t'
    | none => .ok none t := by
  cases hs : Path.split path with
  | error e => simp only [delete, Tree.delete?, hs]; rfl
  | ok segments =>
    obtain rfl := Path.ofSegments_of_split hs
    rcases segments.eq_nil_or_concat' with rfl | ⟨front, key, rfl⟩
    · rfl
    · obtain ⟨-, hk⟩ := Path.validKeys_append.mp (Path.validKeys_of_split hs)
      have hparent : Path.parentAndKey? (Path.ofSegments "" (front ++ [key])) =
          some (Path.ofSegments "" front, key) := by
        rw [Path.ofSegments_append]
        exact Path.parentAndKey?_join _ (Path.validKeys_cons.mp hk).1
      simp only [delete, hs, hparent]
      rw [Tree.delete?_concat hs, find?_bind]
      cases t.get? (Path.ofSegments "" front) with
      | none => rfl
      | some m =>
        rw [Option.bind_some, Option.bind_some]
        cases m.extractChild? key <;> rfl

theorem refreshAll_cons {resolve : List Binding → Binding → Option Scalar} {asked : List Binding}
    {b : Binding} {rest : List (String × Binding)} {paths : List String} {t' : Tree}
    (h : refreshAll resolve (asked ++ [b]) rest (t.refresh path (resolve asked b)).1 =
      .ok paths t') :
    refreshAll resolve asked ((path, b) :: rest) t =
      .ok (if (t.refresh path (resolve asked b)).2 then path :: paths else paths) t' := by
  change EStateM.bind (refreshAll resolve (asked ++ [b]) rest) _
    (t.refresh path (resolve asked b)).1 = _
  rw [EStateM.bind, h]
  rfl

/-- One bound primitive after another is refreshed, and those that change are told. -/
theorem refreshAll_eq (resolve : Binding → Option Scalar) : ∀ (bound : List (String × Binding))
    (asked : List Binding) (s : Tree.Synced), ∃ paths,
      refreshAll (fun _ => resolve) asked bound s.tree =
        .ok paths (bound.foldl (Tree.syncStep resolve) s).tree ∧
      (bound.foldl (Tree.syncStep resolve) s).changed = s.changed ++ paths
  | [], _, s => ⟨[], rfl, (List.append_nil _).symm⟩
  | (path, b) :: rest, asked, s => by
    obtain ⟨paths, hr, hc⟩ := refreshAll_eq resolve rest (asked ++ [b])
      (Tree.syncStep resolve s (path, b))
    refine ⟨_, refreshAll_cons hr, ?_⟩
    rw [List.foldl_cons, hc, Tree.syncStep]
    split <;> simp

/-- **To refresh in place is to refresh**, if what is answered does not depend on what was asked
before. -/
theorem sync_eq (resolve : Binding → Option Scalar) (t : Tree) :
    sync (fun _ => resolve) t = .ok (t.sync resolve).changed (t.sync resolve).tree := by
  obtain ⟨paths, hr, hc⟩ := refreshAll_eq resolve t.bound [] ⟨t, [], []⟩
  rw [Tree.sync_eq, hc, List.nil_append]
  exact hr

/-- Refreshing is never refused. -/
theorem refreshAll_ok (resolve : List Binding → Binding → Option Scalar) :
    ∀ (bound : List (String × Binding)) (asked : List Binding) (t : Tree),
      ∃ paths t', refreshAll resolve asked bound t = .ok paths t'
  | [], _, t => ⟨[], t, rfl⟩
  | (path, b) :: rest, asked, t => by
    obtain ⟨paths, t', h⟩ := refreshAll_ok resolve rest (asked ++ [b])
      (t.refresh path (resolve asked b)).1
    exact ⟨_, t', refreshAll_cons h⟩

/-! ### Refusals -/

/-- A call that is refused leaves the tree as it was. -/
def Steady (c : Call α) : Prop := ∀ t e t', c t = .error e t' → t' = t

theorem steady_of_reply {c : Call α} {r : Tree → Except PathError (α × Tree)}
    (h : ∀ t, c t = reply t (r t)) : c.Steady := by
  intro t e t' he
  rw [h t] at he
  cases hr : r t with
  | ok a => rw [hr] at he; cases he
  | error e' =>
    rw [hr] at he
    injection he with _ ht
    exact ht.symm

/-- A call that is never refused. -/
theorem steady_of_ok {c : Call α} (h : ∀ t, ∃ a t', c t = .ok a t') : c.Steady := by
  intro t e t' he
  obtain ⟨a, t'', ht⟩ := h t
  rw [ht] at he
  cases he

theorem Steady.discard {c : Call α} (h : c.Steady) : Steady (discard c) := by
  intro t e t' he
  change EStateM.map (fun _ => ()) c t = .error e t' at he
  unfold EStateM.map at he
  split at he
  · cases he
  · rename_i hc
    injection he with _ ht
    exact ht ▸ h _ _ _ hc

theorem delete_ok (path : String) (t : Tree) : ∃ gone t', delete path t = .ok gone t' := by
  rw [delete_eq]
  split
  · exact ⟨_, _, rfl⟩
  · exact ⟨_, _, rfl⟩

theorem unbind_ok (path : String) (t : Tree) : ∃ found t', unbind path t = .ok found t' := by
  rw [unbind_eq]
  split
  · exact ⟨_, _, rfl⟩
  · exact ⟨_, _, rfl⟩

end Call

theorem Edit.steady_perform : ∀ edit : Edit, edit.perform.Steady
  | .set path node => Call.steady_of_reply (Call.set_eq path node)
  | .setPrimitive path v => Call.steady_of_reply (Call.setPrimitive_eq path v)
  | .createChild parent key => Call.steady_of_reply (Call.createChild_eq parent key)
  | .push path node => (Call.steady_of_reply (Call.push_eq path node)).discard
  | .delete path => (Call.steady_of_ok (Call.delete_ok path)).discard
  | .reorder path i j => Call.steady_of_reply (Call.reorder_eq path i j)
  | .setExpression path source => Call.steady_of_reply (Call.setExpression_eq path source)
  | .clearExpression path => Call.steady_of_reply (Call.clearExpression_eq path)
  | .bind path b seed => Call.steady_of_reply (Call.bind_eq path b seed)
  | .unbind path => (Call.steady_of_ok (Call.unbind_ok path)).discard
  | .sync resolve => (Call.steady_of_ok fun t => Call.refreshAll_ok resolve t.bound [] t).discard

/-- **What is refused changes nothing.** An edit that is refused leaves the tree as it was, and so
do a deletion that finds nothing and the removal of a binding that is not there. -/
theorem Call.eq_of_refused (t : Tree) :
    (∀ (edit : Edit) e t', edit.perform t = .error e t' → t' = t) ∧
      (∀ path t', delete path t = .ok none t' → t' = t) ∧
      ∀ path t', unbind path t = .ok false t' → t' = t := by
  refine ⟨fun edit e t' h => edit.steady_perform t e t' h, fun path t' h => ?_,
    fun path t' h => ?_⟩
  · rw [delete_eq] at h
    split at h
    · cases h
    · injection h with _ ht
      exact ht.symm
  · rw [unbind_eq] at h
    split at h
    · cases h
    · injection h with _ ht
      exact ht.symm

/-- Two names in a list, under which a path could go on. -/
def guests : Tree :=
  ⟨.object default [("guests", .array default [.primitive (.string "Ann"),
    .object default [("name", .primitive (.string "Bo"))]])]⟩

/-- A path that would create an item and two objects is refused at once. -/
theorem Call.eq_of_refused_guests :
    (∃ t', (Edit.set "guests.3.home.town" .emptyObject).perform guests =
      .error (.indexOutOfBounds "guests.3.home.town" 3 2) t' ∧ t' = guests) ∧
    (∃ t', (Edit.set "guests.0.home.town" .emptyObject).perform guests =
      .error (.traverseIntoPrimitive "guests.0.home.town" "home") t' ∧ t' = guests) ∧
    (∃ t', delete "guests.2" guests = .ok none t' ∧ t' = guests) ∧
    ∃ t', unbind "guests.1.name" guests = .ok false t' ∧ t' = guests := by
  obtain ⟨hedit, hdelete, hunbind⟩ := eq_of_refused guests
  refine ⟨⟨guests, rfl, ?_⟩, ⟨guests, rfl, ?_⟩, ⟨guests, rfl, ?_⟩, ⟨guests, rfl, ?_⟩⟩
  · exact hedit (.set "guests.3.home.town" .emptyObject) _ guests rfl
  · exact hedit (.set "guests.0.home.town" .emptyObject) _ guests rfl
  · exact hdelete "guests.2" guests rfl
  · exact hunbind "guests.1.name" guests rfl

end ReactiveTree
