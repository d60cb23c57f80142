import ReactiveTree.Proofs.Admission
import ReactiveTree.Proofs.Rules

/-!
# What a write changes

On each level a write puts one child into the node that is there: the child takes the place of the
one with its segment, or comes last (`Node.Placed`). Where there is no node any more, objects are
created that hold the rest of the path and nothing else (`Node.chain`). A path that differs from the
written one in some segment goes another way from there on, and leads where it led before
(`Node.get?_put_of_apart`).

Key definitions: `Node.Placed`, `Node.Apart`, `Tree.Written`.
Key theorems: `Node.put_cons_spec`, `Node.placed_of_put`, `Node.chain_of_put`,
`Node.get?_put_of_apart`, `Tree.exists_set_iff`, `Tree.written_of_set`, `Call.set_lawful`.
-/
namespace ReactiveTree

/-- What is put under a key takes the place of what is there, or comes last. -/
theorem Json.upsert_cases {α : Type} (key : String) (v : α) : ∀ ms : List (String × α),
    (∃ i w, ms[i]? = some (key, w) ∧ upsert key v ms = ms.set i (key, v)) ∨
      key ∉ ms.map (·.1) ∧ upsert key v ms = ms ++ [(key, v)]
  | [] => .inr ⟨List.not_mem_nil, rfl⟩
  | (k, w) :: ms => by
    by_cases hk : k = key
    · subst hk
      exact .inl ⟨0, w, rfl, by rw [upsert, if_pos rfl, List.set_cons_zero]⟩
    · rw [upsert, if_neg hk]
      obtain ⟨i, u, hi, hu⟩ | ⟨hnew, hu⟩ := upsert_cases key v ms
      · exact .inl ⟨i + 1, u, hi, by rw [hu, List.set_cons_succ]⟩
      · refine .inr ⟨?_, by rw [hu, List.cons_append]⟩
        rw [List.map_cons, List.mem_cons, not_or]
        exact ⟨Ne.symm hk, hnew⟩

namespace Node

open Json (lookup upsert)

variable {n n' m c d new : Node} {s s' path : String} {segments front rest xs ys : List String}

/-! ### Where a child is put -/

/-- Segments that are spelled alike name one child. -/
theorem child?_congr (hs : n.spell s = n.spell s') : n.child? s = n.child? s' := by
  cases n with
  | object t cs => exact congrArg (lookup · cs) hs
  | leaf t v => rfl
  | array t is =>
    have hreads : ∀ {x y : String} {i : Nat}, Path.index? x = some i →
        (array t is).spell x = (array t is).spell y → Path.index? y = some i := by
      intro x y i hx hxy
      have hi := Path.index?_toString (Path.index?_eq_some_iff.mp hx).2
      cases hy : Path.index? y with
      | none =>
        simp only [spell, hx, hy, Option.map_some, Option.getD_some, Option.map_none,
          Option.getD_none] at hxy
        rw [← hxy, hi] at hy
        cases hy
      | some j =>
        simp only [spell, hx, hy, Option.map_some, Option.getD_some] at hxy
        rw [Path.toString_injective hxy]
    have hindex : Path.index? s = Path.index? s' := by
      cases hi : Path.index? s with
      | some i => exact (hreads hi hs).symm
      | none =>
        rw [eq_comm, Option.eq_none_iff_forall_ne_some]
        intro j hj
        rw [hreads hj hs.symm] at hi
        cases hi
    rw [child?, child?, hindex]

/-- A node differs from another by the child that a segment names. A child that was there keeps its
place, and a new one comes last. -/
structure Placed (n : Node) (s : String) (c n' : Node) : Prop where
  kind : n'.kind = n.kind
  traits : n'.traits = n.traits
  place : (∃ i d, n.kids[i]? = some (n.spell s, d) ∧ n'.kids = n.kids.set i (n.spell s, c)) ∨
    n.spell s ∉ n.kids.map (·.1) ∧ n'.kids = n.kids ++ [(n.spell s, c)]
  self : ∀ x, n.spell x = n.spell s → n'.child? x = some c
  other : ∀ x, n.spell x ≠ n.spell s → n'.child? x = n.child? x

theorem placed_upsert (t : Traits) (cs : List (String × Node)) (s : String) (c : Node) :
    (object t cs).Placed s c (object t (upsert s c cs)) where
  kind := rfl
  traits := rfl
  place := Json.upsert_cases s c cs
  self x hx := by
    rw [show x = s from hx]
    exact Json.lookup_upsert_self c cs
  other x hx := Json.lookup_upsert_ne (Ne.symm hx) c cs

/-- An item takes the place of another. -/
theorem placed_set {i : Nat} {is : List Node} (hs : Path.index? s = some i) (hd : is[i]? = some d)
    (t : Traits) (c : Node) : (array t is).Placed s c (array t (is.set i c)) := by
  have hchild : (array t is).child? s = some d := by rw [child?, hs, Option.bind_some, hd]
  have hreplace : (array t is).replaceChild s c = array t (is.set i c) := by
    simp only [replaceChild, hs]
  rw [← hreplace]
  refine ⟨by rw [hreplace]; rfl, by rw [hreplace]; rfl, ?_, fun x hx => ?_,
    fun x hx => child?_replaceChild_ne (Ne.symm hx) c⟩
  · rw [kids_replaceChild hchild]
    exact Json.upsert_cases _ c _
  · have hspell : (array t (is.set i c)).spell x = (array t (is.set i c)).spell s := hx
    rw [← hreplace] at hspell
    rw [child?_congr hspell, child?_replaceChild_self hchild]

/-- An item comes after the others. -/
theorem placed_append {is : List Node} (hs : Path.index? s = some is.length) (t : Traits)
    (c : Node) : (array t is).Placed s c (array t (is ++ [c])) := by
  have hself : (array t is).spell s = toString is.length := by
    rw [spell, hs, Option.map_some, Option.getD_some]
  refine ⟨rfl, rfl, .inr ⟨?_, ?_⟩, fun x hx => ?_, fun x hx => ?_⟩
  · rw [hself]
    intro hm
    obtain ⟨⟨x, d⟩, hd, hx⟩ := List.mem_map.mp hm
    obtain ⟨j, hj, rfl⟩ := mem_numbered.mp hd
    have hlt := (List.getElem?_eq_some_iff.mp hj).1
    have := Path.toString_injective hx
    omega
  · rw [hself]
    simp [kids, numbered, List.zipIdx_append]
  · have hspell : (array t (is ++ [c])).spell x = (array t (is ++ [c])).spell s := hx
    rw [child?_congr hspell, child?, hs, Option.bind_some, List.getElem?_concat_length]
  · cases hj : Path.index? x with
    | none => rw [child?, child?, hj, Option.bind_none, Option.bind_none]
    | some j =>
      have hne : j ≠ is.length := fun hl => hx (by simp [spell, hs, hj, hl])
      rw [child?, child?, hj, Option.bind_some, Option.bind_some, List.getElem?_append]
      split
      · rfl
      · rw [List.getElem?_eq_none (by simp; omega), List.getElem?_eq_none (by omega)]

/-- **On each level a write puts one child**, which is written to in its turn. -/
theorem put_cons_spec (h : put path new (s :: rest) n = .ok n') :
    ∃ c, put path new rest ((n.child? s).getD emptyObject) = .ok c ∧ n.Placed s c n' := by
  obtain ⟨t, cs, c, rfl, rfl, hc⟩ | ⟨t, is, i, d, c, rfl, rfl, hs, hd, hc⟩ |
    ⟨t, is, c, rfl, rfl, hs, hc⟩ := put_cons_ok h
  · exact ⟨c, hc, placed_upsert t cs s c⟩
  · have hchild : (array t is).child? s = some d := by rw [child?, hs, Option.bind_some, hd]
    exact ⟨c, by rw [hchild, Option.getD_some, hc], placed_set hs hd t c⟩
  · have hchild : (array t is).child? s = none := by
      rw [child?, hs, Option.bind_some, List.getElem?_eq_none (Nat.le_refl _)]
    exact ⟨c, by rw [hchild, Option.getD_none, hc], placed_append hs t c⟩

/-- An ancestor that is there differs by one child. -/
theorem placed_of_put : ∀ {front : List String} {n n' : Node},
    put path new (front ++ s :: rest) n = .ok n' → n.get? front = some m →
      ∃ m' c, n'.get? front = some m' ∧ m.Placed s c m'
  | [], n, n', h, hm => by
    obtain ⟨c, -, hp⟩ := put_cons_spec h
    exact ⟨n', c, rfl, Option.some.inj hm ▸ hp⟩
  | x :: front, n, n', h, hm => by
    obtain ⟨c, hc, hp⟩ := put_cons_spec h
    obtain ⟨d, hd, hm⟩ := Option.bind_eq_some_iff.mp hm
    rw [hd, Option.getD_some] at hc
    obtain ⟨m', c', hm', hp'⟩ := placed_of_put hc hm
    exact ⟨m', c', by rw [get?, hp.self x rfl, Option.bind_some, hm'], hp'⟩

/-! ### What is created -/

theorem get?_chain : ∀ front : List String,
    (chain new (front ++ rest)).get? front = some (chain new rest)
  | [] => rfl
  | s :: front => by
    rw [List.cons_append, chain, get?, child?, Json.lookup_cons, if_pos rfl, Option.bind_some,
      get?_chain front]

/-- A missing ancestor becomes an object that holds only the rest of the address. -/
theorem chain_of_put : ∀ {front : List String} {n n' : Node},
    put path new (front ++ rest) n = .ok n' → n.get? front = none →
      n'.get? front = some (chain new rest)
  | [], n, n', _, hm => by simp [get?] at hm
  | x :: front, n, n', h, hm => by
    obtain ⟨c, hc, hp⟩ := put_cons_spec h
    rw [get?, hp.self x rfl, Option.bind_some]
    rw [get?] at hm
    cases hd : n.child? x with
    | none =>
      rw [hd, Option.getD_none, put_emptyObject] at hc
      obtain rfl := Except.ok.inj hc
      exact get?_chain front
    | some d =>
      rw [hd, Option.getD_some] at hc
      rw [hd, Option.bind_some] at hm
      exact chain_of_put hc hm

/-! ### What stays -/

theorem spellAll_emptyObject : ∀ segments : List String, emptyObject.spellAll segments = segments
  | [] => rfl
  | _ :: _ => rfl

theorem spellAll_cons (n : Node) (s : String) (segments : List String) :
    n.spellAll (s :: segments) =
      n.spell s :: ((n.child? s).getD emptyObject).spellAll segments := by
  rw [spellAll]
  cases n.child? s with
  | none => rw [Option.map_none, Option.getD_none, Option.getD_none, spellAll_emptyObject]
  | some c => rw [Option.map_some, Option.getD_some, Option.getD_some]

/-- Two addresses part ways: spelled as the listing does, neither of them is the other or goes on
from it. -/
def Apart (n : Node) (xs ys : List String) : Prop :=
  ¬ n.spellAll xs <+: n.spellAll ys ∧ ¬ n.spellAll ys <+: n.spellAll xs

/-- Addresses that begin alike part ways further down. -/
theorem apart_cons (hs : n.spell s' = n.spell s) (h : n.Apart (s :: xs) (s' :: ys)) :
    ((n.child? s).getD emptyObject).Apart xs ys := by
  obtain ⟨hx, hy⟩ := h
  rw [spellAll_cons, spellAll_cons, child?_congr hs, hs, List.prefix_cons_inj] at hx hy
  exact ⟨hx, hy⟩

/-- **An address that parts from the written one leads where it led before.** -/
theorem get?_put_of_apart : ∀ {xs ys : List String} {n n' : Node},
    put path new xs n = .ok n' → n.Apart xs ys → n'.get? ys = n.get? ys
  | [], ys, _, _, _, hap => absurd List.nil_prefix hap.1
  | _ :: _, [], _, _, _, hap => absurd List.nil_prefix hap.2
  | s :: xs, s' :: ys, n, n', h, hap => by
    obtain ⟨c, hc, hp⟩ := put_cons_spec h
    by_cases hs : n.spell s' = n.spell s
    · have hbelow := apart_cons hs hap
      have ih := get?_put_of_apart hc hbelow
      rw [get?, get?, hp.self s' hs, Option.bind_some, ih, child?_congr hs]
      cases n.child? s with
      | some d => rw [Option.getD_some, Option.bind_some]
      | none =>
        cases ys with
        | nil => exact absurd List.nil_prefix hbelow.2
        | cons y ys => rfl
    · rw [get?, get?, hp.other s' hs]

end Node

namespace Tree

variable {t t' : Tree} {path : String} {node : Node} {segments : List String}

/-! ### Trees -/

/-- What a write comes to once it is known to be one of the rules. -/
theorem set_of_split {s : String} {rest : List String} (hn : node.checkAt path = .ok ())
    (hs : Path.split path = .ok (s :: rest)) (t : Tree) :
    t.set path node = (Node.put path node (s :: rest) t.root).map Tree.mk := by
  unfold set
  rw [hn, hs]
  show (Node.put path node (s :: rest) t.root).bind (fun r => Except.ok (Tree.mk r)) = _
  cases Node.put path node (s :: rest) t.root <;> rfl

/-- **When a node is written.** -/
theorem exists_set_iff (ht : t.root.Counted) : (∃ t', t.set path node = .ok t') ↔
    node.Lawful ∧ (path = "" ∧ node.kind = .object ∨
      path ≠ "" ∧ ∃ segments, Path.split path = .ok segments ∧ t.root.Open segments) := by
  rw [← Node.checkAt_eq_ok_iff path]
  constructor
  · rintro ⟨t', h⟩
    obtain ⟨hn, segments, hs, hp, hkind⟩ := set_eq_ok h
    refine ⟨hn, ?_⟩
    by_cases hpath : path = ""
    · subst hpath
      obtain rfl : [] = segments := Except.ok.inj (Path.split_empty.symm.trans hs)
      exact .inl ⟨rfl, hkind rfl⟩
    · exact .inr ⟨hpath, segments, hs, (Node.exists_put_iff path node ht).mp ⟨_, hp⟩⟩
  · rintro ⟨hn, ⟨rfl, hkind⟩ | ⟨hpath, segments, hs, hopen⟩⟩
    · refine ⟨⟨node⟩, ?_⟩
      unfold set
      rw [hn, Path.split_empty]
      exact if_pos hkind
    · obtain ⟨r, hr⟩ := (Node.exists_put_iff path node ht).mpr hopen
      cases segments with
      | nil => exact absurd (Path.ofSegments_of_split hs).symm hpath
      | cons s rest => exact ⟨⟨r⟩, by rw [set_of_split hn hs, hr]; rfl⟩

/-- What has been written to a tree, and nothing else. -/
structure Written (t : Tree) (segments : List String) (node : Node) (t' : Tree) : Prop where
  /-- An ancestor that was there differs by one child. -/
  present : ∀ front s rest n, segments = front ++ s :: rest → t.root.get? front = some n →
    ∃ n' c, t'.root.get? front = some n' ∧ n.Placed s c n'
  /-- What was missing holds the rest of the address only. -/
  missing : ∀ front rest, segments = front ++ rest → t.root.get? front = none →
    t'.root.get? front = some (Node.chain node rest)
  /-- A path that parts from the written one leads where it led before, or still leads nowhere. -/
  other : ∀ path, (∀ ys, Path.split path = .ok ys → t.root.Apart segments ys) →
    t'.get? path = t.get? path

theorem written_of_set (h : t.set path node = .ok t') :
    ∃ segments, Path.split path = .ok segments ∧ t.Written segments node t' := by
  obtain ⟨-, segments, hs, hp, -⟩ := set_eq_ok h
  refine ⟨segments, hs, fun front s rest n hsegments hn => ?_, fun front rest hsegments hn => ?_,
    fun q hq => ?_⟩
  · subst hsegments
    exact Node.placed_of_put hp hn
  · subst hsegments
    exact Node.chain_of_put hp hn
  · unfold get?
    cases hsplit : Path.split q with
    | error e => rfl
    | ok ys => exact Node.get?_put_of_apart hp (hq ys hsplit)

end Tree

namespace Call

variable {t t' : Tree} {path : String} {node : Node}

theorem set_eq_ok_iff : set path node t = .ok () t' ↔ t.set path node = .ok t' := by
  rw [set_eq]
  constructor
  · intro h
    cases hs : t.set path node with
    | error e =>
      rw [hs] at h
      cases h
    | ok r =>
      rw [hs] at h
      injection h with _ hr
      rw [hr]
  · intro h
    rw [h]
    rfl

/-- **Writing is lawful.** A node is written if it keeps the rules and its path is well-formed, and
either the path is empty and the node is an object, or the nodes on the way that are there take the
segments: none of them is a primitive, and a segment under an array is the numeral of an item or of
the length. Then the node is found at the path. Of the ancestors, those that were there differ by one
child, which keeps its place or comes last, and those that were missing hold the rest of the path
only. Every path that parts from the written one leads where it led before. -/
theorem set_lawful (ht : t.root.Counted) (path : String) (node : Node) :
    ((∃ t', set path node t = .ok () t') ↔ node.Lawful ∧ (path = "" ∧ node.kind = .object ∨
      path ≠ "" ∧ ∃ segments, Path.split path = .ok segments ∧ t.root.Open segments)) ∧
    ∀ t', set path node t = .ok () t' → t'.get? path = some node ∧
      ∃ segments, Path.split path = .ok segments ∧ t.Written segments node t' := by
  constructor
  · rw [← Tree.exists_set_iff ht]
    exact exists_congr fun t' => set_eq_ok_iff
  · intro t' h
    have hset := set_eq_ok_iff.mp h
    exact ⟨Tree.get?_set hset, Tree.written_of_set hset⟩

/-- The third guest comes last, and lives in two objects that the path makes. -/
theorem set_lawful_guests : guests.root.Counted ∧ ∃ t',
    set "guests.002.home.town" (.primitive (.string "Oslo")) guests = .ok () t' ∧
    t'.get? "guests.002.home.town" = some (.primitive (.string "Oslo")) ∧
    t'.get? "guests.002" = some (.object default
      [("home", .object default [("town", .primitive (.string "Oslo"))])]) ∧
    t'.get? "guests.01" = guests.get? "guests.01" := by
  have hcounted : guests.root.Counted := by
    refine Node.counted_object fun s c hc => ?_
    obtain rfl := (Prod.mk.inj (List.mem_singleton.mp hc)).2
    refine Node.counted_array (by decide) fun c hc => ?_
    rcases List.mem_pair.mp hc with rfl | rfl
    · exact Node.counted_leaf _ _
    · refine Node.counted_object fun s c hc => ?_
      obtain rfl := (Prod.mk.inj (List.mem_singleton.mp hc)).2
      exact Node.counted_leaf _ _
  have hsplit : Path.split "guests.002.home.town" = .ok ["guests", "002", "home", "town"] := rfl
  obtain ⟨hiff, hall⟩ := set_lawful hcounted "guests.002.home.town" (.primitive (.string "Oslo"))
  obtain ⟨t', h⟩ := hiff.mpr ⟨Node.lawful_leaf _ _, .inr ⟨by decide, _, hsplit,
    (Node.exists_put_iff "" Node.emptyObject hcounted).mp ⟨_, rfl⟩⟩⟩
  obtain ⟨hget, segments, hs, hw⟩ := hall t' h
  obtain rfl := Except.ok.inj (hs.symm.trans hsplit)
  refine ⟨hcounted, t', h, hget, ?_, ?_⟩
  · exact (Tree.get?_eq rfl).trans (hw.missing ["guests", "002"] ["home", "town"] rfl rfl)
  · refine hw.other "guests.01" fun ys hys => ?_
    obtain rfl : ["guests", "01"] = ys := Except.ok.inj hys
    constructor <;> decide

end Call
end ReactiveTree
