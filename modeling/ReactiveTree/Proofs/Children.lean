import ReactiveTree.Node.Access
import ReactiveTree.Proofs.Members
import ReactiveTree.Proofs.Paths

/-!
# The children of a node

Objects and arrays differ in how a segment names a child: by its key, or by any decimal text of
its index. Here both are lists of children with segments, those that the listing writes
(`Node.kids`). A segment is brought to that form by `Node.spell`, and then the child that it names
is found in the list, and a child that is replaced changes that list alone.

What a tree keeps beyond its rules is that no object has a key twice and that a word can hold the
index of every item (`Node.isRegular`): an object is a map, and an array is held in memory.

Key definitions: `Node.kids`, `Node.spell`, `Node.isRegular`, `Node.Sound`.
Key theorems: `Node.induct`, `Node.child?_eq_lookup`, `Node.kids_replaceChild`.
-/
namespace ReactiveTree.Node

open Json (lookup upsert)

/-- The items of an array from an index on, with the segments of the listing. -/
def numbered (i : Nat) (is : List Node) : List (String × Node) :=
  (is.zipIdx i).map fun p => (toString p.2, p.1)

/-- The children of a node, with the segments of the listing. -/
def kids : Node → List (String × Node)
  | .object _ cs => cs
  | .array _ is => numbered 0 is
  | .leaf _ _ => []

/-- A segment as the listing writes it. -/
def spell (segment : String) : Node → String
  | .array _ _ => ((Path.index? segment).map toString).getD segment
  | _ => segment

theorem numbered_cons (i : Nat) (n : Node) (is : List Node) :
    numbered i (n :: is) = (toString i, n) :: numbered (i + 1) is := by
  simp [numbered, List.zipIdx_cons]

theorem mem_numbered {i : Nat} {is : List Node} {s : String} {n : Node} :
    (s, n) ∈ numbered i is ↔ ∃ j, is[j]? = some n ∧ s = toString (i + j) := by
  simp only [numbered, List.mem_map, Prod.exists, Prod.mk.injEq,
    List.mk_mem_zipIdx_iff_le_and_getElem?_sub]
  constructor
  · rintro ⟨m, j, ⟨hle, hj⟩, rfl, rfl⟩
    exact ⟨j - i, hj, by rw [Nat.add_sub_cancel' hle]⟩
  · rintro ⟨j, hj, rfl⟩
    exact ⟨n, i + j, ⟨Nat.le_add_right i j, by rwa [Nat.add_sub_cancel_left]⟩, rfl, rfl⟩

theorem numbered_map (f : Node → Node) : ∀ (i : Nat) (is : List Node),
    numbered i (is.map f) = (numbered i is).map fun c => (c.1, f c.2)
  | _, [] => rfl
  | i, n :: is => by
    rw [List.map_cons, numbered_cons, numbered_cons, List.map_cons, numbered_map f (i + 1) is]

theorem numbered_nodup : ∀ (i : Nat) (is : List Node), ((numbered i is).map (·.1)).Nodup
  | _, [] => by simp [numbered]
  | i, n :: is => by
    rw [numbered_cons, List.map_cons, List.nodup_cons]
    refine ⟨fun hm => ?_, numbered_nodup (i + 1) is⟩
    obtain ⟨⟨s, c⟩, hc, hs⟩ := List.mem_map.mp hm
    obtain ⟨j, -, rfl⟩ := mem_numbered.mp hc
    have := Path.toString_injective hs
    omega

theorem lookup_numbered (i j : Nat) (is : List Node) :
    lookup (toString (i + j)) (numbered i is) = is[j]? := by
  cases hj : is[j]? with
  | some c => exact Json.lookup_of_mem (numbered_nodup i is) (mem_numbered.mpr ⟨j, hj, rfl⟩)
  | none =>
    rw [Option.eq_none_iff_forall_ne_some]
    intro c hc
    obtain ⟨j', hj', he⟩ := mem_numbered.mp (Json.mem_of_lookup hc)
    obtain rfl : j = j' := by have := Path.toString_injective he; omega
    rw [hj] at hj'
    cases hj'

theorem numbered_set (d : Node) : ∀ (i j : Nat) (is : List Node), j < is.length →
    numbered i (is.set j d) = upsert (toString (i + j)) d (numbered i is)
  | i, 0, n :: is, _ => by
    rw [List.set_cons_zero, numbered_cons, numbered_cons, upsert, if_pos (by simp)]
  | i, j + 1, n :: is, h => by
    have hne : toString i ≠ toString (i + (j + 1)) := fun he => by
      have := Path.toString_injective he
      omega
    rw [List.set_cons_succ, numbered_cons, numbered_cons, upsert, if_neg hne,
      numbered_set d (i + 1) j is (by simpa using h), Nat.add_right_comm, Nat.add_assoc]

/-! ### Induction on the children -/

theorem sizeOf_kid {n c : Node} {s : String} (h : (s, c) ∈ n.kids) : sizeOf c < sizeOf n := by
  cases n with
  | object t cs =>
    have := List.sizeOf_lt_of_mem (show (s, c) ∈ cs from h)
    simp only [object.sizeOf_spec, Prod.mk.sizeOf_spec] at this ⊢
    omega
  | array t is =>
    obtain ⟨j, hj, -⟩ := mem_numbered.mp h
    have := List.sizeOf_lt_of_mem (List.mem_of_getElem? hj)
    simp only [array.sizeOf_spec]
    omega
  | leaf t v => simp [kids] at h

/-- **Induction on a node.** What holds of a node when it holds of its children holds of all. -/
theorem induct {P : Node → Prop} (step : ∀ n : Node, (∀ s c, (s, c) ∈ n.kids → P c) → P n)
    (n : Node) : P n :=
  step n fun _ c h =>
    have := sizeOf_kid h
    induct step c
termination_by sizeOf n

/-! ### Nodes as they are in memory -/

mutual
/-- No object has a key twice, and a word can hold the index of every item. -/
def isRegular : Node → Bool
  | .object _ cs => decide (cs.map (·.1)).Nodup && childrenRegular cs
  | .array _ is => decide (is.length ≤ Word64.count) && itemsRegular is
  | .leaf _ _ => true

def childrenRegular : List (String × Node) → Bool
  | [] => true
  | (_, n) :: cs => isRegular n && childrenRegular cs

def itemsRegular : List Node → Bool
  | [] => true
  | n :: is => isRegular n && itemsRegular is
end

/-- What holds of every node of a tree in memory that keeps the rules. -/
structure Sound (n : Node) : Prop where
  keeps : ∃ path, n.checkAt path = .ok ()
  regular : n.isRegular = true

theorem childrenRegular_iff : ∀ cs : List (String × Node),
    childrenRegular cs = true ↔ ∀ s c, (s, c) ∈ cs → c.isRegular = true
  | [] => by simp [childrenRegular]
  | (k, n) :: cs => by
    simp only [childrenRegular, Bool.and_eq_true, childrenRegular_iff cs, List.mem_cons,
      Prod.mk.injEq]
    constructor
    · rintro ⟨hn, hcs⟩ s c (⟨-, rfl⟩ | h)
      · exact hn
      · exact hcs s c h
    · intro h
      exact ⟨h k n (.inl ⟨rfl, rfl⟩), fun s c hc => h s c (.inr hc)⟩

theorem itemsRegular_iff : ∀ is : List Node,
    itemsRegular is = true ↔ ∀ c ∈ is, c.isRegular = true
  | [] => by simp [itemsRegular]
  | n :: is => by simp [itemsRegular, itemsRegular_iff is]

theorem checkChildren_ok {path : String} : ∀ {cs : List (String × Node)},
    checkChildren path cs = .ok () → ∀ s c, (s, c) ∈ cs →
      Path.isValidKey s = true ∧ ∃ path, c.checkAt path = .ok ()
  | (k, n) :: cs, h, s, c, hc => by
    simp only [checkChildren] at h
    split at h
    · rename_i hk
      split at h
      · rename_i hn
        rcases List.mem_cons.mp hc with he | hc
        · obtain ⟨rfl, rfl⟩ := Prod.mk.inj he
          exact ⟨hk, _, hn⟩
        · exact checkChildren_ok h s c hc
      · cases h
    · cases h

theorem checkItems_ok {path : String} : ∀ {i : Nat} {is : List Node},
    checkItems path i is = .ok () → ∀ c ∈ is, ∃ path, c.checkAt path = .ok ()
  | i, n :: is, h, c, hc => by
    simp only [checkItems] at h
    split at h
    · rename_i hn
      rcases List.mem_cons.mp hc with rfl | hc
      · exact ⟨_, hn⟩
      · exact checkItems_ok h c hc
    · cases h

namespace Sound

variable {n c : Node} {s : String}

theorem kid (h : n.Sound) (hc : (s, c) ∈ n.kids) : c.Sound := by
  obtain ⟨⟨path, hk⟩, hr⟩ := h
  cases n with
  | object t cs =>
    simp only [checkAt] at hk
    split at hk
    · cases hk
    · simp only [isRegular, Bool.and_eq_true] at hr
      exact ⟨(checkChildren_ok hk s c hc).2, (childrenRegular_iff cs).mp hr.2 s c hc⟩
  | array t is =>
    obtain ⟨j, hj, -⟩ := mem_numbered.mp hc
    simp only [checkAt] at hk
    split at hk
    · cases hk
    · simp only [isRegular, Bool.and_eq_true] at hr
      have hm := List.mem_of_getElem? hj
      exact ⟨checkItems_ok hk c hm, (itemsRegular_iff is).mp hr.2 c hm⟩
  | leaf t v => simp [kids] at hc

theorem validKey (h : n.Sound) (hc : (s, c) ∈ n.kids) : Path.isValidKey s = true := by
  obtain ⟨⟨path, hk⟩, -⟩ := h
  cases n with
  | object t cs =>
    simp only [checkAt] at hk
    split at hk
    · cases hk
    · exact (checkChildren_ok hk s c hc).1
  | array t is =>
    obtain ⟨j, -, rfl⟩ := mem_numbered.mp hc
    exact Path.isValidKey_toString _
  | leaf t v => simp [kids] at hc

theorem items_le {t : Traits} {is : List Node} (h : (array t is).Sound) :
    is.length ≤ Word64.count := by
  have := h.regular
  simp only [isRegular, Bool.and_eq_true, decide_eq_true_eq] at this
  exact this.1

/-- No segment names two children. -/
theorem nodup (h : n.Sound) : (n.kids.map (·.1)).Nodup := by
  cases n with
  | object t cs =>
    have := h.regular
    simp only [isRegular, Bool.and_eq_true, decide_eq_true_eq] at this
    exact this.1
  | array t is =>
    exact numbered_nodup 0 is
  | leaf t v => simp [kids]

end Sound

/-! ### The child that a segment names -/

variable {n c : Node} {s : String}

theorem spell_of_mem (h : n.Sound) (hc : (s, c) ∈ n.kids) : n.spell s = s := by
  cases n with
  | object t cs => rfl
  | array t is =>
    obtain ⟨j, hj, rfl⟩ := mem_numbered.mp hc
    have hlt := (List.getElem?_eq_some_iff.mp hj).1
    have hle := h.items_le
    rw [spell, Path.index?_toString (by omega)]
    rfl
  | leaf t v => rfl

/-- **A segment names the child that stands under it in the listing.** -/
theorem child?_eq_lookup (h : n.Sound) (s : String) : n.child? s = lookup (n.spell s) n.kids := by
  cases n with
  | object t cs => rfl
  | array t is =>
    simp only [child?, spell, kids]
    cases hi : Path.index? s with
    | some i =>
      rw [Option.map_some, Option.getD_some, Option.bind_some]
      simpa using (lookup_numbered 0 i is).symm
    | none =>
      rw [Option.map_none, Option.getD_none, Option.bind_none, eq_comm,
        Option.eq_none_iff_forall_ne_some]
      intro c hc
      have hs := spell_of_mem h (Json.mem_of_lookup hc)
      obtain ⟨j, hj, rfl⟩ := mem_numbered.mp (Json.mem_of_lookup hc)
      have hlt := (List.getElem?_eq_some_iff.mp hj).1
      have hle := h.items_le
      rw [Path.index?_toString (by omega)] at hi
      cases hi
  | leaf t v => rfl

theorem child?_of_mem (h : n.Sound) (hc : (s, c) ∈ n.kids) : n.child? s = some c := by
  rw [child?_eq_lookup h, spell_of_mem h hc]
  exact Json.lookup_of_mem h.nodup hc

theorem mem_kids_of_child? (h : n.Sound) (hc : n.child? s = some c) : (n.spell s, c) ∈ n.kids :=
  Json.mem_of_lookup (child?_eq_lookup h s ▸ hc)

/-- **A child that is replaced keeps its place.** -/
theorem kids_replaceChild (hc : n.child? s = some c) (d : Node) :
    (n.replaceChild s d).kids = upsert (n.spell s) d n.kids := by
  cases n with
  | object t cs => rfl
  | array t is =>
    obtain ⟨i, hi, hc⟩ := Option.bind_eq_some_iff.mp hc
    simp only [replaceChild, spell, hi, kids, Option.map_some, Option.getD_some]
    simpa using numbered_set d 0 i is (List.getElem?_eq_some_iff.mp hc).1
  | leaf t v => cases hc

end ReactiveTree.Node
