import ReactiveTree.Proofs.Calls

/-!
# When a write goes through

A write goes down along the segments of its path, and what it creates on the way takes any segment.
So it is refused only by a node that was there before: by a primitive, or by an array of which the
segment counts neither an item nor the length (`Node.Takes`). Digits that no word can hold count no
item, since a word holds the length of every array (`Node.Counted`).

Key definitions: `Node.Takes`, `Node.Open`, `Node.Counted`.
Key theorems: `Node.open_cons`, `Node.exists_put_iff`.
-/
namespace ReactiveTree
namespace Node

open Json (lookup upsert)

variable {n c new : Node} {s : String} {rest : List String}

/-! ### Nodes on the way -/

/-- A segment can be applied to a node: any key to an object, and to an array the numeral of an item
or of its length. -/
def Takes (segment : String) : Node → Prop
  | .object _ _ => True
  | .array _ is => ∃ i, Path.Numeral segment i ∧ i ≤ is.length
  | .leaf _ _ => False

/-- Every node that is there on the way takes the segment that comes next. -/
def Open (segments : List String) (n : Node) : Prop :=
  ∀ front s rest, segments = front ++ s :: rest → ∀ m, n.get? front = some m → m.Takes s

/-- A word can hold the length of every array, as it does in memory. -/
def Counted (n : Node) : Prop :=
  ∀ segments t is, n.get? segments = some (.array t is) → is.length < Word64.count

theorem open_cons :
    n.Open (s :: rest) ↔ n.Takes s ∧ ∀ c, n.child? s = some c → c.Open rest := by
  constructor
  · intro h
    refine ⟨h [] s rest rfl n rfl, fun c hc front s' rest' hs m hm => ?_⟩
    refine h (s :: front) s' rest' (by rw [hs, List.cons_append]) m ?_
    rw [get?, hc, Option.bind_some, hm]
  · rintro ⟨htakes, hopen⟩ front s' rest' hs m hm
    cases front with
    | nil =>
      obtain ⟨rfl, rfl⟩ := List.cons.inj hs
      exact Option.some.inj hm ▸ htakes
    | cons x front =>
      obtain ⟨rfl, hrest⟩ := List.cons.inj hs
      obtain ⟨c, hc, hm⟩ := Option.bind_eq_some_iff.mp hm
      exact hopen c hc front s' rest' hrest m hm

theorem Counted.child (h : n.Counted) (hc : n.child? s = some c) : c.Counted := by
  intro segments t is hg
  refine h (s :: segments) t is ?_
  rw [get?, hc, Option.bind_some, hg]

theorem counted_iff : n.Counted ↔ (∀ t is, n = .array t is → is.length < Word64.count) ∧
    ∀ s c, n.child? s = some c → c.Counted := by
  constructor
  · exact fun h => ⟨fun t is hn => h [] t is (congrArg some hn), fun s c hc => h.child hc⟩
  · rintro ⟨hself, hchild⟩ segments t is hg
    cases segments with
    | nil => exact hself t is (Option.some.inj hg)
    | cons s segments =>
      obtain ⟨c, hc, hg⟩ := Option.bind_eq_some_iff.mp hg
      exact hchild s c hc segments t is hg

theorem counted_leaf (t : Traits) (v : Scalar) : (leaf t v).Counted :=
  counted_iff.mpr ⟨by simp, fun s c hc => by cases hc⟩

theorem counted_array {t : Traits} {is : List Node} (hl : is.length < Word64.count)
    (h : ∀ c ∈ is, c.Counted) : (array t is).Counted := by
  refine counted_iff.mpr ⟨fun t' is' heq => ?_, fun s c hc => ?_⟩
  · injection heq with _ his
    exact his ▸ hl
  · obtain ⟨i, -, hi⟩ := Option.bind_eq_some_iff.mp hc
    exact h c (List.mem_of_getElem? hi)

theorem counted_object {t : Traits} {cs : List (String × Node)}
    (h : ∀ s c, (s, c) ∈ cs → c.Counted) : (object t cs).Counted :=
  counted_iff.mpr ⟨by simp, fun s c hc => h s c (Json.mem_of_lookup hc)⟩

theorem exists_map_ok_iff {f : Node → Node} {r : Except PathError Node} :
    (∃ n', r.map f = .ok n') ↔ ∃ c, r = .ok c := by
  constructor
  · rintro ⟨n', h⟩
    obtain ⟨c, -, hc⟩ := exists_of_map_eq_ok h
    exact ⟨c, hc⟩
  · rintro ⟨c, rfl⟩
    exact ⟨f c, rfl⟩

/-- **A write goes through if the nodes on the way take its segments.** -/
theorem exists_put_iff (path : String) (new : Node) : ∀ {segments : List String} {n : Node},
    n.Counted → ((∃ n', put path new segments n = .ok n') ↔ n.Open segments)
  | [], n, _ => by
    refine iff_of_true ⟨new, rfl⟩ fun front s rest hs => ?_
    cases front <;> cases hs
  | s :: rest, n, h => by
    rw [open_cons]
    cases n with
    | object t cs =>
      rw [put_object, exists_map_ok_iff]
      cases hc : lookup s cs with
      | none =>
        have hchild : (object t cs).child? s = none := hc
        simp [hchild, Takes, put_emptyObject]
      | some c =>
        have hchild : (object t cs).child? s = some c := hc
        simp [hchild, Takes, exists_put_iff path new (h.child hchild)]
    | array t is =>
      have hlength := h [] t is rfl
      have hindex : ∀ {i}, Path.Numeral s i → i ≤ is.length → Path.index? s = some i :=
        fun hi hle => Path.index?_eq_some_iff.mpr ⟨hi, by omega⟩
      cases hs : Path.index? s with
      | none =>
        have hrefuse : put path new (s :: rest) (array t is) = .error (.invalidIndex path s) := by
          simp only [put, hs]
        rw [hrefuse]
        refine iff_of_false (by simp) ?_
        rintro ⟨⟨i, hi, hle⟩, -⟩
        rw [hindex hi hle] at hs
        cases hs
      | some i =>
        have hnumeral := (Path.index?_eq_some_iff.mp hs).1
        cases hi : is[i]? with
        | some d =>
          have hchild : (array t is).child? s = some d := by rw [child?, hs, Option.bind_some, hi]
          have htakes : (array t is).Takes s :=
            ⟨i, hnumeral, (List.getElem?_eq_some_iff.mp hi).1.le⟩
          rw [put_array_some hs hi, exists_map_ok_iff, exists_put_iff path new (h.child hchild)]
          simp [hchild, htakes]
        | none =>
          have hchild : (array t is).child? s = none := by rw [child?, hs, Option.bind_some, hi]
          rw [put_array_none hs hi, List.getElem?_eq_none_iff] at *
          by_cases hl : i = is.length
          · have htakes : (array t is).Takes s := ⟨i, hnumeral, hl.le⟩
            rw [if_pos hl, exists_map_ok_iff]
            simp [hchild, htakes, put_emptyObject]
          · rw [if_neg hl]
            refine iff_of_false (by simp) ?_
            rintro ⟨⟨j, hj, hle⟩, -⟩
            have hij := Option.some.inj (hs.symm.trans (hindex hj hle))
            omega
    | leaf t v => exact iff_of_false (by simp [put]) fun h => h.1

end Node
end ReactiveTree
