import ReactiveTree.Node.Plain
import ReactiveTree.Proofs.Decimal.Whole
import ReactiveTree.Proofs.Json.Texts
import ReactiveTree.Proofs.KeyOrder
import ReactiveTree.Proofs.Sameness

/-!
# Plain JSON of nodes and back

The plain JSON of a node is sorted and can be written without loss (`Node.sortKeys_toPlain`,
`Node.isExact_toPlain`). A node that is built from it has lost its traits and has its children in
key order, and each value is the one that there was, but that a zero has lost its sign
(`Node.ofPlain_toPlain`). In the other direction nothing is lost of plain JSON that is written in
the one way in which nodes are written (`Json.IsCanonical`, `Node.toPlain_ofPlain`).

Key definitions: `Scalar.reread`, `Node.plain`, `Json.IsCanonical`.
Key theorems: `Scalar.same_reread`, `Node.ofPlain_toPlain`, `Node.toPlain_ofPlain`.
-/
namespace ReactiveTree

open Decimal (wholeNumber?)
open Json (sortMembers)

/-! ### Values -/

namespace Scalar

variable {x : Float} {n : ℤ}

/-- The value that comes back for a value as plain JSON; `null` is NaN. -/
def reread (v : Scalar) : Scalar := (ofJson? v.toJson).getD (.number Decimal.nan)

/-- The one number that is equal to zero but for its sign. -/
theorem eq_zero_of_wholeNumber? (h : wholeNumber? x = some 0) : x = 0 ∨ x = -0 := by
  obtain ⟨d, hd, hn⟩ := Decimal.wholeNumber?_eq_some_iff.mp h
  have hm : d.m = 0 := by
    rw [← Decimal.Dyadic.value_eq_zero]
    unfold Decimal.Dyadic.signedValue at hn
    split at hn <;> simpa using hn
  rw [← Decimal.Dyadic.toFloat_of_ofFloat? hd, Decimal.Dyadic.toFloat, Decimal.Dyadic.unpacked,
    dif_pos hm]
  cases d.negative with
  | false => exact .inl (by decide +kernel)
  | true => exact .inr (by decide +kernel)

/-- A double that is equal to a whole number is finite. -/
theorem isFinite_of_wholeNumber? (h : wholeNumber? x = some n) : x.isFinite = true := by
  obtain ⟨d, hd, -⟩ := Decimal.wholeNumber?_eq_some_iff.mp h
  exact Decimal.Dyadic.isFinite_iff.mpr ⟨d, hd⟩

/-- The three forms of a number in plain JSON. -/
theorem numberToJson_cases (x : Float) :
    (∃ n, wholeNumber? x = some n ∧ Word64.inRange n = true ∧ numberToJson x = .int n) ∨
    (x.isFinite = true ∧ numberToJson x = .double x) ∨
    (x.isFinite = false ∧ numberToJson x = .null) := by
  unfold numberToJson
  split
  · rename_i n hn
    split
    · rename_i hr
      exact .inl ⟨n, hn, hr, rfl⟩
    · exact .inr (.inl ⟨isFinite_of_wholeNumber? hn, rfl⟩)
  · split
    · rename_i hx
      exact .inr (.inl ⟨hx, rfl⟩)
    · rename_i hx
      exact .inr (.inr ⟨Bool.eq_false_of_not_eq_true hx, rfl⟩)

/-- A number that is not finite is `null`. -/
theorem toJson_of_not_isFinite (h : x.isFinite = false) : toJson (.number x) = .null := by
  rw [toJson]
  obtain ⟨n, hn, -, -⟩ | ⟨hx, -⟩ | ⟨-, hj⟩ := numberToJson_cases x
  · rw [isFinite_of_wholeNumber? hn] at h
    cases h
  · rw [hx] at h
    cases h
  · exact hj

theorem isExact_toJson (v : Scalar) : v.toJson.IsExact := by
  cases v with
  | string s => trivial
  | boolean b => trivial
  | number x =>
    rw [toJson]
    obtain ⟨n, -, hr, hj⟩ | ⟨hx, hj⟩ | ⟨-, hj⟩ := numberToJson_cases x
    · rw [Word64.inRange, Bool.and_eq_true, decide_eq_true_eq, decide_eq_true_eq] at hr
      rw [hj]
      exact ⟨hr.1, by have := hr.2; unfold Word64.maxInt Word64.count at *; omega⟩
    · rw [hj]
      exact hx
    · rw [hj]
      trivial

theorem sortKeys_toJson (v : Scalar) : v.toJson.sortKeys = v.toJson := by
  cases v with
  | string s => rfl
  | boolean b => rfl
  | number x =>
    rw [toJson]
    obtain ⟨n, -, -, hj⟩ | ⟨-, hj⟩ | ⟨-, hj⟩ := numberToJson_cases x <;> rw [hj] <;> rfl

/-- A finite value can be read from its plain JSON. -/
theorem ofJson?_toJson {v : Scalar} (h : ∀ x, v = .number x → x.isFinite = true) :
    ofJson? v.toJson = some v.reread := by
  cases v with
  | string s => rfl
  | boolean b => rfl
  | number x =>
    rw [reread, toJson]
    obtain ⟨n, -, -, hj⟩ | ⟨-, hj⟩ | ⟨hx, -⟩ := numberToJson_cases x
    · rw [hj]
      rfl
    · rw [hj]
      rfl
    · rw [h x rfl] at hx
      cases hx

theorem kind_reread (v : Scalar) : v.reread.kind = v.kind := by
  cases v with
  | string s => rfl
  | boolean b => rfl
  | number x =>
    rw [reread, toJson]
    obtain ⟨n, -, -, hj⟩ | ⟨-, hj⟩ | ⟨-, hj⟩ := numberToJson_cases x <;> rw [hj] <;> rfl

/-- **What comes back is the same value**, and NaN for what is not finite. -/
theorem same_reread (v : Scalar) : v.reread.same v.settled = true := by
  cases v with
  | string s => exact same_refl _
  | boolean b => exact same_refl _
  | number x =>
    rw [reread, toJson, settled]
    obtain ⟨n, hn, -, hj⟩ | ⟨hx, hj⟩ | ⟨hx, hj⟩ := numberToJson_cases x
    · rw [hj]
      dsimp only [ofJson?, Option.getD_some]
      rw [if_pos (isFinite_of_wholeNumber? hn)]
      by_cases h0 : n = 0
      · subst h0
        have hzero : ofInt 0 = 0 := by decide +kernel
        rw [hzero, same_number]
        exact (eq_zero_of_wholeNumber? hn).imp Eq.symm fun h => .inl ⟨rfl, h⟩
      · rw [Decimal.ofInt_of_wholeNumber? hn h0]
        exact same_refl _
    · rw [hj]
      dsimp only [ofJson?, Option.getD_some]
      rw [if_pos hx]
      exact same_refl _
    · rw [hj]
      dsimp only [ofJson?, Option.getD_none]
      rw [if_neg (by rw [hx]; decide)]
      exact same_refl _

end Scalar
/-! ### From nodes and back -/

namespace Node

variable {n m : Node} {s : String}

theorem plainMembers_eq (cs : List (String × Node)) :
    plainMembers cs = cs.map fun c => (c.1, c.2.toPlain) := by
  induction cs with
  | nil => rfl
  | cons c cs ih => rw [plainMembers, ih, List.map_cons]

theorem plainItems_eq (is : List Node) : plainItems is = is.map toPlain := by
  induction is with
  | nil => rfl
  | cons n is ih => rw [plainItems, ih, List.map_cons]

theorem childrenOfPlain_eq : ∀ ms : List (String × Json), (∀ m ∈ ms, Path.isValidKey m.1 = true) →
    childrenOfPlain ms = ms.map fun m => (m.1, ofPlain m.2)
  | [], _ => rfl
  | (k, j) :: ms, h => by
    obtain ⟨hk, hms⟩ := List.forall_mem_cons.mp h
    rw [childrenOfPlain, if_pos hk, childrenOfPlain_eq ms hms]
    rfl

theorem itemsOfPlain_eq : ∀ items : List Json, itemsOfPlain items = items.map ofPlain
  | [] => rfl
  | j :: js => by rw [itemsOfPlain, itemsOfPlain_eq js]; rfl

/-- **A text says all of a node's plain JSON.** -/
theorem isExact_toPlain (n : Node) : n.toPlain.IsExact := by
  induction n using induct with
  | step n ih =>
    cases n with
    | object t cs =>
      rw [toPlain, Json.IsExact, Json.membersExact_iff, plainMembers_eq]
      intro m hm
      obtain ⟨c, hc, rfl⟩ := List.mem_map.mp (Json.mem_of_mem_sortMembers hm)
      exact ih c.1 c.2 hc
    | array t is =>
      rw [toPlain, Json.IsExact, Json.itemsExact_iff, plainItems_eq, List.forall_mem_map]
      intro c hc
      obtain ⟨s, hs⟩ := exists_mem_kids_of_mem (t := t) hc
      exact ih s c hs
    | leaf t v => exact v.isExact_toJson

/-- **The plain JSON of a node is sorted.** -/
theorem sortKeys_toPlain (n : Node) : n.toPlain.sortKeys = n.toPlain := by
  induction n using induct with
  | step n ih =>
    cases n with
    | object t cs =>
      have hcs : (cs.map fun c => (c.1, c.2.toPlain.sortKeys)) =
          cs.map fun c => (c.1, c.2.toPlain) :=
        List.map_congr_left fun c hc => congrArg (Prod.mk c.1) (ih c.1 c.2 hc)
      rw [toPlain, plainMembers_eq, Json.sortKeys, Json.sortEach_eq, ← Json.sortMembers_map,
        List.map_map]
      change Json.obj (sortMembers (sortMembers (cs.map fun c => (c.1, c.2.toPlain.sortKeys)))) = _
      rw [hcs, Json.sortMembers_of_ascending (Json.ascending_sortMembers _)]
    | array t is =>
      rw [toPlain, plainItems_eq, Json.sortKeys, Json.sortItems_eq, List.map_map]
      refine congrArg Json.arr (List.map_congr_left fun c hc => ?_)
      obtain ⟨s, hs⟩ := exists_mem_kids_of_mem (t := t) hc
      exact ih s c hs
    | leaf t v => exact v.sortKeys_toJson

/-- What comes back for a node as plain JSON: it has no traits, its children are in the order of
their keys, and its values are read from their JSON. -/
def plain (n : Node) : Node := (n.recast (fun _ => {}) Scalar.reread).inKeyOrder

@[simp] theorem traits_plain (n : Node) : n.plain.traits = {} := by simp [plain]

@[simp] theorem kind_plain (n : Node) : n.plain.kind = n.kind := by
  rw [plain, kind_inKeyOrder, kind_recast _ Scalar.kind_reread]

@[simp] theorem value?_plain (n : Node) : n.plain.value? = n.value?.map Scalar.reread := by
  rw [plain, value?_inKeyOrder, value?_recast]

theorem leads_plain {segments : List String} (h : n.Leads segments m) :
    n.plain.Leads segments m.plain := leads_inKeyOrder (leads_recast _ _ h)

theorem leads_of_plain {segments : List String} (h : n.plain.Leads segments m) :
    ∃ m', n.Leads segments m' ∧ m = m'.plain := by
  obtain ⟨m', hm', rfl⟩ := leads_of_inKeyOrder h
  obtain ⟨m'', hm'', rfl⟩ := leads_of_recast _ _ hm'
  exact ⟨m'', hm'', rfl⟩

theorem get?_plain (h : n.isRegular = true) (segments : List String) :
    n.plain.get? segments = (n.get? segments).map plain := by
  rw [plain, get?_inKeyOrder _ ((isRegular_recast _ _ n).trans h), get?_recast, Option.map_map]
  rfl

/-- Every number here and below is finite. -/
def NumbersFinite (n : Node) : Prop :=
  ∀ segments m x, n.Leads segments m → m.value? = some (.number x) → x.isFinite = true

/-- Here, and at every child. -/
theorem numbersFinite_iff : n.NumbersFinite ↔
    (∀ x, n.value? = some (.number x) → x.isFinite = true) ∧ ∀ c ∈ n.kids, c.2.NumbersFinite := by
  have hswap : ∀ n : Node, n.NumbersFinite ↔ ∀ segments m, n.Leads segments m →
      ∀ x, m.value? = some (.number x) → x.isFinite = true :=
    fun n => forall₂_congr fun segments m => forall_comm
  rw [hswap, forall_leads_iff, Prod.forall]
  simp only [hswap]

/-- **A node is built again from its plain JSON.** -/
theorem ofPlain_toPlain (n : Node) : n.isRegular = true → n.Lawful → n.NumbersFinite →
    ofPlain n.toPlain = n.plain := by
  induction n using induct with
  | step n ih =>
    intro hr hl hf
    obtain ⟨hhere, hbelow⟩ := numbersFinite_iff.mp hf
    have hkids : ∀ s c, (s, c) ∈ n.kids → ofPlain c.toPlain = c.plain := fun s c hc =>
      ih s c hc (isRegular_of_mem_kids hr hc) ((lawful_iff.mp hl).2 s c hc) (hbelow (s, c) hc)
    cases n with
    | object t cs =>
      have hnodup := nodup_of_isRegular hr
      have hplain : (object t cs).plain =
          object {} ((sortMembers cs).map fun c => (c.1, c.2.plain)) :=
        arranged_recast_object (fun _ => {}) Scalar.reread true t hnodup
      have hperm := Json.perm_sortMembers hnodup
      have hkeys : ∀ m ∈ sortMembers (cs.map fun c => (c.1, c.2.toPlain)),
          Path.isValidKey m.1 = true := fun m hm => by
        obtain ⟨c, hc, rfl⟩ := List.mem_map.mp (Json.mem_of_mem_sortMembers hm)
        exact ((lawful_object.mp hl).2 c.1 c.2 hc).1
      rw [hplain, toPlain, plainMembers_eq, ofPlain, childrenOfPlain_eq _ hkeys,
        Json.sortMembers_map, List.map_map]
      refine congrArg (object {}) (List.map_congr_left fun c hc => congrArg (Prod.mk c.1) ?_)
      exact hkids c.1 c.2 (hperm.mem_iff.mp hc)
    | array t is =>
      have hplain : (array t is).plain = array {} (is.map plain) :=
        arranged_recast_array (fun _ => {}) Scalar.reread true t is
      rw [hplain, toPlain, plainItems_eq, ofPlain, itemsOfPlain_eq, List.map_map]
      refine congrArg (array {}) (List.map_congr_left fun c hc => ?_)
      obtain ⟨s, hs⟩ := exists_mem_kids_of_mem (t := t) hc
      exact hkids s c hs
    | leaf t v =>
      have hread : Scalar.ofJson? v.toJson = some v.reread :=
        Scalar.ofJson?_toJson fun x hx => hhere x (congrArg some hx)
      have hplain : ofPlain v.toJson = primitive ((Scalar.ofJson? v.toJson).getD (.string "")) := by
        cases v with
        | string s => rfl
        | boolean b => rfl
        | number x =>
          rw [Scalar.toJson]
          obtain ⟨n, -, -, hj⟩ | ⟨-, hj⟩ | ⟨-, hj⟩ := Scalar.numberToJson_cases x <;> rw [hj] <;>
            simp only [ofPlain]
      rw [toPlain, hplain, hread]
      rfl

end Node

/-! ### From JSON and back -/

namespace Json

/-- A number in the form in which it is written again: an integer of magnitude up to
`2 ^ 53`, or a finite double that is no whole number of 64 bits. -/
def IsSettledNumber : Json → Prop
  | .int n => n.natAbs ≤ 2 ^ 53
  | .double x => x.isFinite = true ∧ ∀ n, wholeNumber? x = some n → Word64.inRange n = false
  | _ => False

mutual
/-- The JSON is in the form in which nodes are written: there is no `null` in it, numbers have
their settled form, and the keys of objects ascend and can all be addressed. -/
def IsCanonical : Json → Prop
  | .str _ => True
  | .bool _ => True
  | .arr items => ItemsCanonical items
  | .obj members => Ascending members ∧ MembersCanonical members
  | j => j.IsSettledNumber

def ItemsCanonical : List Json → Prop
  | [] => True
  | j :: js => IsCanonical j ∧ ItemsCanonical js

def MembersCanonical : List (String × Json) → Prop
  | [] => True
  | (k, j) :: ms => (Path.isValidKey k = true ∧ IsCanonical j) ∧ MembersCanonical ms
end

end Json

open Json (IsSettledNumber IsCanonical ItemsCanonical MembersCanonical)

/-- A number in its settled form is written as it was read. -/
theorem Scalar.toJson_of_isSettledNumber : ∀ {j : Json}, j.IsSettledNumber →
    ∃ x, ofJson? j = some (.number x) ∧ toJson (.number x) = j
  | .int n, h => by
    have hbound : n.natAbs ≤ 2 ^ 53 := h
    refine ⟨ofInt n, rfl, ?_⟩
    have hr : Word64.inRange n = true := by
      rw [Word64.inRange, Bool.and_eq_true, decide_eq_true_eq, decide_eq_true_eq]
      unfold Word64.minInt Word64.maxInt
      omega
    rw [toJson, numberToJson, Decimal.wholeNumber?_ofInt hbound]
    exact if_pos hr
  | .double x, h => by
    refine ⟨x, rfl, ?_⟩
    rw [toJson]
    obtain ⟨n, hn, hr, -⟩ | ⟨-, hj⟩ | ⟨hx, -⟩ := numberToJson_cases x
    · rw [h.2 n hn] at hr
      cases hr
    · exact hj
    · rw [h.1] at hx
      cases hx

namespace Node

mutual
/-- **Canonical JSON is the plain JSON of the node that is built from it.** -/
theorem toPlain_ofPlain : ∀ j : Json, j.IsCanonical → (ofPlain j).toPlain = j
  | .arr items, h => by
    rw [ofPlain, toPlain, plainItems_itemsOfPlain items h]
  | .obj members, h => by
    rw [ofPlain, toPlain, plainMembers_childrenOfPlain members h.2,
      Json.sortMembers_of_ascending h.1]
  | .str s, _ => by simp [ofPlain, toPlain, primitive, Scalar.ofJson?, Scalar.toJson]
  | .bool b, _ => by simp [ofPlain, toPlain, primitive, Scalar.ofJson?, Scalar.toJson]
  | .int n, h => by
    obtain ⟨x, hx, hj⟩ := Scalar.toJson_of_isSettledNumber (j := .int n) h
    simp only [ofPlain, hx]
    exact hj
  | .double y, h => by
    obtain ⟨x, hx, hj⟩ := Scalar.toJson_of_isSettledNumber (j := .double y) h
    simp only [ofPlain, hx]
    exact hj
  | .null, h => h.elim
  | .broken, h => h.elim
  | .unusable, h => h.elim

theorem plainItems_itemsOfPlain : ∀ items : List Json, ItemsCanonical items →
    plainItems (itemsOfPlain items) = items
  | [], _ => by rw [itemsOfPlain, plainItems]
  | j :: js, h => by
    rw [itemsOfPlain, plainItems, toPlain_ofPlain j h.1, plainItems_itemsOfPlain js h.2]

theorem plainMembers_childrenOfPlain : ∀ members : List (String × Json),
    MembersCanonical members → plainMembers (childrenOfPlain members) = members
  | [], _ => by rw [childrenOfPlain, plainMembers]
  | (k, j) :: ms, h => by
    rw [childrenOfPlain, if_pos h.1.1, plainMembers, toPlain_ofPlain j h.1.2,
      plainMembers_childrenOfPlain ms h.2]
end

end Node

namespace Json

variable {j : Json}

theorem IsCanonical.isExact (h : j.IsCanonical) : j.IsExact :=
  Node.toPlain_ofPlain j h ▸ (Node.ofPlain j).isExact_toPlain

theorem IsCanonical.sortKeys (h : j.IsCanonical) : j.sortKeys = j := by
  have hsort := (Node.ofPlain j).sortKeys_toPlain
  rwa [Node.toPlain_ofPlain j h] at hsort

/-- **Canonical JSON is read back from its compact text as it is.** -/
theorem IsCanonical.read?_compact (h : j.IsCanonical) (hdepth : j.depth ≤ maxDepth) :
    read? j.compact = some j := by
  rw [read?_of_spells (spells_compact j) h.isExact hdepth, h.sortKeys]

end Json
end ReactiveTree
