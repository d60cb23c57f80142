import ReactiveTree.Proofs.Reaction.Checking
import Mathlib.Data.Set.Card

/-!
# The earliest rule that a value breaks

What it takes to break a rule is said for each rule by itself, with the message that comes of it
(`Fails`); no rule knows of the others. A node gets a message just if its value breaks some rule,
and it is the message of the earliest one in the order required, least value, greatest value,
pattern, custom snippet (`Validator.mem_checkTree_iff`). A validator that was used before gives the
same messages, and what it has kept are the patterns that texts came to, each of them once
(`Validator.keeps_after`).

Key definitions: `Rule`, `Fails`, `Earliest`, `Tree.Reaches`, `Validator.after`,
`Validator.Verdict`.
Key theorems: `fails_iff`, `earliest_iff`, `Validator.Keeps.checkNode`,
`Validator.checkTree_earliest`.
-/
namespace ReactiveTree

namespace Reaction

open Snippet (Engine Datum SnippetError)

/-! ### One rule by itself -/

/-- The rules of a node. -/
inductive Rule where
  | required
  | min
  | max
  | pattern
  | custom
deriving Repr, DecidableEq

/-- The rules in the order in which they are checked. -/
def Rule.all : List Rule := [.required, .min, .max, .pattern, .custom]

/-- What a custom snippet gives for the value of the node at a path. -/
def customResult (e : Engine) (path : String) (v : Scalar) (source : String) :
    Except SnippetError Datum :=
  (e.eval source [("value", Datum.ofScalar v), ("path", .string path)]).1

/-- A value at a path breaks a rule, and the message says so. Only the rules that look at the value
itself let the node say it in its own words. -/
inductive Fails (e : Engine) (path : String) (rules : Rules) : Rule → Scalar → String → Prop where
  | blank {text : String} (hr : rules.required = true) (ht : Text.trim text = "") :
    Fails e path rules .required (.string text)
      (rules.message.getD "This field is required")
  | noNumber {x : Float} (hr : rules.required = true) (hx : x.isNaN = true) :
    Fails e path rules .required (.number x)
      (rules.message.getD "This field is required")
  | below {x b : Float} (hb : rules.min = some b) (hx : x < b) :
    Fails e path rules .min (.number x)
      (rules.message.getD ("Must be at least " ++ formatNumber b))
  | above {x b : Float} (hb : rules.max = some b) (hx : b < x) :
    Fails e path rules .max (.number x)
      (rules.message.getD ("Must be at most " ++ formatNumber b))
  | mismatch {text p : String} {r : Pattern} (hp : rules.pattern = some p)
      (hr : Pattern.ofText p = .ok r) (ht : r.matchesIn text = false) :
    Fails e path rules .pattern (.string text)
      (rules.message.getD ("Does not match pattern " ++ p))
  | unreadable {text p : String} {fault : Pattern.Fault} (hp : rules.pattern = some p)
      (hr : Pattern.ofText p = .error fault) :
    Fails e path rules .pattern (.string text) ("Invalid pattern '" ++ p ++ "': " ++ fault.message)
  | broken {v : Scalar} {source : String} {err : SnippetError} (hc : rules.custom = some source)
      (he : customResult e path v source = .error err) :
    Fails e path rules .custom v ("Custom validation error: " ++ err.message)
  | refused {v : Scalar} {source : String} {d : Datum} (hc : rules.custom = some source)
      (hd : customResult e path v source = .ok d) (hs : d.toScalar? = some (.boolean false)) :
    Fails e path rules .custom v "Custom validation failed"
  | told {v : Scalar} {source text : String} {d : Datum} (hc : rules.custom = some source)
      (hd : customResult e path v source = .ok d) (hs : d.toScalar? = some (.string text))
      (ht : text ≠ "") :
    Fails e path rules .custom v text

/-- The earliest rule that a value breaks gives the message. -/
def Earliest (e : Engine) (path : String) (rules : Rules) (v : Scalar) (message : String) : Prop :=
  ∃ front rule back, Rule.all = front ++ rule :: back ∧ Fails e path rules rule v message ∧
    ∀ earlier ∈ front, ∀ other, ¬ Fails e path rules earlier v other

/-- Nothing is less than NaN or greater. -/
theorem isNaN_of_lt {x y : Float} (h : x < y) : x.isNaN = false ∧ y.isNaN = false := by
  have hc : x.toModel.unpack.compare y.toModel.unpack = some .lt := by
    simpa [LT.lt, Float.lt, Float.Model.lt, Float.Model.UnpackedFloat.lt] using h
  unfold Float.isNaN Float.Model.isNaN
  generalize x.toModel.unpack = a at hc ⊢
  generalize y.toModel.unpack = b at hc ⊢
  cases a <;> cases b <;>
    first | exact ⟨rfl, rfl⟩ | simp [Float.Model.UnpackedFloat.compare] at hc

/-- What a rule finds by itself. -/
def broken? (e : Engine) (path : String) (rules : Rules) (v : Scalar) : Rule → Option Violation
  | .required => if rules.required && isMissing v then some .missing else none
  | .min => v.number?.bind fun x => (rules.min.filter (x < ·)).map .below
  | .max => v.number?.bind fun x => (rules.max.filter (· < x)).map .above
  | .pattern => (({} : Validator).checkPattern rules v).1
  | .custom => rules.custom.bind fun source => (checkCustom e path v source).1

variable {e : Engine} {path : String} {rules : Rules} {v : Scalar} {message : String}

theorem fails_required_iff : Fails e path rules .required v message ↔
    ∃ b, broken? e path rules v .required = some b ∧ b.message rules = message := by
  constructor
  · intro h
    cases h with
    | blank hr ht => exact ⟨.missing, by simp [broken?, isMissing, hr, ht], rfl⟩
    | @noNumber x hr hx =>
      have hm : isMissing (.number x) = true := hx
      exact ⟨.missing, by simp [broken?, hr, hm], rfl⟩
  · rintro ⟨b, hb, rfl⟩
    rw [broken?] at hb
    split at hb
    · rename_i h
      obtain ⟨hr, hm⟩ := Bool.and_eq_true_iff.mp h
      obtain rfl := Option.some.inj hb
      cases v with
      | string text => exact .blank hr (beq_iff_eq.mp hm)
      | number x => exact .noNumber hr hm
      | boolean b => cases hm
    · cases hb

/-- A bound is broken by a number only. -/
theorem exists_bound_iff (limit : Option Float) (breaks : Float → Float → Bool)
    (violation : Float → Violation) (P : Violation → Prop) :
    (∃ b, (v.number?.bind fun x => (limit.filter (breaks x)).map violation) = some b ∧ P b) ↔
      ∃ x c, v = .number x ∧ limit = some c ∧ breaks x c = true ∧ P (violation c) := by
  constructor
  · rintro ⟨b, hb, hP⟩
    cases v with
    | string text => cases hb
    | boolean b => cases hb
    | number x =>
      obtain ⟨c, hc, rfl⟩ := Option.map_eq_some_iff.mp hb
      obtain ⟨hc, hx⟩ := Option.filter_eq_some_iff.mp hc
      exact ⟨x, c, rfl, hc, hx, hP⟩
  · rintro ⟨x, c, rfl, hc, hx, hP⟩
    refine ⟨violation c, ?_, hP⟩
    rw [hc, Scalar.number?, Option.bind_some, Option.filter_some, if_pos hx, Option.map_some]

theorem fails_min_iff : Fails e path rules .min v message ↔
    ∃ b, broken? e path rules v .min = some b ∧ b.message rules = message := by
  have hbound := exists_bound_iff (v := v) rules.min (fun x c => decide (x < c)) Violation.below
    fun b => b.message rules = message
  rw [broken?, hbound]
  constructor
  · intro h
    cases h with
    | below hb hx => exact ⟨_, _, rfl, hb, decide_eq_true hx, rfl⟩
  · rintro ⟨x, c, rfl, hc, hx, rfl⟩
    exact .below hc (of_decide_eq_true hx)

theorem fails_max_iff : Fails e path rules .max v message ↔
    ∃ b, broken? e path rules v .max = some b ∧ b.message rules = message := by
  have hbound := exists_bound_iff (v := v) rules.max (fun x c => decide (c < x)) Violation.above
    fun b => b.message rules = message
  rw [broken?, hbound]
  constructor
  · intro h
    cases h with
    | above hb hx => exact ⟨_, _, rfl, hb, decide_eq_true hx, rfl⟩
  · rintro ⟨x, c, rfl, hc, hx, rfl⟩
    exact .above hc (of_decide_eq_true hx)

/-- A validator that keeps nothing reads the pattern. -/
theorem pattern_fresh (p : String) :
    ({} : Validator).pattern p = (Pattern.ofText p, ⟨[(p, Pattern.ofText p)]⟩) := rfl

theorem checkPattern_of_ok {p : String} {r : Pattern} (hp : rules.pattern = some p)
    (hr : Pattern.ofText p = .ok r) (text : String) :
    (({} : Validator).checkPattern rules (.string text)).1 =
      if r.matchesIn text then none else some (.mismatch p) := by
  unfold Validator.checkPattern
  rw [hp]
  dsimp only
  rw [pattern_fresh, hr]

theorem checkPattern_of_error {p : String} {fault : Pattern.Fault} (hp : rules.pattern = some p)
    (hr : Pattern.ofText p = .error fault) (text : String) :
    (({} : Validator).checkPattern rules (.string text)).1 = some (.badPattern p fault) := by
  unfold Validator.checkPattern
  rw [hp]
  dsimp only
  rw [pattern_fresh, hr]

theorem checkPattern_of_none (hp : rules.pattern = none) (w : Validator) (v : Scalar) :
    w.checkPattern rules v = (none, w) := by
  unfold Validator.checkPattern
  rw [hp]

theorem fails_pattern_iff : Fails e path rules .pattern v message ↔
    ∃ b, broken? e path rules v .pattern = some b ∧ b.message rules = message := by
  constructor
  · intro h
    cases h with
    | mismatch hp hr ht =>
      refine ⟨.mismatch _, ?_, rfl⟩
      rw [broken?, checkPattern_of_ok hp hr, if_neg (by simp [ht])]
    | unreadable hp hr =>
      refine ⟨.badPattern _ _, ?_, rfl⟩
      rw [broken?, checkPattern_of_error hp hr]
  · rintro ⟨b, hb, rfl⟩
    rw [broken?] at hb
    cases hp : rules.pattern with
    | none =>
      rw [checkPattern_of_none hp] at hb
      cases hb
    | some p =>
      cases v with
      | number x => simp [Validator.checkPattern, hp] at hb
      | boolean b => simp [Validator.checkPattern, hp] at hb
      | string text =>
        cases hr : Pattern.ofText p with
        | error fault =>
          rw [checkPattern_of_error hp hr] at hb
          obtain rfl := Option.some.inj hb
          exact .unreadable hp hr
        | ok r =>
          rw [checkPattern_of_ok hp hr] at hb
          by_cases ht : r.matchesIn text = true
          · rw [if_pos ht] at hb
            cases hb
          · rw [if_neg ht] at hb
            obtain rfl := Option.some.inj hb
            exact .mismatch hp hr (Bool.eq_false_of_not_eq_true ht)

theorem fails_custom_iff : Fails e path rules .custom v message ↔
    ∃ b, broken? e path rules v .custom = some b ∧ b.message rules = message := by
  have hcheck : ∀ source, (checkCustom e path v source).1 =
      ofResult (customResult e path v source) := fun _ => rfl
  constructor
  · intro h
    cases h with
    | broken hc he => exact ⟨.customFailed _, by simp [broken?, hc, hcheck, he, ofResult], rfl⟩
    | refused hc hd hs => exact ⟨.refused, by simp [broken?, hc, hcheck, hd, ofResult, hs], rfl⟩
    | told hc hd hs ht => exact ⟨.told _, by simp [broken?, hc, hcheck, hd, ofResult, hs, ht], rfl⟩
  · rintro ⟨b, hb, rfl⟩
    obtain ⟨source, hc, hb⟩ := Option.bind_eq_some_iff.mp hb
    rw [hcheck] at hb
    unfold ofResult at hb
    split at hb
    · rename_i err he
      obtain rfl := Option.some.inj hb
      exact .broken hc he
    · rename_i d hd
      split at hb
      · rename_i hs
        obtain rfl := Option.some.inj hb
        exact .refused hc hd hs
      · rename_i text hs
        split at hb
        · cases hb
        · rename_i ht
          obtain rfl := Option.some.inj hb
          exact .told hc hd hs ht
      · cases hb

/-- **A value breaks a rule just if the rule finds something**, and that gives the message. -/
theorem fails_iff (rule : Rule) : Fails e path rules rule v message ↔
    ∃ b, broken? e path rules v rule = some b ∧ b.message rules = message := by
  cases rule with
  | required => exact fails_required_iff
  | min => exact fails_min_iff
  | max => exact fails_max_iff
  | pattern => exact fails_pattern_iff
  | custom => exact fails_custom_iff

/-! ### One node -/

/-- The bounds are the rules of least and of greatest value, in this order. -/
theorem checkBounds_eq (e : Engine) (path : String) (rules : Rules) (v : Scalar) :
    checkBounds rules v =
      (broken? e path rules v .min).or (broken? e path rules v .max) := by
  cases v with
  | string text => rfl
  | boolean b => rfl
  | number x =>
    simp only [checkBounds, broken?, Scalar.number?, Option.bind_some]
    cases rules.min.filter (x < ·) <;> cases rules.max.filter (· < x) <;> rfl

/-- **A check goes through the rules in their order and stops at the first one that finds
something.** -/
theorem fst_checkNode (e : Engine) (path : String) (v : Scalar) (rules : Rules) :
    (({} : Validator).checkNode e path v rules).1 =
      Rule.all.findSome? (broken? e path rules v) := by
  have hbounds := checkBounds_eq e path rules v
  have hpattern : broken? e path rules v .pattern =
      (({} : Validator).checkPattern rules v).1 := rfl
  have hcustom : broken? e path rules v .custom =
      rules.custom.bind fun source => (checkCustom e path v source).1 := rfl
  unfold Validator.checkNode Rule.all
  simp only [List.findSome?_cons, List.findSome?_nil]
  by_cases hm : (rules.required && isMissing v) = true
  · have hr : broken? e path rules v .required = some .missing := by rw [broken?, if_pos hm]
    rw [if_pos hm, hr]
  · have hr : broken? e path rules v .required = none := by rw [broken?, if_neg hm]
    rw [if_neg hm, hr, hbounds, hpattern, hcustom]
    cases broken? e path rules v .min with
    | some b => rfl
    | none =>
      cases broken? e path rules v .max with
      | some b => rfl
      | none =>
        rcases ({} : Validator).checkPattern rules v with ⟨r, w⟩
        cases r with
        | some b => rfl
        | none => cases rules.custom with
          | none => rfl
          | some source =>
            dsimp only [Option.or_none, Option.bind_some]
            cases (checkCustom e path v source).1 <;> rfl

theorem earliest_iff : Earliest e path rules v message ↔
    ∃ b, (({} : Validator).checkNode e path v rules).1 = some b ∧ b.message rules = message := by
  unfold Earliest
  rw [fst_checkNode]
  simp only [List.findSome?_eq_some_iff, fails_iff]
  constructor
  · rintro ⟨front, rule, back, hall, ⟨b, hb, hm⟩, hfront⟩
    refine ⟨b, ⟨front, rule, back, hall, hb, fun r hr => ?_⟩, hm⟩
    cases hf : broken? e path rules v r with
    | none => rfl
    | some b' => exact absurd ⟨b', hf, rfl⟩ (hfront r hr _)
  · rintro ⟨b, ⟨front, rule, back, hall, hb, hfront⟩, hm⟩
    refine ⟨front, rule, back, hall, ⟨b, hb, hm⟩, ?_⟩
    rintro r hr other ⟨b', hb', -⟩
    rw [hfront r hr] at hb'
    cases hb'

/-- Some rule is the earliest, if any is broken. -/
theorem exists_earliest_iff :
    (∃ message, Earliest e path rules v message) ↔
      ∃ rule message, Fails e path rules rule v message := by
  constructor
  · rintro ⟨message, front, rule, back, -, hf, -⟩
    exact ⟨rule, message, hf⟩
  · rintro ⟨rule, message, hf⟩
    obtain ⟨b, hb, -⟩ := (fails_iff rule).mp hf
    have hmem : rule ∈ Rule.all := by cases rule <;> decide
    have hsome : (Rule.all.findSome? (broken? e path rules v)).isSome = true := by
      rw [List.findSome?_isSome_iff]
      exact ⟨rule, hmem, by rw [hb]; rfl⟩
    obtain ⟨b', hb'⟩ := Option.isSome_iff_exists.mp hsome
    exact ⟨b'.message rules, earliest_iff.mpr ⟨b', (fst_checkNode e path v rules).trans hb', rfl⟩⟩

/-! ### Patterns that are kept -/

/-- A value comes to the pattern of its rules: it is a text, and it is not refused for being blank,
which is the only earlier rule that looks at texts. -/
def ComesTo (rules : Rules) (v : Scalar) (p : String) : Prop :=
  ∃ text, v = .string text ∧ rules.pattern = some p ∧
    ¬ (rules.required = true ∧ Text.trim text = "")

/-- The value of a node comes to a pattern. -/
def Reaches (entry : Entry) (p : String) : Prop :=
  ∃ rules v, entry.node.traits.validation = some rules ∧ entry.node.value? = some v ∧
    ComesTo rules v p

end Reaction

/-- Some text of the tree comes to a pattern. -/
def Tree.Reaches (t : Tree) (p : String) : Prop := ∃ entry ∈ t.primitives, Reaction.Reaches entry p

namespace Reaction

open Snippet (Engine)

namespace Validator

variable {w : Validator} {ps : Set String} {e : Engine} {path : String} {rules : Rules} {v : Scalar}

/-- The validator keeps these patterns, each of them once. -/
structure Keeps (w : Validator) (ps : Set String) : Prop where
  nodup : (w.patterns.map (·.1)).Nodup
  mem_iff : ∀ p, p ∈ w.patterns.map (·.1) ↔ p ∈ ps

theorem keeps_empty : ({} : Validator).Keeps ∅ := ⟨List.nodup_nil, fun p => by simp⟩

/-- As many patterns are kept as there are. -/
theorem Keeps.size (h : w.Keeps ps) : w.size = ps.ncard := by
  have hset : ps = ((w.patterns.map (·.1)).toFinset : Set String) := by
    ext p
    rw [List.coe_toFinset]
    exact (h.mem_iff p).symm
  rw [hset, Set.ncard_coe_finset, List.toFinset_card_of_nodup h.nodup, List.length_map,
    Validator.size]

/-- A pattern that is asked for is kept from then on. -/
theorem Keeps.pattern (h : w.Keeps ps) (p : String) : (w.pattern p).2.Keeps (ps ∪ {p}) := by
  unfold Validator.pattern
  split
  · rename_i r hr
    have hp : p ∈ ps := (h.mem_iff p).mp (List.mem_map_of_mem (Json.mem_of_lookup hr))
    rwa [Set.union_singleton, Set.insert_eq_of_mem hp]
  · rename_i hr
    have hnew := Json.not_mem_keys_of_lookup hr
    refine ⟨?_, fun q => ?_⟩
    · rw [List.map_append, List.map_singleton, List.nodup_append]
      refine ⟨h.nodup, List.nodup_singleton p, ?_⟩
      intro a ha b hb hab
      rw [List.mem_singleton.mp hb] at hab
      obtain rfl : a = p := hab
      exact hnew ha
    · rw [List.map_append, List.map_singleton, List.mem_append, h.mem_iff, List.mem_singleton]
      rfl

theorem snd_checkPattern_of_not_string (hv : ∀ text, v ≠ .string text) (w : Validator)
    (rules : Rules) : (w.checkPattern rules v).2 = w := by
  unfold checkPattern
  split
  · exact absurd rfl (hv _)
  · rfl

theorem snd_checkPattern_string {p : String} (hp : rules.pattern = some p) (w : Validator)
    (text : String) : (w.checkPattern rules (.string text)).2 = (w.pattern p).2 := by
  unfold checkPattern
  rw [hp]
  dsimp only
  rcases w.pattern p with ⟨r, w'⟩
  cases r <;> rfl

/-- What a check of a node keeps is what its pattern keeps, unless it ends before. -/
theorem kept_of_checkNode (w : Validator) (e : Engine) (path : String) (v : Scalar)
    (rules : Rules) : (w.checkNode e path v rules).2.1 =
      if (rules.required && isMissing v) = true ∨ (checkBounds rules v).isSome = true then w
      else (w.checkPattern rules v).2 := by
  unfold checkNode
  by_cases hm : (rules.required && isMissing v) = true
  · rw [if_pos hm, if_pos (.inl hm)]
  · rw [if_neg hm]
    cases checkBounds rules v with
    | some b => simp
    | none =>
      simp only [hm, Option.isSome_none, Bool.false_eq_true, or_self, if_false]
      rcases w.checkPattern rules v with ⟨r, w'⟩
      cases r with
      | some b => rfl
      | none => cases rules.custom <;> rfl

/-- What no value comes to changes nothing. -/
theorem Keeps.union_of_none (h : w.Keeps ps) {P : String → Prop} (hP : ∀ p, ¬ P p) :
    w.Keeps (ps ∪ {p | P p}) := by
  have hnone : {p | P p} = ∅ := Set.eq_empty_iff_forall_notMem.mpr hP
  rwa [hnone, Set.union_empty]

/-- **Checking a value keeps the pattern that it comes to**, and no other one. -/
theorem Keeps.checkNode (h : w.Keeps ps) (e : Engine) (path : String) (v : Scalar)
    (rules : Rules) : (w.checkNode e path v rules).2.1.Keeps (ps ∪ {p | ComesTo rules v p}) := by
  rw [kept_of_checkNode]
  by_cases hv : ∃ text, v = .string text
  · obtain ⟨text, rfl⟩ := hv
    by_cases hm : (rules.required && isMissing (.string text)) = true
    · rw [if_pos (.inl hm)]
      refine h.union_of_none ?_
      rintro p ⟨_, ht, -, hnot⟩
      obtain rfl := Scalar.string.inj ht
      obtain ⟨hreq, hblank⟩ := Bool.and_eq_true_iff.mp hm
      exact hnot ⟨hreq, beq_iff_eq.mp hblank⟩
    · rw [if_neg (by simpa [checkBounds] using hm)]
      cases hp : rules.pattern with
      | none =>
        rw [checkPattern_of_none hp]
        refine h.union_of_none ?_
        rintro p ⟨_, -, hp', -⟩
        rw [hp] at hp'
        cases hp'
      | some p =>
        have hone : {q | ComesTo rules (.string text) q} = {p} := by
          ext q
          rw [Set.mem_ofPred_eq, Set.mem_singleton_iff]
          constructor
          · rintro ⟨_, -, hq, -⟩
            exact (Option.some.inj (hp.symm.trans hq)).symm
          · rintro rfl
            refine ⟨text, rfl, hp, ?_⟩
            rintro ⟨hreq, ht⟩
            exact hm (Bool.and_eq_true_iff.mpr ⟨hreq, beq_iff_eq.mpr ht⟩)
        rw [snd_checkPattern_string hp, hone]
        exact h.pattern p
  · rw [snd_checkPattern_of_not_string (fun text ht => hv ⟨text, ht⟩), ite_self]
    refine h.union_of_none ?_
    rintro p ⟨text, ht, -⟩
    exact hv ⟨text, ht⟩

/-- **Checking a node keeps the pattern that its text comes to.** -/
theorem Keeps.step {c : Checking} (h : c.validator.Keeps ps) (entry : Entry) :
    (Validator.step c entry).validator.Keeps (ps ∪ {p | Reaches entry p}) := by
  cases hr : entry.node.traits.validation with
  | none =>
    have hstay : (Validator.step c entry).validator = c.validator := by
      simp only [Validator.step, hr]
    rw [hstay]
    refine h.union_of_none ?_
    rintro p ⟨rules, v, hrules, -⟩
    rw [hr] at hrules
    cases hrules
  | some rules =>
    cases hx : entry.node.value? with
    | none =>
      have hstay : (Validator.step c entry).validator = c.validator := by
        simp only [Validator.step, hr, hx]
      rw [hstay]
      refine h.union_of_none ?_
      rintro p ⟨rules, v, -, hv, -⟩
      rw [hx] at hv
      cases hv
    | some v =>
      have hkept : (Validator.step c entry).validator =
          (c.validator.checkNode c.engine entry.path v rules).2.1 := by
        simp only [Validator.step, hr, hx]
      have hreaches : {p | Reaches entry p} = {p | ComesTo rules v p} := by
        ext p
        simp [Reaches, hr, hx]
      rw [hkept, hreaches]
      exact h.checkNode c.engine entry.path v rules

theorem Keeps.foldl : ∀ (es : List Entry) {c : Checking} {ps : Set String},
    c.validator.Keeps ps →
      (es.foldl Validator.step c).validator.Keeps (ps ∪ {p | ∃ entry ∈ es, Reaches entry p})
  | [], c, ps, h => by simpa using h
  | entry :: es, c, ps, h => by
    have hrest := Keeps.foldl es (h.step entry)
    have hset : ps ∪ {p | Reaches entry p} ∪ {p | ∃ other ∈ es, Reaches other p} =
        ps ∪ {p | ∃ other ∈ entry :: es, Reaches other p} := by
      ext p
      simp [or_assoc]
    rwa [List.foldl_cons, ← hset]

/-- **Checking a tree keeps the patterns that its texts come to.** -/
theorem Keeps.checkTree (h : w.Keeps ps) (e : Engine) (t : Tree) :
    (w.checkTree e t).2.1.Keeps (ps ∪ {p | t.Reaches p}) :=
  Keeps.foldl t.primitives (c := { validator := w, engine := e.load t }) h

/-! ### Validators that were used before -/

/-- The validator that has checked some trees, each with an engine. -/
def after (history : List (Engine × Tree)) : Validator :=
  history.foldl (fun w used => (w.checkTree used.1 used.2).2.1) {}

theorem after_append (history : List (Engine × Tree)) (used : Engine × Tree) :
    after (history ++ [used]) = ((after history).checkTree used.1 used.2).2.1 := by
  rw [after, List.foldl_append, ← after]
  rfl

/-- A validator keeps the patterns that the texts of the trees before came to. -/
theorem keeps_after (history : List (Engine × Tree)) :
    (after history).Keeps {p | ∃ used ∈ history, used.2.Reaches p} := by
  induction history using List.reverseRecOn with
  | nil =>
    have hnone : {p | ∃ used ∈ ([] : List (Engine × Tree)), used.2.Reaches p} = ∅ := by simp
    rw [hnone]
    exact keeps_empty
  | append_singleton history used ih =>
    have hset : {p | ∃ other ∈ history ++ [used], other.2.Reaches p} =
        {p | ∃ other ∈ history, other.2.Reaches p} ∪ {p | used.2.Reaches p} := by
      ext p
      simp [or_and_right, exists_or]
    rw [after_append, hset]
    exact ih.checkTree used.1 used.2

/-- A validator that was used before makes of every pattern what a fresh one makes of it. -/
theorem agrees_after (history : List (Engine × Tree)) : (after history).Agrees {} := by
  induction history using List.reverseRecOn with
  | nil => exact Agrees.refl _
  | append_singleton history used ih =>
    rw [after_append]
    exact (kept_checkTree (after history) used.1 used.2).1.trans ih

/-! ### Trees -/

variable {t : Tree}

/-- **A tree has a message for each value that breaks a rule, and it is that of the earliest.** -/
theorem mem_checkTree_iff (e : Engine) (t : Tree) (path message : String) :
    (path, message) ∈ (({} : Validator).checkTree e t).1 ↔
      ∃ node rules v, ⟨path, node⟩ ∈ t.primitives ∧ node.traits.validation = some rules ∧
        node.value? = some v ∧ Earliest (e.load t) path rules v message := by
  rw [fst_checkTree, List.mem_filterMap]
  constructor
  · rintro ⟨⟨p, node⟩, hentry, hm⟩
    unfold messageOf at hm
    split at hm
    · rename_i rules v hr hv
      obtain ⟨b, hb, he⟩ := Option.map_eq_some_iff.mp hm
      obtain ⟨rfl, hmessage⟩ := Prod.mk.inj he
      exact ⟨node, rules, v, hentry, hr, hv, earliest_iff.mpr ⟨b, hb, hmessage⟩⟩
    · cases hm
  · rintro ⟨node, rules, v, hentry, hr, hv, he⟩
    obtain ⟨b, hb, hmessage⟩ := earliest_iff.mp he
    refine ⟨⟨path, node⟩, hentry, ?_⟩
    simp only [messageOf, hr, hv, hb, Option.map_some, hmessage]

/-- The paths of the messages are in the order of the listing. -/
theorem paths_checkTree (w : Validator) (e : Engine) (t : Tree) :
    ((w.checkTree e t).1.map (·.1)).Sublist (t.primitives.map (·.path)) := by
  rw [fst_checkTree]
  generalize t.primitives = es
  induction es with
  | nil => exact List.Sublist.slnil
  | cons entry es ih =>
    rw [List.filterMap_cons, List.map_cons]
    cases hm : w.messageOf (e.load t) entry with
    | none => exact ih.cons _
    | some m =>
      have hp : m.1 = entry.path := by
        unfold messageOf at hm
        split at hm
        · obtain ⟨b, -, rfl⟩ := Option.map_eq_some_iff.mp hm
          rfl
        · cases hm
      rw [List.map_cons, hp]
      exact ih.cons_cons _

/-- What is said of the messages of a tree and of what a validator keeps that has checked other
trees before. -/
structure Verdict (history : List (Engine × Tree)) (e : Engine) (t : Tree) : Prop where
  /-- There is an entry for exactly the primitives whose value breaks some rule. -/
  listed : ∀ path, path ∈ ((after history).checkTree e t).1.map (·.1) ↔
    ∃ node rules v, ⟨path, node⟩ ∈ t.primitives ∧ node.traits.validation = some rules ∧
      node.value? = some v ∧ ∃ rule message, Fails (e.load t) path rules rule v message
  /-- Its message is that of the earliest rule. -/
  earliest : ∀ path message, (path, message) ∈ ((after history).checkTree e t).1 ↔
    ∃ node rules v, ⟨path, node⟩ ∈ t.primitives ∧ node.traits.validation = some rules ∧
      node.value? = some v ∧ Earliest (e.load t) path rules v message
  /-- The entries are in the order of the listing, and no path has two. -/
  ordered : (((after history).checkTree e t).1.map (·.1)).Sublist (t.primitives.map (·.path))
  nodup : (((after history).checkTree e t).1.map (·.1)).Nodup
  /-- The bounds are broken by numbers only, and never by NaN. -/
  numbers : ∀ path rules rule v message, rule = .min ∨ rule = .max →
    Fails (e.load t) path rules rule v message → ∃ x, v = .number x ∧ x.isNaN = false
  /-- The messages are those of a validator that has checked nothing before. -/
  afresh : ((after history).checkTree e t).1 = (({} : Validator).checkTree e t).1
  /-- As many patterns are kept afterwards as texts have ever come to. -/
  kept : ((after history).checkTree e t).2.1.size =
    {p | (∃ used ∈ history, used.2.Reaches p) ∨ t.Reaches p}.ncard

/-- **Checking a tree reports the earliest broken rule of each value**, whatever the validator has
checked before. -/
theorem checkTree_earliest (history : List (Engine × Tree)) (e : Engine) (ht : t.Valid) :
    Verdict history e t := by
  have hfresh : ((after history).checkTree e t).1 = (({} : Validator).checkTree e t).1 :=
    checkTree_agrees (agrees_after history) (.refl e) t
  have hearliest : ∀ path message, (path, message) ∈ ((after history).checkTree e t).1 ↔
      ∃ node rules v, ⟨path, node⟩ ∈ t.primitives ∧ node.traits.validation = some rules ∧
        node.value? = some v ∧ Earliest (e.load t) path rules v message := by
    intro path message
    rw [hfresh]
    exact mem_checkTree_iff e t path message
  have hordered := paths_checkTree (after history) e t
  refine ⟨fun path => ?_, hearliest, hordered, (Tree.nodup_primitives ht).sublist hordered, ?_,
    hfresh, ((keeps_after history).checkTree e t).size⟩
  · simp only [← exists_earliest_iff]
    constructor
    · intro hp
      obtain ⟨⟨_, message⟩, hm, rfl⟩ := List.mem_map.mp hp
      obtain ⟨node, rules, v, hentry, hr, hv, he⟩ := (hearliest _ message).mp hm
      exact ⟨node, rules, v, hentry, hr, hv, message, he⟩
    · rintro ⟨node, rules, v, hentry, hr, hv, message, he⟩
      have hm := (hearliest path message).mpr ⟨node, rules, v, hentry, hr, hv, he⟩
      exact List.mem_map.mpr ⟨_, hm, rfl⟩
  · rintro path rules rule v message (rfl | rfl) hf
    · cases hf with
      | below _ hx => exact ⟨_, rfl, (isNaN_of_lt hx).1⟩
    · cases hf with
      | above _ hx => exact ⟨_, rfl, (isNaN_of_lt hx).2⟩

/-- A form with five values that are wrong, one of them in two ways, and a ratio that is NaN. -/
def form : Tree :=
  let field (rules : Rules) (v : Scalar) : Node := .leaf { validation := some rules } v
  ⟨.object {} [
    ("name", field { required := true, pattern := some "^a" } (.string "  ")),
    ("size", field { min := some 1, max := some 10, custom := some "false", message := some "Big" }
      (.number 20)),
    ("ratio", field { min := some 1, max := some 10 } (.number (0.0 / 0.0))),
    ("code", field { pattern := some "^a" } (.string "xyz")),
    ("word", field { pattern := some "^a", custom := some "value.len() < 3", message := some "No" }
      (.string "abc")),
    ("odd", field { pattern := some "([", message := some "No" } (.string "x"))]⟩

/-- A name with a pattern that no text of the form comes to. -/
def badge : Tree :=
  ⟨.object {} [("name", .leaf { validation := some { pattern := some "^b" } } (.string "Bo"))]⟩

/-- The form is checked by a validator that has checked the badge and the form before. -/
theorem checkTree_earliest_form :
    ((after [({}, badge), ({}, form)]).checkTree {} form).1 = [("name", "This field is required"),
      ("size", "Big"), ("code", "Does not match pattern ^a"), ("word", "Custom validation failed"),
      ("odd", "Invalid pattern '([': regex parse error")] ∧
    ((after [({}, badge), ({}, form)]).checkTree {} form).2.1.size = 3 ∧
    Verdict [({}, badge), ({}, form)] {} form :=
  ⟨by decide +kernel, by decide +kernel, checkTree_earliest _ {} ⟨rfl, rfl⟩⟩

end Validator
end Reaction
end ReactiveTree
