import ReactiveTree.Proofs.Alike
import ReactiveTree.Proofs.Reaction.Evaluation

/-!
# How many passes an evaluation needs

A task is settled if its turn would write nothing. It stays settled as long as what its outcome
depends on stays. So some settled tasks, each of which depends only on values of that set and on
values that no expression computes, stay settled whatever the others do, and a further task that
depends on nothing else is settled from its turn on (`Working.Known`). In a pass by levels a task
whose reads are all in its source finds everything that it reads settled, so one pass settles all
tasks and the second one changes nothing. If outcomes also depend on what no source shows, each
pass settles at least the tasks of one more rank, in whatever order they come.

Key definitions: `DependsOn`, `Static`, `Working.Known`.
Key theorems: `Working.foldl_known`, `evaluate_static`, `evaluate_ranked`.
-/
namespace ReactiveTree.Reaction

open Snippet (Engine Datum)
open ReactiveTree.Graph (DependencyGraph dependencies)

variable {engine : Engine} {t a b : Tree} {x y : Task} {ts : List Task} {w : Working}
variable {P Q : String → Prop} {K G : Task → Prop} {n : Nat}

/-! ### What an outcome depends on -/

/-- The outcome of a task depends only on the values of primitives at some paths. -/
def DependsOn (engine : Engine) (t : Tree) (x : Task) (P : String → Prop) : Prop :=
  ∀ a b, t.SameLayout a → t.SameLayout b →
    (∀ e ∈ t.primitives, P e.path → a.value? e.path = b.value? e.path) →
      outcome engine a x = outcome engine b x

/-- The outcome of a task depends only on what is read at the paths in its source. -/
def Static (engine : Engine) (valid : Tree → Prop) (x : Task) : Prop :=
  ∀ a b, valid a → valid b →
    (∀ d ∈ dependencies x.source, (engine.load a).read d = (engine.load b).read d) →
      outcome engine a x = outcome engine b x

/-- A path that is read is the path of a listed primitive, or there is nothing. -/
def Resolves (t : Tree) (d : String) : Prop := t.get? d = none ∨ ∃ e ∈ t.primitives, e.path = d

theorem DependsOn.mono (h : DependsOn engine t x P) (hpq : ∀ p, P p → Q p) :
    DependsOn engine t x Q := fun a b ha hb hv =>
  h a b ha hb fun e he hp => hv e he (hpq _ hp)

theorem value_of_listed (ht : t.Valid) (h : t.SameLayout a) {e : Entry} (he : e ∈ t.primitives) :
    ∃ v, a.value? e.path = some v := by
  obtain ⟨m, hm, hl⟩ := h.get?_eq_some (Tree.get?_of_mem_primitives ht he)
  obtain ⟨-, -, -, -, hprim⟩ := Tree.mem_primitives.mp he
  rw [Node.isPrimitive_eq_of_layout hl] at hprim
  rw [Tree.value?, hm]
  cases m with
  | object r cs => cases hprim
  | array r is => cases hprim
  | leaf r v => exact ⟨v, rfl⟩

/-- A snippet reads the value of a primitive. -/
theorem read_of_value {path : String} {v : Scalar} (h : a.value? path = some v) :
    (engine.load a).read path = Datum.ofScalar v := by
  obtain ⟨m, hm, hv⟩ := Option.bind_eq_some_iff.mp h
  rw [Engine.read_load, hm]
  cases m with
  | object r cs => cases hv
  | array r is => cases hv
  | leaf r u => exact congrArg Datum.ofScalar (Option.some.inj hv)

/-- Trees with the same nodes read alike at a path that resolves to a primitive of one value. -/
theorem read_agrees (ht : t.Valid) (ha : t.SameLayout a) (hb : b.Valid) (h : a.Alike b) {d : String}
    (hd : Resolves t d) (hv : ∀ e ∈ t.primitives, e.path = d → a.value? d = b.value? d) :
    (engine.load a).read d = (engine.load b).read d := by
  rcases hd with hnone | ⟨e, he, rfl⟩
  · have hna := ha.alike.get?_eq_none ht (ht.of_sameLayout ha) hnone
    rw [Engine.read_load, Engine.read_load, hna, h.get?_eq_none (ht.of_sameLayout ha) hb hna]
  · obtain ⟨v, hva⟩ := value_of_listed ht ha he
    rw [read_of_value hva, read_of_value ((hv e he rfl).symm.trans hva)]

/-- A static task depends only on the primitives that it reads. -/
theorem Static.dependsOn (ht : t.Valid) (h : Static engine t.SameLayout x)
    (hd : ∀ d ∈ dependencies x.source, Resolves t d) :
    DependsOn engine t x (· ∈ dependencies x.source) := fun a b ha hb hv =>
  h a b ha hb fun d hmem =>
    read_agrees ht ha (ht.of_sameLayout hb) (ha.symm.trans hb).alike (hd d hmem) fun e he hp =>
      hp ▸ hv e he (hp ▸ hmem)

/-! ### Settled tasks -/

/-- A path is not the path of a task outside a set. -/
def Fixed (ts : List Task) (K : Task → Prop) (p : String) : Prop :=
  ∀ y ∈ ts, ¬ K y → p ≠ y.path

theorem Fixed.mono {K' : Task → Prop} (hk : ∀ y, K y → K' y) {p : String} (h : Fixed ts K p) :
    Fixed ts K' p := fun y hy hn => h y hy fun hk' => hn (hk y hk')

namespace Working

/-- The tasks of a set are settled, and depend on nothing that a task outside it computes. -/
def Known (engine : Engine) (t : Tree) (ts : List Task) (K : Task → Prop) (w : Working) : Prop :=
  ∀ x ∈ ts, K x → DependsOn engine t x (Fixed ts K) ∧ Settled engine w.tree x

section Turn

variable (ht : t.Valid) (hts : ∀ x ∈ ts, x.Listed t) (hn : (ts.map (·.path)).Nodup)
  (h : w.Follows engine t) (hk : Known engine t ts K w) (hx : x ∈ ts)

include ht hts h hk hx

/-- A turn keeps the values that the set depends on. -/
theorem Known.value_turn {e : Entry} (he : e ∈ t.primitives) (hf : Fixed ts K e.path) :
    (w.turn x).tree.value? e.path = w.tree.value? e.path := by
  have hturn := turn_spec ht h (hts x hx)
  by_cases hkx : K x
  · exact (hturn.quiet (hk x hx hkx).2).2.value?_eq e.path
  · rw [Tree.value?, Tree.value?, hturn.frame e he (hf x hx hkx)]

theorem Known.outcome_turn (hy : DependsOn engine t y (Fixed ts K)) :
    outcome engine (w.turn x).tree y = outcome engine w.tree y :=
  hy _ _ (turn_spec ht h (hts x hx)).follows.layout h.layout fun _ he hf =>
    Known.value_turn ht hts h hk hx he hf

/-- A task that depends on the set only is settled after its turn. -/
theorem Known.settled_turn (hd : DependsOn engine t x (Fixed ts K)) :
    Settled engine (w.turn x).tree x := fun v hv => by
  rw [Known.outcome_turn ht hts h hk hx hd] at hv
  obtain ⟨m, hm, -, hvalue⟩ := (turn_spec ht h (hts x hx)).shows
  obtain ⟨u, hu, hsame⟩ := hvalue v hv
  rw [Tree.value?, hm, Option.bind_some, hu]
  exact hsame

include hn

/-- The set stays settled in any turn. -/
theorem Known.turn : Known engine t ts K (w.turn x) := fun y hy hky => by
  obtain ⟨hd, hs⟩ := hk y hy hky
  refine ⟨hd, fun v hv => ?_⟩
  rw [Known.outcome_turn ht hts h hk hx hd] at hv
  obtain ⟨e, he, hp, -⟩ := hts y hy
  have hfixed : Fixed ts K e.path := fun z hz hkz heq => by
    have hyz : y = z := List.inj_on_of_nodup_map hn hy hz (hp.symm.trans heq)
    exact hkz (hyz ▸ hky)
  rw [← hp, Known.value_turn ht hts h hk hx he hfixed, hp]
  exact hs v hv

/-- A further task joins the set with its turn, if it depends on the set only. -/
theorem Known.turn_gain (hg : G x → DependsOn engine t x (Fixed ts K)) :
    Known engine t ts (fun y => K y ∨ G y ∧ y = x) (w.turn x) := fun y hy hky => by
  have hmono : ∀ z, K z → K z ∨ G z ∧ z = x := fun _ => .inl
  rcases hky with hky | ⟨hgy, rfl⟩
  · obtain ⟨hd, hs⟩ := Known.turn ht hts hn h hk hx y hy hky
    exact ⟨hd.mono fun _ => Fixed.mono hmono, hs⟩
  · exact ⟨(hg hgy).mono fun _ => Fixed.mono hmono,
      Known.settled_turn ht hts h hk hx (hg hgy)⟩

end Turn

theorem Known.congr {K' : Task → Prop} (hk : ∀ x ∈ ts, K x ↔ K' x)
    (h : Known engine t ts K w) : Known engine t ts K' w := fun x hx hkx => by
  obtain ⟨hd, hs⟩ := h x hx ((hk x hx).mpr hkx)
  exact ⟨hd.mono fun _ hf y hy hky => hf y hy fun hky' => hky ((hk y hy).mp hky'), hs⟩

/-- **The tasks that join the set in their turns are settled after the last one.** Each of them may
depend on the set and on those that have joined it before. -/
theorem foldl_known (ht : t.Valid) (hts : ∀ x ∈ ts, x.Listed t) (hn : (ts.map (·.path)).Nodup) :
    ∀ (xs : List Task) (K : Task → Prop) (w : Working), (∀ x ∈ xs, x ∈ ts) →
      w.Follows engine t → Known engine t ts K w →
      (∀ front x back, xs = front ++ x :: back → G x →
        DependsOn engine t x (Fixed ts fun y => K y ∨ G y ∧ y ∈ front)) →
      Known engine t ts (fun y => K y ∨ G y ∧ y ∈ xs) (xs.foldl turn w)
  | [], K, w, _, _, hk, _ => hk.congr fun x _ => by simp
  | x :: xs, K, w, hsub, h, hk, hg => by
    have hx := hsub x List.mem_cons_self
    have hjoin : G x → DependsOn engine t x (Fixed ts K) := fun hgx =>
      (hg [] x xs rfl hgx).mono fun _ => Fixed.mono fun _ hky => by simpa using hky
    have ih := foldl_known ht hts hn xs (fun y => K y ∨ G y ∧ y = x) (w.turn x)
      (fun y hy => hsub y (List.mem_cons_of_mem x hy)) (turn_spec ht h (hts x hx)).follows
      (Known.turn_gain ht hts hn h hk hx hjoin) fun front y back heq hgy =>
        (hg (x :: front) y back (by rw [heq]; rfl) hgy).mono fun _ => Fixed.mono fun z hz => by
          rw [List.mem_cons] at hz
          tauto
    refine ih.congr fun y _ => ?_
    rw [List.mem_cons]
    tauto

/-- Once all tasks are settled a pass changes nothing. -/
theorem Known.pass_quiet (ht : t.Valid) (hts : ∀ x ∈ ts, x.Listed t) (h : w.Follows engine t)
    (hk : Known engine t ts K w) (hall : ∀ x ∈ ts, K x) : (w.pass ts).changed = false :=
  foldl_of_settled ht ts { w with changed := false } hts (h.reset false) fun x hx =>
    (hk x hx (hall x hx)).2

end Working

/-! ### A circuit -/

/-- The source that makes a lamp follow a relay; the scan of the text misses the read if it is
hidden. -/
def lampSource (hidden : Bool) : String := if hidden then "get('re' + 'lay')" else "get('relay')"

def lampNode (hidden value : Bool) : Node :=
  .leaf { (default : Traits) with expression := some (lampSource hidden) } (.boolean value)

def relayNode (value : Bool) : Node :=
  .leaf { (default : Traits) with expression := some "!get('switch')" } (.boolean value)

def switchNode (value : Bool) : Node := .leaf default (.boolean value)

/-- A switch, a relay that inverts it and a lamp that follows the relay, in one order or in the
other. -/
def circuit (hidden flipped lamp relay switch : Bool) : Tree :=
  ⟨.object default <|
    if flipped then [("switch", switchNode switch), ("relay", relayNode relay),
      ("lamp", lampNode hidden lamp)]
    else [("lamp", lampNode hidden lamp), ("relay", relayNode relay),
      ("switch", switchNode switch)]⟩

section Circuit

variable {i f l r s l' r' s' : Bool}

theorem circuit_valid (i f l r s : Bool) : (circuit i f l r s).Valid := by
  cases f <;> exact ⟨rfl, rfl⟩

theorem circuit_layout (i f l r s l' r' s' : Bool) :
    (circuit i f l r s).SameLayout (circuit i f l' r' s') := by
  cases f <;> rfl

theorem entries_circuit {e : Entry} : e ∈ (circuit i f l r s).entries .everything ↔
    e = ⟨"lamp", lampNode i l⟩ ∨ e = ⟨"relay", relayNode r⟩ ∨ e = ⟨"switch", switchNode s⟩ := by
  cases f with
  | false =>
    have h : (circuit i false l r s).entries .everything =
        [⟨"lamp", lampNode i l⟩, ⟨"relay", relayNode r⟩, ⟨"switch", switchNode s⟩] := rfl
    simp [h]
  | true =>
    have h : (circuit i true l r s).entries .everything =
        [⟨"switch", switchNode s⟩, ⟨"relay", relayNode r⟩, ⟨"lamp", lampNode i l⟩] := rfl
    simp only [h, List.mem_cons, List.not_mem_nil, or_false]
    tauto

theorem mem_circuit {e : Entry} : e ∈ (circuit i f l r s).primitives ↔
    e = ⟨"lamp", lampNode i l⟩ ∨ e = ⟨"relay", relayNode r⟩ ∨ e = ⟨"switch", switchNode s⟩ := by
  rw [Tree.mem_primitives_iff, entries_circuit, and_iff_left_iff_imp]
  rintro (rfl | rfl | rfl) <;> rfl

theorem values_circuit (h : (circuit i f l r s).SameContent a) :
    a.value? "lamp" = some (.boolean l) ∧ a.value? "relay" = some (.boolean r) ∧
      a.value? "switch" = some (.boolean s) := by
  have hvalue : ∀ {path m v}, (⟨path, m⟩ : Entry) ∈ (circuit i f l r s).primitives →
      m.value? = some v → a.value? path = some v := fun he hv => by
    rw [← h.value?_eq, Tree.value?, Tree.get?_of_mem_primitives (circuit_valid i f l r s) he]
    exact hv
  exact ⟨hvalue (mem_circuit.mpr (.inl rfl)) rfl, hvalue (mem_circuit.mpr (.inr (.inl rfl))) rfl,
    hvalue (mem_circuit.mpr (.inr (.inr rfl))) rfl⟩

/-- A node of boolean kind has a boolean. -/
theorem boolean_of_kind {m : Node} (h : m.kind = .boolean) :
    ∃ b, m.value? = some (.boolean b) := by
  cases m with
  | object r cs => cases h
  | array r is => cases h
  | leaf r v =>
    cases v with
    | boolean b => exact ⟨b, rfl⟩
    | _ => cases h

/-- A tree of the circuit's layout has the content of a circuit. -/
theorem circuit_of_layout (h : (circuit i f l r s).SameLayout a) :
    ∃ l' r' s', (circuit i f l' r' s').SameContent a := by
  have hbool : ∀ e ∈ (circuit i f l r s).primitives, e.node.kind = .boolean →
      ∃ b, a.value? e.path = some (.boolean b) := fun e he hk => by
    obtain ⟨m, hm, hl⟩ := h.get?_eq_some (Tree.get?_of_mem_primitives (circuit_valid i f l r s) he)
    rw [Tree.value?, hm]
    exact boolean_of_kind ((Node.kind_eq_of_layout hl).symm.trans hk)
  obtain ⟨l', hl⟩ := hbool _ (mem_circuit.mpr (.inl rfl)) rfl
  obtain ⟨r', hr⟩ := hbool _ (mem_circuit.mpr (.inr (.inl rfl))) rfl
  obtain ⟨s', hs⟩ := hbool _ (mem_circuit.mpr (.inr (.inr rfl))) rfl
  obtain ⟨hcl, hcr, hcs⟩ := values_circuit (.refl (circuit i f l' r' s'))
  refine ⟨l', r', s', ((circuit_layout i f l' r' s' l r s).trans h).sameContent
    (circuit_valid i f l' r' s') fun e he => ?_⟩
  rcases mem_circuit.mp he with rfl | rfl | rfl
  · exact hcl.trans hl.symm
  · exact hcr.trans hr.symm
  · exact hcs.trans hs.symm

/-- The lamp of the circuit and the relay are its tasks. -/
theorem task_of_circuit {g : DependencyGraph} (hx : x ∈ tasks (circuit i f l r s) g) :
    x.kind = .boolean ∧ (x.path = "lamp" ∧ x.source = lampSource i ∨
      x.path = "relay" ∧ x.source = "!get('switch')") := by
  obtain ⟨e, he, hp, hk, hs⟩ := entry_of_task hx
  rcases mem_circuit.mp he with rfl | rfl | rfl
  · exact ⟨hk.symm, .inl ⟨hp.symm, (Option.some.inj hs).symm⟩⟩
  · exact ⟨hk.symm, .inr ⟨hp.symm, (Option.some.inj hs).symm⟩⟩
  · cases hs

/-- An outcome is a boolean. -/
def isBoolean (b : Bool) : Except ExpressionError Scalar → Bool
  | .ok (.boolean c) => c == b
  | _ => false

theorem eq_of_isBoolean {b : Bool} : ∀ {o : Except ExpressionError Scalar},
    isBoolean b o = true → o = .ok (.boolean b)
  | .ok (.boolean c), h => by rw [isBoolean, beq_iff_eq] at h; rw [h]

theorem outcome_lamp (hp : x.path = "lamp") (hs : x.source = lampSource i)
    (hk : x.kind = .boolean) (hc : (circuit i f l r s).SameContent a) :
    outcome {} a x = .ok (.boolean r) := by
  have htable : ∀ i f l r s : Bool, isBoolean r (outcome {} (circuit i f l r s)
      ⟨"lamp", lampSource i, .boolean, 0, none⟩) = true := by decide +kernel
  rw [← outcome_agrees (.refl {}) hc, ← eq_of_isBoolean (htable i f l r s)]
  exact outcome_congr hp hs hk {} _

theorem outcome_relay (hp : x.path = "relay") (hs : x.source = "!get('switch')")
    (hk : x.kind = .boolean) (hc : (circuit i f l r s).SameContent a) :
    outcome {} a x = .ok (.boolean !s) := by
  have htable : ∀ i f l r s : Bool, isBoolean (!s) (outcome {} (circuit i f l r s)
      ⟨"relay", "!get('switch')", .boolean, 0, none⟩) = true := by decide +kernel
  rw [← outcome_agrees (.refl {}) hc, ← eq_of_isBoolean (htable i f l r s)]
  exact outcome_congr hp hs hk {} _

/-- The relay reads the switch, and the lamp reads the relay if its source shows it. -/
theorem static_circuit {valid : Tree → Prop} {g : DependencyGraph}
    (hv : ∀ a, valid a → ∃ f l r s, (circuit false f l r s).SameContent a)
    (hx : x ∈ tasks (circuit false f l r s) g) :
    Static {} valid x ∧ ∀ d ∈ dependencies x.source, Resolves (circuit false f l r s) d := by
  obtain ⟨hk, ⟨hp, hs⟩ | ⟨hp, hs⟩⟩ := task_of_circuit hx
  · have hd : dependencies x.source = ["relay"] := by rw [hs]; decide +kernel
    refine ⟨fun a b ha hb hr => ?_, fun d hmem => ?_⟩
    · obtain ⟨f, l, r, s, hca⟩ := hv a ha
      obtain ⟨f', l', r', s', hcb⟩ := hv b hb
      have hr := hr "relay" (hd ▸ List.mem_singleton_self _)
      rw [read_of_value (values_circuit hca).2.1, read_of_value (values_circuit hcb).2.1] at hr
      rw [outcome_lamp hp hs hk hca, outcome_lamp hp hs hk hcb, Datum.bool.inj hr]
    · rw [hd, List.mem_singleton] at hmem
      exact .inr ⟨_, mem_circuit.mpr (.inr (.inl rfl)), hmem.symm⟩
  · have hd : dependencies x.source = ["switch"] := by rw [hs]; decide +kernel
    refine ⟨fun a b ha hb hr => ?_, fun d hmem => ?_⟩
    · obtain ⟨f, l, r, s, hca⟩ := hv a ha
      obtain ⟨f', l', r', s', hcb⟩ := hv b hb
      have hr := hr "switch" (hd ▸ List.mem_singleton_self _)
      rw [read_of_value (values_circuit hca).2.2, read_of_value (values_circuit hcb).2.2] at hr
      rw [outcome_relay hp hs hk hca, outcome_relay hp hs hk hcb, Datum.bool.inj hr]
    · rw [hd, List.mem_singleton] at hmem
      exact .inr ⟨_, mem_circuit.mpr (.inr (.inr rfl)), hmem.symm⟩

end Circuit

/-! ### Two passes -/

/-- An evaluation whose pass after `k` others finds all tasks settled ends with it. -/
theorem evaluate_of_known (ht : t.Valid) {k : Nat} (hkn : k < n)
    (hk : Working.Known engine t (runnable t) (fun _ => True)
      ((Working.pass · (runnable t))^[k] (Working.begin engine t))) :
    (evaluate engine t n).1.converged = true ∧ (evaluate engine t n).1.passes ≤ k + 1 := by
  rw [converged_evaluate, passes_evaluate, finish]
  split
  · exact ⟨rfl, Nat.zero_le _⟩
  · have hfollows : ∀ j, ((Working.pass · (runnable t))^[j] (Working.begin engine t)).Follows
        engine t := fun j => by
      induction j with
      | zero => exact (Working.begin_spec engine ht).1
      | succ j ih =>
        rw [Function.iterate_succ_apply']
        exact ih.pass ht listed_of_runnable
    have hq := hk.pass_quiet ht listed_of_runnable (hfollows k) fun _ _ => trivial
    obtain ⟨hc, hle⟩ := Working.settle_of_quiet (runnable t) k n 0 _ hkn hq
    exact ⟨hc, by omega⟩

/-- One pass settles static tasks: each one reads only tasks that have had their turn. -/
theorem known_of_static (engine : Engine) (ht : t.Valid)
    (hs : ∀ x ∈ runnable t,
      Static engine t.SameLayout x ∧ ∀ d ∈ dependencies x.source, Resolves t d) :
    Working.Known engine t (runnable t) (fun _ => True)
      ((Working.begin engine t).pass (runnable t)) := by
  have hgain : ∀ front x back, runnable t = front ++ x :: back → True →
      DependsOn engine t x (Fixed (runnable t) fun y => False ∨ True ∧ y ∈ front) := by
    intro front x back heq _
    have hx : x ∈ runnable t := heq ▸ List.mem_append_right _ List.mem_cons_self
    obtain ⟨hstatic, hd⟩ := hs x hx
    refine (hstatic.dependsOn ht hd).mono fun p hp y hy hk he => hk (.inr ⟨trivial, ?_⟩)
    exact mem_front_of_read heq hy (he ▸ hp)
  have hk := Working.foldl_known ht listed_of_runnable (nodup_runnable ht) (runnable t)
    (fun _ => False) _ (fun _ => id) ((Working.begin_spec engine ht).1.reset false)
    (fun _ _ h => h.elim) hgain
  exact hk.congr fun x hx => ⟨fun _ => trivial, fun _ => .inr ⟨trivial, hx⟩⟩

/-- **Static dependencies settle in two passes.** -/
theorem evaluate_static (engine : Engine) (ht : t.Valid) (hn : 2 ≤ n)
    (hs : ∀ x ∈ tasks t (.ofTree t), ¬ (DependencyGraph.ofTree t).OnCycle x.path →
      Static engine t.SameLayout x ∧ ∀ d ∈ dependencies x.source, Resolves t d) :
    (evaluate engine t n).1.converged = true ∧ (evaluate engine t n).1.passes ≤ 2 :=
  evaluate_of_known ht (k := 1) hn <| known_of_static engine ht fun x hx => by
    obtain ⟨htask, hcycle⟩ := mem_runnable.mp hx
    exact hs x htask hcycle

theorem evaluate_static_circuit :
    (evaluate {} (circuit false false true false true) 2).1.converged = true ∧
      (evaluate {} (circuit false false true false true) 2).1.passes ≤ 2 :=
  evaluate_static {} (circuit_valid ..) (le_refl 2) fun _ hx _ => static_circuit
    (fun _ ha => ⟨false, circuit_of_layout ha⟩) hx

/-! ### A pass for each rank -/

/-- The set of the tasks of a lower rank grows by one rank in each pass. -/
theorem known_rank (engine : Engine) (ht : t.Valid) {rank : String → Nat}
    (hr : ∀ x ∈ runnable t, DependsOn engine t x fun p =>
      ∀ y ∈ runnable t, y.path = p → rank y.path < rank x.path) : ∀ k,
    ((Working.pass · (runnable t))^[k] (Working.begin engine t)).Follows engine t ∧
      Working.Known engine t (runnable t) (rank ·.path < k)
        ((Working.pass · (runnable t))^[k] (Working.begin engine t))
  | 0 => ⟨(Working.begin_spec engine ht).1, fun _ _ h => absurd h (Nat.not_lt_zero _)⟩
  | k + 1 => by
    obtain ⟨hf, hk⟩ := known_rank engine ht hr k
    rw [Function.iterate_succ_apply']
    refine ⟨hf.pass ht listed_of_runnable, ?_⟩
    have hgain : ∀ front x back, runnable t = front ++ x :: back → rank x.path = k →
        DependsOn engine t x
          (Fixed (runnable t) fun y => rank y.path < k ∨ rank y.path = k ∧ y ∈ front) := by
      intro front x back heq hx
      have hmem : x ∈ runnable t := heq ▸ List.mem_append_right _ List.mem_cons_self
      refine (hr x hmem).mono fun p hp y hy hky he => ?_
      exact hky (.inl (hx ▸ hp y hy he.symm))
    have hk := Working.foldl_known ht listed_of_runnable (nodup_runnable ht) (runnable t)
      (rank ·.path < k) _ (fun _ => id) (hf.reset false) hk hgain
    refine hk.congr fun x hx => ?_
    constructor
    · rintro (h | ⟨h, -⟩) <;> omega
    · intro h
      rcases Nat.lt_succ_iff_lt_or_eq.mp h with h | h
      · exact .inl h
      · exact .inr ⟨h, hx⟩

/-- **Dependencies that no source shows settle in a pass for each rank.** The tasks that run have
ranks up to `m`, and the outcome of each depends only on values of primitives that do not run and
of tasks of a lower rank. -/
theorem evaluate_ranked (engine : Engine) (ht : t.Valid) {m : Nat} (hn : m + 2 ≤ n)
    (rank : String → Nat) (hm : ∀ x ∈ runnable t, rank x.path ≤ m)
    (hr : ∀ x ∈ runnable t, DependsOn engine t x fun p =>
      ∀ y ∈ runnable t, y.path = p → rank y.path < rank x.path) :
    (evaluate engine t n).1.converged = true ∧ (evaluate engine t n).1.passes ≤ m + 2 := by
  refine evaluate_of_known ht (k := m + 1) (by omega) ?_
  refine (known_rank engine ht hr (m + 1)).2.congr fun x hx => ⟨fun _ => trivial, fun _ => ?_⟩
  have := hm x hx
  omega

theorem evaluate_ranked_circuit :
    (evaluate {} (circuit true false true false true) 3).1.converged = true ∧
      (evaluate {} (circuit true false true false true) 3).1.passes ≤ 3 := by
  have htask : ∀ x ∈ runnable (circuit true false true false true), x.kind = .boolean ∧
      (x.path = "lamp" ∧ x.source = lampSource true ∨
        x.path = "relay" ∧ x.source = "!get('switch')") := fun x hx =>
    task_of_circuit (mem_runnable.mp hx).1
  refine evaluate_ranked {} (circuit_valid ..) (m := 1) (le_refl 3)
    (fun p => if p = "lamp" then 1 else 0) (fun x _ => by split <;> omega) ?_
  intro x hx a b ha hb hv
  obtain ⟨l, r, s, hca⟩ := circuit_of_layout ha
  obtain ⟨l', r', s', hcb⟩ := circuit_of_layout hb
  obtain ⟨hk, ⟨hp, hs⟩ | ⟨hp, hs⟩⟩ := htask x hx
  · have hrelay := hv ⟨"relay", relayNode false⟩ (mem_circuit.mpr (.inr (.inl rfl)))
      fun y _ hy => by rw [hy, hp]; decide
    rw [(values_circuit hca).2.1, (values_circuit hcb).2.1] at hrelay
    rw [outcome_lamp hp hs hk hca, outcome_lamp hp hs hk hcb]
    exact congrArg Except.ok (Option.some.inj hrelay)
  · have hswitch := hv ⟨"switch", switchNode true⟩ (mem_circuit.mpr (.inr (.inr rfl)))
      fun y hy hpy => by
        obtain ⟨-, ⟨hy, -⟩ | ⟨hy, -⟩⟩ := htask y hy <;> exact absurd (hy.symm.trans hpy) (by decide)
    rw [(values_circuit hca).2.2, (values_circuit hcb).2.2] at hswitch
    rw [outcome_relay hp hs hk hca, outcome_relay hp hs hk hcb,
      Scalar.boolean.inj (Option.some.inj hswitch)]

end ReactiveTree.Reaction
