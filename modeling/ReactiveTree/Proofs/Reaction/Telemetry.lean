import ReactiveTree.Proofs.Reaction.Jobs
import ReactiveTree.Proofs.Reaction.Reporting
import ReactiveTree.Proofs.Rules
import ReactiveTree.Proofs.Signal.Delivery
import Mathlib.Logic.Function.Basic

/-!
# Counters, events and outcomes

A reaction is counted in its outcome, in the counters that all reactions add to, and in the event
that announces it. However many pipelines share a hub, whatever trees they react to and whenever the
counters are set to zero, these agree: the counters are the sums over the outcomes since the last
reset, every reaction is announced once, and the numbers of an outcome are those of the tree that
the reaction leaves (`System.play_agrees`).

Key definitions: `Tree.failing`, `Tree.watchersAt`, `System`, `Move`, `System.play`, `sinceReset`,
`Counted`, `Announces`, `Accounted`, `Agreement`.
Key theorems: `accounted_react`, `Counted.record`, `System.play_agrees`.
-/
namespace ReactiveTree

variable {t : Tree} {e : Entry}

/-! ### What can be counted in a tree -/

/-- A listed node with an expression is a primitive. -/
theorem Tree.mem_primitives_of_expression (ht : t.Valid) (he : e ∈ t.entries .everything)
    (hs : e.node.traits.expression.isSome = true) : e ∈ t.primitives := by
  refine mem_primitives_iff.mpr ⟨he, ?_⟩
  rw [← Bool.not_eq_false]
  intro hn
  obtain ⟨s, segments, hl, -, -⟩ := (mem_entries rfl).mp he
  obtain ⟨path, hcheck⟩ := ht.sound.keeps
  have hlawful : t.root.Lawful := (Node.checkAt_eq_ok_iff path t.root).mp hcheck
  rw [(hlawful _ e.node hl).expression hn] at hs
  cases hs

/-- The node has an expression and carries an error. -/
def Entry.fails (e : Entry) : Bool :=
  e.node.traits.expression.isSome && e.node.traits.expressionError.isSome

/-- The nodes with an expression that carry an error. -/
def Tree.failing (t : Tree) : List Entry := (t.entries .everything).filter Entry.fails

/-- The scripts that watch the node at a path. -/
def Tree.watchersAt (t : Tree) (path : String) : List String :=
  ((t.get? path).map (·.traits.watchers)).getD []

namespace Reaction

open Signal (Bus Telemetry Event Channel)
open ReactiveTree.Graph (DependencyGraph expressions)
open Snippet (Engine)

variable {engine : Engine} {n : Nat} {w : Working} {ts : List Task} {previous : Option Snapshot}

theorem length_failing (ht : t.Valid) :
    t.failing.length = (expressions t).countP fun x => (t.errorAt x.1).isSome := by
  have hperm : t.failing.Perm (t.primitives.filter Entry.fails) := by
    have hnodup : t.failing.Nodup := (Tree.nodup_entries ht .everything).of_map.filter _
    have hnodup' : (t.primitives.filter Entry.fails).Nodup :=
      (Tree.nodup_primitives ht).of_map.filter _
    refine (List.perm_ext_iff_of_nodup hnodup hnodup').mpr fun e => ?_
    rw [Tree.failing, List.mem_filter, List.mem_filter]
    constructor
    · rintro ⟨he, hc⟩
      have hs : e.node.traits.expression.isSome = true := (Bool.and_eq_true_iff.mp hc).1
      exact ⟨Tree.mem_primitives_of_expression ht he hs, hc⟩
    · rintro ⟨he, hc⟩
      exact ⟨(Tree.mem_primitives_iff.mp he).1, hc⟩
  rw [hperm.length_eq, ← List.countP_eq_length_filter, expressions, List.countP_filterMap]
  refine List.countP_congr fun e he => ?_
  have herr : t.errorAt e.path = e.node.traits.expressionError := by
    rw [Tree.errorAt, Tree.get?_of_mem_primitives ht he, Option.bind_some]
  cases hs : e.node.traits.expression with
  | none => simp [Entry.fails, hs]
  | some source => simp [Entry.fails, hs, herr]

/-! ### Evaluations -/

theorem Working.le_passes (ts : List Task) : ∀ (n made : Nat) (w : Working),
    made ≤ (Working.settle ts w n made).2.1
  | 0, made, _ => Nat.le_refl made
  | n + 1, made, w => by
    rw [settle_succ]
    split
    · have ih := le_passes ts n (made + 1) (w.pass ts)
      omega
    · exact Nat.le_succ made

/-- If there is something to run, there is a pass. -/
theorem one_le_passes (engine : Engine) (hn : 0 < n) (hr : runnable t ≠ []) :
    1 ≤ (evaluate engine t n).1.passes := by
  obtain ⟨n, rfl⟩ := Nat.exists_eq_add_one.mpr hn
  rw [passes_evaluate, finish, if_neg (by simpa using hr), Working.settle_succ]
  split
  · exact Working.le_passes (runnable t) n 1 _
  · exact Nat.le_refl 1

/-- **A tree with an expression is evaluated at least once.** -/
theorem one_le_evaluations (engine : Engine) (ht : t.Valid) (hn : 0 < n) (he : expressions t ≠ []) :
    1 ≤ (evaluate engine t n).1.evaluations := by
  rw [evaluations_evaluate, circular_evaluate engine ht, ← length_looping ht]
  obtain ⟨p, hp⟩ := List.exists_mem_of_ne_nil _ he
  obtain ⟨x, hx, -⟩ := task_of_expression hp (.ofTree t)
  by_cases hc : (DependencyGraph.ofTree t).OnCycle x.path
  · have hlooping : 0 < (looping t).length := List.length_pos_of_mem (mem_looping.mpr ⟨hx, hc⟩)
    omega
  · have hrun : x ∈ runnable t := mem_runnable.mpr ⟨hx, hc⟩
    have hpasses := one_le_passes engine hn (List.ne_nil_of_mem hrun)
    have hturns := Nat.mul_pos hpasses (List.length_pos_of_mem hrun)
    omega

/-- **As many errors are reported as nodes with an expression carry one.** -/
theorem length_errors (engine : Engine) (ht : t.Valid) (hn : 0 < n) :
    (evaluate engine t n).1.errors.length = (evaluate engine t n).2.1.failing.length := by
  have hl := layout_evaluate engine ht n
  rw [errors_evaluate engine ht hn, List.length_filterMap_eq_countP,
    length_failing (ht.of_sameLayout hl), ← expressions_of_sameLayout hl]
  exact List.countP_congr fun x _ => by rw [Option.isSome_map]

/-! ### One reaction -/

/-- A reaction that took place. -/
structure Run where
  /-- The tree before it. -/
  given : Tree
  outcome : Outcome
  /-- The tree after it. -/
  tree : Tree
  took : Float
  time : Timestamp

/-- The numbers of an outcome are those of the tree. -/
structure Accounted (r : Run) : Prop where
  expressionErrors : r.outcome.metrics.expressionErrors = r.tree.failing.length
  watchersRun : r.outcome.metrics.watchersRun =
    (r.outcome.watcherResult.triggered.flatMap r.tree.watchersAt).length
  /-- No node is triggered twice. -/
  triggered : r.outcome.watcherResult.triggered.Nodup
  watcherErrors : r.outcome.metrics.watcherErrors ≤ r.outcome.metrics.watchersRun
  validationErrors : r.outcome.metrics.validationErrors = r.outcome.validationErrors.length
  /-- No path has two messages. -/
  validated : (r.outcome.validationErrors.map (·.1)).Nodup
  evaluated : (∃ e ∈ r.given.entries .everything, e.node.traits.expression ≠ none) →
    1 ≤ r.outcome.metrics.expressionEvaluations

theorem nodup_messages (ht : t.Valid) (v : Validator) (e : Engine) :
    ((v.checkTree e t).1.map (·.1)).Nodup := by
  rw [Validator.fst_checkTree]
  refine (Tree.nodup_primitives ht).sublist ?_
  induction t.primitives with
  | nil => exact .slnil
  | cons entry es ih =>
    rw [List.filterMap_cons, List.map_cons]
    have hpath : ∀ m ∈ v.messageOf (e.load t) entry, m.1 = entry.path := by
      unfold Validator.messageOf
      split
      · simp +contextual
      · simp
    cases hm : v.messageOf (e.load t) entry with
    | none => exact ih.cons _
    | some m =>
      rw [List.map_cons, hpath m hm]
      exact ih.cons_cons _

/-- **The numbers of a reaction are those of the tree that it leaves.** -/
theorem accounted_react (p : Pipeline) (hp : 0 < p.maxPasses) (ht : t.Valid)
    (previous : Option Snapshot) (took : Float) (time : Timestamp) :
    Accounted { given := t, outcome := (p.react t previous).1, tree := (p.react t previous).2.1,
                took, time } := by
  have hvalid : (p.react t previous).2.1.Valid :=
    ht.of_sameLayout (layout_evaluate p.engine ht p.maxPasses)
  obtain ⟨e, he⟩ := watcherResult_react p t previous
  obtain ⟨hwatched, -⟩ := runWatchers_spec (.refl e) (p.react t previous).2.1 previous
  rw [← he] at hwatched
  have hscripts : ∀ entry ∈ triggeredBy previous (p.react t previous).2.1,
      (p.react t previous).2.1.watchersAt entry.path = entry.node.traits.watchers := by
    intro entry hentry
    rw [Tree.watchersAt, Tree.get?_of_mem_primitives hvalid (List.mem_filter.mp hentry).1]
    rfl
  constructor
  · exact length_errors p.engine ht hp
  · rw [hwatched.triggered, List.flatMap_map, List.flatMap_congr hscripts, List.length_flatMap]
    exact hwatched.runs.trans (length_flatMap_jobsAt previous _)
  · rw [hwatched.triggered]
    exact (Tree.nodup_primitives hvalid).sublist (List.filter_sublist.map _)
  · exact hwatched.length_failures
  · rfl
  · exact nodup_messages hvalid p.validator _
  · rintro ⟨entry, hentry, hs⟩
    obtain ⟨source, hsource⟩ := Option.ne_none_iff_exists'.mp hs
    have hprim := Tree.mem_primitives_of_expression ht hentry (by rw [hsource]; rfl)
    have hmem : (entry.path, source) ∈ expressions t :=
      Graph.mem_expressions.mpr ⟨entry, hprim, rfl, hsource⟩
    exact one_le_evaluations p.engine ht hp (List.ne_nil_of_mem hmem)

/-! ### Pipelines that share a hub -/

/-- Pipelines and the hub that they report to. -/
structure System where
  hub : Hub := {}
  pipelines : Nat → Pipeline

/-- What may happen: a pipeline reacts to a tree, or the counters are set to zero. -/
inductive Move where
  | react (who : Nat) (tree : Tree) (previous : Option Snapshot) (took : Float) (time : Timestamp)
  | reset

/-- The tree of a move keeps its rules. -/
def Move.Valid : Move → Prop
  | react _ tree _ _ _ => tree.Valid
  | reset => True

namespace System

/-- Make a move: the reaction, if it is one, and the system after it. -/
def perform (s : System) : Move → Option Run × System
  | .react who given previous took time =>
    let ((outcome, tree, p), hub) := (s.pipelines who).reactAt s.hub given previous took time
    (some { given, outcome, tree, took, time },
      { hub, pipelines := Function.update s.pipelines who p })
  | .reset => (none, { s with hub := s.hub.reset })

/-- Make some moves in turn: what each one was, and the system after them. -/
def play (s : System) : List Move → List (Option Run) × System
  | [] => ([], s)
  | m :: ms =>
    let (r, s) := s.perform m
    let (rs, s) := s.play ms
    (r :: rs, s)

/-- All pipelines may make a pass. -/
def Ready (s : System) : Prop := ∀ who, 0 < (s.pipelines who).maxPasses

end System

/-- The reactions that count, one more move seen. -/
def counting (runs : List Run) : Option Run → List Run
  | some r => runs ++ [r]
  | none => []

/-- The reactions since the last reset. -/
def sinceReset (log : List (Option Run)) : List Run := log.foldl counting []

/-- The counters are the sums over some reactions. -/
structure Counted (runs : List Run) (c : Telemetry) : Prop where
  pipelines : c.pipelines = runs.length
  expressionsEvaluated :
    c.expressionsEvaluated = (runs.map (·.outcome.metrics.expressionEvaluations)).sum
  expressionErrors : c.expressionErrors = (runs.map (·.outcome.metrics.expressionErrors)).sum
  watchersRun : c.watchersRun = (runs.map (·.outcome.metrics.watchersRun)).sum
  watcherErrors : c.watcherErrors = (runs.map (·.outcome.metrics.watcherErrors)).sum

theorem counted_nil : Counted [] {} := ⟨rfl, rfl, rfl, rfl, rfl⟩

/-- One more reaction is counted. -/
theorem Counted.record {runs : List Run} {c : Telemetry} (h : Counted runs c) (r : Run) :
    Counted (runs ++ [r]) (c.record (r.outcome.sample r.took) r.time) where
  pipelines := by simp [Telemetry.record, h.pipelines]
  expressionsEvaluated := by simp [Telemetry.record, h.expressionsEvaluated, Outcome.sample]
  expressionErrors := by simp [Telemetry.record, h.expressionErrors, Outcome.sample]
  watchersRun := by simp [Telemetry.record, h.watchersRun, Outcome.sample]
  watcherErrors := by simp [Telemetry.record, h.watcherErrors, Outcome.sample]

/-- An event tells what a reaction did. -/
structure Announces (e : Event) (r : Run) : Prop where
  changes : e.exprChanges = r.outcome.report.changes
  triggered : e.watchersTriggered = r.outcome.watcherResult.triggered
  validationErrors : e.validationErrorCount = r.outcome.validationErrors.length

/-- The event of a reaction. -/
def Run.event (r : Run) : Event := r.outcome.event r.took r.time

theorem Run.announces (r : Run) : Announces r.event r := ⟨rfl, rfl, rfl⟩

/-- What is kept of a move. -/
def Records : Move → Option Run → Prop
  | .react _ tree _ took time, some r => r.given = tree ∧ r.took = took ∧ r.time = time
  | .reset, none => True
  | _, _ => False

/-! ### One move -/

namespace System

variable {s : System} {m : Move} {moves : List Move}

theorem perform_react (s : System) (who : Nat) (given : Tree) (previous : Option Snapshot)
    (took : Float) (time : Timestamp) : ∃ r : Run,
      (s.perform (.react who given previous took time)).1 = some r ∧
      (s.perform (.react who given previous took time)).2.hub =
        s.hub.record r.outcome r.took r.time ∧
      r = { given, outcome := ((s.pipelines who).react given previous).1,
            tree := ((s.pipelines who).react given previous).2.1, took, time } :=
  ⟨_, rfl, rfl, rfl⟩

theorem Ready.perform (h : s.Ready) (m : Move) : (s.perform m).2.Ready := by
  cases m with
  | reset => exact h
  | react who given previous took time =>
    intro other
    change 0 < (Function.update s.pipelines who _ other).maxPasses
    by_cases ho : other = who
    · subst ho
      rw [Function.update_self]
      exact h other
    · rw [Function.update_of_ne ho]
      exact h other

/-- The counters after a move are the sums over the reactions that count then. -/
theorem counted_perform {runs : List Run} (h : Counted runs s.hub.telemetry) (m : Move) :
    Counted (counting runs (s.perform m).1) (s.perform m).2.hub.telemetry := by
  cases m with
  | reset => exact counted_nil
  | react who given previous took time =>
    obtain ⟨r, hr, hhub, -⟩ := s.perform_react who given previous took time
    rw [hr, hhub]
    exact h.record r

/-- A move publishes the event of its reaction, and nothing else. -/
theorem bus_perform (s : System) (m : Move) : (s.perform m).2.hub.bus =
    s.hub.bus.after ((s.perform m).1.toList.map fun r => .publish r.event) := by
  cases m with
  | reset => rfl
  | react who given previous took time => rfl

theorem accounted_perform (h : s.Ready) (hm : m.Valid) :
    ∀ r ∈ (s.perform m).1, Accounted r := by
  cases m with
  | reset => exact fun r hr => nomatch hr
  | react who given previous took time =>
    rintro r ⟨⟩
    exact accounted_react (s.pipelines who) (h who) hm previous took time

/-! ### Many moves -/

theorem play_cons (s : System) (m : Move) (ms : List Move) : s.play (m :: ms) =
    ((s.perform m).1 :: ((s.perform m).2.play ms).1, ((s.perform m).2.play ms).2) := rfl

theorem counted_play : ∀ (moves : List Move) (s : System) (runs : List Run),
    Counted runs s.hub.telemetry →
      Counted ((s.play moves).1.foldl counting runs) (s.play moves).2.hub.telemetry
  | [], _, _, h => h
  | m :: moves, s, runs, h => by
    rw [play_cons, List.foldl_cons]
    exact counted_play moves _ _ (counted_perform h m)

/-- The reactions of some moves. -/
def runs (s : System) (moves : List Move) : List Run := (s.play moves).1.filterMap id

theorem runs_cons (s : System) (m : Move) (moves : List Move) :
    s.runs (m :: moves) = (s.perform m).1.toList ++ (s.perform m).2.runs moves := by
  rw [runs, play_cons, List.filterMap_cons, runs]
  cases (s.perform m).1 <;> rfl

theorem bus_play : ∀ (moves : List Move) (s : System), (s.play moves).2.hub.bus =
    s.hub.bus.after ((s.runs moves).map fun r => .publish r.event)
  | [], _ => rfl
  | m :: moves, s => by
    rw [play_cons, bus_play moves, bus_perform, ← Bus.after_append, runs_cons, List.map_append]

theorem accounted_play : ∀ (moves : List Move) (s : System), s.Ready → (∀ m ∈ moves, m.Valid) →
    ∀ r ∈ s.runs moves, Accounted r
  | [], _, _, _, _, hr => nomatch hr
  | m :: moves, s, h, hm, r, hr => by
    rw [runs_cons, List.mem_append, Option.mem_toList] at hr
    rcases hr with hr | hr
    · exact accounted_perform h (hm m List.mem_cons_self) r hr
    · have hrest : ∀ m ∈ moves, m.Valid := fun m' hm' => hm m' (List.mem_cons_of_mem m hm')
      exact accounted_play moves _ (h.perform m) hrest r hr

/-- The log tells of each move what it was. -/
theorem play_records : ∀ (moves : List Move) (s : System),
    List.Forall₂ Records moves (s.play moves).1
  | [], _ => .nil
  | .reset :: moves, _ => .cons trivial (play_records moves _)
  | .react _ _ _ _ _ :: moves, _ => .cons ⟨rfl, rfl, rfl⟩ (play_records moves _)

/-- What is said of some moves that are made, with what they were. -/
structure Agreement (s : System) (moves : List Move) (log : List (Option Run)) (s' : System) :
    Prop where
  complete : List.Forall₂ Records moves log
  /-- The counters are the sums over the reactions since the last reset. -/
  counters : Counted (sinceReset log) s'.hub.telemetry
  /-- Each reaction is announced once, and nothing else is; who listens hears all of it. -/
  announced : ∃ events : List Event, List.Forall₂ Announces events (log.filterMap id) ∧
    s'.hub.bus = s.hub.bus.after (events.map .publish) ∧
    ∀ id c, s.hub.bus.find? id = some c → c.capacity = none →
      s'.hub.bus.queueOf id = s.hub.bus.queueOf id ++ events
  /-- The numbers of each outcome are those of its tree. -/
  accounted : ∀ r ∈ log.filterMap id, Accounted r

/-- **Counters, events and outcomes agree over any history** of pipelines that share a hub, with
whoever listens there. -/
theorem play_agrees (pipelines : Nat → Pipeline) (acts : List Signal.Act) (moves : List Move)
    (hp : ∀ who, 0 < (pipelines who).maxPasses) (hm : ∀ m ∈ moves, m.Valid) :
    let s : System := { hub := { bus := ({} : Bus).after acts }, pipelines }
    Agreement s moves (s.play moves).1 (s.play moves).2 := by
  intro s
  have horderly : s.hub.bus.Orderly := Bus.orderly_empty.after acts
  have hbus := bus_play moves s
  have hevents : (s.runs moves).map (fun r => Signal.Act.publish r.event) =
      ((s.runs moves).map Run.event).map .publish := by rw [List.map_map]; rfl
  rw [hevents] at hbus
  refine ⟨play_records moves s, counted_play moves s [] counted_nil,
    ⟨(s.runs moves).map Run.event, ?_, hbus, fun id c hf hc => ?_⟩, accounted_play moves s hp hm⟩
  · exact List.forall₂_map_left_iff.mpr (List.forall₂_same.mpr fun r _ => r.announces)
  · rw [hbus]
    exact horderly.queueOf_after_publish hf hc _

/-- Two pipelines share a hub where somebody listens. The first one reacts to a panel, and after the
counters are set to zero both react, the second one to a tree without a cycle. -/
theorem play_agrees_panel :
    let s : System :=
      { hub := { bus := ({} : Bus).after [.subscribe none] }, pipelines := fun _ => {} }
    let moves : List Move := [.react 0 panel none 0.0 {}, .reset, .react 1 blinker none 0.0 {},
      .react 0 panel none 0.0 {}]
    (s.play moves).2.hub.telemetry.pipelines = 2 ∧
    (s.play moves).2.hub.telemetry.expressionErrors = 2 ∧
    (s.play moves).2.hub.telemetry.watchersRun = 1 ∧
    ((s.play moves).2.hub.bus.queueOf 0).map (·.exprChanges) = [["lamp"], [], ["lamp"]] ∧
    (∀ who, 0 < (s.pipelines who).maxPasses) ∧ (∀ m ∈ moves, m.Valid) ∧
    Agreement s moves (s.play moves).1 (s.play moves).2 := by
  intro s moves
  have hp : ∀ who, 0 < (s.pipelines who).maxPasses := fun _ => Nat.succ_pos 15
  have hm : ∀ m ∈ moves, m.Valid := by
    simp only [moves, List.forall_mem_cons]
    exact ⟨⟨rfl, rfl⟩, trivial, ⟨rfl, rfl⟩, ⟨rfl, rfl⟩, fun _ h => nomatch h⟩
  exact ⟨by decide +kernel, by decide +kernel, by decide +kernel, by decide +kernel, hp, hm,
    play_agrees (fun _ => {}) [.subscribe none] moves hp hm⟩

end System

end Reaction
end ReactiveTree
