import ReactiveTree.Proofs.Reaction.Jobs
import ReactiveTree.Proofs.Reaction.Mirror
import ReactiveTree.Proofs.Reaction.Readiness
import ReactiveTree.Proofs.Snippet.Failures

/-!
# Why a checked tree may still fail

A reaction runs the snippets that a check has seen, for an evaluation leaves them where they are
(`snippets_of_sameLayout`). So after a check that finds no fault no turn, no check of a node and no
job finds a snippet that is no program, and all that a reaction reports comes from these
(`Pipeline.prepared`). This asks that no program finds a text that it cannot read while it runs.

A pipeline keeps its snippets for itself here. One that shares them with an engine of other limits
may take a snippet for ready that its own limits refuse.

Key definitions: `ExpressionError.isUnready`, `Violation.isUnready`, `AllReady`, `Raised`,
`Pipeline.Prepared`.
Key theorems: `snippets_of_sameLayout`, `errors_raised`, `Pipeline.prepared`,
`Pipeline.checkSnippets_prepares`.
-/
namespace ReactiveTree

/-! ### Engines that are ready -/

namespace Snippet.Engine

variable {e e' : Engine} {source : String} {bindings : Bindings} {err : SnippetError}

theorem ReadyFor.of_agrees (h : e.ReadyFor source) (ha : e'.Agrees e) : e'.ReadyFor source := by
  obtain ⟨c, hc, hreads⟩ := h
  exact ⟨c, (ha.compile source).trans hc, ha.limits ▸ hreads⟩

/-- **A source that an engine is ready for does not fail for being no program.** -/
theorem ReadyFor.eval (h : e.ReadyFor source) (he : (e.eval source bindings).1 = .error err) :
    err.isUnready = false := by
  obtain ⟨c, hc, hreads⟩ := h
  rw [fst_eval, hc] at he
  exact isUnready_of_run hreads he

end Snippet.Engine

namespace Reaction

open Snippet (Engine SnippetError)

variable {engine : Engine} {t t' : Tree} {n : Nat} {entry : Entry} {source path message : String}

/-- The snippet of an expression is no program. -/
def ExpressionError.isUnready : ExpressionError → Bool
  | snippet e => e.isUnready
  | circular _ | noValue | cannotConvert _ _ => false

/-- The custom snippet of a node is no program. -/
def Violation.isUnready : Violation → Bool
  | customFailed e => e.isUnready
  | missing | below _ | above _ | mismatch _ | badPattern _ _ | refused | told _ => false

/-! ### Where snippets are -/

theorem snippetsOf_layout (n : Node) : Pipeline.snippetsOf n.layout = Pipeline.snippetsOf n := by
  rw [Pipeline.snippetsOf, Node.traits_layout]
  rfl

/-- **Trees of one layout have the same snippets in the same places.** -/
theorem snippets_of_sameLayout (h : t.SameLayout t') : t.snippets = t'.snippets := by
  have hlayout (t : Tree) : placedIn t.root.layout.primitives = t.snippets := by
    have hlist : t.root.layout.primitives = t.primitives.map fun e => ⟨e.path, e.node.layout⟩ :=
      Node.primitives_recast _ _ t.root
    rw [hlist, placedIn, List.flatMap_map, Tree.snippets, placedIn]
    exact List.flatMap_congr fun e _ => congrArg (placedAt e.path) (snippetsOf_layout e.node)
  rw [← hlayout t, h, hlayout]

theorem mem_snippets (use : String) (he : entry ∈ t.primitives)
    (hs : (use, source) ∈ Pipeline.snippetsOf entry.node) :
    { path := entry.path, use, source } ∈ t.snippets :=
  List.mem_flatMap.mpr ⟨entry, he, List.mem_map_of_mem hs⟩

/-- The engine is ready for all snippets of a tree. -/
def AllReady (e : Engine) (t : Tree) : Prop := ∀ s ∈ t.snippets, e.ReadyFor s.source

namespace AllReady

theorem of_sameLayout (h : AllReady engine t) (hl : t.SameLayout t') : AllReady engine t' := by
  rw [AllReady, ← snippets_of_sameLayout hl]
  exact h

theorem expression (h : AllReady engine t) (he : entry ∈ t.primitives)
    (hs : entry.node.traits.expression = some source) : engine.ReadyFor source :=
  h _ (mem_snippets "expression" he (by simp [Pipeline.snippetsOf, hs]))

theorem custom {rules : Rules} (h : AllReady engine t) (he : entry ∈ t.primitives)
    (hr : entry.node.traits.validation = some rules) (hs : rules.custom = some source) :
    engine.ReadyFor source :=
  h _ (mem_snippets "custom rule" he (by simp [Pipeline.snippetsOf, hr, hs]))

theorem watcher (h : AllReady engine t) (he : entry ∈ t.primitives)
    (hs : source ∈ entry.node.traits.watchers) : engine.ReadyFor source :=
  h _ (mem_snippets "watcher" he (by simp [Pipeline.snippetsOf, hs]))

end AllReady

/-! ### Expressions -/

theorem isUnready_of_valueOf {kind : Kind} {d : Snippet.Datum} {err : ExpressionError}
    (h : valueOf kind d = .error err) : err.isUnready = false := by
  unfold valueOf at h
  split at h
  · obtain rfl := Except.error.inj h
    rfl
  · split at h
    · cases h
    · obtain rfl := Except.error.inj h
      rfl

/-- A turn does not find that the expression is no program. -/
theorem AllReady.turn (h : AllReady engine t) (ht : t.Valid) {q : Working × Task}
    (hq : q ∈ evaluationTurns engine t n) {err : ExpressionError}
    (he : (compute q.1.engine q.2).1 = .error err) : err.isUnready = false := by
  obtain ⟨hbegin, -⟩ := Working.begin_spec engine ht
  have hfollows := Working.follows_of_mem_allTurns ht listed_of_runnable n hbegin hq
  obtain ⟨entry, hentry, -, -, hs⟩ :=
    entry_of_task (mem_runnable.mp (Working.mem_allTurns n hq)).1
  have hready := (h.expression hentry hs).of_agrees hfollows.agrees
  rw [fst_compute] at he
  split at he
  · rename_i e heval
    obtain rfl := Except.error.inj he
    exact hready.eval heval
  · exact isUnready_of_valueOf he

/-- The failure is that of a cycle or of a turn. -/
def Raised (engine : Engine) (t : Tree) (n : Nat) (path : String) (err : ExpressionError) : Prop :=
  err = .circular path ∨
    ∃ q ∈ evaluationTurns engine t n, q.2.path = path ∧ (compute q.1.engine q.2).1 = .error err

/-- All failures so far are those of cycles or of turns. -/
def Working.AllRaised (engine : Engine) (t : Tree) (n : Nat) (w : Working) : Prop :=
  ∀ path message, Json.lookup path w.failures = some (some message) →
    ∃ err, Raised engine t n path err ∧ message = err.message

theorem Working.allRaised_begin (engine : Engine) (t : Tree) (n : Nat) :
    (Working.begin engine t).AllRaised engine t n := by
  intro path message hm
  have hlookup := Working.lookup_reject path (looping t) { tree := t, engine }
  rw [Working.begin] at hm
  rw [hlookup] at hm
  split at hm
  · obtain rfl := Option.some.inj (Option.some.inj hm)
    exact ⟨.circular path, .inl rfl, rfl⟩
  · cases hm

theorem Working.AllRaised.turn {q : Working × Task} (h : q.1.AllRaised engine t n) (ht : t.Valid)
    (hf : q.1.Follows engine t) (hx : q.2.Listed t) (hq : q ∈ evaluationTurns engine t n) :
    (q.1.turn q.2).AllRaised engine t n := by
  intro path message hm
  have hfailures := (Working.turn_spec ht hf hx).failures path
  rw [hm] at hfailures
  split at hfailures
  · rename_i hp
    rw [← hf.fst_compute] at hfailures
    cases hr : (compute q.1.engine q.2).1 with
    | ok v =>
      rw [hr] at hfailures
      cases hfailures
    | error err =>
      rw [hr] at hfailures
      obtain rfl := Option.some.inj (Option.some.inj hfailures)
      exact ⟨err, .inr ⟨q, hq, hp, hr⟩, rfl⟩
  · exact h path message hfailures.symm

theorem allRaised_finish (engine : Engine) (ht : t.Valid) (n : Nat) :
    (finish engine t n).1.AllRaised engine t n := by
  obtain ⟨hf, -⟩ := Working.begin_spec engine ht
  have hbegin := Working.allRaised_begin engine t n
  rw [finish]
  split
  · exact hbegin
  · refine Working.settle_induct ht listed_of_runnable (fun _ _ => id) n 0 _ hf ?_ hbegin
    exact fun q hq hfollows hx hI => hI.turn ht hfollows (listed_of_runnable _ hx) hq

/-- **Every error that is reported is that of a cycle or of a turn.** -/
theorem errors_raised (engine : Engine) (ht : t.Valid) (n : Nat) {m : String × String}
    (hm : m ∈ (evaluate engine t n).1.errors) :
    ∃ err, Raised engine t n m.1 err ∧ m.2 = err.message := by
  cases h : (tasks t (.ofTree t)).isEmpty with
  | true =>
    rw [(finish_of_no_tasks engine h n).1] at hm
    cases hm
  | false =>
    rw [evaluate_of_tasks engine h] at hm
    obtain ⟨x, -, hx⟩ := List.mem_filterMap.mp hm
    obtain ⟨message, hmessage, rfl⟩ := Option.map_eq_some_iff.mp hx
    obtain ⟨found, hfound, heq⟩ := Option.bind_eq_some_iff.mp hmessage
    exact allRaised_finish engine ht n _ _ (hfound.trans (congrArg some heq))

/-! ### Rules -/

theorem isUnready_of_checkBounds {rules : Rules} {value : Scalar} {violation : Violation}
    (h : checkBounds rules value = some violation) : violation.isUnready = false := by
  unfold checkBounds at h
  split at h
  · split at h
    · obtain rfl := Option.some.inj h
      rfl
    · obtain rfl := Option.some.inj h
      rfl
    · cases h
  · cases h

theorem isUnready_of_checkPattern {v v' : Validator} {rules : Rules} {value : Scalar}
    {violation : Violation} (h : v.checkPattern rules value = (some violation, v')) :
    violation.isUnready = false := by
  unfold Validator.checkPattern at h
  split at h
  · split at h
    · obtain rfl := Option.some.inj (Prod.mk.inj h).1
      rfl
    · obtain ⟨hv, -⟩ := Prod.mk.inj h
      split at hv
      · cases hv
      · obtain rfl := Option.some.inj hv
        rfl
  · cases (Prod.mk.inj h).1

/-- A violation that a result gives is unready only with the result. -/
theorem isUnready_of_ofResult {r : Except SnippetError Snippet.Datum} {violation : Violation}
    (hr : ∀ err, r = .error err → err.isUnready = false) (h : ofResult r = some violation) :
    violation.isUnready = false := by
  cases r with
  | error err =>
    obtain rfl := Option.some.inj h
    exact hr err rfl
  | ok d =>
    unfold ofResult at h
    dsimp only at h
    split at h
    · obtain rfl := Option.some.inj h
      rfl
    · split at h
      · cases h
      · obtain rfl := Option.some.inj h
        rfl
    · cases h

/-- Checking a node does not find that its custom snippet is no program. -/
theorem isUnready_of_checkNode {v : Validator} {value : Scalar} {rules : Rules}
    {violation : Violation} (h : ∀ source, rules.custom = some source → engine.ReadyFor source)
    (hv : (v.checkNode engine path value rules).1 = some violation) :
    violation.isUnready = false := by
  unfold Validator.checkNode at hv
  split at hv
  · obtain rfl := Option.some.inj hv
    rfl
  · split at hv
    · rename_i hbounds
      obtain rfl := Option.some.inj hv
      exact isUnready_of_checkBounds hbounds
    · split at hv
      · rename_i hpattern
        obtain rfl := Option.some.inj hv
        exact isUnready_of_checkPattern hpattern
      · split at hv
        · cases hv
        · rename_i source hcustom
          exact isUnready_of_ofResult (fun err he => (h source hcustom).eval he) hv

/-! ### Watchers -/

theorem Job.source_mem_of_row {path : String} {bindings : Snippet.Bindings} {index : Nat}
    {scripts : List String} {job : Job} (h : job ∈ Job.row path bindings index scripts) :
    job.source ∈ scripts := by
  obtain ⟨s, hs, rfl⟩ := List.mem_map.mp h
  exact List.fst_mem_of_mem_zipIdx hs

/-- A job does not find that its script is no program. -/
theorem AllReady.job {previous : Option Snapshot} (h : AllReady engine t) {job : Job}
    (hj : job ∈ (triggeredBy previous t).flatMap (jobsAt previous)) {err : SnippetError}
    (he : (job.result engine).1 = .error err) : err.isUnready = false := by
  obtain ⟨entry, hentry, hj⟩ := List.mem_flatMap.mp hj
  obtain ⟨hprimitive, -⟩ := List.mem_filter.mp hentry
  have hready := h.watcher hprimitive (Job.source_mem_of_row hj)
  exact hready.eval ((job.eval_result engine).1.trans he)

/-! ### Reactions -/

namespace Pipeline

variable {p : Pipeline} {previous : Option Snapshot}

/-- No part of a reaction finds a snippet that is no program, and what the reaction reports comes
from these parts. -/
structure Prepared (p : Pipeline) (t : Tree) (previous : Option Snapshot) : Prop where
  turns : ∀ q ∈ evaluationTurns p.engine t p.maxPasses, ∀ err,
    (compute q.1.engine q.2).1 = .error err → err.isUnready = false
  errors : ∀ m ∈ (p.react t previous).1.report.errors, ∃ err,
    Raised p.engine t p.maxPasses m.1 err ∧ m.2 = err.message
  checks : ∀ entry ∈ (p.react t previous).2.1.primitives, ∀ rules value violation,
    entry.node.traits.validation = some rules → entry.node.value? = some value →
    (p.validator.checkNode (p.engine.load (p.react t previous).2.1) entry.path value rules).1 =
      some violation → violation.isUnready = false
  messages : (p.react t previous).1.validationErrors = (p.react t previous).2.1.primitives.filterMap
    (p.validator.messageOf (p.engine.load (p.react t previous).2.1))
  jobs : ∀ job ∈ (triggeredBy previous (p.react t previous).2.1).flatMap (jobsAt previous), ∀ err,
    (job.result (p.engine.load (p.react t previous).2.1)).1 = .error err → err.isUnready = false
  failures : (p.react t previous).1.watcherResult.failures =
    ((triggeredBy previous (p.react t previous).2.1).flatMap (jobsAt previous)).filterMap
      (·.failure (p.engine.load (p.react t previous).2.1))

/-- **An engine that is ready for all snippets of a tree finds none that is no program.** -/
theorem prepared (h : AllReady p.engine t) (ht : t.Valid) (previous : Option Snapshot) :
    p.Prepared t previous := by
  have htree : (p.react t previous).2.1 = (finish p.engine t p.maxPasses).1.tree :=
    tree_evaluate p.engine t p.maxPasses
  have hlayout : t.SameLayout (p.react t previous).2.1 := by
    rw [htree]
    exact (finish_follows p.engine ht p.maxPasses).layout
  have hevaluated := agrees_evaluate_unchecked p.engine t p.maxPasses
  obtain ⟨-, hchecked⟩ := p.validator.kept_checkTree (evaluate p.engine t p.maxPasses).2.2
    (evaluate p.engine t p.maxPasses).2.1
  obtain ⟨hwatched, -⟩ := runWatchers_spec (hchecked.trans hevaluated)
    (evaluate p.engine t p.maxPasses).2.1 previous
  -- What the rules and the watchers see is the tree after the evaluation.
  have hready : AllReady (p.engine.load (p.react t previous).2.1) (p.react t previous).2.1 :=
    fun s hs => (h.of_sameLayout hlayout s hs).of_agrees (Engine.agrees_load _ _)
  exact {
    turns := fun q hq err he => h.turn ht hq he
    errors := fun m hm => errors_raised p.engine ht p.maxPasses hm
    checks := fun entry hentry rules value violation hrules _ hv =>
      isUnready_of_checkNode (fun source hs => hready.custom hentry hrules hs) hv
    messages := (p.validator.checkTree_agrees (.refl _) hevaluated _).trans
      (p.validator.fst_checkTree p.engine _)
    jobs := fun job hj err he => hready.job hj he
    failures := hwatched.failures }

/-- After a check that finds no fault a pipeline stays ready, whatever is done with it. -/
theorem allReady_of_checked {k : Nat} {p' : Pipeline} (hp : p.engine.Sound)
    (hk : (p.checkSnippets t).1 = .ok k) (hreads : ∀ s ∈ t.snippets, ∀ c,
      Snippet.compile p.engine.limits s.source = .ok c → c.program.ReadsAll p.engine.limits)
    (hl : (p.checkSnippets t).2.Leads p') : AllReady p'.engine t := by
  obtain ⟨hmakes, -⟩ := ((checked hp t).ok k).mp hk
  obtain ⟨-, hagrees⟩ := checkSnippets_eq p t
  obtain ⟨hlimits, hsound⟩ := hl.limits_and_sound
  rw [hagrees.limits] at hlimits
  intro s hs
  obtain ⟨c, hc⟩ := hmakes s hs
  refine ⟨c, ?_, hlimits ▸ hreads s hs c hc⟩
  rw [hsound (hp.of_agrees hagrees) s.source, hlimits, hc]

/-- **A check tells which snippet of a tree is no program, and a tree with no such snippet never
reacts as if it had one.** -/
theorem checkSnippets_prepares (hp : p.Reachable) (ht : t.Valid) : p.Checked t ∧
    ∀ k, (p.checkSnippets t).1 = .ok k →
      (∀ s ∈ t.snippets, ∀ c, Snippet.compile p.engine.limits s.source = .ok c →
        c.program.ReadsAll p.engine.limits) →
      ∀ p', (p.checkSnippets t).2.Leads p' → ∀ previous, p'.Prepared t previous :=
  ⟨checked hp.sound t, fun _ hk hreads _ hl previous =>
    prepared (allReady_of_checked hp.sound hk hreads hl) ht previous⟩

/-- A lamp whose expression and second watcher want a variable that is not there. -/
def unsteady : Tree :=
  ⟨.object default [("lamp", .leaf { (default : Traits) with
    expression := some "wanted"
    validation := some { custom := some "value" }
    watchers := ["path", "wanted"] } (.boolean false))]⟩

/-- All snippets are programs, yet the expression, the rule and a watcher fail. -/
theorem checkSnippets_prepares_unsteady :
    let p := ((ofSettings {}).checkSnippets unsteady).2
    (((ofSettings {}).checkSnippets unsteady).1 = .ok 4) ∧
    (p.react unsteady none).1.report.errors =
      [("lamp", "Variable not found: wanted")] ∧
    (p.react unsteady none).1.validationErrors = [("lamp", "Custom validation failed")] ∧
    (p.react unsteady none).1.watcherResult.failures.length = 1 ∧
    (ofSettings {}).Checked unsteady ∧ p.Prepared unsteady none := by
  intro p
  have hp : (ofSettings {}).Reachable := ⟨{}, .refl⟩
  have hk : ((ofSettings {}).checkSnippets unsteady).1 = .ok 4 := by rfl
  have hflat : ∀ s ∈ unsteady.snippets, ((Snippet.compile {} s.source).toOption.all
      fun c => c.program.body.all Snippet.Stmt.isFlat) = true := by decide +kernel
  have hreads : ∀ s ∈ unsteady.snippets, ∀ c, Snippet.compile {} s.source = .ok c →
      c.program.ReadsAll {} := by
    intro s hs c hc
    have hbody := hflat s hs
    rw [hc] at hbody
    exact Snippet.Program.readsAll_of_isFlat hbody {}
  obtain ⟨hchecked, hprepared⟩ := checkSnippets_prepares hp (t := unsteady) ⟨rfl, rfl⟩
  exact ⟨hk, by decide +kernel, by decide +kernel, by decide +kernel, hchecked,
    hprepared 4 hk hreads p .refl none⟩

end Pipeline

end Reaction
end ReactiveTree
