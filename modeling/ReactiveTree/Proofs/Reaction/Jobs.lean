import ReactiveTree.Proofs.Reaction.Checking
import ReactiveTree.Proofs.Reaction.Watching

/-!
# What a run of the watchers does

Whatever snapshot a tree is compared with, what runs is a list of jobs, one for each script of each
node that the snapshot triggers. A job gives the same whatever ran before it, so every job runs
once, and the result of the run is read off the jobs (`runWatchers_spec`).

Key definitions: `Job`, `triggers`, `triggeredBy`, `jobsAt`, `Tally`.
Key theorems: `runScripts_spec`, `watch_eq`, `runWatchers_spec`.
-/
namespace ReactiveTree

theorem Tree.value?_of_mem_primitives {t : Tree} {entry : Entry} (he : entry ∈ t.primitives) :
    ∃ v, entry.node.value? = some v := by
  obtain ⟨-, hprim⟩ := Tree.mem_primitives_iff.mp he
  cases hn : entry.node with
  | leaf r v => exact ⟨v, rfl⟩
  | object r cs =>
    rw [hn] at hprim
    cases hprim
  | array r is =>
    rw [hn] at hprim
    cases hprim

namespace Reaction

open Snippet (Engine Bindings Datum Note SnippetError)

variable {e e' start : Engine} {w : WatcherResult × Engine} {es : List Entry} {entry : Entry}
variable {previous : Option Snapshot}

/-! ### Jobs -/

/-- A script that is to run. -/
structure Job where
  path : String
  /-- The place of the script among those of its node. -/
  index : Nat
  source : String
  bindings : Bindings

namespace Job

/-- The jobs of some scripts that share their variables, from the place `index` on. -/
def row (path : String) (bindings : Bindings) (index : Nat) (scripts : List String) : List Job :=
  (scripts.zipIdx index).map fun s => { path, index := s.2, source := s.1, bindings }

theorem row_cons (path : String) (bindings : Bindings) (index : Nat) (script : String)
    (scripts : List String) : row path bindings index (script :: scripts) =
      { path, index, source := script, bindings } :: row path bindings (index + 1) scripts := by
  rw [row, List.zipIdx_cons, List.map_cons, row]

theorem length_row (path : String) (bindings : Bindings) (index : Nat) (scripts : List String) :
    (row path bindings index scripts).length = scripts.length := by
  rw [row, List.length_map, List.length_zipIdx]

/-- What a job gives with what an engine shows, and the lines that it writes. -/
def result (e : Engine) (j : Job) : Except SnippetError Datum × List Note :=
  match (e.compile j.source).1 with
  | .error err => (.error err, [])
  | .ok s => e.run s j.bindings

/-- The failure of a job, with what an engine shows. -/
def failure (e : Engine) (j : Job) : Option WatcherFailure :=
  match (j.result e).1 with
  | .ok _ => none
  | .error err => some { path := j.path, index := j.index, message := err.message }

/-- The lines that a job writes, with what an engine shows. -/
def lines (e : Engine) (j : Job) : List Note := (j.result e).2

/-- **A job gives the same whatever ran before it.** -/
theorem result_agrees (h : e.SameView e') (j : Job) : j.result e = j.result e' := by
  have hread : e.read = e'.read := funext fun path => by rw [Engine.read, Engine.read, h.tree]
  have hroot : e.root = e'.root := by rw [Engine.root, Engine.root, h.tree]
  rw [result, result, h.agrees.compile]
  cases (e'.compile j.source).1 with
  | error err => rfl
  | ok s => exact Engine.run_eq h.agrees.limits hread hroot s j.bindings

theorem failure_agrees (h : e.SameView e') (j : Job) : j.failure e = j.failure e' := by
  rw [failure, failure, result_agrees h]

theorem lines_agrees (h : e.SameView e') (j : Job) : j.lines e = j.lines e' := by
  rw [lines, lines, result_agrees h]

/-- A job that runs gives its result and adds its lines. -/
theorem eval_result (e : Engine) (j : Job) :
    (e.eval j.source j.bindings).1 = (j.result e).1 ∧
      (e.eval j.source j.bindings).2.log = e.log ++ j.lines e := by
  rcases h : e.compile j.source with ⟨r, e'⟩
  have he : (e.compile j.source).2 = e' := by rw [h]
  rw [Engine.snd_compile] at he
  have hlog : e'.log = e.log := by rw [← he]
  cases r with
  | error err =>
    have hresult : j.result e = (.error err, []) := by rw [result, h]
    rw [Engine.eval_of_error h, lines, hresult, List.append_nil]
    exact ⟨rfl, hlog⟩
  | ok s =>
    have hread : e'.read = e.read := by rw [← he]; rfl
    have hroot : e'.root = e.root := by rw [← he]; rfl
    have hresult : j.result e = e'.run s j.bindings := by
      rw [result, h, Engine.run_eq (by rw [← he]) hread hroot]
    rw [Engine.eval_of_ok h, lines, hresult, hlog]
    exact ⟨rfl, rfl⟩

end Job

/-- The first script runs, and then the others. -/
theorem runScripts_cons (e : Engine) (path : String) (bindings : Bindings) (index : Nat)
    (script : String) (scripts : List String) :
    runScripts e path bindings index (script :: scripts) =
      (((Job.mk path index script bindings).failure e).toList ++
          (runScripts (e.eval script bindings).2 path bindings (index + 1) scripts).1,
        (runScripts (e.eval script bindings).2 path bindings (index + 1) scripts).2) := by
  obtain ⟨hresult, -⟩ := Job.eval_result e ⟨path, index, script, bindings⟩
  rw [runScripts, Job.failure, ← hresult]
  dsimp only
  cases (e.eval script bindings).1 <;> rfl

/-- **The scripts of a node are jobs that run one after the other, each one once.** -/
theorem runScripts_spec (path : String) (bindings : Bindings) : ∀ (scripts : List String)
    (index : Nat) (e : Engine), e.SameView start →
    (runScripts e path bindings index scripts).1 =
        (Job.row path bindings index scripts).filterMap (·.failure start) ∧
      (runScripts e path bindings index scripts).2.SameView start ∧
      (runScripts e path bindings index scripts).2.log =
        e.log ++ (Job.row path bindings index scripts).flatMap (·.lines start)
  | [], _, e, h => ⟨rfl, h, (List.append_nil e.log).symm⟩
  | script :: scripts, index, e, h => by
    have hview := (Engine.sameView_eval e script bindings).trans h
    obtain ⟨hfailures, hlast, hlog⟩ := runScripts_spec path bindings scripts (index + 1) _ hview
    obtain ⟨-, hlines⟩ := Job.eval_result e ⟨path, index, script, bindings⟩
    rw [Job.lines_agrees h] at hlines
    rw [runScripts_cons, Job.row_cons, List.filterMap_cons, List.flatMap_cons, hfailures,
      Job.failure_agrees h]
    refine ⟨?_, hlast, ?_⟩
    · cases Job.failure start ⟨path, index, script, bindings⟩ <;> rfl
    · rw [hlog, hlines, List.append_assoc]

/-! ### What a snapshot triggers -/

/-- The node is watched, and a snapshot does not have its value. -/
def triggers (previous : Option Snapshot) (entry : Entry) : Bool :=
  !entry.node.traits.watchers.isEmpty && entry.node.value?.any (isTriggered previous entry.path)

/-- The nodes of a tree that a snapshot triggers, in traversal order. -/
def triggeredBy (previous : Option Snapshot) (t : Tree) : List Entry :=
  t.primitives.filter (triggers previous)

/-- The jobs of a node. -/
def jobsAt (previous : Option Snapshot) (entry : Entry) : List Job :=
  Job.row entry.path [("value", .ofOption entry.node.value?),
    ("previous", .ofOption (previous.bind (·.find? entry.path))), ("path", .string entry.path)] 0
    entry.node.traits.watchers

theorem length_jobsAt (previous : Option Snapshot) (entry : Entry) :
    (jobsAt previous entry).length = entry.node.traits.watchers.length := Job.length_row _ _ _ _

theorem length_flatMap_jobsAt (previous : Option Snapshot) (es : List Entry) :
    (es.flatMap (jobsAt previous)).length =
      (es.map fun entry => entry.node.traits.watchers.length).sum := by
  rw [List.length_flatMap]
  exact congrArg List.sum (List.map_congr_left fun entry _ => length_jobsAt previous entry)

/-- A node that is not triggered is passed over. -/
theorem watch_of_not_triggers (h : triggers previous entry = false)
    (w : WatcherResult × Engine) : watch previous w entry = w := by
  unfold watch
  dsimp only
  split
  · rename_i value hs hv
    have hnot : isTriggered previous entry.path value = false := by
      simpa [triggers, hs, hv] using h
    rw [hnot]
    rfl
  · rfl

/-- The scripts of a node that is triggered run. -/
theorem watch_of_triggers (h : triggers previous entry = true) (w : WatcherResult × Engine) :
    ∃ bindings, jobsAt previous entry = Job.row entry.path bindings 0 entry.node.traits.watchers ∧
      watch previous w entry =
        ({ w.1 with
            triggered := w.1.triggered ++ [entry.path]
            runs := w.1.runs + entry.node.traits.watchers.length
            failures := w.1.failures ++
              (runScripts w.2 entry.path bindings 0 entry.node.traits.watchers).1 },
          (runScripts w.2 entry.path bindings 0 entry.node.traits.watchers).2) := by
  rw [triggers, Bool.and_eq_true, Option.any_eq_true] at h
  obtain ⟨hscripts, v, hv, htriggered⟩ := h
  refine ⟨watcherBindings entry.path v (previous.bind (·.find? entry.path)), ?_, ?_⟩
  · rw [jobsAt, hv]
    rfl
  · cases hs : entry.node.traits.watchers with
    | nil => simp [hs] at hscripts
    | cons script scripts => simp only [watch, hs, hv, htriggered, if_true]

/-! ### A whole run -/

/-- What a run of the watchers has done when it has gone through some nodes. -/
structure Tally (start : Engine) (previous : Option Snapshot) (es : List Entry)
    (w : WatcherResult × Engine) : Prop where
  triggered : w.1.triggered = (es.filter (triggers previous)).map (·.path)
  runs : w.1.runs = ((es.filter (triggers previous)).flatMap (jobsAt previous)).length
  failures : w.1.failures =
    ((es.filter (triggers previous)).flatMap (jobsAt previous)).filterMap (·.failure start)
  log : w.2.log = start.log ++
    ((es.filter (triggers previous)).flatMap (jobsAt previous)).flatMap (·.lines start)
  view : w.2.SameView start

/-- One more node. -/
theorem Tally.watch (h : Tally start previous es w) (entry : Entry) :
    Tally start previous (es ++ [entry]) (watch previous w entry) := by
  cases ht : triggers previous entry with
  | true =>
    have hfilter : (es ++ [entry]).filter (triggers previous) =
        es.filter (triggers previous) ++ [entry] := by
      simp [List.filter_append, ht]
    obtain ⟨bindings, hjobs, hw⟩ := watch_of_triggers ht w
    obtain ⟨hfailures, hview, hlog⟩ :=
      runScripts_spec entry.path bindings entry.node.traits.watchers 0 w.2 h.view
    have hlength := length_jobsAt previous entry
    rw [← hjobs] at hfailures hlog
    rw [hw]
    constructor
    · simp [hfilter, h.triggered]
    · simp [hfilter, h.runs, hlength]
    · simp [hfilter, h.failures, hfailures]
    · simp [hfilter, h.log, hlog]
    · exact hview
  | false =>
    have hfilter : (es ++ [entry]).filter (triggers previous) =
        es.filter (triggers previous) := by
      simp [List.filter_append, ht]
    rw [watch_of_not_triggers ht]
    constructor
    · rw [hfilter, h.triggered]
    · rw [hfilter, h.runs]
    · rw [hfilter, h.failures]
    · rw [hfilter, h.log]
    · exact h.view

/-- The rest of the nodes. -/
theorem Tally.foldl : ∀ (rest : List Entry) {es : List Entry} {w : WatcherResult × Engine},
    Tally start previous es w →
      Tally start previous (es ++ rest) (rest.foldl (Reaction.watch previous) w)
  | [], es, w, h => by rwa [List.append_nil]
  | entry :: rest, es, w, h => by
    have hnext := Tally.foldl rest (h.watch entry)
    rwa [List.append_assoc] at hnext

/-- What a run of the watchers gives, with what an engine shows. -/
structure Watched (e : Engine) (t : Tree) (previous : Option Snapshot) (r : WatcherResult) :
    Prop where
  triggered : r.triggered = (triggeredBy previous t).map (·.path)
  runs : r.runs = ((triggeredBy previous t).flatMap (jobsAt previous)).length
  failures : r.failures =
    ((triggeredBy previous t).flatMap (jobsAt previous)).filterMap (·.failure (e.load t))

/-- **A run of the watchers runs each job once**, with any engine that agrees. -/
theorem runWatchers_spec (h : e'.Agrees e) (t : Tree) (previous : Option Snapshot) :
    Watched e t previous (runWatchers e' t previous).1 ∧
      (runWatchers e' t previous).2.log = e'.log ++
        ((triggeredBy previous t).flatMap (jobsAt previous)).flatMap (·.lines (e.load t)) := by
  have hload := Engine.SameView.load h t
  have hempty : Tally (e'.load t) previous []
      ({ snapshot := Snapshot.capture t }, e'.load t) :=
    ⟨rfl, rfl, rfl, (List.append_nil _).symm, .refl _⟩
  have htally := Tally.foldl t.primitives hempty
  rw [List.nil_append] at htally
  refine ⟨⟨htally.triggered, htally.runs, htally.failures.trans ?_⟩, htally.log.trans ?_⟩
  · exact List.filterMap_congr fun job _ => job.failure_agrees hload
  · refine congrArg (e'.log ++ ·) (List.flatMap_congr fun job _ => ?_)
    exact job.lines_agrees hload

/-- At most as many scripts fail as run. -/
theorem Watched.length_failures {t : Tree} {r : WatcherResult} (h : Watched e t previous r) :
    r.failures.length ≤ r.runs := by
  rw [h.failures, h.runs]
  exact List.length_filterMap_le _ _

end Reaction
end ReactiveTree
