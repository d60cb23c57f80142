import ReactiveTree.Proofs.Reaction.Jobs

/-!
# Watching over a history of trees

Trees are watched one after the other, each against the snapshot that was taken of the one before.
A snapshot finds at a path what was listed there, and nothing else (`Snapshot.find?_capture_eq`), so
a node is news if its value is not the one that was listed at its path one step before. These are
the nodes that the snapshot triggers (`Step.triggeredBy_previous`), and what runs at a step is a job
for each of their scripts.

Key definitions: `Tree.listedAt?`, `Step`, `Step.news`, `Step.jobs`, `watchAll`, `Accounts`.
Key theorems: `Snapshot.find?_capture_eq`, `Step.triggeredBy_previous`, `runWatchers_accounts`,
`watchAll_accounts`.
-/
namespace ReactiveTree

variable {t : Tree} {entry : Entry}

/-! ### What is listed at a path -/

/-- The value of the primitive that is listed at a path. -/
def Tree.listedAt? (t : Tree) (path : String) : Option Scalar :=
  (t.primitives.find? (·.path == path)).bind (·.node.value?)

/-- **A snapshot finds what is listed at a path, and nothing else.** -/
theorem Snapshot.find?_capture_eq (ht : t.Valid) (path : String) :
    (capture t).find? path = t.listedAt? path := by
  rw [Tree.listedAt?]
  cases h : t.primitives.find? (·.path == path) with
  | some entry =>
    have he : entry ∈ t.primitives := List.mem_of_find?_eq_some h
    have hp : entry.path = path := by simpa using List.find?_some h
    obtain ⟨v, hv⟩ := Tree.value?_of_mem_primitives he
    rw [← hp, Option.bind_some, hv]
    exact find?_capture ht he hv
  | none =>
    have hnot : path ∉ t.listedValues.map (·.1) := by
      intro hp
      obtain ⟨m, hm, rfl⟩ := List.mem_map.mp hp
      obtain ⟨entry, he, heq⟩ := List.mem_filterMap.mp hm
      obtain ⟨v, -, rfl⟩ := Option.map_eq_some_iff.mp heq
      have hne := List.find?_eq_none.mp h entry he
      simp at hne
    rw [Option.bind_none]
    exact (Json.lookup_sortMembers (Tree.nodup_listedValues ht)).trans (Json.lookup_eq_none hnot)

namespace Reaction

open Snippet (Engine)

variable {e e' : Engine}

/-! ### Steps of a history -/

/-- A tree of a history, with the tree before it if it is not the first. -/
structure Step where
  before : Option Tree
  tree : Tree

/-- The steps of a history that goes on from a tree. -/
def stepsFrom (before : Option Tree) : List Tree → List Step
  | [] => []
  | t :: ts => ⟨before, t⟩ :: stepsFrom (some t) ts

/-- At each step but the first the tree before is the one before it in the history. -/
theorem getElem?_stepsFrom (before : Option Tree) : ∀ (trees : List Tree) (i : Nat),
    (stepsFrom before trees)[i]? =
      trees[i]?.map fun t => ⟨if i = 0 then before else trees[i - 1]?, t⟩
  | [], _ => rfl
  | _ :: _, 0 => rfl
  | t :: ts, i + 1 => by
    have ih := getElem?_stepsFrom (some t) ts i
    rw [stepsFrom, List.getElem?_cons_succ, List.getElem?_cons_succ, ih]
    cases i with
    | zero => rfl
    | succ i => rfl

namespace Step

/-- What was listed at a path one step before. -/
def valueBefore (s : Step) (path : String) : Option Scalar := s.before.bind (·.listedAt? path)

/-- The node is watched, and its value is not the one that it had. -/
def isNews (s : Step) (entry : Entry) : Bool :=
  !entry.node.traits.watchers.isEmpty &&
    !(s.valueBefore entry.path).any fun u => entry.node.value?.any fun v => u.same v

/-- The nodes that are news, in traversal order. -/
def news (s : Step) : List Entry := s.tree.primitives.filter s.isNews

/-- The jobs of a node. -/
def jobsOf (s : Step) (entry : Entry) : List Job :=
  Job.row entry.path [("value", .ofOption entry.node.value?),
    ("previous", .ofOption (s.valueBefore entry.path)), ("path", .string entry.path)] 0
    entry.node.traits.watchers

/-- What is to run, in turn. -/
def jobs (s : Step) : List Job := s.news.flatMap s.jobsOf

/-- The snapshot that the tree is compared with. -/
def previous (s : Step) : Option Snapshot := s.before.map Snapshot.capture

theorem length_jobs (s : Step) :
    s.jobs.length = (s.news.map fun entry => entry.node.traits.watchers.length).sum := by
  rw [jobs, List.length_flatMap]
  refine congrArg List.sum (List.map_congr_left fun entry _ => ?_)
  exact Job.length_row _ _ _ _

theorem find?_previous {s : Step} (hb : ∀ b ∈ s.before, b.Valid) (path : String) :
    s.previous.bind (·.find? path) = s.valueBefore path := by
  rw [previous, valueBefore]
  cases h : s.before with
  | none => rfl
  | some b => exact Snapshot.find?_capture_eq (hb b h) path

end Step

variable {s : Step}

/-- The snapshot of the tree before triggers the nodes that are news. -/
theorem Step.triggers_previous (hb : ∀ b ∈ s.before, b.Valid) (he : entry ∈ s.tree.primitives) :
    triggers s.previous entry = s.isNews entry := by
  obtain ⟨v, hv⟩ := Tree.value?_of_mem_primitives he
  simp only [triggers, isNews, hv, Option.any_some, isTriggered, find?_previous hb]

theorem Step.triggeredBy_previous (hb : ∀ b ∈ s.before, b.Valid) :
    triggeredBy s.previous s.tree = s.news :=
  List.filter_congr fun _ he => triggers_previous hb he

theorem Step.flatMap_jobsAt (hb : ∀ b ∈ s.before, b.Valid) :
    s.news.flatMap (jobsAt s.previous) = s.jobs := by
  refine List.flatMap_congr fun entry _ => ?_
  rw [jobsAt, find?_previous hb]
  rfl

/-! ### One step -/

/-- What is said of the result of a step, from an engine that makes of sources what `e` makes. -/
structure Accounts (e : Engine) (s : Step) (r : WatcherResult) : Prop where
  /-- The nodes that are news, in traversal order. -/
  triggered : r.triggered = s.news.map (·.path)
  nodup : r.triggered.Nodup
  /-- The number of the scripts on these nodes. -/
  runs : r.runs = (s.news.map fun entry => entry.node.traits.watchers.length).sum
  /-- The jobs that fail, in the order in which they run. -/
  failures : r.failures = s.jobs.filterMap (·.failure (e.load s.tree))
  snapshot : r.snapshot = Snapshot.capture s.tree

/-- **A run of the watchers runs each job of the step once.** -/
theorem runWatchers_accounts (ht : s.tree.Valid) (hb : ∀ b ∈ s.before, b.Valid) (h : e'.Agrees e) :
    Accounts e s (runWatchers e' s.tree s.previous).1 ∧
      (runWatchers e' s.tree s.previous).2.log =
        e'.log ++ s.jobs.flatMap (·.lines (e.load s.tree)) := by
  obtain ⟨hwatched, hlog⟩ := runWatchers_spec h s.tree s.previous
  obtain ⟨htriggered, hruns, hfailures⟩ := hwatched
  rw [Step.triggeredBy_previous hb] at htriggered hruns hfailures hlog
  rw [Step.flatMap_jobsAt hb] at hruns hfailures hlog
  have hnodup : (s.news.map (·.path)).Nodup :=
    (Tree.nodup_primitives ht).sublist (List.filter_sublist.map _)
  exact ⟨⟨htriggered, htriggered ▸ hnodup, hruns.trans s.length_jobs, hfailures,
    snapshot_runWatchers e' s.tree s.previous⟩, hlog⟩

/-! ### A whole history -/

/-- Watch the trees of a history, each against the snapshot of the one before. -/
def watchAll (e : Engine) (previous : Option Snapshot) : List Tree → List WatcherResult × Engine
  | [] => ([], e)
  | t :: ts =>
    let (r, e) := runWatchers e t previous
    let (rs, e) := watchAll e (some r.snapshot) ts
    (r :: rs, e)

/-- A history that goes on from a tree, with an engine that has run before. -/
theorem accounts_watchAll : ∀ (trees : List Tree) (before : Option Tree) (e' : Engine),
    (∀ t ∈ trees, t.Valid) → (∀ b ∈ before, b.Valid) → e'.Agrees e →
    List.Forall₂ (Accounts e) (stepsFrom before trees)
        (watchAll e' (before.map Snapshot.capture) trees).1 ∧
      (watchAll e' (before.map Snapshot.capture) trees).2.log = e'.log ++
        (stepsFrom before trees).flatMap fun s => s.jobs.flatMap (·.lines (e.load s.tree))
  | [], _, e', _, _, _ => ⟨.nil, (List.append_nil e'.log).symm⟩
  | t :: ts, before, e', ht, hb, h => by
    have hvalid := ht t List.mem_cons_self
    obtain ⟨haccounts, hlog⟩ := runWatchers_accounts (s := ⟨before, t⟩) hvalid hb h
    have hnext : (runWatchers e' t (before.map Snapshot.capture)).2.Agrees e :=
      (agrees_runWatchers e' t _).trans h
    have hself : ∀ b ∈ some t, b.Valid := by
      rintro b ⟨⟩
      exact hvalid
    obtain ⟨hrest, hlogs⟩ := accounts_watchAll ts (some t) _
      (fun b hb => ht b (List.mem_cons_of_mem t hb)) hself hnext
    have hsnapshot : (runWatchers e' t (before.map Snapshot.capture)).1.snapshot =
        Snapshot.capture t := snapshot_runWatchers e' t _
    have hall : watchAll e' (before.map Snapshot.capture) (t :: ts) =
        ((runWatchers e' t (before.map Snapshot.capture)).1 ::
            (watchAll (runWatchers e' t (before.map Snapshot.capture)).2
              ((some t).map Snapshot.capture) ts).1,
          (watchAll (runWatchers e' t (before.map Snapshot.capture)).2
            ((some t).map Snapshot.capture) ts).2) := by
      rw [Option.map_some, ← hsnapshot, watchAll]
    rw [hall, stepsFrom, List.flatMap_cons]
    refine ⟨.cons haccounts hrest, ?_⟩
    rw [hlogs, ← List.append_assoc]
    exact congrArg (· ++ _) hlog

/-- **No change is missed and none is reported twice, over any history.** -/
theorem watchAll_accounts (e : Engine) {trees : List Tree} (ht : ∀ t ∈ trees, t.Valid) :
    List.Forall₂ (Accounts e) (stepsFrom none trees) (watchAll e none trees).1 ∧
      (watchAll e none trees).2.log = e.log ++
        (stepsFrom none trees).flatMap fun s => s.jobs.flatMap (·.lines (e.load s.tree)) :=
  accounts_watchAll trees none e ht (fun _ hb => nomatch hb) (.refl e)

/-- A house over three days: there is a bell on the second, and the door is open on the third. The
second script of the door reads a variable that there is not. -/
def house : List Tree :=
  let door (isOpen : Bool) : String × Node :=
    ("door", .leaf { (default : Traits) with watchers := ["log(path)", "missing", "previous"] }
      (.boolean isOpen))
  let bell : String × Node :=
    ("bell", .leaf { (default : Traits) with watchers := ["value"] } (.string "ring"))
  [⟨.object default [door false]⟩, ⟨.object default [bell, door false]⟩,
    ⟨.object default [door true]⟩]

/-- The door is reported when it is there and when it opens, each time with one failure that does
not keep the last script from running; the bell is reported once. -/
theorem watchAll_accounts_house :
    (watchAll {} none house).1.map (·.triggered) = [["door"], ["bell"], ["door"]] ∧
    (watchAll {} none house).1.map (·.runs) = [3, 1, 3] ∧
    (watchAll {} none house).1.map (·.failures.map fun f => (f.path, f.index)) =
      [[("door", 1)], [], [("door", 1)]] ∧
    (watchAll {} none house).2.log.length = 2 ∧
    List.Forall₂ (Accounts {}) (stepsFrom none house) (watchAll {} none house).1 := by
  have hvalid : ∀ t ∈ house, t.Valid := by
    simp only [house, List.forall_mem_cons]
    exact ⟨⟨rfl, rfl⟩, ⟨rfl, rfl⟩, ⟨rfl, rfl⟩, fun _ h => nomatch h⟩
  exact ⟨by decide +kernel, by decide +kernel, by decide +kernel, by decide +kernel,
    (watchAll_accounts {} hvalid).1⟩

end Reaction
end ReactiveTree
