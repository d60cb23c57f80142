import ReactiveTree.CommandLine.Response
import ReactiveTree.Proofs.Documents.Snapshots
import ReactiveTree.Proofs.Reaction.Histories
import ReactiveTree.Proofs.Reaction.Quiescence

/-!
# Evaluating again from the snapshot on disk

An evaluation leaves the snapshot of its tree in a file, and the next one compares its tree with
what that file says. Commands run here on files that are kept by name, where each command is the
function from the files before to the files after (`runOn_bind` and the equations after it). If all
numbers that the first run leaves are finite, the second run reads the very snapshot that the first
one took; if one is not, the file is there and cannot be read (`evaluate_reread`).

Key definitions: `Disk`, `memory`, `runOn`, `Reread`.
Key theorems: `runOn_bind_of_ok`, `runOn_loadSnapshot`, `runOn_evaluate`, `reread_of_finite`,
`evaluate_reread`.
-/
namespace ReactiveTree.CommandLine

open Reaction (Pipeline Outcome Step)
open Snippet (Note)

/-! ### Commands on files -/

/-- Texts by the names of their files. -/
abbrev Disk := List (String × String)

/-- Files that are kept by name, at a time that does not pass. -/
def memory (now : Timestamp) : Host (StateM Disk) where
  read file := return match Json.lookup file (← get) with
    | some text => .ok text
    | none => .error "No such file or directory (os error 2)"
  write file text := modifyGet fun d => (.ok (), Json.upsert file text d)
  contains file := return (Json.lookup file (← get)).isSome
  time := return now

/-- What an action gives on some files, and the files that it leaves. -/
def runOn {α : Type} (a : Action (StateM Disk) α) (d : Disk) : Except (List String) α × Disk :=
  a.run.run d

variable {α β : Type} {now : Timestamp} {d d' : Disk} {file text : String}

theorem runOn_bind (a : Action (StateM Disk) α) (f : α → Action (StateM Disk) β) (d : Disk) :
    runOn (a >>= f) d = match runOn a d with
      | (.ok x, d') => runOn (f x) d'
      | (.error e, d') => (.error e, d') := by
  change (match runOn a d with | (r, d') => (ExceptT.bindCont f r : StateM Disk _) d') = _
  rcases runOn a d with ⟨r, d'⟩
  cases r <;> rfl

/-- An action that succeeds goes on with what it gives, on the files that it leaves. -/
theorem runOn_bind_of_ok {a : Action (StateM Disk) α} {x : α} (h : runOn a d = (.ok x, d'))
    (f : α → Action (StateM Disk) β) : runOn (a >>= f) d = runOn (f x) d' := by
  rw [runOn_bind, h]

theorem runOn_read (hd : Json.lookup file d = some text) :
    runOn (liftM ((memory now).read file)) d = (.ok (.ok text), d) := by
  have h : runOn (liftM ((memory now).read file)) d = (.ok (match Json.lookup file d with
      | some text => .ok text
      | none => .error "No such file or directory (os error 2)"), d) := rfl
  rw [h, hd]

theorem runOn_contains (file : String) (d : Disk) : runOn (liftM ((memory now).contains file)) d =
    (.ok (Json.lookup file d).isSome, d) := rfl

theorem runOn_time (d : Disk) : runOn (liftM (memory now).time) d = (.ok now, d) := rfl

theorem runOn_load (task : String) (hd : Json.lookup file d = some text) :
    runOn (load (memory now) task file) d = (.ok text, d) := by
  rw [load, runOn_bind_of_ok (runOn_read hd)]
  rfl

theorem runOn_save (task file text : String) (d : Disk) :
    runOn (save (memory now) task file text) d = (.ok (), Json.upsert file text d) := rfl

theorem runOn_loadSettings (d : Disk) :
    runOn (loadSettings (memory now) none) d = (.ok {}, d) := rfl

/-- A snapshot is loaded if its text can be read. -/
theorem runOn_loadSnapshot (hd : Json.lookup file d = some text) :
    runOn (loadSnapshot (memory now) (some file)) d =
      (match Snapshot.ofText text with
        | .ok s => .ok (some s)
        | .error fault => .error [about "Invalid snapshot" file, fault.word], d) := by
  have hthere : runOn (liftM ((memory now).contains file)) d = (.ok true, d) := by
    rw [runOn_contains, hd, Option.isSome_some]
  rw [loadSnapshot, runOn_bind_of_ok hthere, if_pos rfl, runOn_bind_of_ok (runOn_load _ hd)]
  cases Snapshot.ofText text <;> rfl

/-! ### An evaluation and the next one -/

variable {s : Settings} {t : Tree} {previous : Option Snapshot} {tree : String}
variable {settings : Option String} {r : Outcome × Tree × Pipeline}

/-- The files that an evaluation leaves: the snapshot, and the tree if that is asked for. -/
def leftBy (now : Timestamp) (tree file : String) (write : Bool) (r : Outcome × Tree × Pipeline)
    (d : Disk) : Disk :=
  let d := Json.upsert file r.1.snapshot.toWire.pretty d
  if write then Json.upsert tree (r.2.1.exportDocument now.text) d else d

/-- **An evaluation whose files can be read reacts to the tree and leaves the snapshot.** -/
theorem runOn_evaluate (write : Bool)
    (hsettings : runOn (loadSettings (memory now) settings) d = (.ok s, d))
    (htree : runOn (loadTree (memory now) tree) d = (.ok t, d))
    (hprevious : runOn (loadSnapshot (memory now) (some file)) d = (.ok previous, d))
    (hr : (Pipeline.ofSettings s).react t previous = r) :
    runOn (evaluate (memory now) tree settings (some file) write) d =
      (.ok ((r.1.toWire (now.since now)).pretty ++ "\n", r.2.2.engine.log),
        leftBy now tree file write r d) := by
  rw [evaluate, runOn_bind_of_ok hsettings, runOn_bind_of_ok htree, runOn_bind_of_ok hprevious,
    runOn_bind_of_ok (runOn_time d), hr]
  dsimp only
  rw [runOn_bind_of_ok (runOn_time d), runOn_bind_of_ok (runOn_save _ _ _ _)]
  cases write with
  | false => rfl
  | true =>
    rw [if_pos rfl, runOn_bind_of_ok (runOn_save _ _ _ _)]
    rfl

theorem lookup_leftBy {write : Bool} (hw : write = true → tree ≠ file) (d : Disk) :
    Json.lookup file (leftBy now tree file write r d) = some r.1.snapshot.toWire.pretty := by
  rw [leftBy]
  split
  · rename_i h
    rw [Json.lookup_upsert_ne (hw h), Json.lookup_upsert_self]
  · rw [Json.lookup_upsert_self]

/-- What the next evaluation makes of the snapshot that one has left. -/
structure Reread (now : Timestamp) (file : String) (r : Outcome × Tree × Pipeline) (d : Disk) :
    Prop where
  /-- It is the snapshot that was taken. -/
  loaded : runOn (loadSnapshot (memory now) (some file)) d = (.ok (some r.1.snapshot), d)
  /-- It has the value of each primitive under the path at which it is listed, and no more. -/
  values : ∀ path, r.1.snapshot.find? path = r.2.1.listedAt? path
  /-- Watchers of any tree run for what is not as the first run left it. -/
  triggered : ∀ (p : Pipeline) {t : Tree}, t.Valid →
    (p.react t (some r.1.snapshot)).1.watcherResult.triggered =
      (Step.news ⟨some r.2.1, (p.react t (some r.1.snapshot)).2.1⟩).map (·.path)

theorem valid_react (p : Pipeline) (ht : t.Valid) (previous : Option Snapshot) :
    (p.react t previous).2.1.Valid :=
  ht.of_sameLayout (Reaction.layout_evaluate p.engine ht p.maxPasses)

/-- A tree is watched against the tree whose snapshot was taken. -/
theorem triggered_react {before : Tree} (hb : before.Valid) (p : Pipeline) (ht : t.Valid) :
    (p.react t (some (Snapshot.capture before))).1.watcherResult.triggered =
      (Step.news ⟨some before, (p.react t (some (Snapshot.capture before))).2.1⟩).map (·.path) := by
  have hstep : ∀ b ∈ some before, b.Valid := by
    rintro b ⟨⟩
    exact hb
  obtain ⟨e, he⟩ := Reaction.watcherResult_react p t (some (Snapshot.capture before))
  have hvalid := valid_react p ht (some (Snapshot.capture before))
  obtain ⟨haccounts, -⟩ :=
    Reaction.runWatchers_accounts (s := ⟨some before, _⟩) hvalid hstep (.refl e)
  rw [he]
  exact haccounts.triggered

/-- **A snapshot of finite numbers is read as it was taken.** -/
theorem reread_of_finite (p : Pipeline) (ht : t.Valid) (previous : Option Snapshot)
    (hf : (p.react t previous).2.1.root.NumbersFinite)
    (hd : Json.lookup file d = some (p.react t previous).1.snapshot.toWire.pretty) :
    Reread now file (p.react t previous) d := by
  have hvalid := valid_react p ht previous
  have hsnapshot := Reaction.snapshot_react p t previous
  rw [hsnapshot] at hd
  constructor
  · rw [runOn_loadSnapshot hd, (Snapshot.ofText_capture hvalid).1 hf, hsnapshot]
  · intro path
    rw [hsnapshot, Snapshot.find?_capture_eq hvalid]
  · intro p' t' ht'
    rw [hsnapshot]
    exact triggered_react hvalid p' ht'

/-- A snapshot with another number is not read. -/
theorem not_reread_of_not_finite (p : Pipeline) (ht : t.Valid) (previous : Option Snapshot)
    (hf : ¬ (p.react t previous).2.1.root.NumbersFinite)
    (hd : Json.lookup file d = some (p.react t previous).1.snapshot.toWire.pretty) :
    runOn (loadSnapshot (memory now) (some file)) d =
      (.error [about "Invalid snapshot" file, Fault.shape.word], d) := by
  rw [Reaction.snapshot_react] at hd
  rw [runOn_loadSnapshot hd, (Snapshot.ofText_capture (valid_react p ht previous)).2 hf]

/-- **The snapshot that one evaluation leaves is read by the next, as long as all numbers that the
first leaves in its tree are finite.** With any other number the first evaluation succeeds all the
same, and the next one fails. -/
theorem evaluate_reread (write : Bool) (ht : t.Valid)
    (hsettings : runOn (loadSettings (memory now) settings) d = (.ok s, d))
    (htree : runOn (loadTree (memory now) tree) d = (.ok t, d))
    (hprevious : runOn (loadSnapshot (memory now) (some file)) d = (.ok previous, d))
    (hw : write = true → tree ≠ file) (hr : (Pipeline.ofSettings s).react t previous = r) :
    ∃ answer d', runOn (evaluate (memory now) tree settings (some file) write) d =
        (.ok answer, d') ∧
      (r.2.1.root.NumbersFinite → Reread now file r d') ∧
      (¬ r.2.1.root.NumbersFinite → runOn (loadSnapshot (memory now) (some file)) d' =
        (.error [about "Invalid snapshot" file, Fault.shape.word], d')) := by
  have hfile : Json.lookup file (leftBy now tree file write r d) =
      some r.1.snapshot.toWire.pretty := lookup_leftBy hw d
  subst hr
  refine ⟨_, _, runOn_evaluate write hsettings htree hprevious rfl, fun hf => ?_, fun hf => ?_⟩
  · exact reread_of_finite _ ht previous hf hfile
  · exact not_reread_of_not_finite _ ht previous hf hfile

/-! ### A desk -/

/-- A lamp that follows a switch, which was just turned on, and a reading that is watched. -/
def deskParts (x : Float) : List (String × Node) :=
  [("lamp", .leaf { (default : Traits) with expression := some "get('switch')" } (.boolean false)),
    ("reading", .leaf { (default : Traits) with watchers := ["value"] } (.number x)),
    ("switch", .leaf {} (.boolean true))]

def desk (x : Float) : Tree := ⟨.object {} (deskParts x)⟩

/-- The document of the desk by itself. -/
def deskDisk (x : Float) : Disk := [("desk.json", (desk x).exportDocument (Timestamp.text {}))]

theorem valid_desk (x : Float) : (desk x).Valid := ⟨rfl, rfl⟩

theorem boundsFinite_desk (x : Float) : (desk x).root.BoundsFinite := by
  refine Node.boundsFinite_iff.mpr ⟨fun rules h => ?_, fun c hc => ?_⟩
  · cases h
  have hleaf : ∃ r v, c.2 = .leaf r v ∧ r.validation = none := by
    simp only [desk, deskParts, Node.kids, List.mem_cons, List.not_mem_nil, or_false] at hc
    rcases hc with rfl | rfl | rfl <;> exact ⟨_, _, rfl, rfl⟩
  obtain ⟨r, v, hc, hr⟩ := hleaf
  have hnone : (Node.leaf r v).traits.validation = none := hr
  rw [hc]
  refine Node.boundsFinite_iff.mpr ⟨fun rules h => ?_, fun c hc => absurd hc List.not_mem_nil⟩
  rw [hnone] at h
  cases h

theorem lookup_desk (x : Float) : Json.lookup "desk.json" (deskDisk x) =
    some ((desk x).exportDocument (Timestamp.text {})) := by
  rw [deskDisk, Json.lookup_cons, if_pos rfl]

/-- A desk is loaded from its document, if that can show the reading. -/
theorem loadTree_desk {x : Float} (hx : (Scalar.number x).settled = .number x)
    (hdepth : (desk x).toWire.depth < Json.maxDepth) :
    runOn (loadTree (memory {}) "desk.json") (deskDisk x) = (.ok (desk x), deskDisk x) := by
  have hascending : Json.Ascending (deskParts x) :=
    Json.ascending_iff.mpr (by decide : ["lamp", "reading", "switch"].Pairwise (· < ·))
  have hrestored : (desk x).root.restored true = (desk x).root := by
    rw [desk, Node.restored_object true {} hascending.nodup, Json.arrangeMembers, if_pos rfl,
      Json.sortMembers_of_ascending hascending]
    simp only [deskParts, List.map_cons, List.map_nil, Node.restored_leaf, hx]
    rfl
  have himport := Tree.importDocument_exported (valid_desk x) (boundsFinite_desk x) hdepth
    (Timestamp.text {})
  rw [hrestored] at himport
  have hload : runOn (load (memory {}) "Failed to read tree file" "desk.json") (deskDisk x) =
      (.ok ((desk x).exportDocument (Timestamp.text {})), deskDisk x) :=
    runOn_load _ (lookup_desk x)
  rw [loadTree, runOn_bind_of_ok hload, himport]
  rfl

/-- No snapshot is there before the first run. -/
theorem loadSnapshot_desk (x : Float) :
    runOn (loadSnapshot (memory {}) (some "last.json")) (deskDisk x) = (.ok none, deskDisk x) := rfl

/-- The next run reads what the first one left of a desk with a reading of one half. -/
theorem evaluate_reread_desk : ∃ answer d',
    runOn (evaluate (memory {}) "desk.json" none (some "last.json") true) (deskDisk 0.5) =
      (.ok answer, d') ∧
    Reread {} "last.json" ((Pipeline.ofSettings {}).react (desk 0.5) none) d' := by
  have hsettled : (Scalar.number 0.5).settled = .number 0.5 :=
    congrArg Scalar.number (if_pos (by decide +kernel))
  have hfinite : ((Pipeline.ofSettings {}).react (desk 0.5) none).2.1.root.NumbersFinite := by
    rw [← Snapshot.all_isFinite_capture (valid_react _ (valid_desk _) _)]
    decide +kernel
  have htree := loadTree_desk hsettled (by decide +kernel)
  obtain ⟨answer, d', hrun, hreread, -⟩ := evaluate_reread true (valid_desk 0.5)
    (runOn_loadSettings _) htree (loadSnapshot_desk 0.5) (by decide) rfl
  exact ⟨answer, d', hrun, hreread hfinite⟩

/-- The next run does not read what the first one left of a desk whose reading is no number. -/
theorem evaluate_desk_lost : ∃ answer d',
    runOn (evaluate (memory {}) "desk.json" none (some "last.json") false) (deskDisk Decimal.nan) =
      (.ok answer, d') ∧
    runOn (loadSnapshot (memory {}) (some "last.json")) d' =
      (.error ["Invalid snapshot \"last.json\"", "data"], d') := by
  have hsettled : (Scalar.number Decimal.nan).settled = .number Decimal.nan :=
    congrArg Scalar.number (if_neg (by decide +kernel))
  have hnot :
      ¬ ((Pipeline.ofSettings {}).react (desk Decimal.nan) none).2.1.root.NumbersFinite := by
    rw [← Snapshot.all_isFinite_capture (valid_react _ (valid_desk _) _)]
    decide +kernel
  have htree := loadTree_desk hsettled (by decide +kernel)
  have hrun := runOn_evaluate false (runOn_loadSettings _) htree (loadSnapshot_desk _) rfl
  have hread : false = true → "desk.json" ≠ "last.json" := by
    intro h
    cases h
  exact ⟨_, _, hrun, not_reread_of_not_finite _ (valid_desk _) none hnot (lookup_leftBy hread _)⟩

end ReactiveTree.CommandLine
