import ReactiveTree.Snippet.Engine

/-!
# Failures of programs that are ready

A source that is no program is found when it is made ready, and so is one with a word that reaches
outside. A program that is ready fails in other ways, with one exception: while it runs it may read
a text of data that is not well-formed, and that failure looks the same. So a program that reads all
texts that it comes upon does not fail for being no program (`Engine.isUnready_of_run`). A run that
only uses names and constants reads no text (`Program.readsAll_of_isFlat`).

Key definitions: `SnippetError.isUnready`, `Run.ReadsAll`, `Program.ReadsAll`, `Engine.ReadyFor`.
Key theorems: `Run.ReadsAll.bind`, `Program.readsAll_of_isFlat`, `Engine.isUnready_of_run`.
-/
namespace ReactiveTree.Snippet

/-! ### Runs -/

/-- The run does not end with a text that is not well-formed. -/
def Run.ReadsAll {α : Type} (r : Run α) : Prop :=
  ∀ m e pos m', r m = .error (.fault e pos) m' → e.root ≠ .malformed

namespace Run.ReadsAll

variable {α β : Type} {r : Run α}

theorem pure (a : α) : ReadsAll (Pure.pure a : Run α) := fun _ _ _ _ h => nomatch h

theorem bind {f : α → Run β} (hr : ReadsAll r) (hf : ∀ a, ReadsAll (f a)) :
    ReadsAll (r >>= f) := by
  intro m e pos m' h
  cases hm : r m with
  | ok a n =>
    have hrun : (r >>= f) m = f a n := by simp only [Bind.bind, EStateM.bind, hm]
    exact hf a n e pos m' (hrun ▸ h)
  | error i n =>
    have hrun : (r >>= f) m = .error i n := by simp only [Bind.bind, EStateM.bind, hm]
    rw [hrun] at h
    obtain ⟨rfl, rfl⟩ := EStateM.Result.error.inj h
    exact hr m e pos _ hm

theorem foldlM {f : β → α → Run β} : ∀ {l : List α}, (∀ a ∈ l, ∀ b, ReadsAll (f b a)) →
    ∀ b, ReadsAll (l.foldlM f b)
  | [], _, b => pure b
  | a :: l, h, b => by
    rw [List.foldlM_cons]
    exact bind (h a List.mem_cons_self b) (foldlM fun a' ha => h a' (List.mem_cons_of_mem a ha))

theorem get : ReadsAll (MonadState.get : Run Machine) := fun _ _ _ _ h => nomatch h

theorem set (m : Machine) : ReadsAll (MonadState.set m : Run PUnit) := fun _ _ _ _ h => nomatch h

theorem fail {e : RunError} (h : e.root ≠ .malformed) : ReadsAll (Snippet.fail e : Run α) := by
  rintro m e' pos m' ⟨⟩
  exact h

theorem placed (h : ReadsAll r) (pos : Position) : ReadsAll (Snippet.placed pos r) := by
  intro m e pos' m' he
  unfold Snippet.placed at he
  cases hm : r m with
  | ok a n =>
    rw [hm] at he
    cases he
  | error i n =>
    rw [hm] at he
    cases i with
    | fault e' inner =>
      cases inner with
      | none =>
        cases he
        exact h m _ _ _ hm
      | some inner =>
        cases he
        exact h m _ _ _ hm
    | leave v => cases he
    | skip => cases he
    | give v => cases he

theorem tick (env : Env) : ReadsAll (Snippet.tick env) := by
  unfold Snippet.tick
  refine bind get fun m => bind (set _) fun _ => ?_
  cases h : env.limits.exceeded? (m.operations + 1) with
  | none => exact pure _
  | some e =>
    refine fail ?_
    unfold Limits.exceeded? at h
    split at h
    · obtain rfl := Option.some.inj h
      exact nofun
    · split at h
      · obtain rfl := Option.some.inj h
        exact nofun
      · cases h

theorem readName (env : Env) (name : String) : ReadsAll (Snippet.readName env name) := by
  have hfind : ReadsAll (findVariable name) := by
    unfold findVariable
    refine bind get fun m => ?_
    split
    · exact pure _
    · exact fail nofun
  have hflat (d : Datum) : ReadsAll (flattened d) := by
    unfold flattened
    split
    · exact bind get fun _ => pure _
    · exact pure _
  unfold Snippet.readName
  refine bind get fun m => ?_
  split
  · exact pure _
  · exact bind hfind fun v => hflat v.value

end Run.ReadsAll

/-! ### Programs -/

/-- No run of the program ends with a text that is not well-formed. -/
def Program.ReadsAll (limits : Limits) (p : Program) : Prop :=
  ∀ read given e, (p.run limits read given).1 = .error e → e.root ≠ .malformed

/-- A name or a constant. -/
def Stmt.isFlat : Stmt → Bool
  | .expr (.var _ _) | .expr (.constant _ _) => true
  | _ => false

/-! What the evaluator does with names and constants. -/

theorem evalExpr_zero (env : Env) (e : Expr) : evalExpr 0 env e = fail .timedOut := rfl

theorem evalExpr_var (fuel : Nat) (env : Env) (name : String) (pos : Position) :
    evalExpr (fuel + 1) env (.var name pos) = (do tick env; placed pos (readName env name)) :=
  rfl

theorem evalExpr_constant (fuel : Nat) (env : Env) (d : Datum) (pos : Position) :
    evalExpr (fuel + 1) env (.constant d pos) = (do tick env; return d) := rfl

theorem evalStmt_zero (env : Env) (s : Stmt) : evalStmt 0 env s = fail .timedOut := rfl

theorem evalStmt_var (fuel : Nat) (env : Env) (name : String) (pos : Position) :
    evalStmt (fuel + 1) env (.expr (.var name pos)) =
      (do tick env; evalExpr fuel env (.var name pos)) := rfl

theorem evalStmt_constant (fuel : Nat) (env : Env) (d : Datum) (pos : Position) :
    evalStmt (fuel + 1) env (.expr (.constant d pos)) =
      (do tick env; evalExpr fuel env (.constant d pos)) := rfl

theorem evalStmts_zero (env : Env) (body : List Stmt) : evalStmts 0 env body = fail .timedOut := rfl

theorem evalStmts_succ (fuel : Nat) (env : Env) (body : List Stmt) :
    evalStmts (fuel + 1) env body = body.foldlM (fun _ s => evalStmt fuel env s) .unit := rfl

namespace Run.ReadsAll

theorem evalVar (fuel : Nat) (env : Env) (name : String) (pos : Position) :
    ReadsAll (evalExpr fuel env (.var name pos)) := by
  cases fuel with
  | zero =>
    rw [evalExpr_zero]
    exact fail nofun
  | succ fuel =>
    rw [evalExpr_var]
    exact bind (tick env) fun _ => placed (readName env name) pos

theorem evalConstant (fuel : Nat) (env : Env) (d : Datum) (pos : Position) :
    ReadsAll (evalExpr fuel env (.constant d pos)) := by
  cases fuel with
  | zero =>
    rw [evalExpr_zero]
    exact fail nofun
  | succ fuel =>
    rw [evalExpr_constant]
    exact bind (tick env) fun _ => pure d

theorem evalStmt {s : Stmt} (h : s.isFlat = true) (fuel : Nat) (env : Env) :
    ReadsAll (Snippet.evalStmt fuel env s) := by
  cases fuel with
  | zero =>
    rw [evalStmt_zero]
    exact fail nofun
  | succ fuel =>
    unfold Stmt.isFlat at h
    split at h
    · rw [evalStmt_var]
      exact bind (tick env) fun _ => evalVar fuel env _ _
    · rw [evalStmt_constant]
      exact bind (tick env) fun _ => evalConstant fuel env _ _
    · cases h

theorem evalStmts {body : List Stmt} (h : body.all Stmt.isFlat = true) (fuel : Nat) (env : Env) :
    ReadsAll (Snippet.evalStmts fuel env body) := by
  cases fuel with
  | zero =>
    rw [evalStmts_zero]
    exact fail nofun
  | succ fuel =>
    rw [evalStmts_succ]
    exact foldlM (fun s hs _ => evalStmt (List.all_eq_true.mp h s hs) fuel env) _

end Run.ReadsAll

/-- An error that a run ends with is a fault of the run. -/
theorem Program.fault_of_ending {r : EStateM.Result Interrupt Machine Datum} {e : RunError}
    (h : (ending r).1 = .error e) : ∃ pos m, r = .error (.fault e pos) m := by
  unfold ending at h
  split at h
  · cases h
  · cases h
  · cases h
  · obtain rfl := Except.error.inj h
    exact ⟨_, _, rfl⟩
  · cases h
  · cases h

/-- **A program of names and constants reads no text.** -/
theorem Program.readsAll_of_isFlat {p : Program} (h : p.body.all Stmt.isFlat = true)
    (limits : Limits) : p.ReadsAll limits := by
  intro read given e he
  rw [Program.run] at he
  obtain ⟨pos, m, hrun⟩ := fault_of_ending he
  exact Run.ReadsAll.evalStmts h _ _ _ _ _ _ hrun

/-! ### Engines -/

/-- The source is no program, or it has a word that reaches outside. -/
def SnippetError.isUnready : SnippetError → Bool
  | malformed | disallowed _ => true
  | failed _ | timedOut _ | runaway _ => false

theorem SnippetError.isUnready_ofRunError {e : RunError} (limits : Limits)
    (h : e.root ≠ .malformed) : (ofRunError limits e).isUnready = false := by
  rw [ofRunError]
  split
  · rfl
  · rfl
  · rename_i heq
    exact absurd heq h
  · rfl

namespace Engine

variable {e : Engine} {source : String} {bindings : Bindings} {err : SnippetError}

/-- The engine makes of the source a program that reads all texts that it comes upon. -/
def ReadyFor (e : Engine) (source : String) : Prop :=
  ∃ c, (e.compile source).1 = .ok c ∧ c.program.ReadsAll e.limits

/-- A program that reads all texts does not fail for being no program. -/
theorem isUnready_of_run {s : Compiled} (hs : s.program.ReadsAll e.limits)
    (h : (e.run s bindings).1 = .error err) : err.isUnready = false := by
  unfold Engine.run at h
  dsimp only at h
  cases hr : (s.program.run e.limits e.read
      (if s.readsRoot then bindings ++ [("root", e.root)] else bindings)).1 with
  | ok d =>
    rw [hr] at h
    cases h
  | error re =>
    rw [hr] at h
    obtain rfl : SnippetError.ofRunError e.limits re = err := Except.error.inj h
    exact SnippetError.isUnready_ofRunError e.limits (hs _ _ _ hr)

end Engine

/-- A text of data that is not well-formed fails while the program runs, as if the program were
none. -/
example : (match compile {} "parse_json('[')" with
    | .ok c => match (({} : Engine).run c []).1 with
      | .error err => err.isUnready
      | .ok _ => false
    | .error _ => false) = true := by decide +kernel

end ReactiveTree.Snippet
