import ReactiveTree.Proofs.Reaction.Outcome
import ReactiveTree.Proofs.Snippet.Failures

/-!
# Operators that assign

The host computes the operators between two integers: a result that is no integer of the language,
and every quotient, is a float (`numberModel`). An operator that assigns does not come to the host.
It computes with integers alone, so that its result, where there is one, is the exact integer, a
quotient without its fraction, and where there is none the snippet fails. The two ways to write an
operator therefore agree just where it is no division and has a result in the range of integers
(`Engine.eval_assigning`).

Both ways are run to their end here, one operation after another, on any engine whose limits leave
room for them.

Key definitions: `whole?`, `numberModel`, `Machine.Holds`, `Env.Affords`, `Engine.Computes`.
Key theorems: `onInts_eq`, `assigningInts_of_exact`, `evalCall_ints`, `evalStmt_assign`,
`Engine.eval_assigning`.
-/
namespace ReactiveTree.Snippet

variable {a b n : Int} {op : BinaryOp}

/-! ### The number model -/

/-- The exact integer result within the range of integers. -/
def whole? : BinaryOp → Int → Int → Option Int
  | .add, a, b => (some (a + b)).filter Word64.inRange
  | .sub, a, b => (some (a - b)).filter Word64.inRange
  | .mul, a, b => (some (a * b)).filter Word64.inRange
  | .div, a, b => if b = 0 then none else (some (a.tdiv b)).filter Word64.inRange
  | .rem, a, b => if b = 0 ∨ (a = Word64.minInt ∧ b = -1) then none else some (a.tmod b)
  | _, _, _ => none

/-- The operator on floats. -/
def inFloats : BinaryOp → Float → Float → Float
  | .add, x, y => x + y
  | .sub, x, y => x - y
  | .mul, x, y => x * y
  | .div, x, y => x / y
  | _, x, y => Decimal.remainder x y

/-- The float quotient, and for the other operators the exact integer or else the float. -/
def numberModel (op : BinaryOp) (a b : Int) : Datum :=
  let inexact : Datum := .float (inFloats op (Scalar.ofInt a) (Scalar.ofInt b))
  if op = .div then inexact else ((whole? op a b).map Datum.int).getD inexact

theorem mem_widening : op ∈ widening ↔
    op = .add ∨ op = .sub ∨ op = .mul ∨ op = .div ∨ op = .rem := by
  simp [widening]

theorem widen_eq (n : Int) (x : Float) :
    widen n x = (((some n).filter Word64.inRange).map Datum.int).getD (.float x) := by
  rw [widen, Option.filter_some]
  split <;> rfl

/-- **The operators between integers follow the number model.** -/
theorem onInts_eq (hop : op ∈ widening) (a b : Int) :
    onInts op a b = .ok (numberModel op a b) := by
  rcases mem_widening.mp hop with rfl | rfl | rfl | rfl | rfl
  · exact congrArg Except.ok (widen_eq _ _)
  · exact congrArg Except.ok (widen_eq _ _)
  · exact congrArg Except.ok (widen_eq _ _)
  · rfl
  · unfold onInts numberModel whole?
    by_cases h : b = 0 ∨ (a = Word64.minInt ∧ b = -1)
    · simp only [if_pos h]
      rfl
    · simp only [if_neg h]
      rfl

/-- **An operator that assigns gives the exact integer**, also of a quotient. -/
theorem assigningInts_of_exact (h : whole? op a b = some n) :
    assigningInts op a b = .ok (.int n) := by
  unfold whole? at h
  unfold assigningInts
  split at h
  · obtain ⟨hn, hr⟩ := Option.filter_eq_some_iff.mp h
    simp [Option.some.inj hn, hr]
  · obtain ⟨hn, hr⟩ := Option.filter_eq_some_iff.mp h
    simp [Option.some.inj hn, hr]
  · obtain ⟨hn, hr⟩ := Option.filter_eq_some_iff.mp h
    simp [Option.some.inj hn, hr]
  · split at h
    · cases h
    · rename_i hb
      obtain ⟨hn, hr⟩ := Option.filter_eq_some_iff.mp h
      simp [hb, Option.some.inj hn, hr]
  · split at h
    · cases h
    · rename_i hb
      simp only [if_neg hb, Option.some.inj h]
  · cases h

/-- **An operator that assigns fails where there is no exact integer.** -/
theorem assigningInts_of_inexact (hop : op ∈ widening) (h : whole? op a b = none) :
    ∃ text, assigningInts op a b = .error (.arithmetic text) := by
  rcases mem_widening.mp hop with rfl | rfl | rfl | rfl | rfl
  · have hr : ¬ Word64.inRange (a + b) = true := by simpa [whole?] using h
    exact ⟨_, if_neg hr⟩
  · have hr : ¬ Word64.inRange (a - b) = true := by simpa [whole?] using h
    exact ⟨_, if_neg hr⟩
  · have hr : ¬ Word64.inRange (a * b) = true := by simpa [whole?] using h
    exact ⟨_, if_neg hr⟩
  · by_cases hb : b = 0
    · exact ⟨_, if_pos hb⟩
    · have hr : ¬ Word64.inRange (a.tdiv b) = true := by simpa [whole?, hb] using h
      exact ⟨_, (if_neg hb).trans (if_neg hr)⟩
  · by_cases hb : b = 0 ∨ (a = Word64.minInt ∧ b = -1)
    · exact ⟨_, if_pos hb⟩
    · rw [whole?, if_neg hb] at h
      cases h

/-- A number has no size. -/
theorem size_numberModel (op : BinaryOp) (a b : Int) : (numberModel op a b).size = {} := by
  unfold numberModel
  split
  · rfl
  · cases whole? op a b <;> rfl

/-! ### Operations -/

variable {α β : Type} {m m' : Machine} {env : Env} {x y : String} {d : Datum}

theorem Run.bind_ok {r : Run α} {v : α} (h : r m = .ok v m') (f : α → Run β) :
    (r >>= f) m = f v m' := by
  change EStateM.bind r f m = f v m'
  rw [EStateM.bind, h]

theorem Run.bind_error {r : Run α} {i : Interrupt} (h : r m = .error i m') (f : α → Run β) :
    (r >>= f) m = .error i m' := by
  change EStateM.bind r f m = .error i m'
  rw [EStateM.bind, h]

theorem get_ok (m : Machine) : (get : Run Machine) m = .ok m m := rfl

theorem placed_ok {r : Run α} {v : α} (h : r m = .ok v m') (pos : Position) :
    placed pos r m = .ok v m' := by
  unfold placed
  simp only [h]

theorem placed_error {r : Run α} {e : RunError} (h : r m = .error (.fault e none) m')
    (pos : Position) : placed pos r m = .error (.fault e (some pos)) m' := by
  unfold placed
  simp only [h]

/-- The machine some operations later. -/
def Machine.ticked (m : Machine) (k : Nat) : Machine := { m with operations := m.operations + k }

@[simp] theorem Machine.scope_ticked (m : Machine) (k : Nat) : (m.ticked k).scope = m.scope := rfl

@[simp] theorem Machine.ticked_ticked (m : Machine) (j k : Nat) :
    (m.ticked j).ticked k = m.ticked (j + k) := by
  simp [ticked, Nat.add_assoc]

/-- The next operations stay within the budget. -/
def Env.Affords (env : Env) (m : Machine) (k : Nat) : Prop :=
  ∀ i, i < k → env.limits.exceeded? (m.operations + i + 1) = none

theorem Env.Affords.rest {j k : Nat} (h : env.Affords m (j + k)) : env.Affords (m.ticked j) k :=
  fun i hi => by
    have := h (j + i) (by omega)
    rwa [← Nat.add_assoc] at this

theorem Env.Affords.mono {j k : Nat} (h : env.Affords m k) (hj : j ≤ k) : env.Affords m j :=
  fun i hi => h i (by omega)

theorem tick_ok (h : env.Affords m 1) : tick env m = .ok () (m.ticked 1) := by
  have hnone : env.limits.exceeded? (m.operations + 1) = none := h 0 (by omega)
  have hset : (set { m with operations := m.operations + 1 } : Run PUnit) m =
      .ok ⟨⟩ (m.ticked 1) := rfl
  unfold tick
  rw [Run.bind_ok (get_ok m), Run.bind_ok hset, hnone]
  rfl

/-- An integer is within all limits on sizes, and a float too. -/
theorem sized_ok (hd : d.size = {}) (env : Env) (m : Machine) : sized env d m = .ok d m := by
  have hwithin : ∀ limit, within limit 0 = true := by simp [within]
  have hnone : env.limits.tooLarge? d.size = none := by
    rw [hd, Limits.tooLarge?]
    simp [hwithin]
  unfold sized
  rw [hnone]
  rfl

/-- A variable holds an integer and may be changed. -/
def Machine.Holds (m : Machine) (x : String) (n : Int) : Prop :=
  m.scope.find? (·.name == x) = some { name := x, value := .int n }


theorem Machine.Holds.ticked (h : m.Holds x n) (k : Nat) : (m.ticked k).Holds x n := h

theorem findVariable_ok (h : m.Holds x n) :
    findVariable x m = .ok { name := x, value := .int n } m := by
  have hfind : m.scope.find? (·.name == x) = some { name := x, value := .int n } := h
  unfold findVariable
  rw [Run.bind_ok (get_ok m), hfind]
  rfl

theorem readName_ok (h : m.Holds x n) (env : Env) : readName env x m = .ok (.int n) m := by
  have hany : m.scope.any (·.name == x) = true := by
    rw [List.any_eq_true, ← List.find?_isSome, show m.scope.find? (·.name == x) = _ from h]
    rfl
  have hstep : readName env x m = (if !m.scope.any (·.name == x) && env.hasFunction x then
      pure (.function x []) else findVariable x >>= fun v => flattened v.value : Run Datum) m := rfl
  rw [hstep, hany, Bool.not_true, Bool.false_and, if_neg Bool.false_ne_true,
    Run.bind_ok (findVariable_ok h)]
  rfl

/-- A name is one operation. -/
theorem evalExpr_name (h : m.Holds x n) (hb : env.Affords m 1) (fuel : Nat) (p : Position) :
    evalExpr (fuel + 1) env (.var x p) m = .ok (.int n) (m.ticked 1) := by
  rw [evalExpr_var, Run.bind_ok (tick_ok hb), placed_ok (readName_ok (h.ticked 1) env)]

theorem heldVariable_ok (h : m.Holds x n) (env : Env) :
    heldVariable env x m = .ok (.int n, .named x) m := by
  have hfind : m.scope.find? (·.name == x) = some { name := x, value := .int n } := h
  unfold heldVariable
  rw [Run.bind_ok (get_ok m), hfind]
  rfl

/-- Two names as arguments are two operations. -/
theorem evalArgs_names (hx : m.Holds x a) (hy : m.Holds y b) (hb : env.Affords m 2) (fuel : Nat)
    (p q : Position) : evalArgs (fuel + 2) env [.var x p, .var y q] m =
      .ok ([.int a, .int b], .named x) (m.ticked 2) := by
  have hrest : (([Expr.var y q].mapM (evalExpr (fuel + 1) env)) : Run (List Datum)) (m.ticked 1) =
      .ok [.int b] (m.ticked 2) := by
    have hname := evalExpr_name (hy.ticked 1) (hb.rest (j := 1)) fuel q
    rw [List.mapM_cons, Run.bind_ok hname]
    rfl
  have hheld := placed_ok (heldVariable_ok (hx.ticked 2) env) p
  have hstep : evalArgs (fuel + 2) env [.var x p, .var y q] = (do
      tick env
      let ds ← [Expr.var y q].mapM (evalExpr (fuel + 1) env)
      let held ← placed p (heldVariable env x)
      return (held.1 :: ds, held.2)) := rfl
  rw [hstep, Run.bind_ok (tick_ok (hb.mono (by omega))), Run.bind_ok hrest, Run.bind_ok hheld]
  rfl

/-- An operator on two names is three operations. -/
theorem evalCall_ints (hx : m.Holds x a) (hy : m.Holds y b) (hb : env.Affords m 3)
    (hr : onInts op a b = .ok d) (hd : d.size = {}) (fuel : Nat) (p q pos : Position) :
    evalCall (fuel + 3) env (.binary op (.var x p) (.var y q) pos) m = .ok d (m.ticked 3) := by
  have hdepth : operatorDepth op (.int a) (.int b) = 0 := by cases op <;> rfl
  have hpeak : peak env (operatorDepth op (.int a) (.int b)) (m.ticked 3) = .ok () (m.ticked 3) := by
    rw [hdepth]
    rfl
  have happly : placed pos (ofResult (applyBinary op (.int a) (.int b))) (m.ticked 3) =
      .ok d (m.ticked 3) := by
    refine placed_ok ?_ pos
    have hints : applyBinary op (.int a) (.int b) = onInts op a b := by cases op <;> rfl
    rw [hints, hr]
    rfl
  unfold evalCall
  dsimp only
  rw [Run.bind_ok (evalArgs_names hx hy (hb.mono (by omega)) fuel p q)]
  dsimp only
  rw [Run.bind_ok (tick_ok (hb.rest (j := 2))), Machine.ticked_ticked, Run.bind_ok hpeak,
    Run.bind_ok happly, sized_ok hd]

/-! ### Statements -/

theorem evalStmt_binary (hx : m.Holds x a) (hy : m.Holds y b) (hb : env.Affords m 4)
    (hr : onInts op a b = .ok d) (hd : d.size = {}) (fuel : Nat) (p q pos : Position) :
    evalStmt (fuel + 4) env (.expr (.binary op (.var x p) (.var y q) pos)) m =
      .ok d (m.ticked 4) := by
  have hstep : evalStmt (fuel + 4) env (.expr (.binary op (.var x p) (.var y q) pos)) = (do
      tick env
      evalCall (fuel + 3) env (.binary op (.var x p) (.var y q) pos)) := rfl
  rw [hstep, Run.bind_ok (tick_ok (hb.mono (by omega))),
    evalCall_ints (hx.ticked 1) (hy.ticked 1) (hb.rest (j := 1)) hr hd, Machine.ticked_ticked]

theorem evalStmt_name (h : m.Holds x n) (hb : env.Affords m 2) (fuel : Nat) (p : Position) :
    evalStmt (fuel + 2) env (.expr (.var x p)) m = .ok (.int n) (m.ticked 2) := by
  rw [evalStmt_var, Run.bind_ok (tick_ok (hb.mono (by omega))),
    evalExpr_name (h.ticked 1) (hb.rest (j := 1)), Machine.ticked_ticked]

/-- The machine with one more variable. -/
def Machine.pushed (m : Machine) (x : String) (d : Datum) : Machine :=
  { m with scope := { name := x, value := d } :: m.scope }

/-- The machine in which a variable has another value. -/
def Machine.stored (m : Machine) (x : String) (d : Datum) : Machine :=
  { m with scope := replaceFirst x d m.scope }

theorem Machine.holds_pushed (m : Machine) (x : String) (n : Int) :
    (m.pushed x (.int n)).Holds x n := by
  simp [Holds, pushed]

theorem Machine.Holds.pushed (h : m.Holds y b) (hne : x ≠ y) (d : Datum) :
    (m.pushed x d).Holds y b := by
  have hname : (x == y) = false := beq_eq_false_iff_ne.mpr hne
  unfold Holds Machine.pushed
  simp only [List.find?_cons, hname]
  exact h

theorem find?_replaceFirst {v : Variable} : ∀ {scope : List Variable},
    scope.find? (·.name == x) = some v →
      (replaceFirst x d scope).find? (·.name == x) = some { v with value := d }
  | w :: scope, h => by
    unfold replaceFirst
    rw [List.find?_cons] at h
    cases hw : w.name == x with
    | true =>
      rw [hw] at h
      rw [if_pos rfl, List.find?_cons, hw, ← Option.some.inj h]
    | false =>
      rw [hw] at h
      rw [if_neg Bool.false_ne_true, List.find?_cons, hw]
      exact find?_replaceFirst h

theorem Machine.Holds.stored (h : m.Holds x a) (n : Int) : (m.stored x (.int n)).Holds x n :=
  find?_replaceFirst h

theorem store_ok (h : m.Holds x a) (d : Datum) : store x d m = .ok () (m.stored x d) := by
  unfold store
  rw [Run.bind_ok (findVariable_ok h)]
  rfl

theorem evalStmt_declare (h : m.Holds y b) (hb : env.Affords m 2) (fuel : Nat) (q : Position) :
    evalStmt (fuel + 2) env (.declare x (.var y q) false) m =
      .ok .unit ((m.ticked 2).pushed x (.int b)) := by
  have hstep : evalStmt (fuel + 2) env (.declare x (.var y q) false) = (do
      tick env
      let d ← evalExpr (fuel + 1) env (.var y q)
      push x d
      return .unit) := rfl
  rw [hstep, Run.bind_ok (tick_ok (hb.mono (by omega))),
    Run.bind_ok (evalExpr_name (h.ticked 1) (hb.rest (j := 1)) fuel q), Machine.ticked_ticked]
  rfl

/-- An assigning operator on two integers is one operation, and computes with integers alone. -/
theorem apply_ints (hb : env.Affords m 1) (op : BinaryOp) (a b : Int) (x : String)
    (p pos : Position) : (Change.of (some op, .int b, pos) x p).apply env ⟨.int a, none⟩ m =
      placed pos (ofResult (assigningInts op a b) >>= sized env) (m.ticked 1) := by
  have hints : applyAssigning op (.int a) (.int b) = assigningInts op a b := by cases op <;> rfl
  have hstep : (Change.of (some op, .int b, pos) x p).apply env ⟨.int a, none⟩ = placed pos (do
      tick env
      sized env (← ofResult (applyAssigning op (.int a) (.int b)))) := rfl
  rw [hstep, hints]
  unfold placed
  rw [Run.bind_ok (tick_ok hb)]

theorem evalStmt_assign_eq (hx : m.Holds x a) (hy : m.Holds y b) (hb : env.Affords m 4)
    (fuel : Nat) (p q pos : Position) :
    evalStmt (fuel + 2) env (.assign (.var x p) (some op) (.var y q) pos) m =
      ((Change.of (some op, .int b, pos) x p).apply env ⟨.int a, none⟩ >>= fun d =>
        store x d >>= fun _ => pure .unit : Run Datum) (m.ticked 3) := by
  have hstep : evalStmt (fuel + 2) env (.assign (.var x p) (some op) (.var y q) pos) = (do
      tick env
      let v ← evalExpr (fuel + 1) env (.var y q)
      tick env
      let target ← placed p (findVariable x)
      let old ← flattened target.value
      store x (← (Change.of (some op, v, pos) x p).apply env ⟨old, target.fixed⟩)
      return .unit) := rfl
  rw [hstep, Run.bind_ok (tick_ok (hb.mono (by omega))),
    Run.bind_ok (evalExpr_name (hy.ticked 1) (hb.mono (by omega)).rest fuel q), Machine.ticked_ticked,
    Run.bind_ok (tick_ok (hb.mono (by omega)).rest), Machine.ticked_ticked,
    Run.bind_ok (placed_ok (findVariable_ok (hx.ticked _)) p)]
  rfl

theorem evalStmt_assign (hx : m.Holds x a) (hy : m.Holds y b) (hb : env.Affords m 4)
    (hr : assigningInts op a b = .ok (.int n)) (fuel : Nat) (p q pos : Position) :
    evalStmt (fuel + 2) env (.assign (.var x p) (some op) (.var y q) pos) m =
      .ok .unit ((m.ticked 4).stored x (.int n)) := by
  have happly : (Change.of (some op, .int b, pos) x p).apply env ⟨.int a, none⟩ (m.ticked 3) =
      .ok (.int n) (m.ticked 4) := by
    have hvalue : ofResult (assigningInts op a b) (m.ticked 4) = .ok (.int n) (m.ticked 4) := by
      rw [hr]
      rfl
    rw [apply_ints (hb.rest (j := 3)), Machine.ticked_ticked]
    refine placed_ok ?_ pos
    rw [Run.bind_ok hvalue, sized_ok rfl]
  rw [evalStmt_assign_eq hx hy hb, Run.bind_ok happly, Run.bind_ok (store_ok (hx.ticked 4) _)]
  rfl

theorem evalStmt_assign_error {err : RunError} (hx : m.Holds x a) (hy : m.Holds y b)
    (hb : env.Affords m 4) (hr : assigningInts op a b = .error err) (fuel : Nat)
    (p q pos : Position) :
    evalStmt (fuel + 2) env (.assign (.var x p) (some op) (.var y q) pos) m =
      .error (.fault err (some pos)) (m.ticked 4) := by
  have happly : (Change.of (some op, .int b, pos) x p).apply env ⟨.int a, none⟩ (m.ticked 3) =
      .error (.fault err (some pos)) (m.ticked 4) := by
    have hvalue : ofResult (assigningInts op a b) (m.ticked 4) =
        .error (.fault err none) (m.ticked 4) := by
      rw [hr]
      rfl
    rw [apply_ints (hb.rest (j := 3)), Machine.ticked_ticked]
    refine placed_error ?_ pos
    rw [Run.bind_error hvalue]
  rw [evalStmt_assign_eq hx hy hb, Run.bind_error happly]

/-! ### The two ways to write an operator -/

/-- An operator between two variables. -/
def plainSource (op : BinaryOp) : String := "a " ++ op.symbol ++ " b"

/-- An operator that assigns to a copy of the first variable. -/
def assigningSource (op : BinaryOp) : String := "let x = a; x " ++ op.symbol ++ "= b; x"

def plainProgram (op : BinaryOp) : Program :=
  ⟨[], [.expr (.binary op (.var "a" ⟨1, 1⟩) (.var "b" ⟨1, 5⟩) ⟨1, 1⟩)]⟩

def assigningProgram (op : BinaryOp) : Program :=
  ⟨[], [.declare "x" (.var "a" ⟨1, 9⟩) false,
    .assign (.var "x" ⟨1, 12⟩) (some op) (.var "b" ⟨1, 17⟩) ⟨1, 14⟩, .expr (.var "x" ⟨1, 20⟩)]⟩

/-- The limits leave room for both sources: expressions nest four deep, and a run takes eight
operations. -/
structure Limits.Roomy (l : Limits) : Prop where
  depth : 4 ≤ l.depth
  operations : within l.operations 8 = true

theorem normalize_sources : ∀ op ∈ widening,
    (Source.normalize (plainSource op)).toOption = some ⟨plainSource op, false⟩ ∧
    (Source.normalize (assigningSource op)).toOption = some ⟨assigningSource op, false⟩ := by
  decide +kernel

theorem read?_plain {l : Limits} (hl : l.Roomy) (hop : op ∈ widening) :
    Program.read? l (plainSource op) = some (plainProgram op) := by
  obtain ⟨operations, time, calls, depth, text, items, entries⟩ := l
  obtain ⟨k, hk⟩ := Nat.exists_eq_add_of_le' hl.depth
  obtain rfl : depth = k + 4 := hk
  clear hl
  rcases mem_widening.mp hop with rfl | rfl | rfl | rfl | rfl <;> cbv

theorem read?_assigning {l : Limits} (hl : l.Roomy) (hop : op ∈ widening) :
    Program.read? l (assigningSource op) = some (assigningProgram op) := by
  obtain ⟨operations, time, calls, depth, text, items, entries⟩ := l
  obtain ⟨k, hk⟩ := Nat.exists_eq_add_of_le' hl.depth
  obtain rfl : depth = k + 4 := hk
  clear hl
  rcases mem_widening.mp hop with rfl | rfl | rfl | rfl | rfl <;> cbv

/-- Nothing is known of the variables, so there is nothing to simplify. -/
theorem simplify_programs (l : Limits) (op : BinaryOp) :
    (plainProgram op).simplify l = plainProgram op ∧
      (assigningProgram op).simplify l = assigningProgram op := by
  constructor
  · cbv
  · cbv

theorem compile_of_read? {l : Limits} {source : String} {p : Program}
    (hn : (Source.normalize source).toOption = some ⟨source, false⟩)
    (hr : Program.read? l source = some p) (hs : p.simplify l = p) :
    compile l source = .ok ⟨source, false, p⟩ := by
  unfold compile
  cases h : Source.normalize source with
  | error word =>
    rw [h] at hn
    cases hn
  | ok normal =>
    rw [h] at hn
    obtain rfl : normal = ⟨source, false⟩ := Option.some.inj hn
    simp only [hr, hs]

theorem compile_plain {l : Limits} (hl : l.Roomy) (hop : op ∈ widening) :
    compile l (plainSource op) = .ok ⟨plainSource op, false, plainProgram op⟩ :=
  compile_of_read? (normalize_sources op hop).1 (read?_plain hl hop) (simplify_programs l op).1

theorem compile_assigning {l : Limits} (hl : l.Roomy) (hop : op ∈ widening) :
    compile l (assigningSource op) = .ok ⟨assigningSource op, false, assigningProgram op⟩ :=
  compile_of_read? (normalize_sources op hop).2 (read?_assigning hl hop) (simplify_programs l op).2

/-- Eight operations from the start are within the budget, and too few for a look at the clock. -/
theorem Limits.Roomy.affords {l : Limits} (hl : l.Roomy) (hlimits : env.limits = l)
    (hm : m.operations = 0) : env.Affords m 8 := by
  intro i hi
  have hops := hl.operations
  rw [hlimits, hm, Nat.zero_add]
  unfold Limits.exceeded? within clockInterval
  unfold within at hops
  have hwithin : (l.operations == 0 || decide (i + 1 ≤ l.operations)) = true := by
    rw [Bool.or_eq_true, decide_eq_true_eq] at hops ⊢
    exact hops.imp_right fun h => by omega
  have hclock : ¬ ((i + 1) % 64 = 0 ∧ l.time * operationsPerMs ≤ i + 1) := by
    rintro ⟨h, -⟩
    omega
  rw [hwithin, Bool.not_true, if_neg Bool.false_ne_true, if_neg hclock]

/-- The two integers under their names. -/
def operands (a b : Int) : Bindings := [("a", .int a), ("b", .int b)]

/-- The machine with two integers that has not run yet. -/
def loaded (a b : Int) : Machine :=
  { scope := (operands a b).reverse.map fun (name, value) => ({ name, value } : Variable) }

theorem loaded_holds (a b : Int) : (loaded a b).Holds "a" a ∧ (loaded a b).Holds "b" b := by
  constructor <;> rfl

theorem run_plain {l : Limits} (hl : l.Roomy) (hop : op ∈ widening) (read : String → Datum)
    (a b : Int) :
    ((plainProgram op).run l read (operands a b)).1 = .ok (numberModel op a b) := by
  obtain ⟨fuel, hfuel⟩ : ∃ k, l.fuel = k + 5 := ⟨l.fuel - 5, by unfold Limits.fuel; omega⟩
  obtain ⟨ha, hb⟩ := loaded_holds a b
  have hroom : Env.Affords ⟨[], l, read⟩ (loaded a b) 8 := hl.affords rfl rfl
  have hstmt := evalStmt_binary ha hb (hroom.mono (by omega)) (onInts_eq hop a b)
    (size_numberModel op a b) fuel ⟨1, 1⟩ ⟨1, 5⟩ ⟨1, 1⟩
  have hrun : evalStmts l.fuel ⟨[], l, read⟩ (plainProgram op).body (loaded a b) =
      .ok (numberModel op a b) ((loaded a b).ticked 4) := by
    rw [hfuel, evalStmts_succ, plainProgram, List.foldlM_cons, Run.bind_ok hstmt]
    rfl
  change (Program.ending (evalStmts l.fuel ⟨[], l, read⟩ (plainProgram op).body (loaded a b))).1 = _
  rw [hrun]
  rfl

/-- What the first two statements of the assigning program come to. -/
theorem run_assigning_eq {l : Limits} (hl : l.Roomy) (op : BinaryOp) (read : String → Datum)
    (a b : Int) : ∃ fuel m, m.Holds "x" a ∧ m.Holds "b" b ∧ Env.Affords ⟨[], l, read⟩ m 6 ∧
      (assigningProgram op).run l read (operands a b) = Program.ending
        ((evalStmt (fuel + 2) ⟨[], l, read⟩
            (.assign (.var "x" ⟨1, 12⟩) (some op) (.var "b" ⟨1, 17⟩) ⟨1, 14⟩) >>= fun _ =>
          evalStmt (fuel + 2) ⟨[], l, read⟩ (.expr (.var "x" ⟨1, 20⟩)) : Run Datum) m) := by
  obtain ⟨fuel, hfuel⟩ : ∃ k, l.fuel = k + 3 := ⟨l.fuel - 3, by unfold Limits.fuel; omega⟩
  obtain ⟨ha, hb⟩ := loaded_holds a b
  have hroom : Env.Affords ⟨[], l, read⟩ (loaded a b) 8 := hl.affords rfl rfl
  refine ⟨fuel, ((loaded a b).ticked 2).pushed "x" (.int a), Machine.holds_pushed _ _ _,
    (hb.ticked 2).pushed (by decide) _, hroom.rest (j := 2), ?_⟩
  change Program.ending (evalStmts l.fuel ⟨[], l, read⟩ (assigningProgram op).body (loaded a b)) = _
  rw [hfuel, evalStmts_succ, assigningProgram, List.foldlM_cons,
    Run.bind_ok (evalStmt_declare ha (hroom.mono (by omega)) fuel ⟨1, 9⟩)]
  simp only [List.foldlM_cons, List.foldlM_nil, bind_pure]

theorem run_assigning {l : Limits} (hl : l.Roomy) (hr : assigningInts op a b = .ok (.int n))
    (read : String → Datum) :
    ((assigningProgram op).run l read (operands a b)).1 = .ok (.int n) := by
  obtain ⟨fuel, m, hx, hb, hroom, hrun⟩ := run_assigning_eq hl op read a b
  have hassign := evalStmt_assign hx hb (hroom.mono (by omega)) hr fuel ⟨1, 12⟩ ⟨1, 17⟩ ⟨1, 14⟩
  have hholds : ((m.ticked 4).stored "x" (.int n)).Holds "x" n := (hx.ticked 4).stored n
  rw [hrun, Run.bind_ok hassign, evalStmt_name hholds (hroom.rest (j := 4))]
  rfl

theorem run_assigning_error {l : Limits} {text : String} (hl : l.Roomy)
    (hr : assigningInts op a b = .error (.arithmetic text)) (read : String → Datum) :
    ((assigningProgram op).run l read (operands a b)).1 = .error (.arithmetic text) := by
  obtain ⟨fuel, m, hx, hb, hroom, hrun⟩ := run_assigning_eq hl op read a b
  have hassign := evalStmt_assign_error hx hb (hroom.mono (by omega)) hr fuel ⟨1, 12⟩ ⟨1, 17⟩ ⟨1, 14⟩
  rw [hrun, Run.bind_error hassign]
  rfl

namespace Engine

variable {e : Engine}

theorem eval_of_compiles {source : String} {p : Program} (he : e.Sound)
    (hs : Snippet.compile e.limits source = .ok ⟨source, false, p⟩) (bindings : Bindings) :
    (e.eval source bindings).1 =
      (p.run e.limits e.read bindings).1.mapError (SnippetError.ofRunError e.limits) := by
  rw [fst_eval, he source, hs]
  rfl

/-- What is said of an operator between two integers and of the operator that assigns. -/
structure Computes (e : Engine) (op : BinaryOp) (a b : Int) : Prop where
  /-- The operator follows the number model and never fails. -/
  plain : (e.eval (plainSource op) (operands a b)).1 = .ok (numberModel op a b)
  /-- The operator that assigns gives the exact integer, where there is one within the range. -/
  whole : ∀ n, whole? op a b = some n →
    (e.eval (assigningSource op) (operands a b)).1 = .ok (.int n)
  /-- Elsewhere it fails. -/
  fails : whole? op a b = none → ∃ text,
    (e.eval (assigningSource op) (operands a b)).1 = .error (.failed (.arithmetic text))
  /-- The two agree where there is an exact integer, but for divisions. -/
  agree : (e.eval (assigningSource op) (operands a b)).1 =
      (e.eval (plainSource op) (operands a b)).1 ↔ op ≠ .div ∧ (whole? op a b).isSome = true

/-- **Operators that assign compute with integers alone**: they give the exact integer or fail,
and only the operators between operands follow the number model. -/
theorem eval_assigning (he : e.Sound) (hl : e.limits.Roomy) (hop : op ∈ widening) (a b : Int) :
    e.Computes op a b := by
  have hplain : (e.eval (plainSource op) (operands a b)).1 = .ok (numberModel op a b) := by
    rw [eval_of_compiles he (compile_plain hl hop), run_plain hl hop]
    rfl
  have hwhole : ∀ n, whole? op a b = some n →
      (e.eval (assigningSource op) (operands a b)).1 = .ok (.int n) := by
    intro n hn
    rw [eval_of_compiles he (compile_assigning hl hop),
      run_assigning hl (assigningInts_of_exact hn)]
    rfl
  have hfails : whole? op a b = none → ∃ text,
      (e.eval (assigningSource op) (operands a b)).1 = .error (.failed (.arithmetic text)) := by
    intro hn
    obtain ⟨text, ht⟩ := assigningInts_of_inexact hop hn
    refine ⟨text, ?_⟩
    rw [eval_of_compiles he (compile_assigning hl hop), run_assigning_error hl ht]
    rfl
  refine ⟨hplain, hwhole, hfails, ?_⟩
  rw [hplain]
  cases hn : whole? op a b with
  | none =>
    obtain ⟨text, ht⟩ := hfails hn
    rw [ht]
    simp
  | some n =>
    rw [hwhole n hn]
    by_cases hdiv : op = .div
    · simp [numberModel, hdiv]
    · simp [numberModel, hdiv, hn]

/-- Seven divided by two, in both ways. -/
theorem eval_assigning_seven : Engine.Sound {} ∧ Limits.Roomy {} ∧ BinaryOp.div ∈ widening ∧
    whole? .div 7 2 = some 3 ∧ Computes {} .div 7 2 := by
  have hroomy : Limits.Roomy {} := ⟨by decide, by decide⟩
  have hdiv : BinaryOp.div ∈ widening := by decide
  exact ⟨sound_of_empty rfl, hroomy, hdiv, by decide,
    eval_assigning (sound_of_empty rfl) hroomy hdiv 7 2⟩

/-- A quotient loses its fraction when it is assigned, and a sum beyond the integers and a division
by zero fail, while the operators between operands give floats. -/
theorem assigning_truncates :
    (({} : Engine).eval "let x = a; x /= b; x" (operands 7 2)).1.toOption.map (·.text) =
      some "3" ∧
    (({} : Engine).eval "a / b" (operands 7 2)).1.toOption.map (·.text) = some "3.5" ∧
    (({} : Engine).eval "let x = a; x /= b; x" (operands 7 0)).1.toBool = false ∧
    (({} : Engine).eval "a / b" (operands 7 0)).1.toBool = true ∧
    (({} : Engine).eval "let x = a; x += b; x" (operands Word64.maxInt 1)).1.toBool = false ∧
    (({} : Engine).eval "a + b" (operands Word64.maxInt 1)).1.toBool = true :=
  ⟨by decide +kernel, by decide +kernel, by decide +kernel, by decide +kernel, by decide +kernel,
    by decide +kernel⟩

end Engine
end ReactiveTree.Snippet
