import ReactiveTree.Proofs.Reaction.Quiescence
import Mathlib.Logic.Relation

/-!
# Snippets that are made ready

A pipeline keeps snippets from the day it is made. Whatever it does, and whatever is asked of its
engine, what it keeps was made under its own limits (`Pipeline.Leads.limits_and_sound`), so it makes
of every source what its limits make of it. To check the snippets of a tree is then to make them one
after the other until one fails (`checkSnippets_eq`).

Key definitions: `Engine.Step`, `Pipeline.Step`, `Pipeline.Leads`, `Pipeline.Reachable`,
`Tree.snippets`, `verdict`, `Pipeline.Checked`.
Key theorems: `agrees_react`, `checkSnippets_eq`, `Pipeline.Leads.limits_and_sound`,
`Pipeline.checked`.
-/
namespace ReactiveTree

open Snippet (Engine Limits SnippetError Bindings)

/-! ### Engines in use -/

namespace Snippet.Engine

variable {e e' : Engine}

/-- What may be asked of an engine. -/
inductive Step : Engine → Engine → Prop where
  | compile (e : Engine) (source : String) : Step e (e.compile source).2
  | eval (e : Engine) (source : String) (bindings : Bindings) : Step e (e.eval source bindings).2
  | load (e : Engine) (t : Tree) : Step e (e.load t)
  | unload (e : Engine) : Step e e.unload
  | update (e : Engine) (path : String) (v : Scalar) : Step e (e.update path v)
  | invalidate (e : Engine) (source : String) : Step e { e with cache := e.cache.erase source }
  | clear (e : Engine) : Step e { e with cache := {} }

theorem Sound.of_agrees (h : e.Sound) (ha : e'.Agrees e) : e'.Sound := by
  intro source
  rw [ha.compile, h source, ha.limits]

theorem Step.limits (h : e.Step e') : e'.limits = e.limits := by
  cases h with
  | compile source => exact (agrees_compile e source).limits
  | eval source bindings => exact (eval_snd e source bindings).1.limits
  | load | unload | update | invalidate | clear => rfl

theorem Step.sound (h : e.Step e') (hs : e.Sound) : e'.Sound := by
  cases h with
  | compile source => exact hs.of_agrees (agrees_compile e source)
  | eval source bindings => exact hs.of_agrees (eval_snd e source bindings).1
  | load t => exact hs.of_agrees (agrees_load e t)
  | unload => exact hs.of_agrees (agrees_unload e)
  | update path v => exact hs.of_agrees (agrees_update e path v)
  | invalidate source => exact hs.erase source
  | clear => exact sound_of_empty rfl

end Snippet.Engine

namespace Reaction

variable {p p' : Pipeline} {t : Tree} {w : Working} {x : Task} {n : Nat}

/-! ### What an evaluation keeps of its engine

The tree need not keep its rules here. -/

namespace Working

theorem agrees_write (w : Working) (path : String) (v : Scalar) :
    (w.write path v).engine.Agrees w.engine := by
  unfold write
  split
  · exact .refl _
  · exact Engine.agrees_update _ _ _

/-- A turn keeps what the engine makes of sources. -/
theorem agrees_turn (w : Working) (x : Task) : (w.turn x).engine.Agrees w.engine := by
  have heval : (compute w.engine x).2.Agrees w.engine := by
    rw [snd_compute]
    exact (Engine.eval_snd w.engine x.source [("path", .string x.path)]).1
  rw [turn_eq]
  cases (compute w.engine x).1 with
  | error err => exact heval
  | ok v => exact (agrees_write { w with engine := (compute w.engine x).2 } x.path v).trans heval

theorem agrees_foldl : ∀ (ts : List Task) (w : Working),
    (ts.foldl turn w).engine.Agrees w.engine
  | [], w => .refl w.engine
  | x :: ts, w => (agrees_foldl ts (w.turn x)).trans (agrees_turn w x)

theorem agrees_settle (ts : List Task) : ∀ (n made : Nat) (w : Working),
    (settle ts w n made).1.engine.Agrees w.engine
  | 0, _, w => .refl w.engine
  | n + 1, made, w => by
    have hpass : (w.pass ts).engine.Agrees w.engine := agrees_foldl ts { w with changed := false }
    rw [settle_succ]
    split
    · exact (agrees_settle ts n (made + 1) (w.pass ts)).trans hpass
    · exact hpass

theorem engine_reject : ∀ (ts : List Task) (w : Working), (reject ts w).engine = w.engine
  | [], _ => rfl
  | _ :: ts, _ => engine_reject ts _

end Working

theorem agrees_finish (engine : Engine) (t : Tree) (n : Nat) :
    (finish engine t n).1.engine.Agrees engine := by
  have hbegin : (Working.begin engine t).engine.Agrees engine := by
    have hload := Engine.agrees_load (Working.reject (looping t) { tree := t, engine }).engine
      (Working.reject (looping t) { tree := t, engine }).tree
    rw [Working.engine_reject] at hload
    rw [Working.begin, Working.engine_reject]
    exact hload
  rw [finish]
  split
  · exact hbegin
  · exact (Working.agrees_settle (runnable t) n 0 _).trans hbegin

theorem agrees_evaluate_unchecked (engine : Engine) (t : Tree) (n : Nat) :
    (evaluate engine t n).2.2.Agrees engine := by
  cases h : (tasks t (.ofTree t)).isEmpty with
  | true =>
    rw [(finish_of_no_tasks engine h n).1]
    exact .refl engine
  | false =>
    rw [evaluate_of_tasks engine h]
    exact (Engine.agrees_unload _).trans (agrees_finish engine t n)

theorem agrees_react (p : Pipeline) (t : Tree) (previous : Option Snapshot) :
    (p.react t previous).2.2.engine.Agrees p.engine := by
  obtain ⟨-, he⟩ := p.validator.kept_checkTree (evaluate p.engine t p.maxPasses).2.2
    (evaluate p.engine t p.maxPasses).2.1
  exact (agrees_runWatchers _ _ previous).trans (he.trans (agrees_evaluate_unchecked p.engine t _))

/-! ### The snippets of a tree -/

/-- A snippet of a tree: where it is, and what for. -/
structure Placed where
  path : String
  use : String
  source : String

/-- The snippets of a node, for its expression, its custom rule and its watchers. -/
def placedAt (path : String) (snippets : List (String × String)) : List Placed :=
  snippets.map fun s => { path, use := s.1, source := s.2 }

/-- The snippets of some nodes. -/
def placedIn (es : List Entry) : List Placed :=
  es.flatMap fun e => placedAt e.path (Pipeline.snippetsOf e.node)

end Reaction

/-- The snippets of a tree in traversal order, for each primitive its expression, its custom rule
and its watchers. -/
def Tree.snippets (t : Tree) : List Reaction.Placed := Reaction.placedIn t.primitives

namespace Reaction

variable {p p' : Pipeline} {e e' : Engine} {f : SnippetFault}

/-- What is wrong with a snippet, if it is not made ready. -/
def faultOf (e : Engine) (s : Placed) : Option SnippetFault :=
  match (e.compile s.source).1 with
  | .ok _ => none
  | .error cause => some { use := s.use, path := s.path, cause }

/-- The number of some snippets, or the first one that is not made ready. -/
def verdict (e : Engine) (l : List Placed) : Except SnippetFault Nat :=
  match l.findSome? (faultOf e) with
  | some f => .error f
  | none => .ok l.length

theorem faultOf_agrees (h : e.Agrees e') (s : Placed) : faultOf e s = faultOf e' s := by
  rw [faultOf, h.compile, faultOf]

theorem verdict_agrees (h : e.Agrees e') (l : List Placed) : verdict e l = verdict e' l := by
  rw [verdict, verdict, funext (faultOf_agrees h)]

/-- A list is good if both of its parts are. -/
theorem verdict_append (e : Engine) (l l' : List Placed) : verdict e (l ++ l') =
    match verdict e l with
    | .error f => .error f
    | .ok n => (verdict e l').map (n + ·) := by
  rw [verdict, List.findSome?_append, verdict]
  cases l.findSome? (faultOf e) with
  | some f => rfl
  | none =>
    rw [Option.none_or, verdict]
    cases l'.findSome? (faultOf e) with
    | some f => rfl
    | none => exact congrArg Except.ok List.length_append

theorem verdict_cons_of_error {s : Placed} {cause : SnippetError}
    (h : (e.compile s.source).1 = .error cause) (l : List Placed) :
    verdict e (s :: l) = .error { use := s.use, path := s.path, cause } := by
  have hf : faultOf e s = some { use := s.use, path := s.path, cause } := by rw [faultOf, h]
  rw [verdict, List.findSome?_cons, hf]

theorem verdict_cons_of_ok {s : Placed} {c : Snippet.Compiled} (h : (e.compile s.source).1 = .ok c)
    (l : List Placed) : verdict e (s :: l) = (verdict e l).map (· + 1) := by
  have hf : faultOf e s = none := by rw [faultOf, h]
  rw [verdict, List.findSome?_cons, hf, verdict]
  cases l.findSome? (faultOf e) <;> rfl

/-! ### The check -/

theorem readySnippets_cons (path use source : String) (rest : List (String × String)) (e : Engine) :
    Pipeline.readySnippets path e ((use, source) :: rest) =
      match (e.compile source).1 with
      | .error cause => (.error { use, path, cause }, (e.compile source).2)
      | .ok _ => ((Pipeline.readySnippets path (e.compile source).2 rest).1.map (· + 1),
          (Pipeline.readySnippets path (e.compile source).2 rest).2) := by
  rw [Pipeline.readySnippets]
  rcases e.compile source with ⟨r, e'⟩
  cases r with
  | error cause => rfl
  | ok s =>
    dsimp only
    rcases Pipeline.readySnippets path e' rest with ⟨r', e''⟩
    cases r' <;> rfl

/-- The snippets of a node are made ready in turn. -/
theorem readySnippets_eq (path : String) : ∀ (snippets : List (String × String)) (e : Engine),
    (Pipeline.readySnippets path e snippets).1 = verdict e (placedAt path snippets) ∧
      (Pipeline.readySnippets path e snippets).2.Agrees e
  | [], e => ⟨rfl, .refl e⟩
  | (use, source) :: rest, e => by
    have hagrees := Engine.agrees_compile e source
    have hplaced : placedAt path ((use, source) :: rest) =
        { path, use, source } :: placedAt path rest := rfl
    rw [readySnippets_cons, hplaced]
    cases hc : (e.compile source).1 with
    | error cause =>
      rw [verdict_cons_of_error (s := { path, use, source }) hc]
      exact ⟨rfl, hagrees⟩
    | ok c =>
      obtain ⟨hrest, hlast⟩ := readySnippets_eq path rest (e.compile source).2
      rw [verdict_cons_of_ok (s := { path, use, source }) hc, ← verdict_agrees hagrees, ← hrest]
      exact ⟨rfl, hlast.trans hagrees⟩

theorem readyEntries_cons (entry : Entry) (rest : List Entry) (e : Engine) :
    Pipeline.readyEntries e (entry :: rest) =
      let r := Pipeline.readySnippets entry.path e (Pipeline.snippetsOf entry.node)
      match r.1 with
      | .error f => (.error f, r.2)
      | .ok n => ((Pipeline.readyEntries r.2 rest).1.map (n + ·),
          (Pipeline.readyEntries r.2 rest).2) := by
  rw [Pipeline.readyEntries]
  rcases Pipeline.readySnippets entry.path e (Pipeline.snippetsOf entry.node) with ⟨r, e'⟩
  cases r with
  | error f => rfl
  | ok n =>
    dsimp only
    rcases Pipeline.readyEntries e' rest with ⟨r', e''⟩
    cases r' <;> rfl

/-- The snippets of some nodes are made ready in turn. -/
theorem readyEntries_eq : ∀ (es : List Entry) (e : Engine),
    (Pipeline.readyEntries e es).1 = verdict e (placedIn es) ∧
      (Pipeline.readyEntries e es).2.Agrees e
  | [], e => ⟨rfl, .refl e⟩
  | entry :: rest, e => by
    obtain ⟨hnode, hagrees⟩ := readySnippets_eq entry.path (Pipeline.snippetsOf entry.node) e
    have hplaced : placedIn (entry :: rest) =
        placedAt entry.path (Pipeline.snippetsOf entry.node) ++ placedIn rest := List.flatMap_cons
    rw [readyEntries_cons, hplaced, verdict_append, ← hnode]
    dsimp only
    cases (Pipeline.readySnippets entry.path e (Pipeline.snippetsOf entry.node)).1 with
    | error f => exact ⟨rfl, hagrees⟩
    | ok n =>
      obtain ⟨hrest, hlast⟩ := readyEntries_eq rest
        (Pipeline.readySnippets entry.path e (Pipeline.snippetsOf entry.node)).2
      refine ⟨?_, hlast.trans hagrees⟩
      rw [hrest, verdict_agrees hagrees]

/-- **To check a tree is to make its snippets ready until one fails.** -/
theorem checkSnippets_eq (p : Pipeline) (t : Tree) :
    (p.checkSnippets t).1 = verdict p.engine t.snippets ∧
      (p.checkSnippets t).2.engine.Agrees p.engine :=
  readyEntries_eq t.primitives p.engine

/-! ### Pipelines in use -/

namespace Pipeline

/-- What may be done with a pipeline. -/
inductive Step : Pipeline → Pipeline → Prop where
  | react (p : Pipeline) (t : Tree) (previous : Option Snapshot) :
    Step p (p.react t previous).2.2
  | check (p : Pipeline) (t : Tree) : Step p (p.checkSnippets t).2
  /-- Each part of a reaction can be asked for alone. -/
  | evaluate (p : Pipeline) (t : Tree) (n : Nat) :
    Step p { p with engine := (Reaction.evaluate p.engine t n).2.2 }
  | validate (p : Pipeline) (v : Validator) (t : Tree) :
    Step p { p with engine := (v.checkTree p.engine t).2.2 }
  | watch (p : Pipeline) (t : Tree) (previous : Option Snapshot) :
    Step p { p with engine := (runWatchers p.engine t previous).2 }
  | engine (p : Pipeline) {e : Engine} (h : p.engine.Step e) : Step p { p with engine := e }

/-- One pipeline is what another one becomes. -/
def Leads : Pipeline → Pipeline → Prop := Relation.ReflTransGen Step

/-- A pipeline that is made for some settings and used. -/
def Reachable (p : Pipeline) : Prop := ∃ s : Settings, (ofSettings s).Leads p

theorem Step.limits_and_sound (h : p.Step p') :
    p'.engine.limits = p.engine.limits ∧ (p.engine.Sound → p'.engine.Sound) := by
  have hagrees : p'.engine.Agrees p.engine →
      p'.engine.limits = p.engine.limits ∧ (p.engine.Sound → p'.engine.Sound) :=
    fun ha => ⟨ha.limits, fun hs => hs.of_agrees ha⟩
  cases h with
  | react t previous => exact hagrees (agrees_react p t previous)
  | check t => exact hagrees (checkSnippets_eq p t).2
  | evaluate t n => exact hagrees (agrees_evaluate_unchecked p.engine t n)
  | validate v t => exact hagrees (v.kept_checkTree p.engine t).2
  | watch t previous => exact hagrees (agrees_runWatchers p.engine t previous)
  | engine h => exact ⟨h.limits, h.sound⟩

/-- **A pipeline keeps its limits, and nothing that was made under others.** -/
theorem Leads.limits_and_sound (h : p.Leads p') :
    p'.engine.limits = p.engine.limits ∧ (p.engine.Sound → p'.engine.Sound) := by
  induction h with
  | refl => exact ⟨rfl, id⟩
  | tail _ hstep ih =>
    obtain ⟨hlimits, hsound⟩ := hstep.limits_and_sound
    exact ⟨hlimits.trans ih.1, fun hs => hsound (ih.2 hs)⟩

theorem Reachable.sound (h : p.Reachable) : p.engine.Sound := by
  obtain ⟨s, hs⟩ := h
  exact hs.limits_and_sound.2 (Engine.sound_of_empty rfl)

/-- A source is a program under the limits of a pipeline. -/
def Makes (p : Pipeline) (source : String) : Prop :=
  ∃ c, Snippet.compile p.engine.limits source = .ok c

/-- What a check of the snippets of a tree tells. -/
structure Checked (p : Pipeline) (t : Tree) : Prop where
  /-- All snippets are programs, and this is their number. -/
  ok : ∀ k, (p.checkSnippets t).1 = .ok k ↔
    (∀ s ∈ t.snippets, p.Makes s.source) ∧ k = t.snippets.length
  /-- The first snippet that is no program, and why it is none. -/
  error : ∀ f, (p.checkSnippets t).1 = .error f ↔ ∃ front s back,
    t.snippets = front ++ s :: back ∧ (∀ x ∈ front, p.Makes x.source) ∧
      Snippet.compile p.engine.limits s.source = .error f.cause ∧ f.use = s.use ∧ f.path = s.path

theorem faultOf_eq_none_iff (h : p.engine.Sound) (s : Placed) :
    faultOf p.engine s = none ↔ p.Makes s.source := by
  rw [faultOf, h s.source, Makes]
  cases Snippet.compile p.engine.limits s.source <;> simp

theorem faultOf_eq_some_iff (h : p.engine.Sound) (s : Placed) : faultOf p.engine s = some f ↔
    Snippet.compile p.engine.limits s.source = .error f.cause ∧ f.use = s.use ∧
      f.path = s.path := by
  rw [faultOf, h s.source]
  obtain ⟨use, path, cause⟩ := f
  cases Snippet.compile p.engine.limits s.source <;> simp [eq_comm, and_comm, and_assoc]

/-- **A check of a tree finds the first snippet that is no program, if there is one.** -/
theorem checked (h : p.engine.Sound) (t : Tree) : p.Checked t := by
  obtain ⟨heq, -⟩ := checkSnippets_eq p t
  have hall : t.snippets.findSome? (faultOf p.engine) = none ↔
      ∀ s ∈ t.snippets, p.Makes s.source := by
    rw [List.findSome?_eq_none_iff]
    exact forall₂_congr fun s _ => faultOf_eq_none_iff h s
  refine ⟨fun k => ?_, fun f => ?_⟩
  · rw [heq, verdict, ← hall]
    cases t.snippets.findSome? (faultOf p.engine) with
    | some f => simp
    | none => simp [eq_comm]
  · have hfirst : verdict p.engine t.snippets = .error f ↔
        t.snippets.findSome? (faultOf p.engine) = some f := by
      rw [verdict]
      cases t.snippets.findSome? (faultOf p.engine) <;> simp
    rw [heq, hfirst, List.findSome?_eq_some_iff]
    constructor
    · rintro ⟨front, s, back, hsplit, hs, hfront⟩
      exact ⟨front, s, back, hsplit, fun x hx => (faultOf_eq_none_iff h x).mp (hfront x hx),
        (faultOf_eq_some_iff h s).mp hs⟩
    · rintro ⟨front, s, back, hsplit, hfront, hs⟩
      exact ⟨front, s, back, hsplit, (faultOf_eq_some_iff h s).mpr hs,
        fun x hx => (faultOf_eq_none_iff h x).mpr (hfront x hx)⟩

end Pipeline

end Reaction
end ReactiveTree
