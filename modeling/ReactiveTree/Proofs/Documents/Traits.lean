import ReactiveTree.Node.Document
import ReactiveTree.Proofs.Json.Records

/-!
# Traits in documents

Bindings, rules, watchers and all traits of a node are read back from what is written of them,
with the members of their objects in any order (`Traits.read_arranged`). A field that is not
written is one that has its default, and the default stands for what is missing.

Key definitions: `Binding.only`, `Rules.only`, `Traits.only`.
Key theorems: `Binding.read_arranged`, `Rules.read_arranged`, `Traits.read_arranged`.
-/
namespace ReactiveTree

open Json (readRecord_arranged arranged)

/-! ### Members that may be missing -/

section Members

variable {k name : String} {j : Json} {value : Option Json} {b : Bool}

theorem mem_optional : (k, j) ∈ optional name value ↔ k = name ∧ value = some j := by
  cases value <;> simp [optional, eq_comm]

theorem mem_flag : (k, j) ∈ flag name b ↔ b = true ∧ k = name ∧ j = .bool true := by
  cases b <;> simp [flag]

theorem mem_keys_optional : k ∈ (optional name value).map (·.1) ↔ k = name ∧ value.isSome := by
  cases value <;> simp [optional]

theorem mem_keys_flag : k ∈ (flag name b).map (·.1) ↔ k = name ∧ b = true := by
  cases b <;> simp [flag]

theorem keys_optional (name : String) (value : Option Json) :
    ((optional name value).map (·.1)).Sublist [name] := by
  cases value <;> simp [optional]

theorem keys_flag (name : String) (b : Bool) : ((flag name b).map (·.1)).Sublist [name] := by
  cases b <;> simp [flag]

theorem ite_isSome {α : Type} (o : Option α) : (if o.isSome = true then o else none) = o := by
  cases o <;> rfl

/-- A field is read by reading its value. -/
theorem fieldOf_read {σ α : Type} {read : Json → Except Fault α} {put : α → σ → σ} {need : Need}
    {a : α} {s s' : σ} (h : read j = .ok a) (hput : put a s = s') :
    (fieldOf name read put need).read j s = .ok s' :=
  (congrArg (Except.map (put · s)) h).trans (congrArg Except.ok hput)

end Members

/-! ### Bindings -/

/-- The binding as far as it is known from these fields. -/
def Binding.only (b : Binding) (seen : List String) : Binding where
  sourceId := if "sourceId" ∈ seen then b.sourceId else ""
  propName := if "propName" ∈ seen then b.propName else ""

theorem Binding.read_arranged (origin : Origin) (sorted : Bool) (b : Binding) :
    Binding.read origin (b.toWire.arranged sorted) = .ok b := by
  refine readRecord_arranged origin sorted b.only (by simp) rfl ?_ ?_ (by simp [fieldOf])
  · intro k j h seen
    simp only [List.mem_cons, Prod.mk.injEq, List.not_mem_nil, or_false] at h
    rcases h with ⟨rfl, rfl⟩ | ⟨rfl, rfl⟩ <;>
      exact ⟨_, rfl, fieldOf_read (by cases sorted <;> rfl) (by simp [only])⟩
  · intro seen h
    simp [only, h]

/-! ### Watchers -/

theorem readWatcher_arranged (origin : Origin) (sorted : Bool) (script : String) :
    readWatcher origin ((Json.obj [("script", .str script)]).arranged sorted) = .ok script := by
  refine readRecord_arranged origin sorted (fun seen => if "script" ∈ seen then script else "")
    (by simp) rfl ?_ ?_ (by simp [fieldOf])
  · intro k j h seen
    obtain ⟨rfl, rfl⟩ := Prod.mk.inj (List.mem_singleton.mp h)
    exact ⟨_, rfl, fieldOf_read (by cases sorted <;> rfl) (by simp)⟩
  · intro seen h
    simp [h]

/-! ### Rules -/

/-- The rules as far as they are known from these fields. -/
def Rules.only (r : Rules) (seen : List String) : Rules where
  required := if "required" ∈ seen then r.required else false
  min := if "min" ∈ seen then r.min else none
  max := if "max" ∈ seen then r.max else none
  pattern := if "pattern" ∈ seen then r.pattern else none
  custom := if "custom" ∈ seen then r.custom else none
  message := if "message" ∈ seen then r.message else none

theorem Rules.read_arranged (origin : Origin) (sorted : Bool) (r : Rules) :
    Rules.read origin ((r.toWire .double).arranged sorted) = .ok r := by
  refine readRecord_arranged origin sorted r.only ?_ rfl ?_ ?_ (by simp [fieldOf])
  · simp only [List.map_append]
    refine List.Sublist.nodup ((((((keys_flag _ _).append (keys_optional _ _)).append
      (keys_optional _ _)).append (keys_optional _ _)).append (keys_optional _ _)).append
      (keys_optional _ _)) (by decide)
  · intro k j h seen
    simp only [List.mem_append, mem_optional, mem_flag, Option.map_eq_some_iff] at h
    rcases h with ((((⟨hb, rfl, rfl⟩ | ⟨rfl, x, hx, rfl⟩) | ⟨rfl, x, hx, rfl⟩) |
      ⟨rfl, s, hs, rfl⟩) | ⟨rfl, s, hs, rfl⟩) | ⟨rfl, s, hs, rfl⟩
    all_goals exact ⟨_, rfl, fieldOf_read (by cases sorted <;> rfl) (by simp [only, *])⟩
  · intro seen h
    simp [only, h, mem_keys_optional, mem_keys_flag, ite_isSome]

/-! ### Traits -/

/-- The traits as far as they are known from these fields. -/
def Traits.only (t : Traits) (seen : List String) : Traits where
  expression := if "expression" ∈ seen then t.expression else none
  expressionError := if "expressionError" ∈ seen then t.expressionError else none
  validation := if "validation" ∈ seen then t.validation else none
  watchers := if "watchers" ∈ seen then t.watchers else []
  binding := if "ref" ∈ seen then t.binding else none
  scope := if "namespace" ∈ seen then t.scope else none
  isGlobal := if "global" ∈ seen then t.isGlobal else false
  globalKey := if "globalKey" ∈ seen then t.globalKey else none

/-- The watchers as a member that may be missing. -/
theorem watchers_member (ws : List String) :
    (if ws.isEmpty then [] else
      [("watchers", Json.arr (ws.map fun s => .obj [("script", .str s)]))]) =
      optional "watchers" (if ws.isEmpty then none
        else some (.arr (ws.map fun s => .obj [("script", .str s)]))) := by
  cases ws <;> rfl

theorem readOption_of_obj {α : Type} {read : Json → Except Fault α} {sorted : Bool}
    {ms : List (String × Json)} {a : α} (h : read ((Json.obj ms).arranged sorted) = .ok a) :
    Json.readOption read ((Json.obj ms).arranged sorted) = .ok (some a) := by
  rw [Json.arranged_obj] at h ⊢
  rw [Json.readOption, h]
  · rfl
  · exact nofun

theorem readWatchers_arranged (origin : Origin) (sorted : Bool) (ws : List String) :
    Json.readList (readWatcher origin)
      ((Json.arr (ws.map fun s => .obj [("script", .str s)])).arranged sorted) = .ok ws := by
  rw [Json.arranged_arr, List.map_map, Json.readList]
  exact Json.readEach_map (readWatcher_arranged origin sorted) ws

/-- **Traits are read back from what is written of them**, with their members in any order. -/
theorem Traits.read_arranged (origin : Origin) (sorted : Bool) (t : Traits) :
    Traits.read origin ((t.toWire .double).arranged sorted) = .ok t := by
  unfold Traits.toWire
  rw [watchers_member]
  refine readRecord_arranged origin sorted t.only ?_ rfl ?_ ?_ (by simp [fieldOf])
  · simp only [List.map_append]
    refine List.Sublist.nodup ((((((((keys_optional _ _).append (keys_optional _ _)).append
      (keys_optional _ _)).append (keys_optional _ _)).append (keys_optional _ _)).append
      (keys_optional _ _)).append (keys_flag _ _)).append (keys_optional _ _)) (by decide)
  · intro k j h seen
    simp only [List.mem_append, mem_optional, mem_flag, Option.map_eq_some_iff] at h
    rcases h with ((((((⟨rfl, s, hs, rfl⟩ | ⟨rfl, s, hs, rfl⟩) | ⟨rfl, r, hr, rfl⟩) | ⟨rfl, hw⟩) |
      ⟨rfl, b, hb, rfl⟩) | ⟨rfl, s, hs, rfl⟩) | ⟨hg, rfl, rfl⟩) | ⟨rfl, s, hs, rfl⟩
    · exact ⟨_, rfl, fieldOf_read (by cases sorted <;> rfl) (by simp [only, *])⟩
    · exact ⟨_, rfl, fieldOf_read (by cases sorted <;> rfl) (by simp [only, *])⟩
    · exact ⟨_, rfl, fieldOf_read (readOption_of_obj (Rules.read_arranged origin sorted r))
        (by simp [only, hr])⟩
    · split at hw
      · cases hw
      · obtain rfl := Option.some.inj hw
        exact ⟨_, rfl, fieldOf_read (readWatchers_arranged origin sorted t.watchers)
          (by simp [only])⟩
    · exact ⟨_, rfl, fieldOf_read (readOption_of_obj (Binding.read_arranged origin sorted b))
        (by simp [only, hb])⟩
    · exact ⟨_, rfl, fieldOf_read (by cases sorted <;> rfl) (by simp [only, *])⟩
    · exact ⟨_, rfl, fieldOf_read (by cases sorted <;> rfl) (by simp [only, *])⟩
    · exact ⟨_, rfl, fieldOf_read (by cases sorted <;> rfl) (by simp [only, *])⟩
  · intro seen h
    have hwatchers : (if t.watchers = [] then [] else t.watchers) = t.watchers := by
      split <;> simp [*]
    simp [only, h, mem_keys_optional, mem_keys_flag, ite_isSome, hwatchers]

/-- Nothing is set in traits that are empty. -/
theorem Traits.eq_of_isEmpty {t : Traits} (h : t.isEmpty = true) : t = {} := by
  obtain ⟨expression, expressionError, validation, watchers, binding, scope, isGlobal,
    globalKey⟩ := t
  simp only [isEmpty, Bool.and_eq_true, Option.isNone_iff_eq_none, List.isEmpty_iff,
    Bool.not_eq_true'] at h
  obtain ⟨⟨⟨⟨⟨⟨⟨rfl, rfl⟩, rfl⟩, rfl⟩, rfl⟩, rfl⟩, rfl⟩, rfl⟩ := h
  rfl

end ReactiveTree
