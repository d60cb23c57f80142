import ReactiveTree.Snippet.Calls

/-!
# Steps to parts of values

A chain of links goes from an object to a part of it, one step at a time, and may assign to the
part at its end. What changes on the way goes back into the object, also when a later step
fails. Parts of a fixed object are fixed; what it does not have may be added.

Key definitions: `Step`, `Reached`, `Change`, `Change.apply`, `takeSteps`.
-/
namespace ReactiveTree.Snippet

/-- A step in a chain, with its arguments. -/
inductive Step where
  | property (name : String) (safe : Bool) (pos : Position)
  /-- The index and its bracket have places of their own. -/
  | index (key : Datum) (safe : Bool) (keyPos pos : Position)
  | method (name : String) (args : List Datum) (safe : Bool) (argPos pos : Position)

def Step.safe : Step → Bool
  | .property _ s _ => s
  | .index _ s _ _ => s
  | .method _ _ s _ _ => s

/-- How a way through an object ends. -/
structure Reached where
  result : Except Interrupt Datum
  /-- The object, where it changed. -/
  object : Option Datum := none

/-- A way that ends early ends without a change. -/
def reached (run : Run Reached) : Run Reached := do
  match ← outcome run with
  | .ok r => return r
  | .error e => return { result := .error e }

/-- What an assignment does to its target. -/
structure Change where
  op : Option BinaryOp
  value : Datum
  /-- Where the operator stands. -/
  pos : Position
  /-- The variable that the target belongs to, and where it stands. -/
  root : String
  rootPos : Position

/-- The new value of a target. -/
def Change.apply (c : Change) (env : Env) (target : Object) : Run Datum := do
  if target.fixed.isSome then failAt c.rootPos (.constantChanged c.root)
  match c.op with
  | none => return c.value
  | some op => placed c.pos do
    tick env
    unless assignsAtOnce op target.value c.value do tick env
    sized env (← ofResult (applyAssigning op target.value c.value))

/-- The part of what is fixed at an index. -/
def fixedPart (object : Object) (key : Datum) : Option Datum :=
  object.fixed.bind fun d => (d.slot key).toOption.bind Slot.item?

/-- The property of an object that is no map. -/
def readProperty (env : Env) (object : Datum) (name : String) (pos : Position) : Run Datum := do
  tick env
  match object.getter? name with
  | some r => placed pos (ofResult r)
  | none => do
    tick env
    failAt pos (.unknownProperty name object.typeName)

/-- Set a property of an object that is no map. -/
def writeProperty (env : Env) (object : Object) (name : String) (value : Datum) (pos : Position) :
    Run Datum := do
  tick env
  match name == "tag", value.bare with
  | true, .int tag =>
    if object.fixed.isSome then failAt pos (.constantProperty name)
    else placed pos (ofResult (withTag? object.value tag))
  | _, _ => do
    tick env
    failAt pos (.notWritable name object.value.typeName value.typeName)

/-- Assign to an entry of a map. An entry that is missing is there even if that fails. -/
def changeEntry (env : Env) (c : Change) (object : Object) (key : String) : Run Reached := do
  let es := match object.value.bare with
    | .map es => es
    | _ => []
  let put (d : Datum) : Datum := (Datum.map (Json.insertSorted key d es)).withTag object.value.tag
  let old := Json.lookup key es
  match ← outcome (c.apply env ⟨old.getD .unit, fixedPart object (.string key)⟩) with
  | .ok d => return { result := .ok .unit, object := some (put d) }
  | .error e =>
    return { result := .error e, object := if old.isNone then some (put .unit) else none }

/-- Take an index that fails: what cannot be indexed is looked at once more. -/
def failIndex {α : Type} (env : Env) (e : RunError) (looks : Nat) (assigned : Option Datum)
    (keyPos pos : Position) : Run α := do
  match e with
  | .notIndexed access => do
    for _ in List.range looks do tick env
    failAt pos (.notIndexed (access ++ (assigned.map fun d => " = " ++ d.typeName).getD ""))
  | e => failAt keyPos e

/-- Assign to what is at an index. -/
def changeSlot (env : Env) (c : Change) (object : Object) (key : Datum) (keyPos pos : Position) :
    Run Reached := do
  tick env
  match object.value.bare, key.bare with
  | .map _, .string k => do
    let r ← changeEntry env c object k
    match r.result, r.object with
    | .ok _, some d => do
      discard (sized env (((d.slot key).toOption.map Slot.value).getD .unit))
      return r
    | _, _ => return r
  | _, _ =>
    match object.value.slot key with
    | .error e => failIndex env e (if c.op.isSome then 2 else 1) (some c.value) keyPos pos
    | .ok slot => do
      let part : Option Datum := if slot.isCopy then none else fixedPart object key
      let d ← c.apply env ⟨slot.value, part⟩
      let new ← placed c.pos (ofResult (object.value.withSlot key d))
      discard (sized env d)
      return { result := .ok .unit, object := some (new.withTag object.value.tag) }

/-- Call a method of an object, which may be a copy. -/
abbrev MethodCaller := Object → Bool → Step → Run Reached

/-- Take steps from an object, which may be a copy, and assign at the end. -/
def takeSteps (env : Env) (callMethod : MethodCaller) (change : Option Change) (isCopy : Bool)
    (object : Object) : List Step → Run Reached
  | [] => return { result := .ok object.value }
  | step :: rest => do
    let last : Option Change := if rest.isEmpty then change else none
    match step.safe, object.value.bare with
    | true, .unit => return { result := .ok .unit }
    | _, value =>
      match step, value, last with
      | .property name _ _, .map _, some c => do
        tick env
        let r ← changeEntry env c object name
        match r.result, r.object with
        | .ok _, some d => do
          discard (sized env d)
          return r
        | _, _ => return r
      | .property name _ _, .map es, none => do
        tick env
        let key : Datum := .string name
        let part : Object := ⟨(Json.lookup name es).getD .unit, fixedPart object key⟩
        let r ← takeSteps env callMethod change false part rest
        match r.object with
        | some d =>
          if es.any (·.1 == name) then
            return { r with object := some ((Datum.map (Json.insertSorted name d es)).withTag
              object.value.tag) }
          else return { r with object := none }
        | none => return r
      | .property name _ pos, _, some c => do
        let old ← if c.op.isSome then readProperty env object.value name pos else pure .unit
        let d ← c.apply env { value := old }
        return { result := .ok .unit, object := some (← writeProperty env object name d pos) }
      | .property name _ pos, _, none => do
        let part ← readProperty env object.value name pos
        let r ← takeSteps env callMethod change false { value := part } rest
        match r.object with
        | some d => do
          match ← outcome (writeProperty env object name d pos) with
          | .ok d => return { r with object := some d }
          | .error (.fault (.notWritable _ _ _) _) => return { r with object := none }
          | .error e => throw e
        | none => return r
      | .index key _ keyPos pos, _, some c => changeSlot env c object key keyPos pos
      | .index key _ keyPos pos, value, none => do
        tick env
        match value.slot key with
        | .error e => failIndex env e 1 none keyPos pos
        | .ok slot => do
          let part : Option Datum := if slot.isCopy then none else fixedPart object key
          let r ← takeSteps env callMethod change slot.isCopy ⟨slot.value, part⟩ rest
          match r.object, slot with
          | none, _ | _, .missing => return { r with object := none }
          | some d, _ => do
            let new ← placed pos (ofResult (value.withSlot key d))
            return { r with object := some (new.withTag object.value.tag) }
      | .method _ _ _ _ _, _, _ => do
        let r ← callMethod object isCopy step
        match r.result with
        | .error _ => return r
        | .ok value => do
          let after ← reached (takeSteps env callMethod change false { value } rest)
          return { after with object := r.object }

end ReactiveTree.Snippet
