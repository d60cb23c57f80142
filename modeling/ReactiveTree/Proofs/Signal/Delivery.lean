import ReactiveTree.Proofs.Signal.Registry

/-!
# Delivery

Subscriptions come and go, lag behind and read when they like, and still each of them gets the
events in order, without loss or duplication. A channel that is open conserves its events: what is
read from it and what it still holds are what it held before and what it took
(`Channel.conserve`). Since a subscription sees every act as if it were alone on the bus, the same
holds over any run (`Bus.Orderly.conserve_after`), and `Bus.delivered` collects what holds of a bus
after any list of acts.

Key definitions: `Bus.after`, `Bus.received`, `Bus.taken`, `published`, `Bus.Subscribed`,
`Bus.Delivered`.
Key theorems: `Bus.Orderly.conserve_after`, `Bus.mem_live_after`, `Bus.delivered`.
-/
namespace ReactiveTree.Signal

variable {b : Bus} {c : Channel} {e : Event} {id : Nat} {act : Act} {acts : List Act}

/-! ### One channel -/

/-- The event that an act publishes. -/
def Act.event? : Act → Option Event
  | publish e => some e
  | subscribe _ | receive _ | drain _ | unsubscribe _ => none

/-- The events that are published by some acts, the oldest one first. -/
def published (acts : List Act) : List Event := acts.filterMap Act.event?

namespace Channel

/-- An act changes a channel in its queue only. -/
theorem kept_perform (c : Channel) (act : Act) : (c.perform act).2.id = c.id ∧
    (c.perform act).2.isOpen = c.isOpen ∧ (c.perform act).2.capacity = c.capacity := by
  cases act with
  | publish e => exact c.kept_send e
  | receive id =>
    rw [perform]
    split <;> exact ⟨rfl, rfl, rfl⟩
  | drain id =>
    rw [perform]
    split <;> exact ⟨rfl, rfl, rfl⟩
  | subscribe | unsubscribe => exact ⟨rfl, rfl, rfl⟩

/-- Only the one that acts reads. -/
theorem fst_perform_other (h : act.actor? ≠ some c.id) : (c.perform act).1 = [] := by
  have hne (other : Nat) (ho : act.actor? = some other) : other ≠ c.id := fun he => h (he ▸ ho)
  cases act with
  | receive other => rw [perform, if_neg (hne other rfl)]
  | drain other => rw [perform, if_neg (hne other rfl)]
  | subscribe | publish | unsubscribe => rfl

/-- **A channel conserves its events**: what is read from it and what it still holds are what it
held and what it took. -/
theorem conserve (ho : c.isOpen = true) (act : Act) :
    (c.perform act).1 ++ (c.perform act).2.queue =
      c.queue ++ if c.hasRoom then act.event?.toList else [] := by
  cases act with
  | publish e =>
    cases hr : c.hasRoom with
    | true => simp [perform, send_of_room ho hr, Act.event?]
    | false => simp [perform, send_of_full ho hr]
  | receive other =>
    rw [perform]
    split <;> simp [Act.event?, ← List.drop_one]
  | drain other =>
    rw [perform]
    split <;> simp [Act.event?]
  | subscribe | unsubscribe => simp [perform, Act.event?]

/-- No act fills a queue beyond its capacity. -/
theorem length_perform_le {n : Nat} (hn : c.capacity = some n) (hc : c.queue.length ≤ n)
    (act : Act) : (c.perform act).2.queue.length ≤ n := by
  cases act with
  | publish e =>
    rw [perform, send]
    split
    · exact hc
    split
    · rename_i hr
      have hroom : c.queue.length < n := by simpa [hasRoom, hn] using hr
      simpa [Nat.succ_le_iff] using hroom
    · exact hc
  | receive other =>
    rw [perform]
    split
    · exact Nat.le_trans (by simp) hc
    · exact hc
  | drain other =>
    rw [perform]
    split
    · exact Nat.zero_le n
    · exact hc
  | subscribe | unsubscribe => exact hc

end Channel

namespace Bus

/-! ### Runs -/

/-- The bus after some acts. -/
def after (b : Bus) (acts : List Act) : Bus := acts.foldl (fun b act => (b.perform act).2) b

@[simp] theorem after_nil (b : Bus) : b.after [] = b := rfl

@[simp] theorem after_cons (b : Bus) (act : Act) (acts : List Act) :
    b.after (act :: acts) = (b.perform act).2.after acts := rfl

theorem after_append (b : Bus) (acts more : List Act) :
    b.after (acts ++ more) = (b.after acts).after more := List.foldl_append

/-- The events that a subscription gets by what its holder does. -/
def received (b : Bus) (id : Nat) : List Act → List Event
  | [] => []
  | act :: acts =>
    (if act.actor? = some id then (b.perform act).1 else []) ++ (b.perform act).2.received id acts

/-- The events that are published while the queue of a subscription is below a capacity. -/
def taken (b : Bus) (id : Nat) (capacity : Option Nat) : List Act → List Event
  | [] => []
  | act :: acts =>
    (if capacity.all ((b.queueOf id).length < ·) then act.event?.toList else []) ++
      (b.perform act).2.taken id capacity acts

/-- Without a capacity, every event is taken. -/
theorem taken_none (id : Nat) : ∀ (acts : List Act) (b : Bus), b.taken id none acts = published acts
  | [], _ => rfl
  | act :: acts, b => by
    rw [taken, taken_none id acts, published, published, List.filterMap_cons]
    cases act.event? <;> rfl

theorem Orderly.after (h : b.Orderly) (acts : List Act) : (b.after acts).Orderly := by
  induction acts generalizing b with
  | nil => exact h
  | cons act acts ih => exact ih (h.perform act)

/-- **A subscription that lasts conserves its events over a run.** -/
theorem Orderly.conserve_after (h : b.Orderly) (hf : b.find? id = some c)
    (hlasts : Act.unsubscribe id ∉ acts) :
    b.received id acts ++ (b.after acts).queueOf id =
      c.queue ++ b.taken id c.capacity acts ∧
    ∀ n, c.capacity = some n → c.queue.length ≤ n → ((b.after acts).queueOf id).length ≤ n := by
  have hqueue : b.queueOf id = c.queue := by
    rw [queueOf, hf]
    rfl
  induction acts generalizing b c with
  | nil => simp [received, taken, hqueue]
  | cons act acts ih =>
    obtain ⟨-, ho, hid⟩ := mem_of_find? hf
    have hne : act ≠ .unsubscribe id := fun he => hlasts (he ▸ List.mem_cons_self)
    have hlasts' : Act.unsubscribe id ∉ acts := fun hm => hlasts (List.mem_cons_of_mem _ hm)
    have hf' := h.find?_perform hf hne
    have hqueue' : (b.perform act).2.queueOf id = (c.perform act).2.queue := by
      rw [queueOf, hf']
      rfl
    obtain ⟨hrun, hbound⟩ := ih (h.perform act) hf' hlasts' hqueue'
    rw [(c.kept_perform act).2.2] at hrun hbound
    -- What the holder gets from the bus is what is read from the channel.
    have hread : (if act.actor? = some id then (b.perform act).1 else []) = (c.perform act).1 := by
      split
      · rename_i hactor
        exact fst_perform hf hactor hne
      · rename_i hother
        exact (Channel.fst_perform_other (hid ▸ hother)).symm
    refine ⟨?_, fun n hn hc => hbound n hn (Channel.length_perform_le hn hc act)⟩
    calc b.received id (act :: acts) ++ (b.after (act :: acts)).queueOf id
        = (c.perform act).1 ++ ((b.perform act).2.received id acts ++
            ((b.perform act).2.after acts).queueOf id) := by
          rw [received, hread, List.append_assoc, after_cons]
      _ = ((c.perform act).1 ++ (c.perform act).2.queue) ++
            (b.perform act).2.taken id c.capacity acts := by
          rw [hrun, List.append_assoc]
      _ = c.queue ++ b.taken id c.capacity (act :: acts) := by
          rw [c.conserve ho, List.append_assoc, taken, hqueue]
          rfl

/-- A subscription without a capacity that does nothing holds all that is published. -/
theorem Orderly.queueOf_after_publish (h : b.Orderly) (hf : b.find? id = some c)
    (hc : c.capacity = none) (events : List Event) :
    (b.after (events.map .publish)).queueOf id = b.queueOf id ++ events := by
  have hlasts : Act.unsubscribe id ∉ events.map Act.publish := by simp
  have hreceived : ∀ (events : List Event) (b : Bus),
      b.received id (events.map .publish) = [] := by
    intro events
    induction events with
    | nil => exact fun _ => rfl
    | cons e events ih => exact fun b => ih _
  have hpublished : published (events.map .publish) = events := by
    rw [published, List.filterMap_map]
    exact List.filterMap_some
  obtain ⟨hrun, -⟩ := h.conserve_after hf hlasts
  rw [hreceived, hc, taken_none, hpublished, List.nil_append] at hrun
  rw [hrun, queueOf, hf]
  rfl

/-! ### Who is there -/

/-- In a run, a subscription is made with an id, and it does not end in what follows. -/
structure Subscribed (b : Bus) (acts front : List Act) (capacity : Option Nat) (id : Nat)
    (back : List Act) : Prop where
  split : acts = front ++ .subscribe capacity :: back
  id_eq : ((b.after front).subscribe capacity).1 = id
  lasts : Act.unsubscribe id ∉ back

/-- A subscription is made by the first act or later. -/
theorem subscribed_cons :
    (∃ front capacity back, b.Subscribed (act :: acts) front capacity id back) ↔
    ((∃ capacity, act = .subscribe capacity) ∧ b.nextId = id ∧ Act.unsubscribe id ∉ acts) ∨
      ∃ front capacity back, (b.perform act).2.Subscribed acts front capacity id back := by
  constructor
  · rintro ⟨front, capacity, back, hsplit, hid, hlasts⟩
    cases front with
    | nil =>
      obtain ⟨rfl, rfl⟩ := List.cons.inj hsplit
      exact .inl ⟨⟨capacity, rfl⟩, hid, hlasts⟩
    | cons first front =>
      obtain ⟨rfl, rfl⟩ := List.cons.inj hsplit
      exact .inr ⟨front, capacity, back, rfl, hid, hlasts⟩
  · rintro (⟨⟨capacity, rfl⟩, hid, hlasts⟩ | ⟨front, capacity, back, rfl, hid, hlasts⟩)
    · exact ⟨[], capacity, acts, rfl, hid, hlasts⟩
    · exact ⟨act :: front, capacity, back, rfl, hid, hlasts⟩

/-- Those who are there after an act were there before and stayed, or came with it. -/
theorem Orderly.mem_live_perform (h : b.Orderly) : id ∈ (b.perform act).2.live ↔
    (id ∈ b.live ∧ act ≠ .unsubscribe id) ∨
      (∃ capacity, act = .subscribe capacity) ∧ b.nextId = id := by
  rw [h.live_perform]
  cases act with
  | subscribe capacity =>
    rw [List.mem_append, List.mem_singleton, @eq_comm _ id]
    simp
  | unsubscribe other =>
    have hne : Act.unsubscribe other ≠ .unsubscribe id ↔ id ≠ other := by
      rw [Ne, Act.unsubscribe.injEq, ne_comm]
    rw [List.mem_filter, hne]
    simp
  | publish | receive | drain => simp

/-- Those who are there after a run were there before and stayed, or came in it and stayed. -/
theorem Orderly.mem_live_after (h : b.Orderly) : id ∈ (b.after acts).live ↔
    (id ∈ b.live ∧ Act.unsubscribe id ∉ acts) ∨
      ∃ front capacity back, b.Subscribed acts front capacity id back := by
  induction acts generalizing b with
  | nil =>
    have hnone : ¬∃ front capacity back, b.Subscribed [] front capacity id back := by
      rintro ⟨front, capacity, back, hsplit, -, -⟩
      simp at hsplit
    simp [hnone]
  | cons act acts ih =>
    rw [after_cons, ih (h.perform act), h.mem_live_perform, subscribed_cons, List.mem_cons]
    tauto

theorem mem_live_after : id ∈ (({} : Bus).after acts).live ↔
    ∃ front capacity back, ({} : Bus).Subscribed acts front capacity id back := by
  have hnobody : id ∉ ({} : Bus).live := List.not_mem_nil
  rw [orderly_empty.mem_live_after]
  simp [hnobody]

/-! ### Delivery -/

/-- What a subscription of a run gets and what it still holds are what it took since it came, and
it holds no more than its capacity. -/
theorem Subscribed.conserve {front back : List Act} {capacity : Option Nat}
    (hs : ({} : Bus).Subscribed acts front capacity id back) :
    ((({} : Bus).after front).subscribe capacity).2.received id back ++
        (({} : Bus).after acts).queueOf id =
      ((({} : Bus).after front).subscribe capacity).2.taken id (capacity.map (max · 1)) back ∧
    ∀ n, capacity = some n → ((({} : Bus).after acts).queueOf id).length ≤ max n 1 := by
  obtain ⟨rfl, hid, hlasts⟩ := hs
  have horderly : (({} : Bus).after front).Orderly := orderly_empty.after front
  have hf : ((({} : Bus).after front).subscribe capacity).2.find? id =
      some { id, capacity := capacity.map (max · 1) } := by
    rw [find?_subscribe horderly]
    exact if_pos hid.symm
  obtain ⟨hrun, hbound⟩ := (horderly.subscribe capacity).conserve_after hf hlasts
  rw [after_append, after_cons]
  exact ⟨hrun, fun n hn => hbound (max n 1) (by rw [hn]; rfl) (Nat.zero_le _)⟩

/-- What holds of a bus after some acts. -/
structure Delivered (acts : List Act) : Prop where
  /-- The registry lists those who are there, -/
  registry : (({} : Bus).after acts).registry = (({} : Bus).after acts).live
  size : (({} : Bus).after acts).size = (({} : Bus).after acts).live.length
  /-- each of them once, -/
  distinct : (({} : Bus).after acts).live.Nodup
  /-- and they are those who came and did not leave. -/
  present : ∀ id, id ∈ (({} : Bus).after acts).live ↔
    ∃ front capacity back, ({} : Bus).Subscribed acts front capacity id back
  /-- Nobody loses a subscription by an event. -/
  publish : ∀ e, ((({} : Bus).after acts).publish e).live = (({} : Bus).after acts).live ∧
    ((({} : Bus).after acts).publish e).registry = (({} : Bus).after acts).registry
  /-- Nobody but the bus itself changes the queue of somebody else. -/
  apart : ∀ act id, (∀ e, act ≠ .publish e) → act.actor? ≠ some id →
    ((({} : Bus).after acts).perform act).2.queueOf id = (({} : Bus).after acts).queueOf id
  /-- A subscription without a capacity gets all that is published after it was made. -/
  unbounded : ∀ front id back, ({} : Bus).Subscribed acts front none id back →
    ((({} : Bus).after front).subscribe none).2.received id back ++
      (({} : Bus).after acts).queueOf id = published back
  /-- A subscription with a capacity gets what is published while its queue has room, and its
  queue never exceeds the capacity. -/
  bounded : ∀ front n id back, ({} : Bus).Subscribed acts front (some n) id back →
    ((({} : Bus).after front).subscribe (some n)).2.received id back ++
        (({} : Bus).after acts).queueOf id =
      ((({} : Bus).after front).subscribe (some n)).2.taken id (some (max n 1)) back ∧
    ((({} : Bus).after acts).queueOf id).length ≤ max n 1

/-- **The bus delivers in order, without loss or duplication**, whatever is done with it. -/
theorem delivered (acts : List Act) : Delivered acts := by
  have horderly : (({} : Bus).after acts).Orderly := orderly_empty.after acts
  exact {
    registry := horderly.registry
    size := congrArg List.length horderly.registry
    distinct := horderly.nodup_live
    present := fun _ => mem_live_after
    publish := fun e => by
      have hlive := horderly.live_publish e
      refine ⟨hlive, ?_⟩
      rw [(horderly.publish e).registry, hlive, horderly.registry]
    apart := fun _ _ hpublish hother => horderly.queueOf_perform hpublish hother
    unbounded := fun front id back hs => hs.conserve.1.trans (taken_none id back _)
    bounded := fun front n id back hs => ⟨hs.conserve.1, hs.conserve.2 n rfl⟩ }

/-- A slow subscription of two keeps the oldest events, and gets new ones when it has read. -/
example : ((({} : Bus).after [.subscribe (some 2), .publish { validationErrorCount := 0 },
      .publish { validationErrorCount := 1 }, .publish { validationErrorCount := 2 }, .drain 0,
      .publish { validationErrorCount := 3 }]).queueOf 0).map (·.validationErrorCount) = [3] := rfl

end Bus
end ReactiveTree.Signal
