import ReactiveTree.Signal.Bus
import Mathlib.Data.List.Nodup

/-!
# The registry of an event bus

The bus keeps two things in step: a registry of the ids that it sends to, and the channels, some of
which nobody reads any more. On an orderly bus the registry lists just the channels that are open,
so an event that is published goes to each of them once, and nobody loses a place
(`Orderly.publish_eq`). Every act keeps the bus orderly (`Orderly.perform`), and a subscription sees
it as if it were alone: what becomes of its channel does not depend on the others
(`Orderly.find?_perform`).

Key definitions: `Bus.live`, `Bus.queueOf`, `Act`, `Bus.perform`, `Channel.perform`, `Bus.Orderly`.
Key theorems: `Bus.Orderly.publish_eq`, `Bus.Orderly.find?_perform`, `Bus.Orderly.perform`.
-/
namespace ReactiveTree.Signal

variable {b : Bus} {c : Channel} {e : Event} {id : Nat}

/-! ### One channel -/

namespace Channel

theorem send_of_closed (h : c.isOpen = false) (e : Event) : c.send e = (.disconnected, c) := by
  rw [send, h]
  rfl

theorem send_of_room (h : c.isOpen = true) (hr : c.hasRoom = true) (e : Event) :
    c.send e = (.queued, { c with queue := c.queue ++ [e] }) := by
  rw [send, h, hr]
  rfl

theorem send_of_full (h : c.isOpen = true) (hr : c.hasRoom = false) (e : Event) :
    c.send e = (.full, c) := by
  rw [send, h, hr]
  rfl

/-- Sending changes a channel in its queue only. -/
theorem kept_send (c : Channel) (e : Event) : (c.send e).2.id = c.id ∧
    (c.send e).2.isOpen = c.isOpen ∧ (c.send e).2.capacity = c.capacity := by
  unfold send
  split
  · exact ⟨rfl, rfl, rfl⟩
  · split <;> exact ⟨rfl, rfl, rfl⟩

/-- A channel that is open takes an event or drops it. -/
theorem send_ne_disconnected (h : c.isOpen = true) (e : Event) :
    (c.send e).1 ≠ .disconnected := by
  cases hr : c.hasRoom with
  | true => simp [send_of_room h hr]
  | false => simp [send_of_full h hr]

/-- The channel after an event was sent to some ids. -/
def sentTo (ids : List Nat) (e : Event) (c : Channel) : Channel :=
  if c.id ∈ ids then (c.send e).2 else c

theorem id_sentTo (ids : List Nat) (e : Event) (c : Channel) : (c.sentTo ids e).id = c.id := by
  rw [sentTo]
  split
  · exact (c.kept_send e).1
  · rfl

theorem isOpen_sentTo (ids : List Nat) (e : Event) (c : Channel) :
    (c.sentTo ids e).isOpen = c.isOpen := by
  rw [sentTo]
  split
  · exact (c.kept_send e).2.1
  · rfl

/-- Of different ids, at most one is that of the channel. -/
theorem sentTo_sentTo {ids : List Nat} (h : id ∉ ids) (e : Event) (c : Channel) :
    (c.sentTo [id] e).sentTo ids e = c.sentTo (id :: ids) e := by
  by_cases hc : c.id = id
  · subst hc
    simp [sentTo, h, (c.kept_send e).1]
  · simp [sentTo, hc]

/-- The channel after the subscription with an id ended. -/
def closedAt (id : Nat) (c : Channel) : Channel := if c.id = id then c.close else c

theorem id_closedAt (id : Nat) (c : Channel) : (c.closedAt id).id = c.id := by
  unfold closedAt
  split <;> rfl

theorem isOpen_closedAt (id : Nat) (c : Channel) :
    (c.closedAt id).isOpen = (c.id != id && c.isOpen) := by
  by_cases hc : c.id = id
  · simp [closedAt, close, hc]
  · simp [closedAt, hc]

end Channel

namespace Bus

/-! ### Who is there -/

/-- The ids of the subscriptions that have not ended. -/
def live (b : Bus) : List Nat := (b.channels.filter (·.isOpen)).map (·.id)

/-- What a subscription has not read yet. -/
def queueOf (b : Bus) (id : Nat) : List Event := ((b.find? id).map (·.queue)).getD []

theorem mem_live : id ∈ b.live ↔ ∃ c ∈ b.channels, c.isOpen = true ∧ c.id = id := by
  simp [live, and_assoc]

theorem find?_eq_none_iff : b.find? id = none ↔ id ∉ b.live := by
  simp only [find?, List.find?_eq_none, mem_live, Bool.and_eq_true, beq_iff_eq, not_exists, not_and]
  exact forall₂_congr fun c _ => forall_comm

theorem mem_of_find? (h : b.find? id = some c) :
    c ∈ b.channels ∧ c.isOpen = true ∧ c.id = id := by
  have hc := List.find?_some h
  rw [Bool.and_eq_true, beq_iff_eq] at hc
  exact ⟨List.mem_of_find?_eq_some h, hc.2, hc.1⟩

theorem mem_live_of_find? (h : b.find? id = some c) : id ∈ b.live := by
  obtain ⟨hc, ho, hid⟩ := mem_of_find? h
  exact mem_live.mpr ⟨c, hc, ho, hid⟩

/-! ### Channels that change in place -/

section Map

variable {f : Channel → Channel}

/-- Change every channel. -/
def mapChannels (b : Bus) (f : Channel → Channel) : Bus := { b with channels := b.channels.map f }

theorem map_id_map (hid : ∀ c, (f c).id = c.id) (cs : List Channel) :
    (cs.map f).map (·.id) = cs.map (·.id) := by
  rw [List.map_map]
  exact List.map_congr_left fun c _ => hid c

theorem live_mapChannels (hid : ∀ c, (f c).id = c.id) (ho : ∀ c, (f c).isOpen = c.isOpen)
    (b : Bus) : (b.mapChannels f).live = b.live := by
  have hopen : (fun c : Channel => c.isOpen) ∘ f = fun c => c.isOpen := funext ho
  rw [live, mapChannels, List.filter_map, hopen]
  exact map_id_map hid _

theorem find?_mapChannels (hid : ∀ c, (f c).id = c.id) (ho : ∀ c, (f c).isOpen = c.isOpen)
    (b : Bus) (id : Nat) : (b.mapChannels f).find? id = (b.find? id).map f := by
  rw [find?, mapChannels, List.find?_map, find?]
  refine congrArg (Option.map f) (congrArg (List.find? · b.channels) (funext fun c => ?_))
  rw [Function.comp_apply, hid, ho]

end Map

theorem update_eq (b : Bus) (id : Nat) (f : Channel → Channel) :
    b.update id f = b.mapChannels fun c => if c.id = id then f c else c := rfl

end Bus

/-! ### Acts -/

/-- What is done with a bus. It makes no difference whether a subscription is given up or
dropped. -/
inductive Act where
  | subscribe (capacity : Option Nat)
  | publish (e : Event)
  | receive (id : Nat)
  | drain (id : Nat)
  | unsubscribe (id : Nat)

/-- The subscription whose holder acts. -/
def Act.actor? : Act → Option Nat
  | subscribe _ | publish _ => none
  | receive id | drain id | unsubscribe id => some id

/-- What an act does to the channel of a subscription that lasts: the events that are read from it,
and the channel after it. -/
def Channel.perform (c : Channel) : Act → List Event × Channel
  | .publish e => ([], (c.send e).2)
  | .receive id => if id = c.id then (c.queue.take 1, { c with queue := c.queue.tail }) else ([], c)
  | .drain id => if id = c.id then (c.queue, { c with queue := [] }) else ([], c)
  | .subscribe _ | .unsubscribe _ => ([], c)

namespace Bus

/-- Act: the events that the actor gets, and the bus after it. -/
def perform (b : Bus) : Act → List Event × Bus
  | .subscribe capacity => ([], (b.subscribe capacity).2)
  | .publish e => ([], b.publish e)
  | .receive id => ((b.receive id).1.toList, (b.receive id).2)
  | .drain id => b.drain id
  | .unsubscribe id => ([], b.unsubscribe id)

/-- What holds of every bus that is used. -/
structure Orderly (b : Bus) : Prop where
  /-- Events are sent to all that are there, and to nobody else. -/
  registry : b.registry = b.live
  nodup : (b.channels.map (·.id)).Nodup
  fresh : ∀ c ∈ b.channels, c.id < b.nextId

theorem orderly_empty : Orderly {} := ⟨rfl, .nil, fun _ h => nomatch h⟩

namespace Orderly

theorem nodup_live (h : b.Orderly) : b.live.Nodup :=
  h.nodup.sublist (List.filter_sublist.map _)

theorem nextId_not_live (h : b.Orderly) : b.nextId ∉ b.live := by
  intro hl
  obtain ⟨c, hc, -, hid⟩ := mem_live.mp hl
  exact Nat.lt_irrefl _ (hid ▸ h.fresh c hc)

/-- Channels that change in nothing but their queues leave the bus orderly. -/
theorem mapChannels {f : Channel → Channel} (hid : ∀ c, (f c).id = c.id)
    (ho : ∀ c, (f c).isOpen = c.isOpen) (h : b.Orderly) : (b.mapChannels f).Orderly where
  registry := h.registry.trans (live_mapChannels hid ho b).symm
  nodup := by
    rw [Bus.mapChannels, map_id_map hid]
    exact h.nodup
  fresh c hc := by
    obtain ⟨c', hc', rfl⟩ := List.mem_map.mp hc
    rw [hid]
    exact h.fresh c' hc'

end Orderly

/-! ### Publishing -/

/-- An id with an open channel keeps its place, and its channel takes the event or drops it. -/
theorem deliver_eq (hn : (b.channels.map (·.id)).Nodup) (hc : c ∈ b.channels)
    (ho : c.isOpen = true) (e : Event) : deliver e b c.id =
      { b with
        registry := b.registry ++ [c.id]
        channels := b.channels.map (Channel.sentTo [c.id] e) } := by
  have hfind : b.channels.find? (·.id == c.id) = some c := by
    cases hf : b.channels.find? (·.id == c.id) with
    | none => simpa using List.find?_eq_none.mp hf c hc
    | some c' =>
      have hid : c'.id = c.id := by simpa using List.find?_some hf
      rw [List.inj_on_of_nodup_map hn (List.mem_of_find?_eq_some hf) hc hid]
  have hsend : b.send e c.id = ((c.send e).1, b.update c.id fun _ => (c.send e).2) := by
    rw [send, hfind]
  have hchannels : (b.update c.id fun _ => (c.send e).2) =
      { b with channels := b.channels.map (Channel.sentTo [c.id] e) } := by
    refine congrArg (fun cs => { b with channels := cs }) (List.map_congr_left fun x hx => ?_)
    by_cases hid : x.id = c.id
    · simp [Channel.sentTo, List.inj_on_of_nodup_map hn hx hc hid]
    · simp [Channel.sentTo, hid]
  have hne := Channel.send_ne_disconnected ho e
  rw [deliver, hsend, hchannels]
  cases hd : (c.send e).1 with
  | queued => rfl
  | full => rfl
  | disconnected => exact absurd hd hne

/-- Sending to some ids in turn, all of them with an open channel. -/
theorem foldl_deliver (e : Event) : ∀ (ids : List Nat) (b : Bus),
    (b.channels.map (·.id)).Nodup → ids.Nodup → (∀ id ∈ ids, id ∈ b.live) →
    ids.foldl (deliver e) b =
      { b with
        registry := b.registry ++ ids
        channels := b.channels.map (Channel.sentTo ids e) }
  | [], b, _, _, _ => by
    have hsame : Channel.sentTo [] e = id := funext fun c => by simp [Channel.sentTo]
    simp [hsame]
  | id :: ids, b, hn, hids, hlive => by
    obtain ⟨c, hc, ho, rfl⟩ := mem_live.mp (hlive id List.mem_cons_self)
    obtain ⟨hnot, hids⟩ := List.nodup_cons.mp hids
    have hlive' : ∀ id ∈ ids, id ∈ (b.mapChannels (Channel.sentTo [c.id] e)).live := by
      intro id h
      rw [live_mapChannels (Channel.id_sentTo _ _) (Channel.isOpen_sentTo _ _)]
      exact hlive id (List.mem_cons_of_mem _ h)
    have hn' : ((b.channels.map (Channel.sentTo [c.id] e)).map (·.id)).Nodup := by
      rw [map_id_map (Channel.id_sentTo _ _)]
      exact hn
    rw [List.foldl_cons, deliver_eq hn hc ho, foldl_deliver e ids
      { b with
        registry := b.registry ++ [c.id]
        channels := b.channels.map (Channel.sentTo [c.id] e) } hn' hids hlive']
    simp only [List.append_assoc, List.singleton_append, List.map_map, Function.comp_def,
      Channel.sentTo_sentTo hnot]

/-- **Publishing sends to every channel once, and nobody loses a place in the registry.** -/
theorem Orderly.publish_eq (h : b.Orderly) (e : Event) :
    b.publish e = b.mapChannels fun c => (c.send e).2 := by
  have hlive : ∀ id ∈ b.registry, id ∈ ({ b with registry := [] } : Bus).live := by
    intro id hid
    rw [h.registry] at hid
    exact hid
  have hnodup : b.registry.Nodup := h.registry ▸ h.nodup_live
  rw [publish, foldl_deliver e b.registry { b with registry := [] } h.nodup hnodup hlive,
    Bus.mapChannels]
  refine congrArg (fun cs => { b with channels := cs }) (List.map_congr_left fun c hc => ?_)
  rw [Channel.sentTo, h.registry]
  split
  · rfl
  · rename_i hnot
    -- A channel that is not registered is closed, and then sending does nothing.
    have hclosed : c.isOpen = false := by
      rw [← Bool.not_eq_true]
      exact fun ho => hnot (mem_live.mpr ⟨c, hc, ho, rfl⟩)
    rw [Channel.send_of_closed hclosed]

theorem Orderly.publish (h : b.Orderly) (e : Event) : (b.publish e).Orderly := by
  rw [h.publish_eq]
  exact h.mapChannels (fun c => (c.kept_send e).1) fun c => (c.kept_send e).2.1

theorem Orderly.live_publish (h : b.Orderly) (e : Event) : (b.publish e).live = b.live := by
  rw [h.publish_eq]
  exact live_mapChannels (fun c => (c.kept_send e).1) (fun c => (c.kept_send e).2.1) b

theorem Orderly.find?_publish (h : b.Orderly) (e : Event) (id : Nat) :
    (b.publish e).find? id = (b.find? id).map fun c => (c.send e).2 := by
  rw [h.publish_eq]
  exact find?_mapChannels (fun c => (c.kept_send e).1) (fun c => (c.kept_send e).2.1) b id

/-! ### Reading -/

theorem Orderly.withQueue (h : b.Orderly) (id : Nat) (queue : List Event) :
    (b.withQueue id queue).Orderly := by
  rw [Bus.withQueue, update_eq]
  exact h.mapChannels (fun c => by split <;> rfl) fun c => by split <;> rfl

theorem live_withQueue (b : Bus) (id : Nat) (queue : List Event) :
    (b.withQueue id queue).live = b.live := by
  rw [withQueue, update_eq]
  exact live_mapChannels (fun c => by split <;> rfl) (fun c => by split <;> rfl) b

theorem find?_withQueue (b : Bus) (id : Nat) (queue : List Event) (other : Nat) :
    (b.withQueue id queue).find? other =
      if other = id then (b.find? other).map fun c => { c with queue } else b.find? other := by
  rw [withQueue, update_eq, find?_mapChannels (fun c => by split <;> rfl) fun c => by split <;> rfl]
  cases hf : b.find? other with
  | none => simp
  | some c =>
    obtain ⟨-, -, rfl⟩ := mem_of_find? hf
    split <;> rename_i hid <;> simp [hid]

/-- A bus that differs from another one in what a subscription has not read yet. A read that finds
nothing leaves the bus as it is. -/
def LeavesUnread (b b' : Bus) (id : Nat) (rest : List Event) : Prop :=
  b' = b.withQueue id rest ∨ b' = b ∧ b.queueOf id = rest

theorem receive_spec (b : Bus) (id : Nat) : (b.receive id).1 = (b.queueOf id).head? ∧
    b.LeavesUnread (b.receive id).2 id (b.queueOf id).tail := by
  rw [receive, LeavesUnread, queueOf]
  cases hf : b.find? id with
  | none => exact ⟨rfl, .inr ⟨rfl, rfl⟩⟩
  | some c =>
    dsimp only
    cases hq : c.queue with
    | nil => simp [hq]
    | cons e rest => simp [hq]

theorem drain_spec (b : Bus) (id : Nat) : (b.drain id).1 = b.queueOf id ∧
    b.LeavesUnread (b.drain id).2 id [] := by
  rw [drain, LeavesUnread, queueOf]
  cases b.find? id with
  | none => exact ⟨rfl, .inr ⟨rfl, rfl⟩⟩
  | some c => exact ⟨rfl, .inl rfl⟩

namespace LeavesUnread

variable {b' : Bus} {rest : List Event}

theorem orderly (h : b.LeavesUnread b' id rest) (hb : b.Orderly) : b'.Orderly := by
  obtain rfl | ⟨rfl, -⟩ := h
  · exact hb.withQueue id rest
  · exact hb

theorem live_eq (h : b.LeavesUnread b' id rest) : b'.live = b.live := by
  obtain rfl | ⟨rfl, -⟩ := h
  · exact live_withQueue b id rest
  · rfl

theorem find?_eq (h : b.LeavesUnread b' id rest) (other : Nat) : b'.find? other =
    if other = id then (b.find? other).map fun c => { c with queue := rest }
    else b.find? other := by
  obtain rfl | ⟨rfl, rfl⟩ := h
  · exact find?_withQueue b id rest other
  · split
    · rename_i hid
      rw [hid, queueOf]
      cases b'.find? id <;> rfl
    · rfl

end LeavesUnread

/-! ### Coming and going -/

theorem find?_subscribe (h : b.Orderly) (capacity : Option Nat) (id : Nat) :
    (b.subscribe capacity).2.find? id =
      if id = b.nextId then some { id, capacity := capacity.map (max · 1) } else b.find? id := by
  rw [find?, subscribe, List.find?_append]
  split
  · rename_i hid
    have hnone : b.find? id = none := find?_eq_none_iff.mpr (hid ▸ h.nextId_not_live)
    rw [find?] at hnone
    rw [hnone, hid]
    simp
  · rename_i hid
    simp [find?, Ne.symm hid]

theorem live_subscribe (b : Bus) (capacity : Option Nat) :
    (b.subscribe capacity).2.live = b.live ++ [b.nextId] := by
  simp [live, subscribe]

theorem Orderly.subscribe (h : b.Orderly) (capacity : Option Nat) :
    (b.subscribe capacity).2.Orderly where
  registry := by
    rw [live_subscribe, ← h.registry]
    rfl
  nodup := by
    rw [Bus.subscribe, List.map_append]
    refine List.nodup_append.mpr ⟨h.nodup, List.nodup_singleton _, ?_⟩
    intro id hid other hother heq
    obtain ⟨c, hc, rfl⟩ := List.mem_map.mp hid
    have hlt := h.fresh c hc
    have hnext : other = b.nextId := by simpa using hother
    omega
  fresh c hc := by
    rcases List.mem_append.mp hc with hold | hnew
    · exact Nat.lt_succ_of_lt (h.fresh c hold)
    · rw [List.mem_singleton.mp hnew]
      exact Nat.lt_succ_self _

theorem unsubscribe_eq (b : Bus) (id : Nat) : b.unsubscribe id =
    { b with
      registry := b.registry.filter (· != id)
      channels := b.channels.map (Channel.closedAt id) } := rfl

theorem live_unsubscribe (b : Bus) (id : Nat) :
    (b.unsubscribe id).live = b.live.filter (· != id) := by
  have hopen : (fun c : Channel => c.isOpen) ∘ Channel.closedAt id =
      fun c => c.id != id && c.isOpen := funext fun c => c.isOpen_closedAt id
  have hcomp : (fun i => i != id) ∘ (fun c : Channel => c.id) = fun c => c.id != id := rfl
  rw [live, unsubscribe_eq, List.filter_map, hopen, map_id_map (Channel.id_closedAt id), live,
    List.filter_map, List.filter_filter, hcomp]

theorem find?_unsubscribe (b : Bus) (id other : Nat) :
    (b.unsubscribe id).find? other = if other = id then none else b.find? other := by
  have hfind : (fun c : Channel => c.id == other && c.isOpen) ∘ Channel.closedAt id =
      fun c => c.id == other && (c.id != id && c.isOpen) := by
    funext c
    rw [Function.comp_apply, c.id_closedAt, c.isOpen_closedAt]
  rw [find?, unsubscribe_eq, List.find?_map, hfind]
  split
  · rename_i hid
    subst hid
    have hnone :
        b.channels.find? (fun c => c.id == other && (c.id != other && c.isOpen)) = none := by
      refine List.find?_eq_none.mpr fun c _ => ?_
      by_cases hc : c.id = other <;> simp [hc]
    rw [hnone]
    rfl
  · rename_i hid
    have hsame : (fun c : Channel => c.id == other && (c.id != id && c.isOpen)) =
        fun c => c.id == other && c.isOpen := by
      funext c
      by_cases hc : c.id = other
      · simp [hc, hid]
      · rw [beq_false_of_ne hc, Bool.false_and, Bool.false_and]
    rw [hsame]
    change (b.find? other).map (Channel.closedAt id) = b.find? other
    cases hf : b.find? other with
    | none => rfl
    | some c =>
      obtain ⟨-, -, rfl⟩ := mem_of_find? hf
      simp [Channel.closedAt, hid]

theorem Orderly.unsubscribe (h : b.Orderly) (id : Nat) : (b.unsubscribe id).Orderly where
  registry := by
    rw [live_unsubscribe, ← h.registry]
    rfl
  nodup := by
    rw [unsubscribe_eq, map_id_map (Channel.id_closedAt id)]
    exact h.nodup
  fresh c hc := by
    obtain ⟨c', hc', rfl⟩ := List.mem_map.mp hc
    have hid := c'.id_closedAt id
    exact hid.symm ▸ h.fresh c' hc'

/-! ### Every act -/

/-- **Every act keeps the bus orderly.** -/
theorem Orderly.perform (h : b.Orderly) : ∀ act : Act, (b.perform act).2.Orderly
  | .subscribe capacity => h.subscribe capacity
  | .publish e => h.publish e
  | .receive id => (receive_spec b id).2.orderly h
  | .drain id => (drain_spec b id).2.orderly h
  | .unsubscribe id => h.unsubscribe id

/-- Who is there after an act. -/
theorem Orderly.live_perform (h : b.Orderly) (act : Act) : (b.perform act).2.live =
    match act with
    | .subscribe _ => b.live ++ [b.nextId]
    | .unsubscribe id => b.live.filter (· != id)
    | _ => b.live := by
  cases act with
  | subscribe capacity => exact live_subscribe b capacity
  | publish e => exact h.live_publish e
  | receive id => exact (receive_spec b id).2.live_eq
  | drain id => exact (drain_spec b id).2.live_eq
  | unsubscribe id => exact live_unsubscribe b id

/-- **Each subscription sees an act as if it were alone on the bus**, until it ends. -/
theorem Orderly.find?_perform (h : b.Orderly) (hf : b.find? id = some c) {act : Act}
    (hact : act ≠ .unsubscribe id) : (b.perform act).2.find? id = some (c.perform act).2 := by
  have hid : c.id = id := (mem_of_find? hf).2.2
  have hqueue : b.queueOf id = c.queue := by
    rw [queueOf, hf]
    rfl
  cases act with
  | subscribe capacity =>
    have hne : id ≠ b.nextId := fun he => h.nextId_not_live (he ▸ mem_live_of_find? hf)
    rw [Bus.perform, find?_subscribe h, if_neg hne]
    exact hf
  | publish e =>
    rw [Bus.perform, h.find?_publish, hf]
    rfl
  | receive other =>
    rw [Bus.perform, (receive_spec b other).2.find?_eq, Channel.perform, hid, hf]
    by_cases he : other = id
    · rw [he, hqueue]
      simp [hid]
    · simp [he, Ne.symm he]
  | drain other =>
    rw [Bus.perform, (drain_spec b other).2.find?_eq, Channel.perform, hid, hf]
    by_cases he : other = id
    · simp [he, hid]
    · simp [he, Ne.symm he]
  | unsubscribe other =>
    have hne : id ≠ other := fun he => hact (he ▸ rfl)
    rw [Bus.perform, find?_unsubscribe, if_neg hne]
    exact hf

/-- The one that acts gets what its channel gives. -/
theorem fst_perform (hf : b.find? id = some c) {act : Act} (hact : act.actor? = some id)
    (hne : act ≠ .unsubscribe id) : (b.perform act).1 = (c.perform act).1 := by
  have hid : c.id = id := (mem_of_find? hf).2.2
  have hqueue : b.queueOf id = c.queue := by
    rw [queueOf, hf]
    rfl
  cases act with
  | subscribe capacity => nomatch hact
  | publish e => nomatch hact
  | receive other =>
    obtain rfl : other = id := Option.some.inj hact
    rw [Bus.perform, Channel.perform, if_pos hid.symm, (receive_spec b other).1, hqueue]
    cases c.queue <;> rfl
  | drain other =>
    obtain rfl : other = id := Option.some.inj hact
    rw [Bus.perform, Channel.perform, if_pos hid.symm, (drain_spec b other).1, hqueue]
  | unsubscribe other => exact absurd (congrArg Act.unsubscribe (Option.some.inj hact)) hne

/-- **Nobody changes the queue of somebody else.** -/
theorem Orderly.queueOf_perform (h : b.Orderly) {act : Act} (hpublish : ∀ e, act ≠ .publish e)
    (hother : act.actor? ≠ some id) : (b.perform act).2.queueOf id = b.queueOf id := by
  have hne (other : Nat) (ho : act.actor? = some other) : id ≠ other := fun he =>
    hother (he ▸ ho)
  rw [queueOf, queueOf]
  cases act with
  | subscribe capacity =>
    rw [Bus.perform, find?_subscribe h]
    split
    · rename_i hid
      rw [find?_eq_none_iff.mpr (hid ▸ h.nextId_not_live)]
      rfl
    · rfl
  | publish e => exact absurd rfl (hpublish e)
  | receive other => rw [Bus.perform, (receive_spec b other).2.find?_eq, if_neg (hne other rfl)]
  | drain other => rw [Bus.perform, (drain_spec b other).2.find?_eq, if_neg (hne other rfl)]
  | unsubscribe other => rw [Bus.perform, find?_unsubscribe, if_neg (hne other rfl)]

end Bus
end ReactiveTree.Signal
