import Ubd.Packet.System
import Ubd.Lib.Exchange

/-!
# Packet.Matching — statuses and replies find their commands

No message carries what it belongs to. `Matched` is what makes up for that as long as
no status comes late while there is more to do: the threads then are an `Exchange.Desk`,
one message at a time, the statuses are those of the messages, in order, and the fields
of a node say how its last command ended.
-/

namespace Ubd

open Exchange

/-! ## What became of the messages -/

def outcomeOf (expired : List Nat) (answers : List (Nat × Verdict)) (k : Nat) : Option Verdict :=
  if k ∈ expired then some .abort else (answers.find? fun a => a.1 = k).map Prod.snd

namespace PacketSystem

variable (s : PacketSystem)

/-- The outcome of message `k`: the writer has timed out on it, or its status is in. -/
def outcome (k : Nat) : Option Verdict := outcomeOf s.expired s.answers k

/-- The messages with an outcome. -/
def settled : List (MessageStream × Verdict) := outcomes s.messages s.outcome

/-- The message whose outcome is awaited. -/
def flight : Option MessageStream :=
  match s.writer with
  | .idle => none
  | .holding m => some m
  | .waiting => if s.outcome s.current = none then s.messages.getLast? else none

/-- **What the threads are for**: one message at a time, in the order of the queue. -/
def desk : Desk MessageStream Verdict := ⟨s.settled, s.flight, s.daemon.packetOut⟩

/-- All messages ever queued, in order. -/
def commands : List MessageStream := s.desk.commands

end PacketSystem

/-- The status that a command is owed: none without a node or a callback. -/
def statusOwed (x : MessageStream × Verdict) : Option (Callback × Gpointer × Verdict) :=
  if x.1.n = none then none else x.1.callback.map fun callback => (callback, x.1.data, x.2)

/-- The status that was given to a callback. -/
def statusGiven (x : PacketStream × Handled) : Option (Callback × Gpointer × Verdict) :=
  match x.1.type, x.2 with
  | .status v, .callback callback data => some (callback, data, v)
  | _, _ => none

/-- The status that will be given to a callback. -/
def statusPending (ps : PacketStream) : Option (Callback × Gpointer × Verdict) :=
  match ps.type, ps.callback with
  | .status v, some callback => some (callback, ps.data, v)
  | _, _ => none

/-- The statuses for callbacks, in order: first those that were given, then the pending
ones. -/
def PacketSystem.statuses (s : PacketSystem) : List (Callback × Gpointer × Verdict) :=
  s.dispatched.filterMap statusGiven ++ s.idle.filterMap statusPending

/-! ## Outcomes -/

theorem outcomeOf_answer {expired : List Nat} {answers : List (Nat × Verdict)} {k : Nat}
    (v : Verdict) (hexpired : k ∉ expired) (hnew : k ∉ answers.map Prod.fst) :
    outcomeOf expired (answers ++ [(k, v)])
      = Function.update (outcomeOf expired answers) k (some v) := by
  funext i
  unfold outcomeOf
  by_cases hi : i = k
  · subst hi
    have hnone : answers.find? (fun a => a.1 = i) = none := by
      rw [List.find?_eq_none]
      intro a ha heq
      exact hnew (List.mem_map.mpr ⟨a, ha, by simpa using heq⟩)
    rw [Function.update_self, if_neg hexpired, List.find?_append, hnone]
    simp
  · have hother : [(k, v)].find? (fun a => a.1 = i) = none := by
      simp [Ne.symm hi]
    rw [Function.update_of_ne hi, List.find?_append, hother, Option.or_none]

/-- A status that comes after the time-out is no outcome. -/
theorem outcomeOf_late {expired : List Nat} (answers : List (Nat × Verdict)) {k : Nat}
    (v : Verdict) (hexpired : k ∈ expired) :
    outcomeOf expired (answers ++ [(k, v)]) = outcomeOf expired answers := by
  funext i
  unfold outcomeOf
  by_cases hi : i = k
  · subst hi
    rw [if_pos hexpired, if_pos hexpired]
  · have hother : [(k, v)].find? (fun a => a.1 = i) = none := by
      simp [Ne.symm hi]
    rw [List.find?_append, hother, Option.or_none]

theorem outcomeOf_timeout (expired : List Nat) (answers : List (Nat × Verdict)) (k : Nat) :
    outcomeOf (expired ++ [k]) answers
      = Function.update (outcomeOf expired answers) k (some .abort) := by
  funext i
  unfold outcomeOf
  by_cases hi : i = k
  · subst hi
    simp
  · rw [Function.update_of_ne hi]
    simp [hi]

/-- A message that is settled without having timed out has been answered. -/
theorem mem_answers_of_outcome {expired : List Nat} {answers : List (Nat × Verdict)} {k : Nat}
    (h : outcomeOf expired answers k ≠ none) (hexpired : k ∉ expired) :
    k ∈ answers.map Prod.fst := by
  unfold outcomeOf at h
  rw [if_neg hexpired] at h
  cases hfind : answers.find? (fun a => a.1 = k) with
  | none =>
      rw [hfind] at h
      exact absurd rfl h
  | some a =>
      have hk := List.find?_some hfind
      exact List.mem_map.mpr ⟨a, List.mem_of_find?_eq_some hfind, by simpa using hk⟩

theorem outcomeOf_answered (expired : List Nat) {answers : List (Nat × Verdict)} {k : Nat}
    (h : k ∈ answers.map Prod.fst) : outcomeOf expired answers k ≠ none := by
  obtain ⟨a, ha, rfl⟩ := List.mem_map.mp h
  unfold outcomeOf
  split
  · exact Option.some_ne_none _
  · intro hnone
    have hfind := List.find?_eq_none.mp (Option.map_eq_none_iff.mp hnone) a ha
    simp at hfind

/-! ## Settling -/

/-- What a status, or the time-out, does to a node. -/
def Node.settle (x : Node) : Verdict → Node
  | .done => { x with currentcallback := x.nextcallback, currentdata := x.nextdata }
  | .abort => { x with currentcallback := none, nextcallback := none }

def Daemon.settle (d : Daemon) (v : Verdict) : Option NodeId → Daemon
  | some n => d.setNode n fun x => x.settle v
  | none => d

/-- The packet for the main loop that goes with it. -/
def Daemon.settleStatus (d : Daemon) (v : Verdict) : Option NodeId → List PacketStream
  | some n => [⟨.status v, (d.nodes n).nextcallback, (d.nodes n).nextdata⟩]
  | none => []

theorem abortNext_eq (s : PacketSystem) : abortNext s = { s with
    daemon := s.daemon.settle .abort s.nextnode
    idle := s.idle ++ s.daemon.settleStatus .abort s.nextnode } := by
  obtain ⟨d, status, next, idle⟩ := s
  cases next with
  | some n => rfl
  | none => simp [abortNext, Daemon.settle, Daemon.settleStatus]

/-- **A status**, for the reader. -/
theorem readStatus_eq (s : PacketSystem) (v : Verdict) : readStatus s v = { s with
    daemon := s.daemon.settle v s.nextnode
    idle := s.idle ++ s.daemon.settleStatus v s.nextnode
    packetStatus := s.packetStatus ++ [v] } := by
  cases v with
  | done =>
      obtain ⟨d, status, next, idle⟩ := s
      cases next with
      | some n =>
          simp [readStatus, readDone, Daemon.settle, Daemon.settleStatus, PacketSystem.idleAdd,
            Node.settle]
      | none => simp [readStatus, readDone, Daemon.settle, Daemon.settleStatus]
  | abort =>
      unfold readStatus readAbort
      rw [abortNext_eq]

@[simp] theorem settle_slots (d : Daemon) (v : Verdict) (n : Option NodeId) :
    (d.settle v n).slots = d.slots := by
  cases n with
  | some n =>
      have hslot : (Node.settle (d.nodes n) v).slot = (d.nodes n).slot := by
        cases v <;> rfl
      exact setNode_slots_same d n (f := fun x => x.settle v) hslot
  | none => rfl

@[simp] theorem settle_packetOut (d : Daemon) (v : Verdict) (n : Option NodeId) :
    (d.settle v n).packetOut = d.packetOut := by
  cases n <;> rfl

theorem settle_streams (d : Daemon) (v : Verdict) (n : NodeId) :
    (d.settle v (some n)).streams
      = Function.update d.streams n ((d.nodes n).settle v).stream := by
  funext i
  by_cases hi : i = n
  · subst hi
    simp [Daemon.settle, Daemon.streams]
  · simp [Daemon.settle, Daemon.streams, setNode_of_ne d n _ hi, hi]

/-! ## The invariant -/

/-- What a node remembers of its last command. -/
def Remembers (settled : List (MessageStream × Verdict)) (n : NodeId) (st : Stream) : Prop :=
  match lastOf MessageStream.n settled n with
  | some (m, .done) => st.currentcallback = m.callback ∧ st.currentdata = m.data
  | _ => st.currentcallback = none

/-- `nextnode` and its fields are those of a message. -/
def PacketSystem.Next (s : PacketSystem) (m : MessageStream) : Prop :=
  s.nextnode = m.n ∧ ∀ n, m.n = some n →
    (s.daemon.streams n).nextcallback = m.callback ∧ (s.daemon.streams n).nextdata = m.data

/-- Whom `nextnode` lets call. -/
def PacketSystem.nextCallback (s : PacketSystem) : Option Callback :=
  s.nextnode.bind fun n => (s.daemon.nodes n).nextcallback

/-- Where the writer is, and what there is in `packet_status` for it. -/
inductive Turn (s : PacketSystem) : Prop
  | free (idle : s.writer = .idle) (settled : ∀ k < s.messages.length, s.outcome k ≠ none)
      (clear : s.expired = [] → s.packetStatus = [])
  | held (m : MessageStream) (holding : s.writer = .holding m)
      (settled : ∀ k < s.messages.length, s.outcome k ≠ none) (clear : s.packetStatus = [])
      (next : s.Next m)
  | written (ms : List MessageStream) (m : MessageStream) (waiting : s.writer = .waiting)
      (messages : s.messages = ms ++ [m]) (settled : ∀ k < ms.length, s.outcome k ≠ none)
      (unsettled : s.outcome ms.length = none) (clear : s.packetStatus = []) (next : s.Next m)
  /-- The status the writer waits for is the oldest one. -/
  | answered (waiting : s.writer = .waiting)
      (settled : ∀ k < s.messages.length, s.outcome k ≠ none)
      (oldest : ∃ late, s.answers.map Prod.fst = s.ended ++ s.current :: late)
      (single : s.expired = [] → s.packetStatus.length = 1)

/-- **The invariant of the threads.** -/
structure Matched (s : PacketSystem) : Prop where
  assigned : s.daemon.slots.Assigned
  answers : ∀ k ∈ s.answers.map Prod.fst, k < s.messages.length
  expired : ∀ k ∈ s.expired, k < s.messages.length
  ended : s.ended <+: s.answers.map Prod.fst
  queued : s.answers.length = s.ended.length + s.packetStatus.length
  turn : Turn s
  statuses : s.statuses = s.settled.filterMap statusOwed
  streams : s.expired = [] → ∀ n, Remembers s.settled n (s.daemon.streams n)

/-- A status is no trouble if it comes in time, or if nothing is in flight and nobody is
to be called; and nothing must be taken after one that is left over. -/
def Timely (s : PacketSystem) : PacketEvent → Prop
  | .answer k _ => k ∈ s.expired → s.flight = none ∧ s.nextCallback = none
  | .take => s.writer = .idle → s.daemon.packetOut ≠ [] → s.packetStatus = []
  | _ => True

instance : ∀ s e, Decidable (Timely s e)
  | s, .answer k _ =>
      inferInstanceAs (Decidable (k ∈ s.expired → s.flight = none ∧ s.nextCallback = none))
  | s, .take =>
      inferInstanceAs (Decidable (s.writer = .idle → s.daemon.packetOut ≠ [] → s.packetStatus = []))
  | _, .main _ | _, .stream .. | _, .write | _, .pop | _, .timeout | _, .packet ..
  | _, .dispatch _ => .isTrue trivial

theorem last_current {s : PacketSystem} {ms : List MessageStream} {m : MessageStream}
    (h : s.messages = ms ++ [m]) : s.current = ms.length := by
  unfold PacketSystem.current
  rw [h]
  simp

namespace Turn

variable {s : PacketSystem}

/-- Between two messages. -/
theorem of_idle (h : Turn s) (hidle : s.writer = .idle) :
    (∀ k < s.messages.length, s.outcome k ≠ none) ∧ (s.expired = [] → s.packetStatus = []) := by
  cases h with
  | free _ settled clear => exact ⟨settled, clear⟩
  | held m holding => rw [hidle] at holding; cases holding
  | written ms m waiting => rw [hidle] at waiting; cases waiting
  | answered waiting => rw [hidle] at waiting; cases waiting

/-- With a message that is not written yet. -/
theorem of_holding (h : Turn s) {m : MessageStream} (hholding : s.writer = .holding m) :
    (∀ k < s.messages.length, s.outcome k ≠ none) ∧ s.packetStatus = [] ∧ s.Next m := by
  cases h with
  | free idle => rw [hholding] at idle; cases idle
  | held m' holding settled clear next =>
      rw [hholding] at holding
      cases holding
      exact ⟨settled, clear, next⟩
  | written ms m' waiting => rw [hholding] at waiting; cases waiting
  | answered waiting => rw [hholding] at waiting; cases waiting

/-- Nothing is in flight when all messages are settled and none is held. -/
theorem settled_of_flight (h : Turn s) (hflight : s.flight = none) :
    ∀ k < s.messages.length, s.outcome k ≠ none := by
  cases h with
  | free _ settled => exact settled
  | held m holding =>
      unfold PacketSystem.flight at hflight
      rw [holding] at hflight
      cases hflight
  | written ms m waiting messages settled unsettled =>
      unfold PacketSystem.flight at hflight
      rw [waiting] at hflight
      dsimp only at hflight
      rw [last_current messages, if_pos unsettled, messages, List.getLast?_concat] at hflight
      cases hflight
  | answered _ settled => exact settled

end Turn

/-! ## Settling a message -/

theorem remembers_append {settled : List (MessageStream × Verdict)} {n : NodeId} {st : Stream}
    {m : MessageStream} {v : Verdict} : Remembers (settled ++ [(m, v)]) n st ↔
      if m.n = some n then
        match v with
        | .done => st.currentcallback = m.callback ∧ st.currentdata = m.data
        | .abort => st.currentcallback = none
      else Remembers settled n st := by
  unfold Remembers
  rw [lastOf_append]
  split_ifs with hn
  · cases v <;> rfl
  · rfl

theorem settle_stream (x : Node) (v : Verdict) : (x.settle v).stream =
    match v with
    | .done => { x.stream with currentcallback := x.nextcallback, currentdata := x.nextdata }
    | .abort => { x.stream with currentcallback := none, nextcallback := none } := by
  cases v <;> rfl

section Settle

variable {s : PacketSystem} {m : MessageStream} (v : Verdict)

/-- The status goes to the command in flight. -/
theorem settleStatus_next (h : s.Next m) :
    (s.daemon.settleStatus v s.nextnode).filterMap statusPending = (statusOwed (m, v)).toList := by
  obtain ⟨hnext, hfields⟩ := h
  rw [hnext]
  cases hn : m.n with
  | none => simp [Daemon.settleStatus, statusOwed, hn]
  | some n =>
      obtain ⟨hcallback, hdata⟩ := hfields n hn
      have hcallback' : (s.daemon.nodes n).nextcallback = m.callback := hcallback
      have hdata' : (s.daemon.nodes n).nextdata = m.data := hdata
      rw [Daemon.settleStatus, hcallback', hdata', statusOwed, hn]
      cases m.callback <;> rfl

/-- The node of the command in flight remembers it, and nobody else changes. -/
theorem settle_remembers (h : s.Next m) {settled : List (MessageStream × Verdict)}
    (hstreams : ∀ n, Remembers settled n (s.daemon.streams n)) (n : NodeId) :
    Remembers (settled ++ [(m, v)]) n ((s.daemon.settle v s.nextnode).streams n) := by
  obtain ⟨hnext, hfields⟩ := h
  rw [remembers_append, hnext]
  cases hm : m.n with
  | none =>
      rw [if_neg (by simp)]
      exact hstreams n
  | some i =>
      rw [settle_streams]
      by_cases hni : n = i
      · subst hni
        obtain ⟨hcallback, hdata⟩ := hfields n hm
        rw [if_pos rfl, Function.update_self, settle_stream]
        cases v with
        | done => exact ⟨hcallback, hdata⟩
        | abort => rfl
      · rw [if_neg fun heq => hni (Option.some.inj heq).symm, Function.update_of_ne hni]
        exact hstreams n

/-- A status calls nobody exactly when there is no callback. -/
theorem settleStatus_silent_iff :
    (s.daemon.settleStatus v s.nextnode).filterMap statusPending = [] ↔ s.nextCallback = none := by
  unfold PacketSystem.nextCallback
  cases s.nextnode with
  | none => simp [Daemon.settleStatus]
  | some n =>
      cases hcallback : (s.daemon.nodes n).nextcallback with
      | none => simp [Daemon.settleStatus, statusPending, hcallback]
      | some callback => simp [Daemon.settleStatus, statusPending, hcallback]

end Settle

/-! ## The main loop -/

/-- What the main loop leaves alone: it only adds to the queue, and keeps what the
threads write to the nodes. -/
structure Daemon.Kept (d d' : Daemon) : Prop where
  assigned : d.slots.Assigned → d'.slots.Assigned
  streams : d'.streams = d.streams
  queued : ∃ ms, d'.packetOut = d.packetOut ++ ms

theorem Daemon.Kept.refl (d : Daemon) : d.Kept d :=
  ⟨id, rfl, ⟨[], (List.append_nil _).symm⟩⟩

theorem Traffic.kept {d d' : Daemon} (h : Traffic d d') : d.Kept d' where
  assigned := by
    rw [h.slots]
    exact id
  streams := h.streams
  queued := h.queued

theorem Quiet.kept {d d' : Daemon} (h : Quiet d d')
    (hassigned : d.slots.Assigned → d'.slots.Assigned) : d.Kept d' where
  assigned := hassigned
  streams := h.streams
  queued := by
    obtain ⟨ms, hms, -⟩ := h.queued
    exact ⟨ms, hms⟩

theorem busmgtInpacket_kept {d d' : Daemon} {p : UbPacket} {connect : UbnetdConnect}
    (hd : d.slots.Assigned) (h : busmgtInpacket d p connect = .ok d') : d.Kept d' := by
  obtain ⟨hchange, hquiet⟩ := busmgtInpacket_change hd.free h
  exact hquiet.kept fun hd => hd.packet hchange

theorem mainStep_kept {d d' : Daemon} {e : MainEvent} (h : mainStep d e = .ok d') : d.Kept d' := by
  by_cases he : ∃ env, e = .tick env
  · obtain ⟨env, rfl⟩ := he
    obtain ⟨hexp, hquiet⟩ := mgtTick_change h
    exact hquiet.kept fun hd => hd.expired hexp
  · exact (mainStep_traffic (fun env heq => he ⟨env, heq⟩) h).kept

theorem packetStreamPacket_kept {d d' : Daemon} {n : Option NodeId} {p : OutPacket}
    {callback : Option Callback} {data : Gpointer}
    (h : packetStreamPacket d n p callback data = .ok d') : d.Kept d' := by
  rw [packetStreamPacket_ok h]
  exact ⟨id, rfl, ⟨_, rfl⟩⟩

theorem write_kept (d : Daemon) (out : Gpointer) (writes : List (List UInt8)) :
    d.Kept (d.write out writes) := ⟨id, rfl, ⟨[], (List.append_nil _).symm⟩⟩

theorem Daemon.Kept.trans {a b c : Daemon} (h : a.Kept b) (h' : b.Kept c) : a.Kept c where
  assigned := fun ha => h'.assigned (h.assigned ha)
  streams := h'.streams.trans h.streams
  queued := by
    obtain ⟨ms, hms⟩ := h.queued
    obtain ⟨ms', hms'⟩ := h'.queued
    exact ⟨ms ++ ms', by rw [hms', hms, List.append_assoc]⟩

theorem listenNewMessage_kept {d d' : Daemon} {n : NodeId} {p : UbPacket}
    (h : listenNewMessage d n p = .ok d') : d.Kept d' := by
  refine Runs.foldlM_invariant (I := fun e => d.Kept e) (fun out _ e e' he hturn => ?_)
    (Daemon.Kept.refl d) h
  obtain ⟨data, -, hturn⟩ := bind_eq_ok.mp hturn
  cases hturn
  exact he.trans (write_kept e out _)

theorem Callback.call_kept {callback : Callback} {d d' : Daemon} {ps : PacketStream}
    (h : callback.call d ps = .ok d') : d.Kept d' := by
  unfold Callback.call at h
  cases callback with
  | other address =>
      cases h
      exact Daemon.Kept.refl d
  | tcpReply =>
      unfold Ubd.tcpReply at h
      dsimp only at h
      split at h
      · cases h
        exact write_kept d _ _
      · cases h
        exact write_kept d _ _
      · obtain ⟨data, -, h⟩ := bind_eq_ok.mp h
        cases h
        exact write_kept d _ _

/-- Where a packet goes that no command has asked for. -/
def StreamType.unsolicited : StreamType → Handled
  | .packet p n =>
      if p.flags &&& ubPacketMgt ≠ 0 then .busmgt
      else match n with
        | some n => .listen n
        | none => .nowhere
  | .status _ => .nowhere

theorem packetUnsolicited_spec {d d' : Daemon} {type : StreamType} {connect : UbnetdConnect}
    {handled : Handled} (hd : d.slots.Assigned)
    (h : packetUnsolicited d type connect = .ok (d', handled)) :
    d.Kept d' ∧ handled = type.unsolicited := by
  unfold packetUnsolicited at h
  cases type with
  | status v =>
      cases h
      exact ⟨Daemon.Kept.refl d, rfl⟩
  | packet p n =>
      unfold StreamType.unsolicited
      dsimp only at h ⊢
      split at h
      · rename_i hmgt
        obtain ⟨d₁, hrun, h⟩ := bind_eq_ok.mp h
        cases h
        exact ⟨busmgtInpacket_kept hd hrun, by rw [if_pos hmgt]⟩
      · rename_i hmgt
        rw [if_neg hmgt]
        cases n with
        | some n =>
            obtain ⟨d₁, hrun, h⟩ := bind_eq_ok.mp h
            cases h
            exact ⟨listenNewMessage_kept hrun, rfl⟩
        | none =>
            cases h
            exact ⟨Daemon.Kept.refl d, rfl⟩

/-- Where `packet_inpacket` takes a packet: to its callback, if it has one and is not
unsolicited. -/
def PacketStream.destination (ps : PacketStream) : Handled :=
  match ps.callback with
  | some callback => if ps.isReply then .callback callback ps.data else ps.type.unsolicited
  | none => ps.type.unsolicited

theorem packetInpacket_spec {d d' : Daemon} {ps : PacketStream} {connect : UbnetdConnect}
    {handled : Handled} (hd : d.slots.Assigned)
    (h : packetInpacket d ps connect = .ok (d', handled)) :
    d.Kept d' ∧ handled = ps.destination := by
  unfold packetInpacket at h
  unfold PacketStream.destination
  cases hcallback : ps.callback with
  | none =>
      rw [hcallback] at h
      exact packetUnsolicited_spec hd h
  | some callback =>
      rw [hcallback] at h
      dsimp only at h ⊢
      split at h
      · rename_i hreply
        obtain ⟨d₁, hrun, h⟩ := bind_eq_ok.mp h
        cases h
        exact ⟨Callback.call_kept hrun, by rw [if_pos hreply]⟩
      · rename_i hreply
        rw [if_neg hreply]
        exact packetUnsolicited_spec hd h

theorem statusGiven_destination (ps : PacketStream) :
    statusGiven (ps, ps.destination) = statusPending ps := by
  obtain ⟨type, callback, data⟩ := ps
  cases type with
  | status v => cases callback <;> rfl
  | packet p n => cases callback <;> rfl

/-! ## The steps -/

/-- The invariant is kept, and the desk has done a step or nothing. -/
structure Advances (s s' : PacketSystem) : Prop where
  matched : Matched s'
  desk : Relation.ReflGen Step s.desk s'.desk

theorem Matched.advances_refl {s : PacketSystem} (h : Matched s) : Advances s s := ⟨h, .refl⟩

/-- What the main loop and the data packets do is no business of the writer's. -/
theorem Turn.aside {s : PacketSystem} (h : Turn s) {d : Daemon} {idle : List PacketStream}
    {dispatched : List (PacketStream × Handled)} (hstreams : d.streams = s.daemon.streams) :
    Turn { s with daemon := d, idle := idle, dispatched := dispatched } := by
  have hnext : ∀ m, s.Next m →
      PacketSystem.Next { s with daemon := d, idle := idle, dispatched := dispatched } m := by
    rintro m ⟨hnode, hfields⟩
    refine ⟨hnode, fun n hn => ?_⟩
    rw [show PacketSystem.daemon { s with daemon := d, idle := idle, dispatched := dispatched } = d
      from rfl, hstreams]
    exact hfields n hn
  cases h with
  | free idle settled clear => exact .free idle settled clear
  | held m holding settled clear next => exact .held m holding settled clear (hnext m next)
  | written ms m waiting messages settled unsettled clear next =>
      exact .written ms m waiting messages settled unsettled clear (hnext m next)
  | answered waiting settled oldest single => exact .answered waiting settled oldest single

theorem Matched.aside {s : PacketSystem} (h : Matched s) {d : Daemon} {idle : List PacketStream}
    {dispatched : List (PacketStream × Handled)} (hkept : s.daemon.Kept d)
    (hstatuses : dispatched.filterMap statusGiven ++ idle.filterMap statusPending = s.statuses) :
    Advances s { s with daemon := d, idle := idle, dispatched := dispatched } where
  matched :=
    { assigned := hkept.assigned h.assigned
      answers := h.answers
      expired := h.expired
      ended := h.ended
      queued := h.queued
      turn := h.turn.aside hkept.streams
      statuses := hstatuses.trans h.statuses
      streams := by
        intro hexpired n
        show Remembers s.settled n (d.streams n)
        rw [hkept.streams]
        exact h.streams hexpired n }
  desk := by
    obtain ⟨ms, hms⟩ := hkept.queued
    refine .single ?_
    show Step s.desk ⟨s.settled, s.flight, d.packetOut⟩
    rw [hms]
    exact .enqueue s.desk ms

theorem Remembers.congr {settled : List (MessageStream × Verdict)} {n : NodeId} {st st' : Stream}
    (h : Remembers settled n st) (hcallback : st'.currentcallback = st.currentcallback)
    (hdata : st'.currentdata = st.currentdata) : Remembers settled n st' := by
  unfold Remembers at h ⊢
  split at h
  · rw [hcallback, hdata]
    exact h
  · rw [hcallback]
    exact h

/-- The fields the writer sets for a message. -/
def Daemon.setNext (d : Daemon) (m : MessageStream) : Daemon :=
  match m.n with
  | some n => d.setNode n fun x => { x with nextcallback := m.callback, nextdata := m.data }
  | none => d

theorem setNext_streams (d : Daemon) (m : MessageStream) (n : NodeId) :
    (d.setNext m).streams n = if m.n = some n then
      { d.streams n with nextcallback := m.callback, nextdata := m.data } else d.streams n := by
  unfold Daemon.setNext
  cases hm : m.n with
  | none => simp
  | some i =>
      by_cases hni : n = i
      · subst hni
        simp [Daemon.streams, Node.stream]
      · rw [if_neg fun heq => hni (Option.some.inj heq).symm]
        simp [Daemon.streams, setNode_of_ne d i _ hni]

theorem setNext_slots (d : Daemon) (m : MessageStream) : (d.setNext m).slots = d.slots := by
  unfold Daemon.setNext
  cases m.n with
  | none => rfl
  | some n => exact setNode_slots_same d n rfl

theorem setNext_packetOut (d : Daemon) (m : MessageStream) :
    (d.setNext m).packetOut = d.packetOut := by
  unfold Daemon.setNext
  cases m.n <;> rfl

/-- What is taken from a queue that has something. -/
theorem writerTake_eq {s : PacketSystem} {m : MessageStream} {rest : List MessageStream}
    (hidle : s.writer = .idle) (hqueue : s.daemon.packetOut = m :: rest) :
    writerTake s = { s with
      daemon := Daemon.setNext { s.daemon with packetOut := rest } m
      nextnode := m.n
      writer := .holding m } := by
  unfold writerTake
  rw [hidle, hqueue]
  rfl

theorem writerTake_busy {s : PacketSystem} (h : s.writer = .idle → s.daemon.packetOut = []) :
    writerTake s = s := by
  unfold writerTake
  cases hw : s.writer with
  | idle => rw [h hw]
  | holding m => rfl
  | waiting => rfl

theorem writerTake_advances {s : PacketSystem} (h : Matched s) (htimely : Timely s .take) :
    Advances s (writerTake s) := by
  by_cases hidle : s.writer = .idle
  · cases hqueue : s.daemon.packetOut with
    | nil =>
        rw [writerTake_busy fun _ => hqueue]
        exact h.advances_refl
    | cons m rest =>
        have hclear := htimely hidle (by rw [hqueue]; exact List.cons_ne_nil _ _)
        obtain ⟨hsettled, -⟩ := h.turn.of_idle hidle
        have hnext : ∀ n, m.n = some n →
            (Daemon.streams (Daemon.setNext { s.daemon with packetOut := rest } m) n).nextcallback
                = m.callback
              ∧ (Daemon.streams (Daemon.setNext { s.daemon with packetOut := rest } m) n).nextdata
                = m.data := by
          intro n hn
          rw [setNext_streams, if_pos hn]
          exact ⟨rfl, rfl⟩
        rw [writerTake_eq hidle hqueue]
        constructor
        · refine ⟨?_, h.answers, h.expired, h.ended, h.queued,
            .held m rfl hsettled hclear ⟨rfl, hnext⟩, h.statuses, fun hexpired n => ?_⟩
          · show (Daemon.slots (Daemon.setNext _ m)).Assigned
            rw [setNext_slots]
            exact h.assigned
          · show Remembers s.settled n (Daemon.streams (Daemon.setNext _ m) n)
            rw [setNext_streams]
            refine (h.streams hexpired n).congr ?_ ?_
            · split <;> rfl
            · split <;> rfl
        · refine .single ?_
          have hflight : s.flight = none := by
            unfold PacketSystem.flight
            rw [hidle]
          show Step s.desk ⟨s.settled, some m, Daemon.packetOut (Daemon.setNext _ m)⟩
          rw [setNext_packetOut]
          unfold PacketSystem.desk
          rw [hflight, hqueue]
          exact .start s.settled m rest
  · rw [writerTake_busy fun h => absurd h hidle]
    exact h.advances_refl

/-- A message that has not been written has no outcome. -/
theorem Matched.outcome_next {s : PacketSystem} (h : Matched s) :
    s.outcome s.messages.length = none := by
  unfold PacketSystem.outcome outcomeOf
  rw [if_neg fun hk => Nat.lt_irrefl _ (h.expired _ hk)]
  have hnone : s.answers.find? (fun a => a.1 = s.messages.length) = none := by
    rw [List.find?_eq_none]
    intro a ha heq
    have hlt := h.answers a.1 (List.mem_map.mpr ⟨a, ha, rfl⟩)
    have hk : a.1 = s.messages.length := by simpa using heq
    omega
  rw [hnone]
  rfl

theorem writerWrite_eq {s : PacketSystem} {m : MessageStream} (hholding : s.writer = .holding m) :
    writerWrite s = { s with messages := s.messages ++ [m], writer := .waiting } := by
  unfold writerWrite
  rw [hholding]

theorem writerWrite_nothing {s : PacketSystem} (h : ∀ m, s.writer ≠ .holding m) :
    writerWrite s = s := by
  unfold writerWrite
  split
  · rename_i m hholding
    exact absurd hholding (h m)
  · rfl

theorem writerWrite_advances {s : PacketSystem} (h : Matched s) : Advances s (writerWrite s) := by
  cases hw : s.writer with
  | idle =>
      rw [writerWrite_nothing fun m => by rw [hw]; exact nofun]
      exact h.advances_refl
  | waiting =>
      rw [writerWrite_nothing fun m => by rw [hw]; exact nofun]
      exact h.advances_refl
  | holding m =>
      obtain ⟨hsettled, hclear, hnext⟩ := h.turn.of_holding hw
      have hlength : (s.messages ++ [m]).length = s.messages.length + 1 := by simp
      -- the new message has no outcome yet
      have hkeep : outcomes (s.messages ++ [m]) s.outcome = s.settled := by
        rw [outcomes_append, h.outcome_next]
        exact List.append_nil _
      rw [writerWrite_eq hw]
      constructor
      · refine ⟨h.assigned, fun k hk => ?_, fun k hk => ?_, h.ended, h.queued,
          .written s.messages m rfl rfl hsettled h.outcome_next hclear hnext, ?_,
          fun hexpired n => ?_⟩
        · exact lt_of_lt_of_eq (Nat.lt_succ_of_lt (h.answers k hk)) hlength.symm
        · exact lt_of_lt_of_eq (Nat.lt_succ_of_lt (h.expired k hk)) hlength.symm
        · show s.statuses = (outcomes (s.messages ++ [m]) s.outcome).filterMap statusOwed
          rw [hkeep]
          exact h.statuses
        · show Remembers (outcomes (s.messages ++ [m]) s.outcome) n (s.daemon.streams n)
          rw [hkeep]
          exact h.streams hexpired n
      · have hdesk : PacketSystem.desk { s with messages := s.messages ++ [m], writer := .waiting }
            = s.desk := by
          have hflight : PacketSystem.flight
              { s with messages := s.messages ++ [m], writer := .waiting } = s.flight := by
            have hcurrent : (s.messages ++ [m]).length - 1 = s.messages.length := by omega
            have hnone := h.outcome_next
            unfold PacketSystem.flight PacketSystem.current
            rw [hw]
            dsimp only
            rw [hcurrent]
            rw [show PacketSystem.outcome
                { s with messages := s.messages ++ [m], writer := .waiting } = s.outcome from rfl,
              if_pos hnone, List.getLast?_concat]
          unfold PacketSystem.desk
          rw [hflight]
          exact congrArg (fun l => Desk.mk l s.flight s.daemon.packetOut) hkeep
        rw [hdesk]

/-- A message that has its outcome is not in flight. -/
theorem flight_settled {s : PacketSystem} (hwaiting : s.writer = .waiting)
    (hsettled : ∀ k < s.messages.length, s.outcome k ≠ none) : s.flight = none := by
  unfold PacketSystem.flight
  rw [hwaiting]
  dsimp only
  by_cases hpos : s.messages = []
  · simp [hpos]
  · have hlt : s.current < s.messages.length := by
      have := List.length_pos_iff.mpr hpos
      unfold PacketSystem.current
      omega
    rw [if_neg (hsettled _ hlt)]

/-- Without an outcome in between, the desk does not change. -/
theorem desk_congr {s s' : PacketSystem} (hmessages : s'.messages = s.messages)
    (hexpired : s'.expired = s.expired) (hanswers : s'.answers = s.answers)
    (hflight : s'.flight = s.flight) (hqueue : s'.daemon.packetOut = s.daemon.packetOut) :
    s'.desk = s.desk := by
  unfold PacketSystem.desk PacketSystem.settled PacketSystem.outcome
  rw [hmessages, hexpired, hanswers, hflight, hqueue]

theorem writerPop_nothing {s : PacketSystem} (h : s.writer = .waiting → s.packetStatus = []) :
    writerPop s = s := by
  unfold writerPop
  cases hw : s.writer with
  | idle => rfl
  | holding m => rfl
  | waiting => rw [h hw]

theorem writerPop_advances {s : PacketSystem} (h : Matched s) : Advances s (writerPop s) := by
  cases h.turn with
  | free idle =>
      rw [writerPop_nothing fun hw => by rw [idle] at hw; cases hw]
      exact h.advances_refl
  | held m holding =>
      rw [writerPop_nothing fun hw => by rw [holding] at hw; cases hw]
      exact h.advances_refl
  | written ms m waiting messages settled unsettled clear =>
      rw [writerPop_nothing fun _ => clear]
      exact h.advances_refl
  | answered waiting settled oldest single =>
      obtain ⟨late, hlate⟩ := oldest
      have hqueued := h.queued
      have hlength : s.answers.length = s.ended.length + (late.length + 1) := by
        have := congrArg List.length hlate
        simpa using this
      cases hstatus : s.packetStatus with
      | nil =>
          rw [hstatus, List.length_nil] at hqueued
          omega
      | cons v rest =>
          rw [hstatus, List.length_cons] at hqueued
          have heq : writerPop s = { s with
              packetStatus := rest, writer := .idle, ended := s.ended ++ [s.current] } := by
            unfold writerPop
            rw [waiting, hstatus]
          have hclear : s.expired = [] → rest = [] := by
            intro hexpired
            have hone := single hexpired
            rw [hstatus, List.length_cons] at hone
            exact List.eq_nil_of_length_eq_zero (by omega)
          have hended : s.ended ++ [s.current] <+: s.answers.map Prod.fst :=
            ⟨late, by rw [hlate, List.append_assoc, List.singleton_append]⟩
          have hcount : s.answers.length = (s.ended ++ [s.current]).length + rest.length := by
            rw [List.length_append, List.length_singleton]
            omega
          have hflight := flight_settled waiting settled
          rw [heq]
          constructor
          · exact ⟨h.assigned, h.answers, h.expired, hended, hcount, .free rfl settled hclear,
              h.statuses, h.streams⟩
          · have hdesk : PacketSystem.desk { s with
                packetStatus := rest, writer := .idle, ended := s.ended ++ [s.current] } = s.desk :=
              desk_congr rfl rfl rfl hflight.symm rfl
            rw [hdesk]

theorem settled_snoc {s : PacketSystem} {ms : List MessageStream} {m : MessageStream}
    (hmessages : s.messages = ms ++ [m]) (hunsettled : s.outcome ms.length = none) :
    s.settled = outcomes ms s.outcome := by
  unfold PacketSystem.settled
  rw [hmessages, outcomes_append, hunsettled]
  exact List.append_nil _

/-- The last message gets its outcome. -/
theorem settled_update {o : Nat → Option Verdict} (ms : List MessageStream) (m : MessageStream)
    (v : Verdict) : outcomes (ms ++ [m]) (Function.update o ms.length (some v))
      = outcomes ms o ++ [(m, v)] := by
  rw [outcomes_append, Function.update_self]
  congr 1
  refine outcomes_congr fun i hi => ?_
  rw [Function.update_of_ne (Nat.ne_of_lt hi)]

theorem update_settled {o : Nat → Option Verdict} {n : Nat} (v : Verdict)
    (h : ∀ k < n, o k ≠ none) : ∀ k < n + 1, Function.update o n (some v) k ≠ none := by
  intro k hk
  by_cases hkn : k = n
  · rw [hkn, Function.update_self]
    exact Option.some_ne_none _
  · rw [Function.update_of_ne hkn]
    exact h k (by omega)

theorem mem_answers_snoc {answers : List (Nat × Verdict)} {k n : Nat} {v : Verdict}
    (h : ∀ i ∈ answers.map Prod.fst, i < n) (hk : k < n) :
    ∀ i ∈ (answers ++ [(k, v)]).map Prod.fst, i < n := by
  intro i hi
  rw [List.map_append, List.mem_append] at hi
  rcases hi with hi | hi
  · exact h i hi
  · rw [List.map_singleton, List.mem_singleton] at hi
    rw [hi]
    exact hk

/-- **The outcome of the message in flight**, by its status or by the time-out. -/
theorem Matched.settles {s s' : PacketSystem} (h : Matched s) {ms : List MessageStream}
    {m : MessageStream} (v : Verdict) (hmessages : s.messages = ms ++ [m])
    (hunsettled : s.outcome ms.length = none) (hwaiting : s.writer = .waiting) (hnext : s.Next m)
    (hmessages' : s'.messages = s.messages) (hdispatched : s'.dispatched = s.dispatched)
    (hdaemon : s'.daemon = s.daemon.settle v s.nextnode)
    (hidle : s'.idle = s.idle ++ s.daemon.settleStatus v s.nextnode)
    (houtcome : s'.outcome = Function.update s.outcome ms.length (some v))
    (hflight : s'.flight = none)
    (hanswers : ∀ k ∈ s'.answers.map Prod.fst, k < s.messages.length)
    (hexpired : ∀ k ∈ s'.expired, k < s.messages.length)
    (hended : s'.ended <+: s'.answers.map Prod.fst)
    (hqueued : s'.answers.length = s'.ended.length + s'.packetStatus.length)
    (htimeouts : s'.expired = [] → s.expired = []) (hturn : Turn s') : Advances s s' := by
  have hsettled := settled_snoc hmessages hunsettled
  have hsettled' : s'.settled = s.settled ++ [(m, v)] := by
    rw [hsettled]
    unfold PacketSystem.settled
    rw [hmessages', houtcome, hmessages]
    exact settled_update ms m v
  constructor
  · constructor
    · rw [hdaemon, settle_slots]
      exact h.assigned
    · rw [hmessages']
      exact hanswers
    · rw [hmessages']
      exact hexpired
    · exact hended
    · exact hqueued
    · exact hturn
    · unfold PacketSystem.statuses
      rw [hdispatched, hidle, List.filterMap_append, settleStatus_next v hnext, ← List.append_assoc,
        hsettled', List.filterMap_append]
      have hstatuses := h.statuses
      unfold PacketSystem.statuses at hstatuses
      rw [hstatuses]
      congr 1
    · intro hnone n
      rw [hsettled', hdaemon]
      exact settle_remembers v hnext (h.streams (htimeouts hnone)) n
  · have hinflight : s.flight = some m := by
      unfold PacketSystem.flight
      rw [hwaiting]
      dsimp only
      rw [last_current hmessages, if_pos hunsettled, hmessages, List.getLast?_concat]
    have hqueue : s'.daemon.packetOut = s.daemon.packetOut := by
      rw [hdaemon, settle_packetOut]
    refine .single ?_
    unfold PacketSystem.desk
    rw [hinflight, hsettled', hflight, hqueue]
    exact .settle s.settled m v s.daemon.packetOut

theorem writerTimeout_early {s : PacketSystem} (h : s.writer = .waiting → s.packetStatus ≠ []) :
    writerTimeout s = s := by
  unfold writerTimeout
  cases hw : s.writer with
  | idle => rfl
  | holding m => rfl
  | waiting =>
      cases hstatus : s.packetStatus with
      | nil => exact absurd hstatus (h hw)
      | cons v rest => rfl

theorem writerTimeout_advances {s : PacketSystem} (h : Matched s) :
    Advances s (writerTimeout s) := by
  cases h.turn with
  | free idle =>
      rw [writerTimeout_early fun hw => by rw [idle] at hw; cases hw]
      exact h.advances_refl
  | held m holding =>
      rw [writerTimeout_early fun hw => by rw [holding] at hw; cases hw]
      exact h.advances_refl
  | answered waiting settled oldest =>
      have hstatus : s.packetStatus ≠ [] := by
        obtain ⟨late, hlate⟩ := oldest
        have hqueued := h.queued
        have hlength := congrArg List.length hlate
        intro hnil
        rw [hnil] at hqueued
        simp at hlength hqueued
        omega
      rw [writerTimeout_early fun _ => hstatus]
      exact h.advances_refl
  | written ms m waiting messages settled unsettled clear next =>
      have heq : writerTimeout s = { s with
          daemon := s.daemon.settle .abort s.nextnode
          idle := s.idle ++ s.daemon.settleStatus .abort s.nextnode
          writer := .idle
          expired := s.expired ++ [s.current] } := by
        simp only [writerTimeout, waiting, clear, abortNext_eq]
      have hcurrent := last_current messages
      have hlength : s.messages.length = ms.length + 1 := by
        rw [messages]
        simp
      have houtcome : outcomeOf (s.expired ++ [s.current]) s.answers
          = Function.update s.outcome ms.length (some .abort) := by
        rw [outcomeOf_timeout, hcurrent]
        rfl
      rw [heq]
      refine h.settles .abort messages unsettled waiting next rfl rfl rfl rfl houtcome rfl h.answers
        (fun k hk => ?_) h.ended h.queued (fun hnone => absurd hnone (by simp))
        (.free rfl (fun k hk => ?_) fun _ => clear)
      · rcases List.mem_append.mp hk with hk | hk
        · exact h.expired k hk
        · rw [List.mem_singleton] at hk
          omega
      · show outcomeOf (s.expired ++ [s.current]) s.answers k ≠ none
        rw [houtcome]
        exact update_settled .abort settled k (lt_of_lt_of_eq hk hlength)

/-- The status of a message that is settled already can only be a late one. -/
theorem expired_of_settled {s : PacketSystem} {k : Nat} (hnew : k ∉ s.answers.map Prod.fst)
    (hsettled : s.outcome k ≠ none) : k ∈ s.expired := by
  by_contra hexpired
  exact hnew (mem_answers_of_outcome hsettled hexpired)

theorem settled_late {s : PacketSystem} {k : Nat} (v : Verdict) (hexpired : k ∈ s.expired) :
    PacketSystem.settled { s with answers := s.answers ++ [(k, v)] } = s.settled :=
  congrArg (outcomes s.messages) (outcomeOf_late s.answers v hexpired)

/-- **A late status** changes nothing when nothing is in flight and nobody is called. -/
theorem lateStatus_advances {s : PacketSystem} (h : Matched s) {k : Nat} {v : Verdict}
    (hlt : k < s.messages.length) (hexpired : k ∈ s.expired) (hflight : s.flight = none)
    (hsilent : s.nextCallback = none) :
    Advances s { readStatus s v with answers := s.answers ++ [(k, v)] } := by
  have hkept : outcomeOf s.expired (s.answers ++ [(k, v)]) = s.outcome :=
    outcomeOf_late s.answers v hexpired
  have hsame := settled_late v hexpired
  have hlate : s.expired ≠ [] := List.ne_nil_of_mem hexpired
  have hall : ∀ i < s.messages.length, outcomeOf s.expired (s.answers ++ [(k, v)]) i ≠ none := by
    rw [hkept]
    exact h.turn.settled_of_flight hflight
  rw [readStatus_eq]
  constructor
  · constructor
    · show (Daemon.slots (s.daemon.settle v s.nextnode)).Assigned
      rw [settle_slots]
      exact h.assigned
    · exact mem_answers_snoc h.answers hlt
    · exact h.expired
    · rw [List.map_append]
      exact h.ended.trans (List.prefix_append _ _)
    · show (s.answers ++ [(k, v)]).length = s.ended.length + (s.packetStatus ++ [v]).length
      have := h.queued
      simp
      omega
    · cases h.turn with
      | free idle => exact .free idle hall fun hnone => absurd hnone hlate
      | answered waiting settled oldest =>
          obtain ⟨late, hrest⟩ := oldest
          refine .answered waiting hall ⟨late ++ [k], ?_⟩ fun hnone => absurd hnone hlate
          show (s.answers ++ [(k, v)]).map Prod.fst = s.ended ++ s.current :: (late ++ [k])
          rw [List.map_append, hrest, List.append_assoc, List.cons_append]
          rfl
      | held m holding =>
          unfold PacketSystem.flight at hflight
          rw [holding] at hflight
          cases hflight
      | written ms m waiting messages settled unsettled =>
          have hsettled := h.turn.settled_of_flight hflight ms.length (by rw [messages]; simp)
          exact absurd unsettled hsettled
    · show s.dispatched.filterMap statusGiven
          ++ (s.idle ++ s.daemon.settleStatus v s.nextnode).filterMap statusPending
        = (PacketSystem.settled { s with answers := s.answers ++ [(k, v)] }).filterMap statusOwed
      rw [List.filterMap_append, (settleStatus_silent_iff v).mpr hsilent, List.append_nil, hsame]
      exact h.statuses
    · exact fun hnone => absurd hnone hlate
  · have hflight' : PacketSystem.flight { s with
        daemon := s.daemon.settle v s.nextnode
        idle := s.idle ++ s.daemon.settleStatus v s.nextnode
        packetStatus := s.packetStatus ++ [v]
        answers := s.answers ++ [(k, v)] } = s.flight := by
      unfold PacketSystem.flight PacketSystem.outcome
      dsimp only
      rw [hkept]
      rfl
    have hdesk : PacketSystem.desk { s with
        daemon := s.daemon.settle v s.nextnode
        idle := s.idle ++ s.daemon.settleStatus v s.nextnode
        packetStatus := s.packetStatus ++ [v]
        answers := s.answers ++ [(k, v)] } = s.desk := by
      unfold PacketSystem.desk
      rw [hflight']
      dsimp only
      rw [settle_packetOut]
      exact congrArg (fun l => Desk.mk l s.flight s.daemon.packetOut) hsame
    rw [hdesk]

theorem answer_advances {s : PacketSystem} (h : Matched s) {k : Nat} {v : Verdict}
    (hbridged : Bridged s (.answer k v)) (htimely : Timely s (.answer k v)) :
    Advances s { readStatus s v with answers := s.answers ++ [(k, v)] } := by
  obtain ⟨hlt, hnew⟩ := hbridged
  by_cases hexpired : k ∈ s.expired
  · obtain ⟨hflight, hsilent⟩ := htimely hexpired
    exact lateStatus_advances h hlt hexpired hflight hsilent
  -- it is the status of the message the writer waits for
  have hunsettled : s.outcome k = none := by
    by_contra hsome
    exact hexpired (expired_of_settled hnew hsome)
  cases h.turn with
  | free idle settled => exact absurd hunsettled (settled k hlt)
  | held m holding settled => exact absurd hunsettled (settled k hlt)
  | answered waiting settled => exact absurd hunsettled (settled k hlt)
  | written ms m waiting messages settled unsettled clear next =>
      have hlength : s.messages.length = ms.length + 1 := by
        rw [messages]
        simp
      have hk : k = ms.length := by
        by_contra hne
        exact absurd hunsettled (settled k (by omega))
      have hcurrent : s.current = k := by
        unfold PacketSystem.current
        omega
      have houtcome : outcomeOf s.expired (s.answers ++ [(k, v)])
          = Function.update s.outcome ms.length (some v) := by
        rw [outcomeOf_answer v hexpired hnew, hk]
        rfl
      have hall : ∀ i < s.messages.length,
          outcomeOf s.expired (s.answers ++ [(k, v)]) i ≠ none := by
        rw [houtcome, hlength]
        exact update_settled v settled
      have hended : s.answers.map Prod.fst = s.ended := by
        have hqueued := h.queued
        rw [clear] at hqueued
        exact (h.ended.eq_of_length (by simpa using hqueued.symm)).symm
      have holdest : (s.answers ++ [(k, v)]).map Prod.fst = s.ended ++ [s.current] := by
        rw [List.map_append, hended, hcurrent]
        rfl
      rw [readStatus_eq]
      refine h.settles v messages unsettled waiting next rfl rfl rfl rfl houtcome ?_
        (mem_answers_snoc h.answers hlt) h.expired ?_ ?_ id
        (.answered waiting hall ⟨[], holdest⟩ fun _ => ?_)
      · unfold PacketSystem.flight
        dsimp only
        rw [waiting]
        exact if_neg (hall s.current (by omega))
      · rw [holdest]
        exact List.prefix_append _ _
      · show (s.answers ++ [(k, v)]).length = s.ended.length + (s.packetStatus ++ [v]).length
        have := h.queued
        simp
        omega
      · show (s.packetStatus ++ [v]).length = 1
        rw [clear]
        rfl

theorem packet_advances {s : PacketSystem} (h : Matched s) (bytes : List UInt8) (junk : UbPacket) :
    Advances s (packetReader s (0x50 :: bytes) junk) := by
  have hadd : ∀ ps, statusPending ps = none → Advances s (s.idleAdd ps) := by
    intro ps hps
    refine h.aside (d := s.daemon) (Daemon.Kept.refl _) ?_
    show s.dispatched.filterMap statusGiven ++ (s.idle ++ [ps]).filterMap statusPending = _
    rw [List.filterMap_append, List.filterMap_cons_none hps, List.filterMap_nil, List.append_nil]
    rfl
  unfold packetReader
  dsimp only
  rw [if_pos rfl]
  split
  · unfold readPacket
    split
    · exact hadd _ rfl
    · exact hadd _ rfl
  · exact h.advances_refl

theorem dispatch_advances {s s' : PacketSystem} {connect : UbnetdConnect} (h : Matched s)
    (hstep : packetStep s (.dispatch connect) = .ok s') : Advances s s' := by
  unfold packetStep at hstep
  dsimp only at hstep
  split at hstep
  · cases hstep
    exact h.advances_refl
  · rename_i ps rest hidle
    obtain ⟨⟨d, handled⟩, hrun, hstep⟩ := bind_eq_ok.mp hstep
    cases hstep
    obtain ⟨hkept, rfl⟩ := packetInpacket_spec h.assigned hrun
    refine h.aside hkept ?_
    have hone : [(ps, ps.destination)].filterMap statusGiven = (statusPending ps).toList := by
      rw [← statusGiven_destination]
      cases hs : statusGiven (ps, ps.destination) <;> simp [hs]
    unfold PacketSystem.statuses
    rw [List.filterMap_append, hone, hidle, List.append_assoc]
    congr 1
    cases hs : statusPending ps <;> simp [hs]

/-- **One step.** -/
theorem Matched.step {s s' : PacketSystem} {e : PacketEvent} (h : Matched s)
    (hbridged : Bridged s e) (htimely : Timely s e) (hstep : packetStep s e = .ok s') :
    Advances s s' := by
  cases e with
  | main e =>
      obtain ⟨d, hrun, hstep⟩ := bind_eq_ok.mp hstep
      cases hstep
      exact h.aside (mainStep_kept hrun) rfl
  | stream n p callback data =>
      obtain ⟨d, hrun, hstep⟩ := bind_eq_ok.mp hstep
      cases hstep
      exact h.aside (packetStreamPacket_kept hrun) rfl
  | take =>
      cases hstep
      exact writerTake_advances h htimely
  | write =>
      cases hstep
      exact writerWrite_advances h
  | pop =>
      cases hstep
      exact writerPop_advances h
  | timeout =>
      cases hstep
      exact writerTimeout_advances h
  | answer k v =>
      cases hstep
      exact answer_advances h hbridged htimely
  | packet bytes junk =>
      cases hstep
      exact packet_advances h bytes junk
  | dispatch connect => exact dispatch_advances h hstep

end Ubd
