import Ubd.Packet.Matching

/-!
# Packet.Statuses — runs of the threads

When the bridge answers in time, every status and every reply goes to its command.
When it does not, this is so as long as nothing follows a late status.
-/

namespace Ubd

open Exchange Runs

/-! ## From the configuration on -/

theorem configured_matched {nodetimeout : Int} {cs : List NodeConfig} {d : Daemon}
    (h : configured nodetimeout cs = .ok d) : Matched (PacketSystem.init d) where
  assigned := (configured_silent h).assigned
  answers := fun _ hk => nomatch hk
  expired := fun _ hk => nomatch hk
  ended := List.prefix_rfl
  queued := rfl
  turn := .free rfl (fun _ hk => nomatch hk) fun _ => rfl
  statuses := rfl
  streams := fun _ => (configured_untouched h).current

/-- **The threads refine the desk.** -/
theorem threads_refine_desk {nodetimeout : Int} {cs : List NodeConfig} {d₀ : Daemon}
    {es : List PacketEvent} {s : PacketSystem} (h₀ : configured nodetimeout cs = .ok d₀)
    (h : Run packetStep (fun s e => Bridged s e ∧ Timely s e) (PacketSystem.init d₀) es s) :
    Matched s ∧ Relation.ReflTransGen Step (PacketSystem.init d₀).desk s.desk := by
  refine h.invariant (I := fun s => Matched s
      ∧ Relation.ReflTransGen Step (PacketSystem.init d₀).desk s.desk)
    ⟨configured_matched h₀, .refl⟩ fun s e s' hs hguard hstep => ?_
  have hadvances := hs.1.step hguard.1 hguard.2 hstep
  exact ⟨hadvances.matched, hs.2.trans hadvances.desk.to_reflTransGen⟩

/-! ## Late statuses -/

/-- **Late statuses are harmless**: every callback gets the outcomes of its own commands,
in order and once, and every wait of the writer for a status was ended by that of its own
message. -/
structure Harmless (s : PacketSystem) : Prop where
  statuses : s.statuses = s.settled.filterMap statusOwed
  waits : s.ended <+: s.answers.map Prod.fst
  /-- Between two messages no command is without its outcome. -/
  complete : s.writer = .idle → s.settled.map Prod.fst = s.messages
  order : s.settled.map Prod.fst <+: s.commands

theorem Matched.harmless {s : PacketSystem} (h : Matched s) : Harmless s where
  statuses := h.statuses
  waits := h.ended
  complete := fun hidle => outcomes_map_fst (h.turn.of_idle hidle).1
  order := settled_commands s.desk

/-- Harmless, and still so when the writer writes the message it holds and takes the next
status. -/
structure HarmlessOn (s : PacketSystem) : Prop where
  now : Harmless s
  next : Harmless (writerPop (writerWrite s))

theorem Matched.harmlessOn {s : PacketSystem} (h : Matched s) : HarmlessOn s where
  now := h.harmless
  next := (writerPop_advances (writerWrite_advances h).matched).matched.harmless

/-- The status that ends a wait has to be there for that message. -/
theorem Harmless.current_answered {s : PacketSystem} (h : Harmless (writerPop s))
    (hwaiting : s.writer = .waiting) (hstatus : s.packetStatus ≠ []) :
    s.current ∈ s.answers.map Prod.fst := by
  obtain ⟨v, rest, hrest⟩ := List.exists_cons_of_ne_nil hstatus
  have hwaits := h.waits
  unfold writerPop at hwaits
  rw [hwaiting, hrest] at hwaits
  exact hwaits.subset (List.mem_append_right _ (List.mem_singleton_self _))

/-- A message in the hands of the writer finds no status that is left over. -/
theorem HarmlessOn.clear {s : PacketSystem} (h : HarmlessOn s) {m : MessageStream}
    (hholding : s.writer = .holding m)
    (hanswers : ∀ k ∈ s.answers.map Prod.fst, k < s.messages.length) :
    s.packetStatus = [] := by
  by_contra hstatus
  have hnext := h.next
  rw [writerWrite_eq hholding] at hnext
  have hcurrent := hanswers _ (hnext.current_answered rfl hstatus)
  simp [PacketSystem.current] at hcurrent

theorem take_harmlessOn {s : PacketSystem} (h : Matched s) (hon : HarmlessOn (writerTake s)) :
    Timely s .take := by
  intro hidle hqueue
  obtain ⟨m, rest, hrest⟩ := List.exists_cons_of_ne_nil hqueue
  rw [writerTake_eq hidle hrest] at hon
  exact hon.clear rfl h.answers

theorem answer_harmlessOn {s : PacketSystem} (h : Matched s) {k : Nat} {v : Verdict}
    (hbridged : Bridged s (.answer k v))
    (hon : HarmlessOn { readStatus s v with answers := s.answers ++ [(k, v)] }) :
    Timely s (.answer k v) := by
  intro hexpired
  obtain ⟨hlt, -⟩ := hbridged
  rw [readStatus_eq] at hon
  have hanswers := mem_answers_snoc (v := v) h.answers hlt
  have hleft : s.packetStatus ++ [v] ≠ [] := by simp
  constructor
  · cases h.turn with
    | free idle =>
        unfold PacketSystem.flight
        rw [idle]
    | answered waiting settled => exact flight_settled waiting settled
    | held m holding => exact absurd (hon.clear holding hanswers) hleft
    | written ms m waiting messages settled unsettled =>
        have hnext := hon.next
        rw [writerWrite_nothing fun m' hholding => by
          rw [show s.writer = .holding m' from hholding] at waiting
          cases waiting] at hnext
        have hmem := hnext.current_answered waiting hleft
        refine absurd unsettled ?_
        have hkept : outcomeOf s.expired (s.answers ++ [(k, v)]) = s.outcome :=
          outcomeOf_late s.answers v hexpired
        rw [← last_current messages, ← hkept]
        exact outcomeOf_answered s.expired hmem
  · have hstatuses : s.dispatched.filterMap statusGiven
        ++ (s.idle ++ s.daemon.settleStatus v s.nextnode).filterMap statusPending
      = (PacketSystem.settled { s with answers := s.answers ++ [(k, v)] }).filterMap statusOwed :=
      hon.now.statuses
    rw [settled_late v hexpired, ← h.statuses, List.filterMap_append,
      ← List.append_assoc] at hstatuses
    exact (settleStatus_silent_iff v).mp (List.append_right_eq_self.mp hstatuses)

/-- **Late statuses** are harmless in every state of a run, and as the writer goes on from
there, exactly when every step meets the condition. -/
theorem lateStatuses_harmless_iff (nodetimeout : Int) (cs : List NodeConfig) (d₀ : Daemon)
    (es : List PacketEvent) (s : PacketSystem) (h₀ : configured nodetimeout cs = .ok d₀)
    (h : Run packetStep Bridged (PacketSystem.init d₀) es s) :
    Always packetStep Bridged (PacketSystem.init d₀) HarmlessOn es
      ↔ EveryStep packetStep Bridged (PacketSystem.init d₀) Timely es := by
  refine h.always_iff (I := Matched) (configured_matched h₀) (fun s hs => hs.harmlessOn)
    (fun s e s' hs hbridged hstep htimely => (hs.step hbridged htimely hstep).matched)
    fun s e s' hs hbridged hstep hon => ?_
  cases e with
  | take =>
      cases hstep
      exact take_harmlessOn hs hon
  | answer k v =>
      cases hstep
      exact answer_harmlessOn hs hbridged hon
  | main e => trivial
  | stream n p callback data => trivial
  | write => trivial
  | pop => trivial
  | timeout => trivial
  | packet bytes junk => trivial
  | dispatch connect => trivial

/-- A packet for a node. -/
def somePacket : OutPacket := ⟨3, 0, some 23, [0x78]⟩

/-- A command is sent and answered. -/
def answered : List PacketEvent :=
  [.stream (some ⟨0, by decide⟩) somePacket (some .tcpReply) 7, .take, .write,
    .answer 0 .done, .pop, .dispatch .connected]

/-- The status of a first command comes while the writer waits for that of a second one. -/
def overtaken : List PacketEvent :=
  [.stream (some ⟨0, by decide⟩) somePacket (some .tcpReply) 7,
    .stream (some ⟨1, by decide⟩) somePacket (some .tcpReply) 8, .take, .write, .timeout,
    .take, .write, .answer 0 .done, .pop]

theorem lateStatuses_harmless_iff_answered :
    Always packetStep Bridged (PacketSystem.init (nodesInit 30)) HarmlessOn answered := by
  have hrun : ∃ s, Run packetStep (fun s e => Bridged s e ∧ Timely s e)
      (PacketSystem.init (nodesInit 30)) answered s ∧ s.writer = .idle := by
    apply Run.exists_of_eval Fault.assertion
    decide +kernel
  obtain ⟨s, hs, -⟩ := hrun
  have hbridged : Run packetStep Bridged (PacketSystem.init (nodesInit 30)) answered s :=
    hs.weaken fun _ _ h => h.1
  exact (lateStatuses_harmless_iff 30 [] (nodesInit 30) answered s rfl hbridged).mpr
    (hbridged.everyStep_iff.mpr hs)

theorem overtaken_state : ∃ s,
    Run packetStep Bridged (PacketSystem.init (nodesInit 30)) overtaken s
      ∧ s.statuses = [(.tcpReply, 7, .abort), (.tcpReply, 8, .done)]
      ∧ s.answers = [(0, .done)] ∧ s.expired = [0] ∧ s.ended = [1] := by
  apply Run.exists_of_eval Fault.assertion
  decide +kernel

/-- **A late status** ends the wait for another message, and is given to its callback. -/
theorem lateStatus_misdelivered : configured 30 [] = .ok (nodesInit 30)
    ∧ ∃ s, Run packetStep Bridged (PacketSystem.init (nodesInit 30)) overtaken s
      ∧ s.statuses = [(.tcpReply, 7, .abort), (.tcpReply, 8, .done)]
      ∧ s.answers = [(0, .done)] ∧ s.expired = [0] ∧ s.ended = [1]
      ∧ ¬ Harmless s := by
  obtain ⟨s, hs, hstatuses, hanswers, hexpired, hended⟩ := overtaken_state
  refine ⟨rfl, s, hs, hstatuses, hanswers, hexpired, hended, fun hharmless => ?_⟩
  -- the wait for message 1 was ended by the status of message 0
  have hwaits := hharmless.waits
  rw [hended, hanswers] at hwaits
  exact absurd hwaits (by decide)

/-! ## Answers in time -/

/-- The bridge answers before the writer times out. -/
def Prompt (s : PacketSystem) (e : PacketEvent) : Prop := Bridged s e ∧ e ≠ .timeout

instance : ∀ e, Decidable (e ≠ PacketEvent.timeout)
  | .timeout => .isFalse fun h => h rfl
  | .main _ | .stream .. | .take | .write | .pop | .answer .. | .packet .. | .dispatch _ =>
      .isTrue nofun

instance (s : PacketSystem) (e : PacketEvent) : Decidable (Prompt s e) :=
  inferInstanceAs (Decidable (_ ∧ _))

theorem Prompt.timely {s : PacketSystem} {e : PacketEvent} (h : Matched s)
    (hexpired : s.expired = []) : Timely s e := by
  cases e with
  | answer k v =>
      intro hk
      rw [hexpired] at hk
      cases hk
  | take => exact fun hidle _ => (h.turn.of_idle hidle).2 hexpired
  | main e => trivial
  | stream n p callback data => trivial
  | write => trivial
  | pop => trivial
  | timeout => trivial
  | packet bytes junk => trivial
  | dispatch connect => trivial

/-! ## Data packets -/

/-- All packets for the main loop so far, in order. -/
def PacketSystem.streams (s : PacketSystem) : List PacketStream :=
  s.dispatched.map Prod.fst ++ s.idle

/-- Whom a reply of a node is for: the last command to it that was settled, if it was
done. -/
def PacketSystem.replyTo (s : PacketSystem) (n : NodeId) : Option (Callback × Gpointer) :=
  match lastOf MessageStream.n s.settled n with
  | some (m, .done) => m.callback.map fun callback => (callback, m.data)
  | _ => none

/-- Where a data packet of a node goes. -/
def PacketSystem.replyGoes (s : PacketSystem) (n : NodeId) (p : UbPacket) : Handled :=
  match s.replyTo n with
  | some (callback, data) => .callback callback data
  | none => (StreamType.packet p (some n)).unsolicited

/-- What a step does to the records of what has happened. -/
structure Onward (s s' : PacketSystem) (e : PacketEvent) : Prop where
  streams : s.streams <+: s'.streams
  expired : e ≠ .timeout → s'.expired = s.expired
  dispatched : ∀ x ∈ s'.dispatched, x ∈ s.dispatched
    ∨ ∃ d connect, packetInpacket s.daemon x.1 connect = .ok (d, x.2)

/-- No packet for the main loop, and no time-out. -/
theorem Onward.still {s s' : PacketSystem} {e : PacketEvent} (hidle : s'.idle = s.idle)
    (hdispatched : s'.dispatched = s.dispatched) (hexpired : s'.expired = s.expired) :
    Onward s s' e where
  streams := by
    unfold PacketSystem.streams
    rw [hidle, hdispatched]
  expired := fun _ => hexpired
  dispatched := by
    rw [hdispatched]
    exact fun _ hx => .inl hx

/-- Packets for the main loop. -/
theorem Onward.added {s s' : PacketSystem} {e : PacketEvent} {pss : List PacketStream}
    (hidle : s'.idle = s.idle ++ pss) (hdispatched : s'.dispatched = s.dispatched)
    (hexpired : e ≠ .timeout → s'.expired = s.expired) : Onward s s' e where
  streams := by
    unfold PacketSystem.streams
    rw [hidle, hdispatched]
    exact ⟨pss, List.append_assoc _ _ _⟩
  expired := hexpired
  dispatched := by
    rw [hdispatched]
    exact fun _ hx => .inl hx

/-- **Every step**: the main loop gets its packets in order and takes each where
`packet_inpacket` says. -/
theorem packetStep_onward {s s' : PacketSystem} {e : PacketEvent}
    (hstep : packetStep s e = .ok s') : Onward s s' e := by
  cases e with
  | main e =>
      obtain ⟨d, -, hstep⟩ := bind_eq_ok.mp hstep
      cases hstep
      exact .still rfl rfl rfl
  | stream n p callback data =>
      obtain ⟨d, -, hstep⟩ := bind_eq_ok.mp hstep
      cases hstep
      exact .still rfl rfl rfl
  | take =>
      cases hstep
      unfold writerTake
      split <;> exact .still rfl rfl rfl
  | write =>
      cases hstep
      unfold writerWrite
      split <;> exact .still rfl rfl rfl
  | pop =>
      cases hstep
      unfold writerPop
      split <;> exact .still rfl rfl rfl
  | timeout =>
      cases hstep
      unfold writerTimeout
      split
      · rw [abortNext_eq]
        exact .added rfl rfl fun he => absurd rfl he
      · exact .still rfl rfl rfl
  | answer k v =>
      cases hstep
      rw [readStatus_eq]
      exact .added rfl rfl fun _ => rfl
  | packet bytes junk =>
      cases hstep
      unfold packetReader readPacket
      dsimp only
      rw [if_pos rfl]
      split
      · split <;> exact .added rfl rfl fun _ => rfl
      · exact .still rfl rfl rfl
  | dispatch connect =>
      unfold packetStep at hstep
      dsimp only at hstep
      split at hstep
      · cases hstep
        exact .still rfl rfl rfl
      · rename_i ps rest hidle
        obtain ⟨⟨d, handled⟩, hrun, hstep⟩ := bind_eq_ok.mp hstep
        cases hstep
        constructor
        · unfold PacketSystem.streams
          rw [hidle, List.map_append, List.append_assoc]
          exact List.prefix_rfl
        · exact fun _ => rfl
        · intro x hx
          rcases List.mem_append.mp hx with hx | hx
          · exact .inl hx
          · rw [List.mem_singleton] at hx
            rw [hx]
            exact .inr ⟨d, connect, hrun⟩

theorem prompt_matched {nodetimeout : Int} {cs : List NodeConfig} {d₀ : Daemon}
    {es : List PacketEvent} {s : PacketSystem} (h₀ : configured nodetimeout cs = .ok d₀)
    (h : Run packetStep Prompt (PacketSystem.init d₀) es s) : Matched s ∧ s.expired = [] :=
  h.invariant (I := fun s => Matched s ∧ s.expired = []) ⟨configured_matched h₀, rfl⟩
    fun _ _ _ hs hguard hstep =>
      ⟨(hs.1.step hguard.1 (Prompt.timely hs.1 hs.2) hstep).matched,
        ((packetStep_onward hstep).expired hguard.2).trans hs.2⟩

/-- In a prompt run, as in every timely one, the desk only does its steps. -/
theorem prompt_desk {nodetimeout : Int} {cs : List NodeConfig} {d₀ : Daemon}
    {pre post : List PacketEvent} {t s : PacketSystem} (h₀ : configured nodetimeout cs = .ok d₀)
    (ht : Run packetStep Prompt (PacketSystem.init d₀) pre t)
    (hs : Run packetStep Prompt (PacketSystem.init d₀) (pre ++ post) s) :
    Relation.ReflTransGen Step t.desk s.desk := by
  refine ht.relation (R := fun a b => Relation.ReflTransGen Step a.desk b.desk) (fun _ => .refl)
    (fun _ _ _ => .trans) (fun fs a e b ha hguard hstep => ?_) hs
  obtain ⟨hm, hexpired⟩ := prompt_matched h₀ ha
  exact (hm.step hguard.1 (Prompt.timely hm hexpired) hstep).desk.to_reflTransGen

/-- A call of `packet_streamPacket` queues its command after all others. -/
theorem stream_commands {s s' : PacketSystem} {n : Option NodeId} {p : OutPacket}
    {callback : Option Callback} {data : Gpointer}
    (h : packetStep s (.stream n p callback data) = .ok s') :
    ∃ m, m.n = n ∧ m.callback = callback ∧ m.data = data ∧ s'.commands = s.commands ++ [m] := by
  obtain ⟨d, hrun, hstep⟩ := bind_eq_ok.mp h
  cases hstep
  rw [packetStreamPacket_ok hrun]
  exact ⟨⟨_, callback, data, n⟩, rfl, rfl, rfl, (List.append_assoc _ _ _).symm⟩

/-- Everything is taken where it belongs. -/
theorem prompt_destination {nodetimeout : Int} {cs : List NodeConfig} {d₀ : Daemon}
    {es : List PacketEvent} {s : PacketSystem} (h₀ : configured nodetimeout cs = .ok d₀)
    (h : Run packetStep Prompt (PacketSystem.init d₀) es s) :
    ∀ x ∈ s.dispatched, x.2 = x.1.destination := by
  induction h with
  | nil => exact fun _ hx => nomatch hx
  | snoc run guard done ih =>
      intro x hx
      rcases (packetStep_onward done).dispatched x hx with hx | ⟨d, connect, hrun⟩
      · exact ih x hx
      · exact (packetInpacket_spec (prompt_matched h₀ run).1.assigned hrun).2

/-- What the reader makes of a data packet. -/
theorem packetReader_packet {s : PacketSystem} {bytes : List UInt8} {junk : UbPacket} {n : NodeId}
    (hfits : bytes.length < ubPacketlen)
    (hn : nodesGetNodeByBusAdr s.daemon (junk.overlay bytes).src.toNat = some n) :
    (packetReader s (0x50 :: bytes) junk).streams = s.streams
      ++ [⟨.packet (junk.overlay bytes) (some n), (s.daemon.streams n).currentcallback,
        (s.daemon.streams n).currentdata⟩] := by
  unfold packetReader readPacket
  dsimp only
  rw [if_pos rfl, if_pos (show (0x50 :: bytes).length ≤ ubPacketlen from hfits), hn]
  exact (List.append_assoc _ _ _).symm

/-- The fields of a node are those of the command its replies are for. -/
theorem Matched.replyTo {s : PacketSystem} (h : Matched s) (hexpired : s.expired = [])
    (n : NodeId) :
    s.replyTo n = (s.daemon.streams n).currentcallback.map fun callback =>
      (callback, (s.daemon.streams n).currentdata) := by
  have hremembers := h.streams hexpired n
  unfold Remembers at hremembers
  unfold PacketSystem.replyTo
  cases hlast : lastOf MessageStream.n s.settled n with
  | none =>
      rw [hlast] at hremembers
      have hnone : (s.daemon.streams n).currentcallback = none := hremembers
      rw [hnone]
      rfl
  | some x =>
      obtain ⟨m, v⟩ := x
      rw [hlast] at hremembers
      cases v with
      | done =>
          obtain ⟨hcallback, hdata⟩ := hremembers
          rw [hcallback, hdata]
      | abort =>
          have hnone : (s.daemon.streams n).currentcallback = none := hremembers
          rw [hnone]
          rfl

theorem destination_reply {p : UbPacket} (hreply : p.flags &&& ubPacketUnsolicited = 0)
    (n : Option NodeId) (callback : Option Callback) (data : Gpointer) :
    PacketStream.destination ⟨.packet p n, callback, data⟩ = match callback with
      | some callback => .callback callback data
      | none => (StreamType.packet p n).unsolicited := by
  cases callback with
  | none => rfl
  | some callback => simp [PacketStream.destination, PacketStream.isReply, hreply]

theorem Matched.destination {s : PacketSystem} (h : Matched s) (hexpired : s.expired = [])
    {n : NodeId} {p : UbPacket} (hreply : p.flags &&& ubPacketUnsolicited = 0) :
    PacketStream.destination ⟨.packet p (some n), (s.daemon.streams n).currentcallback,
      (s.daemon.streams n).currentdata⟩ = s.replyGoes n p := by
  unfold PacketSystem.replyGoes
  rw [destination_reply hreply, h.replyTo hexpired]
  cases (s.daemon.streams n).currentcallback <;> rfl

theorem streams_of_dispatched {s : PacketSystem} {i : Nat} {x : PacketStream × Handled}
    (h : s.dispatched[i]? = some x) : s.streams[i]? = some x.1 := by
  have hlt : i < (s.dispatched.map Prod.fst).length := by
    rw [List.length_map]
    exact (List.getElem?_eq_some_iff.mp h).1
  unfold PacketSystem.streams
  rw [List.getElem?_append_left hlt, List.getElem?_map, h]
  rfl

/-- **Statuses and replies**, when the bridge answers in time. The statuses for callbacks
are those of the commands with a node and a callback, in order and once. A data packet
that is not unsolicited goes to the callback of the last command to its node, if that is
done, and to no callback else. -/
theorem replies_matched (nodetimeout : Int) (cs : List NodeConfig) (d₀ : Daemon)
    (es : List PacketEvent) (s : PacketSystem) (h₀ : configured nodetimeout cs = .ok d₀)
    (h : Run packetStep Prompt (PacketSystem.init d₀) es s) :
    (s.statuses = s.settled.filterMap statusOwed
        ∧ s.settled.map Prod.fst <+: s.commands
        ∧ (s.writer = .idle → s.settled.map Prod.fst = s.messages)
        ∧ (∀ pre post t, es = pre ++ post → Run packetStep Prompt (PacketSystem.init d₀) pre t →
          t.commands <+: s.commands)
        ∧ ∀ pre n p callback data post t, es = pre ++ .stream n p callback data :: post →
          Run packetStep Prompt (PacketSystem.init d₀) pre t →
          ∃ m, m.n = n ∧ m.callback = callback ∧ m.data = data ∧ t.commands ++ [m] <+: s.commands)
      ∧ ∀ pre bytes junk post t n, es = pre ++ .packet bytes junk :: post →
        Run packetStep Prompt (PacketSystem.init d₀) pre t → bytes.length < ubPacketlen →
        nodesGetNodeByBusAdr t.daemon (junk.overlay bytes).src.toNat = some n →
        (junk.overlay bytes).flags &&& ubPacketUnsolicited = 0 →
        ∃ ps, s.streams[t.streams.length]? = some ps
          ∧ ps.type = .packet (junk.overlay bytes) (some n)
          ∧ ps.destination = t.replyGoes n (junk.overlay bytes)
          ∧ ∀ x, s.dispatched[t.streams.length]? = some x → x = (ps, ps.destination) := by
  obtain ⟨hmatched, -⟩ := prompt_matched h₀ h
  have hgrows : ∀ pre post t, es = pre ++ post →
      Run packetStep Prompt (PacketSystem.init d₀) pre t → t.commands <+: s.commands := by
    rintro pre post t rfl ht
    exact steps_commands (prompt_desk h₀ ht h)
  refine ⟨⟨hmatched.statuses, settled_commands s.desk, hmatched.harmless.complete, hgrows, ?_⟩, ?_⟩
  · intro pre n p callback data post t hes ht
    obtain ⟨t', ht', -, hstep⟩ := (hes ▸ h).step_at ht
    obtain ⟨m, hn, hcallback, hdata, hcommands⟩ := stream_commands hstep
    refine ⟨m, hn, hcallback, hdata, ?_⟩
    rw [← hcommands]
    exact hgrows _ post t' (by rw [hes, List.append_cons]) ht'
  · intro pre bytes junk post t n hes ht hfits hn hreply
    obtain ⟨hm, hexpired⟩ := prompt_matched h₀ ht
    -- the step of the reader, and everything after it
    rw [hes] at h
    obtain ⟨t', ht', -, hstep⟩ := h.step_at ht
    rw [List.append_cons] at h
    have hgrows : t'.streams <+: s.streams :=
      ht'.relation (R := fun a b : PacketSystem => a.streams <+: b.streams)
        (fun _ => List.prefix_rfl) (fun _ _ _ => List.IsPrefix.trans)
        (fun _ _ _ _ _ _ hstep => (packetStep_onward hstep).streams) h
    cases hstep
    rw [packetReader_packet hfits hn] at hgrows
    obtain ⟨rest, hrest⟩ := hgrows
    have hget : s.streams[t.streams.length]? = some ⟨.packet (junk.overlay bytes) (some n),
        (t.daemon.streams n).currentcallback, (t.daemon.streams n).currentdata⟩ := by
      rw [← hrest]
      simp
    refine ⟨_, hget, rfl, hm.destination hexpired hreply, fun x hx => ?_⟩
    have hpair := prompt_destination h₀ h x (List.mem_of_getElem? hx)
    have hfst := streams_of_dispatched hx
    rw [hget] at hfst
    have heq := Option.some.inj hfst
    rw [heq]
    exact Prod.ext rfl hpair

/-- The packets of a node as they come over the line. -/
def UbPacket.bytes (p : UbPacket) : List UInt8 :=
  [p.src, p.dest, p.flags, p.cls, p.len] ++ p.data.toList.take p.len.toNat

/-- What was in the memory before. -/
def zeros : UbPacket := ⟨0, 0, 0, 0, 0, Vector.replicate ubPacketData 0⟩

/-- A data packet without `UB_PACKET_UNSOLICITED` from address 3. -/
def reading : UbPacket := { zeros with src := 3, dest := 1, cls := 23, len := 1 }

/-- A node is discovered, a client connects to it, and the node sends a packet that no
command has asked for. -/
def overheard : List PacketEvent :=
  [.packet (discoverPacket [0x61]).bytes zeros, .dispatch .connected,
    .main (.tick fun _ => liveEnv), .main (.accept 3), .packet reading.bytes zeros,
    .dispatch .connected]

/-- A node is discovered, and a command to it is answered. -/
def commanded : List PacketEvent :=
  [.packet (discoverPacket [0x61]).bytes zeros, .dispatch .connected, .take, .write,
    .answer 0 .done, .pop, .take, .write, .answer 1 .done, .pop,
    .stream (some ⟨0, by decide⟩) somePacket (some .tcpReply) 7, .take, .write,
    .answer 2 .done, .pop, .dispatch .connected]

/-- What the node sends after that is the reply to the command. -/
theorem replies_matched_answered : ∃ s,
    Run packetStep Prompt (PacketSystem.init (nodesInit 30))
        (commanded ++ [.packet reading.bytes zeros, .dispatch .connected]) s
      ∧ s.statuses = s.settled.filterMap statusOwed
      ∧ ∃ ps, s.streams[2]? = some ps ∧ ps.destination = .callback .tcpReply 7
        ∧ s.dispatched[2]? = some (ps, ps.destination) := by
  obtain ⟨t, ht, hstreams, hnode, hgoes⟩ : ∃ t,
      Run packetStep Prompt (PacketSystem.init (nodesInit 30)) commanded t
        ∧ t.streams.length = 2
        ∧ nodesGetNodeByBusAdr t.daemon (zeros.overlay reading.bytes).src.toNat
          = some ⟨0, by decide⟩
        ∧ t.replyGoes ⟨0, by decide⟩ (zeros.overlay reading.bytes) = .callback .tcpReply 7 := by
    apply Run.exists_of_eval Fault.assertion
    decide +kernel
  obtain ⟨s, hs, hdispatched⟩ : ∃ s, Run packetStep Prompt (PacketSystem.init (nodesInit 30))
      (commanded ++ [.packet reading.bytes zeros, .dispatch .connected]) s
        ∧ 2 < s.dispatched.length := by
    apply Run.exists_of_eval Fault.assertion
    decide +kernel
  obtain ⟨⟨hstatuses, -⟩, hreplies⟩ := replies_matched 30 [] (nodesInit 30) _ s rfl hs
  obtain ⟨ps, hget, -, hdestination, hgone⟩ := hreplies commanded reading.bytes zeros
    [.dispatch .connected] t _ rfl ht (by decide) hnode (by decide)
  rw [hstreams] at hget hgone
  refine ⟨s, hs, hstatuses, ps, hget, hdestination.trans hgoes, ?_⟩
  have hthird := List.getElem?_eq_getElem hdispatched
  rw [hthird, hgone _ hthird]

/-- **A client gets** a data packet that is not unsolicited, though no command to its node
was ever queued. -/
theorem listener_gets_reply : configured 30 [] = .ok (nodesInit 30)
    ∧ reading.flags &&& ubPacketUnsolicited = 0
    ∧ ∃ s, Run packetStep Prompt (PacketSystem.init (nodesInit 30)) overheard s
      ∧ (s.dispatched.map Prod.snd = [.busmgt, .listen ⟨0, by decide⟩])
      ∧ s.messages = []
      ∧ (s.daemon.conns.map fun c => (c.out, c.reading)) = [(1, true)]
      ∧ s.daemon.written = [(1, [0x63]), (1, [0x00]), (1, [0x0D]), (1, [0x0A])] := by
  refine ⟨rfl, by decide, ?_⟩
  apply Run.exists_of_eval Fault.assertion
  decide +kernel

end Ubd
