import Ubd.Daemon.Managed
import Ubd.Packet.Received
import Ubd.Packet.Statuses

/-!
# Packet.Streams — who is written to

The output stream of a connection is copied wherever an answer may come back to it: into
`listeners`, the messages of `packet_out`, two fields of a node, and the packets for the main
loop. When the connection ends only `listeners` is looked at. `ended_never_written_iff` says in
which runs that is enough.
-/

namespace Ubd

open Runs

/-! ## Where a stream can be -/

/-- The stream is that of a connection that has not been released. -/
def Daemon.OpenStream (d : Daemon) (out : Gpointer) : Prop :=
  ∃ c ∈ d.conns, c.out = out ∧ c.released = false

/-- A class slot has the stream among its listeners. -/
def Daemon.Listens (d : Daemon) (out : Gpointer) : Prop :=
  ∃ n i, out ∈ ((d.nodes n).tcpsockets i).listeners

/-- The callback of the message is to get the stream. -/
def MessageStream.For (m : MessageStream) (out : Gpointer) : Prop :=
  m.callback ≠ none ∧ m.data = out

/-- One of the two callbacks of a node is to get it. -/
def Stream.For (st : Stream) (out : Gpointer) : Prop :=
  (st.currentcallback ≠ none ∧ st.currentdata = out)
    ∨ (st.nextcallback ≠ none ∧ st.nextdata = out)

/-- The packet will be dispatched to a callback that gets it. -/
def PacketStream.For (ps : PacketStream) (out : Gpointer) : Prop :=
  ps.callback ≠ none ∧ ps.isReply = true ∧ ps.data = out

/-- An answer to the stream can be under way: in `packet_out`, in the fields of a node, or for
the main loop. -/
inductive PacketSystem.UnderWay (s : PacketSystem) (out : Gpointer) : Prop
  | queued (m : MessageStream) (mem : m ∈ s.daemon.packetOut) (isFor : m.For out)
  | sent (n : NodeId) (isFor : (s.daemon.streams n).For out)
  | pending (ps : PacketStream) (mem : ps ∈ s.idle) (isFor : ps.For out)

instance (m : MessageStream) (out : Gpointer) : Decidable (m.For out) :=
  inferInstanceAs (Decidable (_ ∧ _))

instance (st : Stream) (out : Gpointer) : Decidable (st.For out) :=
  inferInstanceAs (Decidable (_ ∨ _))

instance (ps : PacketStream) (out : Gpointer) : Decidable (ps.For out) :=
  inferInstanceAs (Decidable (_ ∧ _))

theorem underWay_iff {s : PacketSystem} {out : Gpointer} : s.UnderWay out
    ↔ (∃ m ∈ s.daemon.packetOut, m.For out) ∨ (∃ n, (s.daemon.streams n).For out)
      ∨ ∃ ps ∈ s.idle, ps.For out := by
  constructor
  · rintro (⟨m, mem, isFor⟩ | ⟨n, isFor⟩ | ⟨ps, mem, isFor⟩)
    · exact .inl ⟨m, mem, isFor⟩
    · exact .inr (.inl ⟨n, isFor⟩)
    · exact .inr (.inr ⟨ps, mem, isFor⟩)
  · rintro (⟨m, mem, isFor⟩ | ⟨n, isFor⟩ | ⟨ps, mem, isFor⟩)
    · exact .queued m mem isFor
    · exact .sent n isFor
    · exact .pending ps mem isFor

instance (s : PacketSystem) (out : Gpointer) : Decidable (s.UnderWay out) :=
  decidable_of_iff _ underWay_iff.symm

/-- The stream of a connection that has been released is nowhere. -/
def EndedNowhere (s : PacketSystem) : Prop :=
  ∀ c ∈ s.daemon.conns, c.released = true → ¬ s.daemon.Listens c.out ∧ ¬ s.UnderWay c.out

/-- All that is written goes to connections that are open. -/
def WritesOpen (s : PacketSystem) (e : PacketEvent) : Prop :=
  ∀ s', packetStep s e = .ok s' → ∃ ws, s'.daemon.written = s.daemon.written ++ ws
    ∧ ∀ w ∈ ws, s.daemon.OpenStream w.1

/-- Only connections have callbacks: `net_tcp.c` alone passes one to `packet_streamPacket`. -/
def OnlyClients (_ : PacketSystem) : PacketEvent → Prop
  | .stream _ _ callback _ => callback = none
  | _ => True

instance : ∀ s e, Decidable (OnlyClients s e)
  | _, .stream _ _ callback _ => inferInstanceAs (Decidable (callback = none))
  | _, .main _ | _, .take | _, .write | _, .pop | _, .timeout | _, .answer .. | _, .packet ..
  | _, .dispatch _ => .isTrue trivial

/-- A connection that ends has no answer under way. -/
def QuietClose (s : PacketSystem) : PacketEvent → Prop
  | .main (.close k) => ∀ c ∈ s.daemon.conns[k]?, c.reading = true → ¬ s.UnderWay c.out
  | _ => True

instance : ∀ s e, Decidable (QuietClose s e)
  | s, .main (.close k) => inferInstanceAs
      (Decidable (∀ c ∈ s.daemon.conns[k]?, c.reading = true → ¬ s.UnderWay c.out))
  | _, .main (.tick _) | _, .main (.accept _) | _, .main (.read ..) | _, .main (.readError _)
  | _, .stream .. | _, .take | _, .write | _, .pop | _, .timeout | _, .answer .. | _, .packet ..
  | _, .dispatch _ => .isTrue trivial

/-! ## What a connection asks for -/

/-- What a connection does while it is read: it queues for its own stream, and listens in its
own slot. -/
structure Asks (c : Connection) (d d' : Daemon) : Prop where
  conns : d'.conns = d.conns
  written : d'.written = d.written
  streams : d'.streams = d.streams
  queued : ∃ ms, d'.packetOut = d.packetOut ++ ms ∧ ∀ m ∈ ms, m.data = c.out
  listeners : ∀ n i, ∀ out ∈ ((d'.nodes n).tcpsockets i).listeners,
    out ∈ ((d.nodes n).tcpsockets i).listeners ∨ (out = c.out ∧ n = c.n ∧ i = c.classid)

section Asking

variable {c : Connection} {d d' d'' : Daemon}

theorem Asks.refl (c : Connection) (d : Daemon) : Asks c d d :=
  ⟨rfl, rfl, rfl, ⟨[], (List.append_nil _).symm, by simp⟩, fun _ _ _ hout => .inl hout⟩

theorem Asks.trans (h : Asks c d d') (h' : Asks c d' d'') : Asks c d d'' where
  conns := h'.conns.trans h.conns
  written := h'.written.trans h.written
  streams := h'.streams.trans h.streams
  queued := by
    obtain ⟨ms, hms, hdata⟩ := h.queued
    obtain ⟨ms', hms', hdata'⟩ := h'.queued
    refine ⟨ms ++ ms', by rw [hms', hms, List.append_assoc], fun m hm => ?_⟩
    exact (List.mem_append.mp hm).elim (hdata m) (hdata' m)
  listeners := by
    intro n i out hout
    rcases h'.listeners n i out hout with hout | hown
    · exact h.listeners n i out hout
    · exact .inr hown

theorem mem_setListeners {x : Node} {classid i : ClassId} {l : List Gpointer} {out : Gpointer}
    (h : out ∈ ((x.setListeners classid l).tcpsockets i).listeners) :
    (i = classid ∧ out ∈ l) ∨ (i ≠ classid ∧ out ∈ (x.tcpsockets i).listeners) := by
  unfold Node.setListeners at h
  by_cases hi : i = classid
  · subst hi
    simp only [Function.update_self] at h
    exact .inl ⟨rfl, h⟩
  · simp only [Function.update_of_ne hi] at h
    exact .inr ⟨hi, h⟩

theorem mem_listenRegister {n m : NodeId} {classid i : ClassId} {out x : Gpointer}
    (h : x ∈ (((listenRegister d n classid out).nodes m).tcpsockets i).listeners) :
    x ∈ ((d.nodes m).tcpsockets i).listeners ∨ (x = out ∧ m = n ∧ i = classid) := by
  unfold listenRegister at h
  by_cases hm : m = n
  · subst hm
    rw [setNode_self] at h
    rcases mem_setListeners h with ⟨rfl, hx⟩ | ⟨-, hx⟩
    · rcases List.mem_cons.mp hx with rfl | hx
      · exact .inr ⟨rfl, rfl, rfl⟩
      · exact .inl hx
    · exact .inl hx
  · rw [setNode_of_ne d n _ hm] at h
    exact .inl h

theorem mem_listenUnregister {n m : NodeId} {classid i : ClassId} {out x : Gpointer}
    (h : x ∈ (((listenUnregister d n classid out).nodes m).tcpsockets i).listeners) :
    x ∈ ((d.nodes m).tcpsockets i).listeners ∧ (m = n → i = classid → x ≠ out) := by
  unfold listenUnregister at h
  by_cases hm : m = n
  · subst hm
    rw [setNode_self] at h
    rcases mem_setListeners h with ⟨rfl, hx⟩ | ⟨hi, hx⟩
    · obtain ⟨hx, hne⟩ := List.mem_filter.mp hx
      exact ⟨hx, fun _ _ => by simpa using hne⟩
    · exact ⟨hx, fun _ heq => absurd heq hi⟩
  · rw [setNode_of_ne d n _ hm] at h
    exact ⟨h, fun heq => absurd heq hm⟩

theorem tcpRequest_asks {r : Request} (h : tcpRequest c d r = .ok d') : Asks c d d' := by
  cases r with
  | command cmd =>
      obtain ⟨ms, rfl, hms⟩ := tcpCallback_queues h
      exact ⟨rfl, rfl, rfl, ⟨ms, rfl, fun m hm => (hms m hm).2.2⟩, fun _ _ _ hout => .inl hout⟩
  | listen =>
      cases h
      exact ⟨rfl, rfl, setNode_streams_same d c.n rfl, ⟨[], (List.append_nil _).symm, by simp⟩,
        fun n i out hout => mem_listenRegister hout⟩

theorem tcpListenerRead_asks {nb nb' : NodeBuffer} {buf : List UInt8}
    (h : tcpListenerRead (tcpRequest c) (d, nb) buf = .ok (d', nb')) : Asks c d d' :=
  tcpListenerRead_relation (.refl c) (fun _ _ _ h h' => h.trans h')
    (fun _ _ _ hrequest => tcpRequest_asks hrequest) h

end Asking

/-! ## What a step can do -/

/-- What a class slot can listen to after a step: what it did, and what `P` allows. -/
def Daemon.ListensTo (d : Daemon) (P : NodeId → ClassId → Gpointer → Prop) (d' : Daemon) : Prop :=
  ∀ n i, ∀ out ∈ ((d'.nodes n).tcpsockets i).listeners,
    out ∈ ((d.nodes n).tcpsockets i).listeners ∨ P n i out

/-- **What a step does** to connections and to where their streams are. -/
inductive Moves (s : PacketSystem) (e : PacketEvent) (s' : PacketSystem) : Prop
  /-- Nothing is done for a connection. -/
  | aside (conns : s'.daemon.conns = s.daemon.conns)
      (listeners : s.daemon.ListensTo (fun _ _ _ => False) s'.daemon)
      (underWay : ∀ out, s'.UnderWay out → s.UnderWay out)
  | opens (c : Connection) (conns : s'.daemon.conns = s.daemon.conns ++ [c])
      (out : c.out = s.daemon.conns.length + 1) (isOpen : c.released = false)
      (listeners : s.daemon.ListensTo (fun n i out => out = c.out ∧ n = c.n ∧ i = c.classid)
        s'.daemon)
      (underWay : ∀ out, s'.UnderWay out → s.UnderWay out)
  | asks (k : Nat) (c : Connection) (nb : NodeBuffer) (found : s.daemon.conns[k]? = some c)
      (reading : c.reading = true)
      (conns : s'.daemon.conns = s.daemon.conns.set k { c with nb := nb })
      (listeners : s.daemon.ListensTo (fun n i out => out = c.out ∧ n = c.n ∧ i = c.classid)
        s'.daemon)
      (underWay : ∀ out, s'.UnderWay out → s.UnderWay out ∨ out = c.out)
  | fails (k : Nat) (c : Connection) (found : s.daemon.conns[k]? = some c)
      (conns : s'.daemon.conns = s.daemon.conns.set k { c with reading := false })
      (listeners : s.daemon.ListensTo (fun _ _ _ => False) s'.daemon)
      (underWay : ∀ out, s'.UnderWay out → s.UnderWay out)
  | closes (k : Nat) (c : Connection) (event : e = .main (.close k))
      (found : s.daemon.conns[k]? = some c) (reading : c.reading = true)
      (conns : s'.daemon.conns
        = s.daemon.conns.set k { c with reading := false, released := true })
      (listeners : s.daemon.ListensTo (fun _ _ _ => False) s'.daemon)
      (unregistered : c.out ∉ ((s'.daemon.nodes c.n).tcpsockets c.classid).listeners)
      (underWay : ∀ out, s'.UnderWay out ↔ s.UnderWay out)

section Moves

variable {s s' : PacketSystem} {d d' : Daemon} {out : Gpointer}

theorem listensTo_refl (d : Daemon) : d.ListensTo (fun _ _ _ => False) d :=
  fun _ _ _ hout => .inl hout

theorem Unattended.listensTo (h : Unattended d d') : d.ListensTo (fun _ _ _ => False) d' :=
  fun n i _ hout => .inl (h.listeners n i hout)

/-- Writing to a node what is neither a socket nor a listener. -/
theorem listensTo_setNode (d : Daemon) (n : NodeId) {f : Node → Node}
    (htcp : (f (d.nodes n)).tcpsockets = (d.nodes n).tcpsockets) :
    d.ListensTo (fun _ _ _ => False) (d.setNode n f) := by
  intro m i out hout
  by_cases hm : m = n
  · subst hm
    rw [setNode_self, htcp] at hout
    exact .inl hout
  · rw [setNode_of_ne d n f hm] at hout
    exact .inl hout

/-- What the main loop does: it leaves the fields of the nodes, and queues for `P`. -/
theorem PacketSystem.UnderWay.back {P : Prop} (h : s'.UnderWay out)
    (hidle : ∀ ps ∈ s'.idle, ps.For out → s.UnderWay out)
    (hstreams : s'.daemon.streams = s.daemon.streams)
    (hqueued : ∃ ms, s'.daemon.packetOut = s.daemon.packetOut ++ ms ∧ ∀ m ∈ ms, m.For out → P) :
    s.UnderWay out ∨ P := by
  cases h with
  | queued m mem isFor =>
      obtain ⟨ms, hms, hP⟩ := hqueued
      rw [hms] at mem
      rcases List.mem_append.mp mem with mem | mem
      · exact .inl (.queued m mem isFor)
      · exact .inr (hP m mem isFor)
  | sent n isFor =>
      rw [hstreams] at isFor
      exact .inl (.sent n isFor)
  | pending ps mem isFor => exact .inl (hidle ps mem isFor)

/-- The idle functions are the same. -/
theorem underWay_daemon {P : Prop} (s : PacketSystem) (h : ({ s with daemon := d' }).UnderWay out)
    (hstreams : d'.streams = s.daemon.streams)
    (hqueued : ∃ ms, d'.packetOut = s.daemon.packetOut ++ ms ∧ ∀ m ∈ ms, m.For out → P) :
    s.UnderWay out ∨ P :=
  h.back (fun ps mem isFor => .pending ps mem isFor) hstreams hqueued

theorem Unattended.queued_for (h : Unattended d d') :
    ∃ ms, d'.packetOut = d.packetOut ++ ms ∧ ∀ m ∈ ms, m.For out → False := by
  obtain ⟨ms, hms, hnone⟩ := h.queued
  exact ⟨ms, hms, fun m hm isFor => isFor.1 (hnone m hm)⟩

theorem Unattended.moves {e : PacketEvent} (h : Unattended s.daemon d')
    (hdaemon : s'.daemon = d') (hidle : s'.idle = s.idle) : Moves s e s' := by
  subst hdaemon
  refine .aside h.conns h.listensTo fun out hout => ?_
  refine (hout.back (fun ps mem isFor => ?_) h.streams h.queued_for).resolve_right id
  rw [hidle] at mem
  exact .pending ps mem isFor

theorem Unattended.aside {e : PacketEvent} (h : Unattended s.daemon d') :
    Moves s e { s with daemon := d' } := h.moves rfl rfl

/-! ### The main loop -/

/-- Nothing is queued, and the fields of the nodes stay. -/
theorem underWay_unqueued (s : PacketSystem) (h : ({ s with daemon := d' }).UnderWay out)
    (hstreams : d'.streams = s.daemon.streams) (hqueue : d'.packetOut = s.daemon.packetOut) :
    s.UnderWay out :=
  (underWay_daemon s h hstreams
    ⟨[], hqueue.trans (List.append_nil _).symm, by simp⟩).resolve_right id

theorem listenRegister_streams (d : Daemon) (n : NodeId) (i : ClassId) (out : Gpointer) :
    (listenRegister d n i out).streams = d.streams := setNode_streams_same d n rfl

theorem listenUnregister_streams (d : Daemon) (n : NodeId) (i : ClassId) (out : Gpointer) :
    (listenUnregister d n i out).streams = d.streams := setNode_streams_same d n rfl

/-- The end of a connection that is read. -/
theorem tcpClose_eq {k : Nat} {c : Connection} (hfound : d.conns[k]? = some c)
    (hreading : c.reading = true) : tcpClose d k = { listenUnregister d c.n c.classid c.out with
      conns := d.conns.set k { c with reading := false, released := true } } := by
  unfold tcpClose
  rw [hfound]
  dsimp only
  rw [if_pos hreading]
  rfl

/-- It leaves the answers that are under way. -/
theorem close_underWay {k : Nat} {c : Connection} (hfound : s.daemon.conns[k]? = some c)
    (hreading : c.reading = true) (out : Gpointer) :
    ({ s with daemon := tcpClose s.daemon k }).UnderWay out ↔ s.UnderWay out := by
  have hstreams := listenUnregister_streams s.daemon c.n c.classid c.out
  rw [tcpClose_eq hfound hreading]
  refine ⟨fun hout => underWay_unqueued s hout hstreams rfl, fun hout => ?_⟩
  cases hout with
  | queued m mem isFor => exact .queued m mem isFor
  | sent n isFor =>
      rw [← hstreams] at isFor
      exact .sent n isFor
  | pending ps mem isFor => exact .pending ps mem isFor

theorem Serves.moves {e : MainEvent} (h : Serves s.daemon e d') :
    Moves s (.main e) { s with daemon := d' } := by
  cases h with
  | command listening =>
      exact .opens _ rfl rfl rfl (fun m i out hout => mem_listenRegister hout)
        fun out hout => underWay_unqueued s hout (listenRegister_streams _ _ _ _) rfl
  | management listening =>
      exact .opens _ rfl rfl rfl (fun m i out hout => .inl hout)
        fun out hout => underWay_unqueued s hout rfl rfl
  | @reads k buf c nb d₁ found reading run =>
      have hasks := tcpListenerRead_asks run
      refine .asks k c nb found reading (congrArg (List.set · k _) hasks.conns) hasks.listeners
        fun out hout => underWay_daemon s hout hasks.streams ?_
      obtain ⟨ms, hms, hdata⟩ := hasks.queued
      exact ⟨ms, hms, fun m hm isFor => isFor.2.symm.trans (hdata m hm)⟩
  | @closes k c found reading =>
      refine .closes k c rfl found reading rfl
        (fun n i out hout => .inl (mem_listenUnregister hout).1)
        (fun hout => (mem_listenUnregister hout).2 rfl rfl rfl) fun out => ?_
      rw [← tcpClose_eq found reading]
      exact close_underWay found reading out
  | @fails k c found =>
      exact .fails k c found rfl (listensTo_refl _)
        fun out hout => underWay_unqueued s hout rfl rfl
  | unknown nobody => exact (Unattended.refl s.daemon).aside
  | deaf => exact (Unattended.refl s.daemon).aside
  | closed nobody => exact (Unattended.refl s.daemon).aside
  | failed => exact (Unattended.refl s.daemon).aside

theorem main_moves {e : MainEvent} (h : mainStep s.daemon e = .ok d') :
    Moves s (.main e) { s with daemon := d' } := by
  by_cases he : ∃ env, e = .tick env
  · obtain ⟨env, rfl⟩ := he
    exact (mgtTick_unattended h).aside
  · exact (mainStep_serves h fun env heq => he ⟨env, heq⟩).moves

/-! ### The threads -/

theorem settle_for {x : Node} {v : Verdict} (h : (x.settle v).stream.For out) :
    x.stream.For out := by
  cases v with
  | done => exact .inr (h.elim id id)
  | abort =>
      rcases h with ⟨hset, -⟩ | ⟨hset, -⟩
      · exact absurd rfl hset
      · exact absurd rfl hset

theorem settle_listensTo (d : Daemon) (v : Verdict) (n : Option NodeId) :
    d.ListensTo (fun _ _ _ => False) (d.settle v n) := by
  cases n with
  | some n =>
      have htcp : ((d.nodes n).settle v).tcpsockets = (d.nodes n).tcpsockets := by
        cases v <;> rfl
      exact listensTo_setNode d n (f := fun x => x.settle v) htcp
  | none => exact listensTo_refl d

theorem settle_conns (d : Daemon) (v : Verdict) (n : Option NodeId) :
    (d.settle v n).conns = d.conns := by
  cases n <;> rfl

/-- What a status goes to was in a field of a node. -/
theorem settle_underWay {v : Verdict}
    (hdaemon : s'.daemon = s.daemon.settle v s.nextnode)
    (hidle : s'.idle = s.idle ++ s.daemon.settleStatus v s.nextnode) (h : s'.UnderWay out) :
    s.UnderWay out := by
  cases h with
  | queued m mem isFor =>
      rw [hdaemon, settle_packetOut] at mem
      exact .queued m mem isFor
  | sent n isFor =>
      rw [hdaemon] at isFor
      cases hnext : s.nextnode with
      | none =>
          rw [hnext] at isFor
          exact .sent n isFor
      | some i =>
          rw [hnext, settle_streams] at isFor
          by_cases hn : n = i
          · subst hn
            rw [Function.update_self] at isFor
            exact .sent n (settle_for isFor)
          · rw [Function.update_of_ne hn] at isFor
            exact .sent n isFor
  | pending ps mem isFor =>
      rw [hidle] at mem
      rcases List.mem_append.mp mem with mem | mem
      · exact .pending ps mem isFor
      · cases hnext : s.nextnode with
        | none =>
            rw [hnext] at mem
            cases mem
        | some n =>
            rw [hnext] at mem
            obtain rfl := List.mem_singleton.mp mem
            exact .sent n (.inr ⟨isFor.1, isFor.2.2⟩)

theorem settle_moves {e : PacketEvent} {v : Verdict}
    (hdaemon : s'.daemon = s.daemon.settle v s.nextnode)
    (hidle : s'.idle = s.idle ++ s.daemon.settleStatus v s.nextnode) : Moves s e s' := by
  refine .aside ?_ ?_ fun out hout => settle_underWay hdaemon hidle hout
  · rw [hdaemon, settle_conns]
  · rw [hdaemon]
    exact settle_listensTo s.daemon v s.nextnode

theorem settle_written (d : Daemon) (v : Verdict) (n : Option NodeId) :
    (d.settle v n).written = d.written := by
  cases n <;> rfl

theorem moves_refl (s : PacketSystem) (e : PacketEvent) : Moves s e s :=
  .aside rfl (listensTo_refl _) fun _ hout => hout

theorem writerTake_moves (s : PacketSystem) (e : PacketEvent) : Moves s e (writerTake s) := by
  by_cases hidle : s.writer = .idle
  · cases hqueue : s.daemon.packetOut with
    | nil =>
        rw [writerTake_busy fun _ => hqueue]
        exact moves_refl s e
    | cons m rest =>
        rw [writerTake_eq hidle hqueue]
        refine .aside ?_ ?_ fun out hout => ?_
        · show (Daemon.setNext _ m).conns = s.daemon.conns
          unfold Daemon.setNext
          cases m.n <;> rfl
        · show s.daemon.ListensTo _ (Daemon.setNext _ m)
          unfold Daemon.setNext
          cases m.n with
          | none => exact listensTo_refl s.daemon
          | some n => exact listensTo_setNode { s.daemon with packetOut := rest } n rfl
        · cases hout with
          | queued m' mem isFor =>
              rw [show (PacketSystem.daemon _).packetOut = rest from
                setNext_packetOut { s.daemon with packetOut := rest } m] at mem
              refine .queued m' ?_ isFor
              rw [hqueue]
              exact List.mem_cons_of_mem _ mem
          | pending ps mem isFor => exact .pending ps mem isFor
          | sent n isFor =>
              have hstream := setNext_streams { s.daemon with packetOut := rest } m n
              rw [show (PacketSystem.daemon _).streams n = _ from hstream] at isFor
              split at isFor
              · rcases isFor with hcurrent | hnext
                · exact .sent n (.inl hcurrent)
                · refine .queued m ?_ hnext
                  rw [hqueue]
                  exact List.mem_cons_self
              · exact .sent n isFor
  · rw [writerTake_busy fun h => absurd h hidle]
    exact moves_refl s e

theorem queuedPacket_for {p : UbPacket} (h : (queuedPacket s p).For out) : s.UnderWay out := by
  unfold queuedPacket at h
  split at h
  · rename_i n _
    exact .sent n (.inl ⟨h.1, h.2.2⟩)
  · exact absurd rfl h.1

theorem readPacket_daemon (s : PacketSystem) (p : UbPacket) :
    (readPacket s p).daemon = s.daemon := by
  unfold readPacket
  split <;> rfl

theorem readPacket_moves (s : PacketSystem) (e : PacketEvent) (p : UbPacket) :
    Moves s e (readPacket s p) := by
  have hdaemon := readPacket_daemon s p
  refine .aside (by rw [hdaemon]) (by rw [hdaemon]; exact listensTo_refl _) fun out hout => ?_
  cases hout with
  | queued m mem isFor =>
      rw [hdaemon] at mem
      exact .queued m mem isFor
  | sent n isFor =>
      rw [hdaemon] at isFor
      exact .sent n isFor
  | pending ps mem isFor =>
      rw [readPacket_idle] at mem
      rcases List.mem_append.mp mem with mem | mem
      · exact .pending ps mem isFor
      · rw [List.mem_singleton.mp mem] at isFor
        exact queuedPacket_for isFor

/-! ### What the main loop is given -/

/-- All that is done for clients is to write to some of them. -/
structure Tells (d d' : Daemon) (P : Gpointer → Prop) : Prop where
  unattended : Unattended d { d' with written := d.written }
  written : ∃ ws, d'.written = d.written ++ ws ∧ ∀ w ∈ ws, P w.1

variable {P : Gpointer → Prop}

theorem Unattended.tells (h : Unattended d d') : Tells d d' P := by
  refine ⟨?_, [], by rw [h.written, List.append_nil], by simp⟩
  rw [← h.written]
  exact h

theorem tells_write (d : Daemon) (writes : List (List UInt8)) (h : P out) :
    Tells d (d.write out writes) P := by
  refine ⟨.refl d, _, rfl, fun w hw => ?_⟩
  obtain ⟨bytes, -, rfl⟩ := List.mem_map.mp hw
  exact h

theorem Tells.write (h : Tells d d' P) (writes : List (List UInt8)) (hout : P out) :
    Tells d (d'.write out writes) P := by
  obtain ⟨ws, hws, hP⟩ := h.written
  obtain ⟨ws', hws', hP'⟩ := (tells_write d' writes hout).written
  refine ⟨h.unattended, ws ++ ws', by rw [hws', hws, List.append_assoc], fun w hw => ?_⟩
  exact (List.mem_append.mp hw).elim (hP w) (hP' w)

theorem call_tells {callback : Callback} {ps : PacketStream} (h : callback.call d ps = .ok d')
    (hdata : P ps.data) : Tells d d' P := by
  unfold Callback.call at h
  cases callback with
  | other address =>
      cases h
      exact (Unattended.refl d).tells
  | tcpReply =>
      unfold Ubd.tcpReply at h
      dsimp only at h
      split at h
      · cases h
        exact tells_write d _ hdata
      · cases h
        exact tells_write d _ hdata
      · obtain ⟨bytes, -, h⟩ := bind_eq_ok.mp h
        cases h
        exact tells_write d _ hdata

theorem listenNewMessage_tells {n : NodeId} {p : UbPacket} (h : listenNewMessage d n p = .ok d')
    (hlisteners : ∀ out, d.Listens out → P out) : Tells d d' P := by
  refine foldlM_invariant (I := fun e => Tells d e P) (fun out hout e e' he hturn => ?_)
    (Unattended.refl d).tells h
  obtain ⟨bytes, -, hturn⟩ := bind_eq_ok.mp hturn
  cases hturn
  exact he.write _ (hlisteners out ⟨n, _, hout⟩)

/-- **The main loop** writes to who listens, and to the stream a packet comes with. -/
theorem packetInpacket_tells {ps : PacketStream} {connect : UbnetdConnect} {handled : Handled}
    (h : packetInpacket d ps connect = .ok (d', handled)) :
    Tells d d' fun out => d.Listens out ∨ ps.For out := by
  have hunsolicited : packetUnsolicited d ps.type connect = .ok (d', handled) →
      Tells d d' fun out => d.Listens out ∨ ps.For out := by
    intro h
    unfold packetUnsolicited at h
    split at h
    · split at h
      · obtain ⟨d₁, hmgt, h⟩ := bind_eq_ok.mp h
        cases h
        exact (busmgtInpacket_managed hmgt).toUnattended.tells
      · split at h
        · obtain ⟨d₁, hlisten, h⟩ := bind_eq_ok.mp h
          cases h
          exact listenNewMessage_tells hlisten fun out hout => .inl hout
        · cases h
          exact (Unattended.refl d).tells
    · cases h
      exact (Unattended.refl d).tells
  unfold packetInpacket at h
  split at h
  · rename_i callback hcallback
    split at h
    · rename_i hreply
      obtain ⟨d₁, hcall, h⟩ := bind_eq_ok.mp h
      cases h
      refine call_tells hcall (.inr ⟨?_, hreply, rfl⟩)
      rw [hcallback]
      exact Option.some_ne_none _
    · exact hunsolicited h
  · exact hunsolicited h

theorem dispatch_moves {e : PacketEvent} {ps : PacketStream} {rest : List PacketStream}
    {dispatched : List (PacketStream × Handled)} (hidle : s.idle = ps :: rest)
    (h : Tells s.daemon d' P) :
    Moves s e { s with daemon := d', idle := rest, dispatched := dispatched } := by
  have hunattended := h.unattended
  refine .aside hunattended.conns hunattended.listensTo fun out hout => ?_
  refine (hout.back (fun ps mem isFor => ?_) hunattended.streams
    hunattended.queued_for).resolve_right id
  refine .pending ps ?_ isFor
  rw [hidle]
  exact List.mem_cons_of_mem _ mem

/-- **Every step is a move.** -/
theorem packetStep_moves {e : PacketEvent} (hclients : OnlyClients s e)
    (h : packetStep s e = .ok s') : Moves s e s' := by
  cases e with
  | main e =>
      obtain ⟨d', hmain, h⟩ := bind_eq_ok.mp h
      cases h
      exact main_moves hmain
  | stream n p callback data =>
      obtain ⟨d', hstream, h⟩ := bind_eq_ok.mp h
      cases h
      obtain rfl : callback = none := hclients
      rw [packetStreamPacket_ok hstream]
      refine (managed_queue s.daemon fun m hm => ?_).toUnattended.aside
      rw [List.mem_singleton.mp hm]
  | take =>
      cases h
      exact writerTake_moves s .take
  | write =>
      cases h
      unfold writerWrite
      split
      · exact (Unattended.refl s.daemon).moves rfl rfl
      · exact moves_refl s _
  | pop =>
      cases h
      unfold writerPop
      split
      · exact (Unattended.refl s.daemon).moves rfl rfl
      · exact moves_refl s _
  | timeout =>
      cases h
      unfold writerTimeout
      split
      · rw [abortNext_eq]
        exact settle_moves (v := .abort) rfl rfl
      · exact moves_refl s _
  | answer k v =>
      cases h
      rw [readStatus_eq]
      exact settle_moves (v := v) rfl rfl
  | packet bytes junk =>
      cases h
      show Moves s _ (if (0x50 :: bytes).length ≤ ubPacketlen then readPacket s (junk.overlay bytes)
        else s)
      split
      · exact readPacket_moves s _ _
      · exact moves_refl s _
  | dispatch connect =>
      unfold packetStep at h
      dsimp only at h
      split at h
      · cases h
        exact moves_refl s _
      · rename_i ps rest hidle
        obtain ⟨⟨d', handled⟩, hdispatch, h⟩ := bind_eq_ok.mp h
        cases h
        exact dispatch_moves hidle (packetInpacket_tells hdispatch)

theorem mainStep_written {e : MainEvent} (h : mainStep d e = .ok d') : d'.written = d.written := by
  by_cases he : ∃ env, e = .tick env
  · obtain ⟨env, rfl⟩ := he
    exact (mgtTick_unattended h).written
  · cases mainStep_serves h fun env heq => he ⟨env, heq⟩ with
    | reads found reading run => exact (tcpListenerRead_asks run).written
    | unknown nobody => rfl
    | command listening => rfl
    | management listening => rfl
    | deaf => rfl
    | closes found reading => rfl
    | closed nobody => rfl
    | fails found => rfl
    | failed => rfl

/-- **All that is written** goes to streams that were somewhere. -/
theorem packetStep_writes {e : PacketEvent} (h : packetStep s e = .ok s') :
    ∃ ws, s'.daemon.written = s.daemon.written ++ ws
      ∧ ∀ w ∈ ws, s.daemon.Listens w.1 ∨ s.UnderWay w.1 := by
  have hnothing : s'.daemon.written = s.daemon.written →
      ∃ ws, s'.daemon.written = s.daemon.written ++ ws
        ∧ ∀ w ∈ ws, s.daemon.Listens w.1 ∨ s.UnderWay w.1 :=
    fun heq => ⟨[], by rw [heq, List.append_nil], by simp⟩
  cases e with
  | main e =>
      obtain ⟨d', hmain, h⟩ := bind_eq_ok.mp h
      cases h
      exact hnothing (mainStep_written hmain)
  | stream n p callback data =>
      obtain ⟨d', hstream, h⟩ := bind_eq_ok.mp h
      cases h
      rw [packetStreamPacket_ok hstream] at hnothing ⊢
      exact hnothing rfl
  | take =>
      cases h
      refine hnothing ?_
      unfold writerTake
      split
      · dsimp only
        split <;> rfl
      · rfl
  | write =>
      cases h
      refine hnothing ?_
      unfold writerWrite
      split <;> rfl
  | pop =>
      cases h
      refine hnothing ?_
      unfold writerPop
      split <;> rfl
  | timeout =>
      cases h
      refine hnothing ?_
      unfold writerTimeout
      split
      · rw [abortNext_eq]
        exact settle_written s.daemon .abort s.nextnode
      · rfl
  | answer k v =>
      cases h
      refine hnothing ?_
      rw [readStatus_eq]
      exact settle_written s.daemon v s.nextnode
  | packet bytes junk =>
      cases h
      refine hnothing ?_
      show (PacketSystem.daemon (if (0x50 :: bytes).length ≤ ubPacketlen then
        readPacket s (junk.overlay bytes) else s)).written = s.daemon.written
      split
      · rw [readPacket_daemon]
      · rfl
  | dispatch connect =>
      unfold packetStep at h
      dsimp only at h
      split at h
      · cases h
        exact hnothing rfl
      · rename_i ps rest hidle
        obtain ⟨⟨d', handled⟩, hdispatch, h⟩ := bind_eq_ok.mp h
        cases h
        obtain ⟨ws, hws, hto⟩ := (packetInpacket_tells hdispatch).written
        refine ⟨ws, hws, fun w hw => (hto w hw).imp id fun isFor => .pending ps ?_ isFor⟩
        rw [hidle]
        exact List.mem_cons_self

end Moves

/-! ## Connections by their places -/

/-- A connection has the stream of its place, and is not read once it is released. -/
def ConnsNumbered (l : List Connection) : Prop :=
  ∀ k c, l[k]? = some c → c.out = k + 1 ∧ (c.released = true → c.reading = false)

section ConnsNumbered

variable {l : List Connection} {j k : Nat} {c c' : Connection}

theorem ConnsNumbered.snoc (h : ConnsNumbered l) (hout : c.out = l.length + 1)
    (hopen : c.released = false) : ConnsNumbered (l ++ [c]) := by
  intro k x hx
  rcases getElem?_snoc_some hx with hx | ⟨rfl, rfl⟩
  · exact h k x hx
  · exact ⟨hout, fun hreleased => by rw [hopen] at hreleased; cases hreleased⟩

theorem ConnsNumbered.set (h : ConnsNumbered l) (hfound : l[k]? = some c) (hout : c'.out = c.out)
    (hquiet : c'.released = true → c'.reading = false) : ConnsNumbered (l.set k c') := by
  intro j x hx
  rcases getElem?_set_some hfound hx with ⟨rfl, rfl⟩ | ⟨-, hx⟩
  · exact ⟨hout.trans (h j c hfound).1, hquiet⟩
  · exact h j x hx

/-- A connection that is read has not been released. -/
theorem ConnsNumbered.reading_open (h : ConnsNumbered l) (hfound : l[k]? = some c)
    (hreading : c.reading = true) : c.released = false := by
  rw [Bool.eq_false_iff]
  intro hreleased
  rw [(h k c hfound).2 hreleased] at hreading
  cases hreading

/-- A stream is that of one connection. -/
theorem ConnsNumbered.place_unique (h : ConnsNumbered l) (hc : l[k]? = some c)
    (hc' : l[j]? = some c') (hout : c'.out = c.out) : j = k := by
  rw [(h k c hc).1, (h j c' hc').1] at hout
  exact Nat.succ.inj hout

end ConnsNumbered

/-! ## The invariant -/

/-- **Every stream that is somewhere is that of an open connection**, and a listener's lies in
its own slot. -/
structure Tracked (s : PacketSystem) : Prop where
  conns : ∀ k c, s.daemon.conns[k]? = some c →
    c.out = k + 1 ∧ (c.released = true → c.reading = false)
  listeners : ∀ n i, ∀ out ∈ ((s.daemon.nodes n).tcpsockets i).listeners,
    ∃ c ∈ s.daemon.conns, (c.out = out ∧ c.n = n ∧ c.classid = i) ∧ c.released = false
  underWay : ∀ out, s.UnderWay out → s.daemon.OpenStream out

section Tracked

variable {s s' : PacketSystem} {out : Gpointer}

/-- What is there stays there while an element is replaced, unless it was that one. -/
theorem exists_mem_set {α : Type} {l : List α} {k : Nat} {a x : α} {Q : α → Prop}
    (hfound : l[k]? = some a) (h : ∃ b ∈ l, Q b) (hx : Q a → Q x) : ∃ b ∈ l.set k x, Q b := by
  obtain ⟨b, hb, hQ⟩ := h
  obtain ⟨j, hj⟩ := List.getElem?_of_mem hb
  by_cases hjk : j = k
  · subst hjk
    rw [hfound] at hj
    cases hj
    have hlt : j < l.length := (List.getElem?_eq_some_iff.mp hfound).1
    exact ⟨x, List.mem_of_getElem? (List.getElem?_set_self hlt), hx hQ⟩
  · refine ⟨b, List.mem_of_getElem? (i := j) ?_, hQ⟩
    rw [List.getElem?_set_ne (Ne.symm hjk)]
    exact hj

theorem Tracked.unique (h : Tracked s) {c c' : Connection} (hc : c ∈ s.daemon.conns)
    (hc' : c' ∈ s.daemon.conns) (hout : c'.out = c.out) : c' = c := by
  obtain ⟨k, hk⟩ := List.getElem?_of_mem hc
  obtain ⟨j, hj⟩ := List.getElem?_of_mem hc'
  obtain rfl := ConnsNumbered.place_unique h.conns hk hj hout
  rw [hk] at hj
  exact (Option.some.inj hj).symm

theorem Tracked.listens_open (h : Tracked s) (hout : s.daemon.Listens out) :
    s.daemon.OpenStream out := by
  obtain ⟨n, i, hout⟩ := hout
  obtain ⟨c, hc, ⟨hcout, -⟩, hopen⟩ := h.listeners n i out hout
  exact ⟨c, hc, hcout, hopen⟩

theorem Tracked.endedNowhere (h : Tracked s) : EndedNowhere s := by
  have hopen : ∀ c ∈ s.daemon.conns, c.released = true → ¬ s.daemon.OpenStream c.out := by
    rintro c hc hreleased ⟨c', hc', hout, hopen⟩
    rw [h.unique hc hc' hout, hreleased] at hopen
    cases hopen
  intro c hc hreleased
  exact ⟨fun hout => hopen c hc hreleased (h.listens_open hout),
    fun hout => hopen c hc hreleased (h.underWay _ hout)⟩

theorem Tracked.writesOpen (h : Tracked s) (e : PacketEvent) : WritesOpen s e := by
  intro s' hstep
  obtain ⟨ws, hws, hto⟩ := packetStep_writes hstep
  exact ⟨ws, hws, fun w hw => (hto w hw).elim h.listens_open (h.underWay _)⟩

/-- **One move**: the stream of a connection that ends must not be under way. -/
theorem Tracked.step {e : PacketEvent} (h : Tracked s) (hmoves : Moves s e s')
    (hquiet : QuietClose s e) : Tracked s' := by
  cases hmoves with
  | aside conns listeners underWay =>
      refine ⟨?_, fun n i out hout => ?_, fun out hout => ?_⟩
      · rw [conns]
        exact h.conns
      · rw [conns]
        exact h.listeners n i out ((listeners n i out hout).resolve_right id)
      · unfold Daemon.OpenStream
        rw [conns]
        exact h.underWay out (underWay out hout)
  | opens c conns cout isOpen listeners underWay =>
      refine ⟨?_, fun n i out hout => ?_, fun out hout => ?_⟩
      · rw [conns]
        exact ConnsNumbered.snoc h.conns cout isOpen
      · rw [conns]
        rcases listeners n i out hout with hold | ⟨rfl, rfl, rfl⟩
        · obtain ⟨x, hx, hP⟩ := h.listeners n i out hold
          exact ⟨x, List.mem_append_left _ hx, hP⟩
        · exact ⟨c, List.mem_append_right _ (List.mem_singleton_self c), ⟨rfl, rfl, rfl⟩, isOpen⟩
      · obtain ⟨x, hx, hP⟩ := h.underWay out (underWay out hout)
        exact ⟨x, by rw [conns]; exact List.mem_append_left _ hx, hP⟩
  | asks k c nb found reading conns listeners underWay =>
      have hopen := ConnsNumbered.reading_open h.conns found reading
      have hmem : c ∈ s.daemon.conns := List.mem_of_getElem? found
      refine ⟨?_, fun n i out hout => ?_, fun out hout => ?_⟩
      · rw [conns]
        exact ConnsNumbered.set h.conns found rfl (h.conns k c found).2
      · rw [conns]
        refine exists_mem_set found ?_ id
        rcases listeners n i out hout with hold | ⟨rfl, rfl, rfl⟩
        · exact h.listeners n i out hold
        · exact ⟨c, hmem, ⟨rfl, rfl, rfl⟩, hopen⟩
      · unfold Daemon.OpenStream
        rw [conns]
        refine exists_mem_set found ?_ id
        rcases underWay out hout with hold | rfl
        · exact h.underWay out hold
        · exact ⟨c, hmem, rfl, hopen⟩
  | fails k c found conns listeners underWay =>
      refine ⟨?_, fun n i out hout => ?_, fun out hout => ?_⟩
      · rw [conns]
        exact ConnsNumbered.set h.conns found rfl fun _ => rfl
      · rw [conns]
        exact exists_mem_set found
          (h.listeners n i out ((listeners n i out hout).resolve_right id)) id
      · unfold Daemon.OpenStream
        rw [conns]
        exact exists_mem_set found (h.underWay out (underWay out hout)) id
  | closes k c event found reading conns listeners unregistered underWay =>
      refine ⟨?_, fun n i out hout => ?_, fun out hout => ?_⟩
      · rw [conns]
        exact ConnsNumbered.set h.conns found rfl fun _ => rfl
      · rw [conns]
        refine exists_mem_set found
          (h.listeners n i out ((listeners n i out hout).resolve_right id)) ?_
        rintro ⟨⟨rfl, rfl, rfl⟩, -⟩
        exact absurd hout unregistered
      · unfold Daemon.OpenStream
        rw [conns]
        have hold := (underWay out).mp hout
        refine exists_mem_set found (h.underWay out hold) ?_
        rintro ⟨rfl, -⟩
        subst event
        exact absurd hold (hquiet c found reading)

end Tracked

/-! ## Runs -/

theorem configured_tracked {nodetimeout : Int} {cs : List NodeConfig} {d : Daemon}
    (h : configured nodetimeout cs = .ok d) : Tracked (PacketSystem.init d) := by
  have hmanaged := configured_managed h
  refine ⟨fun k c hc => ?_, fun n i out hout => ?_, fun out hout => ?_⟩
  · rw [show (PacketSystem.init d).daemon.conns = [] from hmanaged.conns] at hc
    cases hc
  · cases hmanaged.listeners n i hout
  · have hinit : (PacketSystem.init (nodesInit nodetimeout)).UnderWay out ∨ False :=
      hout.back (fun ps mem _ => nomatch mem) hmanaged.streams hmanaged.queued_for
    cases hinit.resolve_right id with
    | queued m mem isFor => cases mem
    | sent n isFor =>
        rcases isFor with ⟨hset, -⟩ | ⟨hset, -⟩
        · exact absurd rfl hset
        · exact absurd rfl hset
    | pending ps mem isFor => cases mem

/-- What the end of a connection leaves under way has been so before. -/
theorem quietClose_of_endedNowhere {s s' : PacketSystem} {e : PacketEvent}
    (h : packetStep s e = .ok s') (hnowhere : EndedNowhere s') : QuietClose s e := by
  unfold QuietClose
  split
  · rename_i k
    cases h
    intro c hfound hreading hout
    have hconns := congrArg Daemon.conns (tcpClose_eq hfound hreading)
    have hlt := (List.getElem?_eq_some_iff.mp hfound).1
    have hended : { c with reading := false, released := true } ∈ (tcpClose s.daemon k).conns := by
      rw [hconns]
      exact List.mem_of_getElem? (List.getElem?_set_self hlt)
    exact (hnowhere _ hended rfl).2 ((close_underWay hfound hreading c.out).mpr hout)
  · trivial

/-- **When no connection is written to after its end**: in every run, all that is written goes to
open connections, and the streams of the others are nowhere, if and only if every connection that
ends has no answer under way. -/
theorem ended_never_written_iff (nodetimeout : Int) (cs : List NodeConfig) (d₀ : Daemon)
    (es : List PacketEvent) (s : PacketSystem) (h₀ : configured nodetimeout cs = .ok d₀)
    (h : Run packetStep OnlyClients (PacketSystem.init d₀) es s) :
    (EveryStep packetStep OnlyClients (PacketSystem.init d₀) WritesOpen es
        ∧ Always packetStep OnlyClients (PacketSystem.init d₀) EndedNowhere es)
      ↔ EveryStep packetStep OnlyClients (PacketSystem.init d₀) QuietClose es := by
  have hkeep : ∀ s e s', Tracked s → OnlyClients s e → packetStep s e = .ok s' →
      QuietClose s e → Tracked s' :=
    fun s e s' hs hclients hstep hquiet => hs.step (packetStep_moves hclients hstep) hquiet
  have hnowhere : Always packetStep OnlyClients (PacketSystem.init d₀) EndedNowhere es
      ↔ EveryStep packetStep OnlyClients (PacketSystem.init d₀) QuietClose es :=
    h.always_iff (I := Tracked) (configured_tracked h₀) (fun s hs => hs.endedNowhere) hkeep
      fun s e s' _ _ hstep hnowhere => quietClose_of_endedNowhere hstep hnowhere
  constructor
  · intro hboth
    exact hnowhere.mp hboth.2
  · intro hquiet
    refine ⟨fun pre e post t hes ht => ?_, hnowhere.mpr hquiet⟩
    rw [hes] at hquiet
    have htracked : Tracked t := (ht.everyStep_iff.mp hquiet.prefix).invariant
      (configured_tracked h₀) fun s e s' hs hguard hstep =>
        hkeep s e s' hs hguard.1 hstep hguard.2
    exact htracked.writesOpen e

/-- A node is discovered, and a client connects to it. -/
def connected : List PacketEvent :=
  [.packet (discoverPacket [0x61]).bytes zeros, .dispatch .connected,
    .main (.tick fun _ => liveEnv), .main (.accept 3)]

/-- A message is written and answered. -/
def served (k : Nat) (v : Verdict) : List PacketEvent := [.take, .write, .answer k v, .pop]

/-- The client says `Cx`. -/
def asked : PacketEvent := .main (.read 0 [0x43, 0x78, 0x0A])

/-- It is told that this has failed, and leaves; management packets are served before its
command. -/
def refused : List PacketEvent :=
  connected ++ [asked] ++ served 0 .done ++ served 1 .done ++ served 2 .abort
    ++ [.dispatch .connected, .main (.close 0)]

/-- It leaves while its command is queued. -/
def leftEarly : List PacketEvent :=
  connected ++ [asked, .main (.close 0)] ++ served 0 .done ++ served 1 .done ++ served 2 .done

/-- A client whose command has failed can leave. -/
theorem ended_never_written_iff_refused :
    EveryStep packetStep OnlyClients (PacketSystem.init (nodesInit 30)) WritesOpen refused
      ∧ Always packetStep OnlyClients (PacketSystem.init (nodesInit 30)) EndedNowhere refused := by
  have hrun : ∃ s, Run packetStep (fun s e => OnlyClients s e ∧ QuietClose s e)
      (PacketSystem.init (nodesInit 30)) refused s
      ∧ s.daemon.written = [((1 : Gpointer), [(0x4E : UInt8)])] := by
    apply Run.exists_of_eval Fault.assertion
    decide +kernel
  obtain ⟨s, hs, -⟩ := hrun
  have hclients : Run packetStep OnlyClients (PacketSystem.init (nodesInit 30)) refused s :=
    hs.weaken fun _ _ h => h.1
  exact (ended_never_written_iff 30 [] (nodesInit 30) refused s rfl hclients).mpr
    (hclients.everyStep_iff.mpr hs)

theorem leftEarly_state : ∃ s,
    Run packetStep OnlyClients (PacketSystem.init (nodesInit 30)) leftEarly s
      ∧ (s.daemon.conns.map fun c => (c.out, c.released)) = [((1 : Gpointer), true)]
      ∧ s.daemon.written = [] := by
  apply Run.exists_of_eval Fault.assertion
  decide +kernel

theorem leftEarly_answered : ∃ s, Run packetStep OnlyClients (PacketSystem.init (nodesInit 30))
      (leftEarly ++ [.dispatch .connected]) s
    ∧ s.daemon.written = [((1 : Gpointer), [(0x41 : UInt8)])] := by
  apply Run.exists_of_eval Fault.assertion
  decide +kernel

/-- **The answer to a client that has left** is written to what was its stream. -/
theorem answer_after_end : configured 30 [] = .ok (nodesInit 30)
    ∧ (∃ s, Run packetStep OnlyClients (PacketSystem.init (nodesInit 30))
        (leftEarly ++ [.dispatch .connected]) s)
    ∧ ¬ EveryStep packetStep OnlyClients (PacketSystem.init (nodesInit 30)) WritesOpen
      (leftEarly ++ [.dispatch .connected]) := by
  obtain ⟨s, hs, hsaid⟩ := leftEarly_answered
  refine ⟨rfl, ⟨s, hs⟩, fun hopen => ?_⟩
  obtain ⟨t, ht, hconns, hnothing⟩ := leftEarly_state
  obtain ⟨t', ht', -, hstep⟩ := hs.snoc_inv
  obtain rfl := ht.unique ht'
  obtain ⟨ws, hws, hto⟩ := hopen leftEarly (.dispatch .connected) [] t rfl ht s hstep
  rw [hsaid, hnothing, List.nil_append] at hws
  obtain ⟨c, hc, -, hcopen⟩ := hto (1, [0x41]) (by
    rw [← hws]
    exact List.mem_singleton_self _)
  -- the only connection there is has been released
  obtain ⟨x, hx, hreleased⟩ := List.map_eq_singleton_iff.mp hconns
  rw [hx] at hc
  rw [List.mem_singleton.mp hc, (Prod.mk.inj hreleased).2] at hcopen
  cases hcopen

end Ubd
