import Ubd.Packet.Line
import Ubd.Packet.Listening

/-!
# Packet.Orders — what clients order goes to the bus once, and in order

What is read on a connection is cut into commands by `tcp_parse`, each command goes through
`packet_out` and the hands of the writer thread onto the line. In between other connections, bus
management and the main loop queue packets of their own. `orders_queued_once` says that for each
connection the packets in `pipeline` with its stream are the commands on the bytes that were
ever read on it.
-/

namespace Ubd

open Exchange Runs

/-! ## What is read and what is ordered -/

/-- The bytes that a step takes from connection `k`. -/
def PacketSystem.takes (s : PacketSystem) (k : Nat) : PacketEvent → List UInt8
  | .main (.read j buf) =>
      match s.daemon.conns[k]? with
      | some c => if j = k ∧ c.reading = true then buf else []
      | none => []
  | _ => []

/-- All that was ever read on connection `k`. -/
def said (k : Nat) (tr : List (PacketSystem × PacketEvent)) : List UInt8 :=
  tr.flatMap fun q => q.1.takes k q.2

theorem said_snoc (k : Nat) (tr : List (PacketSystem × PacketEvent)) (s : PacketSystem)
    (e : PacketEvent) : said k (tr ++ [(s, e)]) = said k tr ++ s.takes k e := by
  simp [said]

/-- The packet that a request becomes: its flags and its data. `busmgt_streamData` drops what is
too long. -/
def CommandKind.order (kind : CommandKind) : Request → Option (UInt8 × List UInt8)
  | .listen => none
  | .command cmd =>
      match kind with
      | .newCommand => some (0, cmd)
      | .newMgt =>
          if (UInt8.ofNat cmd.length).toNat > ubPacketData then none else some (ubPacketMgt, cmd)

/-- What a message carries. -/
def MessageStream.order (m : MessageStream) : UInt8 × List UInt8 := (m.msg.flags, m.msg.data)

/-- All that was ever queued for a stream. -/
def PacketSystem.ordersOf (s : PacketSystem) (out : Gpointer) : List MessageStream :=
  s.pipeline.filter (·.For out)

/-! ## Requests -/

section Requests

variable {c : Connection} {d d' : Daemon}

/-- **One request** queues its order for the stream of its connection, and nothing else. -/
theorem tcpRequest_orders {r : Request} (h : tcpRequest c d r = .ok d') :
    ∃ ms, d'.packetOut = d.packetOut ++ ms
      ∧ ms.map MessageStream.order = (c.callback.order r).toList ∧ ∀ m ∈ ms, m.For c.out := by
  have hqueue : ∀ {n : NodeId} {p : OutPacket},
      packetStreamPacket d (some n) p (some .tcpReply) c.out = .ok d' →
      c.callback.order r = some (p.flags &&& (ubPacketMgt ||| ubPacketNoack), p.data) →
      ∃ ms, d'.packetOut = d.packetOut ++ ms
        ∧ ms.map MessageStream.order = (c.callback.order r).toList ∧ ∀ m ∈ ms, m.For c.out := by
    intro n p hstream horder
    rw [packetStreamPacket_ok hstream, horder]
    refine ⟨_, rfl, rfl, fun m hm => ?_⟩
    rw [List.mem_singleton.mp hm]
    exact ⟨Option.some_ne_none _, rfl⟩
  cases r with
  | listen =>
      cases h
      exact ⟨[], (List.append_nil _).symm, rfl, fun m hm => nomatch hm⟩
  | command cmd =>
      change tcpCallback d c cmd = .ok d' at h
      unfold tcpCallback tcpQueueNewCommand tcpQueueNewMgt busStreamToID busmgtStreamData at h
      dsimp only at h
      split at h
      · rename_i hkind
        split at h
        · cases h
        · split at h
          · refine hqueue h ?_
            rw [hkind]
            show some (0, cmd) = some (0 &&& (ubPacketMgt ||| ubPacketNoack), cmd)
            rw [UInt8.zero_and]
          · cases h
      · rename_i hkind
        split at h
        · rename_i hlong
          cases h
          refine ⟨[], (List.append_nil _).symm, ?_, fun m hm => nomatch hm⟩
          rw [hkind]
          show _ = Option.toList (if _ then _ else _)
          rw [if_pos hlong]
          rfl
        · rename_i hshort
          split at h
          · refine hqueue h ?_
            rw [hkind]
            show (if _ then _ else _) = _
            rw [if_neg hshort, show ubPacketMgt &&& (ubPacketMgt ||| ubPacketNoack) = ubPacketMgt
              from by decide]
          · cases h

/-- All requests of a read. -/
theorem tcpRequests_orders {rs : List Request} (h : rs.foldlM (tcpRequest c) d = .ok d') :
    ∃ ms, d'.packetOut = d.packetOut ++ ms
      ∧ ms.map MessageStream.order = rs.filterMap c.callback.order ∧ ∀ m ∈ ms, m.For c.out := by
  induction rs generalizing d with
  | nil =>
      cases h
      exact ⟨[], (List.append_nil _).symm, rfl, fun m hm => nomatch hm⟩
  | cons r rs ih =>
      obtain ⟨d₁, hrequest, hrest⟩ := foldlM_cons_ok.mp h
      obtain ⟨ms, hms, horders, hfor⟩ := tcpRequest_orders hrequest
      obtain ⟨ms', hms', horders', hfor'⟩ := ih hrest
      refine ⟨ms ++ ms', by rw [hms', hms, List.append_assoc], ?_, fun m hm => ?_⟩
      · rw [List.map_append, horders, horders', List.filterMap_cons]
        cases c.callback.order r <;> rfl
      · exact (List.mem_append.mp hm).elim (hfor m) (hfor' m)

end Requests

/-- What the parser asks for does not depend on what was asked before. -/
theorem tcpListenerRead_requests {σ : Type} {handle : σ → Request → Except Fault σ} {s s' : σ}
    {nb nb' : NodeBuffer} {buf : List UInt8}
    (h : tcpListenerRead handle (s, nb) buf = .ok (s', nb')) :
    (∀ log, tcpListenerRead record (log, nb) buf = .ok (log ++ nb.requests buf, nb'))
      ∧ (nb.requests buf).foldlM handle s = .ok s' := by
  have hrecord : ∀ (rs log : List Request), rs.foldlM record log = .ok (log ++ rs) := by
    intro rs
    induction rs with
    | nil => exact fun log => congrArg Except.ok (List.append_nil log).symm
    | cons r rs ih =>
        intro log
        exact foldlM_cons_ok.mpr ⟨log ++ [r], rfl, by rw [ih, List.append_assoc]; rfl⟩
  obtain ⟨rs, hread, hrun⟩ := tcpListenerRead_log h []
  have hrs : nb.requests buf = rs := by
    unfold NodeBuffer.requests
    rw [hread]
    rfl
  refine ⟨fun log => ?_, hrs ▸ hrun⟩
  obtain ⟨rs', hread', hrun'⟩ := tcpListenerRead_log hread log
  rw [hrecord] at hrun'
  rw [hread', hrs]
  rw [List.nil_append, List.nil_append] at hrun'
  rw [Except.ok.inj hrun']

/-! ## What a step can do -/

/-- **What a step does** for the connections and for what they have ordered. -/
inductive Orders (s : PacketSystem) (e : PacketEvent) (s' : PacketSystem) : Prop
  /-- Nothing is ordered. -/
  | aside (conns : s'.daemon.conns = s.daemon.conns)
      (queued : Appends (fun m => m.callback = none) s.pipeline s'.pipeline)
      (silent : ∀ k, s.takes k e = [])
  | opens (c : Connection) (conns : s'.daemon.conns = s.daemon.conns ++ [c])
      (out : c.out = s.daemon.conns.length + 1) (unread : c.nb = NodeBuffer.fresh)
      (queued : s'.pipeline = s.pipeline) (silent : ∀ k, s.takes k e = [])
  | reads (k : Nat) (c : Connection) (nb : NodeBuffer) (rs : List Request)
      (ms : List MessageStream) (found : s.daemon.conns[k]? = some c)
      (conns : s'.daemon.conns = s.daemon.conns.set k { c with nb := nb })
      (parsed : ∀ log, tcpListenerRead record (log, c.nb) (s.takes k e) = .ok (log ++ rs, nb))
      (queued : s'.pipeline = s.pipeline ++ ms)
      (orders : ms.map MessageStream.order = rs.filterMap c.callback.order)
      (own : ∀ m ∈ ms, m.For c.out) (silent : ∀ j, j ≠ k → s.takes j e = [])
  /-- A connection is read no more. -/
  | ends (k : Nat) (c c' : Connection) (found : s.daemon.conns[k]? = some c)
      (conns : s'.daemon.conns = s.daemon.conns.set k c')
      (same : c'.nb = c.nb ∧ c'.callback = c.callback ∧ c'.out = c.out)
      (queued : s'.pipeline = s.pipeline) (silent : ∀ k, s.takes k e = [])

section Steps

variable {s s' : PacketSystem} {d d' : Daemon}

theorem orders_refl {e : PacketEvent} (silent : ∀ k, s.takes k e = []) : Orders s e s :=
  .aside rfl (.of_eq rfl) silent

/-- The threads leave the connections. -/
theorem threads_conns {e : PacketEvent} (h : packetStep s e = .ok s')
    (hthreads : e.arrival ≠ none ∨ e = .take ∨ e = .write ∨ e = .pop ∨ e = .timeout) :
    s'.daemon.conns = s.daemon.conns := by
  have hsettle : ∀ v, (s.daemon.settle v s.nextnode).conns = s.daemon.conns := fun v =>
    settle_conns s.daemon v s.nextnode
  cases e with
  | take =>
      cases h
      unfold writerTake
      split
      · rename_i m rest _ _
        cases m.n <;> rfl
      · rfl
  | write =>
      cases h
      unfold writerWrite
      split <;> rfl
  | pop =>
      cases h
      unfold writerPop
      split <;> rfl
  | timeout =>
      cases h
      unfold writerTimeout
      split
      · rw [abortNext_eq]
        exact hsettle .abort
      · rfl
  | answer k v =>
      cases h
      rw [readStatus_eq]
      exact hsettle v
  | packet bytes junk =>
      cases h
      unfold packetReader readPacket
      dsimp only
      rw [if_pos rfl]
      split
      · split <;> rfl
      · rfl
  | main e => simp [PacketEvent.arrival] at hthreads
  | stream n p callback data => simp [PacketEvent.arrival] at hthreads
  | dispatch connect => simp [PacketEvent.arrival] at hthreads

/-- Where the main loop works, the messages that were written and the one in hand stay. -/
theorem pipeline_daemon (s : PacketSystem) {ms : List MessageStream}
    (h : d'.packetOut = s.daemon.packetOut ++ ms) :
    ({ s with daemon := d' }).pipeline = s.pipeline ++ ms := by
  show s.messages ++ (s.held ++ d'.packetOut) = s.messages ++ (s.held ++ s.daemon.packetOut) ++ ms
  rw [h, List.append_assoc, List.append_assoc]

theorem pipeline_unqueued (s : PacketSystem) (h : d'.packetOut = s.daemon.packetOut) :
    ({ s with daemon := d' }).pipeline = s.pipeline := by
  rw [pipeline_daemon s (h.trans (List.append_nil _).symm), List.append_nil]

theorem Unattended.orders {e : PacketEvent} (h : Unattended s.daemon d')
    (silent : ∀ k, s.takes k e = []) : Orders s e { s with daemon := d' } := by
  obtain ⟨ms, hms, hnone⟩ := h.queued
  exact .aside h.conns ⟨ms, pipeline_daemon s hms, hnone⟩ silent

/-- **What is read** is parsed, and what it asks for is queued. -/
theorem tcpRead_orders {k : Nat} {buf : List UInt8} (h : tcpRead s.daemon k buf = .ok d') :
    Orders s (.main (.read k buf)) { s with daemon := d' } := by
  have hsilent : ∀ j, j ≠ k → s.takes j (.main (.read k buf)) = [] := by
    intro j hj
    unfold PacketSystem.takes
    dsimp only
    split
    · rw [if_neg fun hboth => hj hboth.1.symm]
    · rfl
  unfold tcpRead at h
  split at h
  · rename_i c hfound
    split at h
    · rename_i hreading
      obtain ⟨⟨d₁, nb⟩, hrun, h⟩ := bind_eq_ok.mp h
      cases h
      obtain ⟨hparse, hrequests⟩ := tcpListenerRead_requests hrun
      obtain ⟨ms, hms, horders, hown⟩ := tcpRequests_orders hrequests
      have hconns : d₁.conns = s.daemon.conns := (tcpListenerRead_asks hrun).conns
      have htakes : s.takes k (.main (.read k buf)) = buf := by
        unfold PacketSystem.takes
        dsimp only
        rw [hfound]
        exact if_pos ⟨rfl, hreading⟩
      exact .reads k c nb _ ms hfound (congrArg (List.set · k _) hconns)
        (by rw [htakes]; exact hparse) (pipeline_daemon s hms) horders hown hsilent
    · rename_i hdeaf
      cases h
      refine orders_refl fun j => ?_
      by_cases hj : j = k
      · subst hj
        unfold PacketSystem.takes
        dsimp only
        rw [hfound]
        exact if_neg fun hboth => hdeaf hboth.2
      · exact hsilent j hj
  · rename_i hnobody
    cases h
    refine orders_refl fun j => ?_
    by_cases hj : j = k
    · subst hj
      unfold PacketSystem.takes
      dsimp only
      rw [hnobody]
    · exact hsilent j hj

theorem mainStep_orders {e : MainEvent} (h : mainStep s.daemon e = .ok d') :
    Orders s (.main e) { s with daemon := d' } := by
  by_cases htick : ∃ env, e = .tick env
  · obtain ⟨env, rfl⟩ := htick
    exact (mgtTick_unattended h).orders fun _ => rfl
  by_cases hread : ∃ k buf, e = .read k buf
  · obtain ⟨k, buf, rfl⟩ := hread
    exact tcpRead_orders h
  cases mainStep_serves h fun env heq => htick ⟨env, heq⟩ with
  | unknown nobody => exact orders_refl fun _ => rfl
  | command listening => exact .opens _ rfl rfl rfl (pipeline_unqueued s rfl) fun _ => rfl
  | management listening => exact .opens _ rfl rfl rfl (pipeline_unqueued s rfl) fun _ => rfl
  | reads found reading run => exact absurd ⟨_, _, rfl⟩ hread
  | deaf => exact absurd ⟨_, _, rfl⟩ hread
  | closes found reading =>
      exact .ends _ _ _ found rfl ⟨rfl, rfl, rfl⟩ (pipeline_unqueued s rfl) fun _ => rfl
  | closed nobody => exact orders_refl fun _ => rfl
  | fails found =>
      exact .ends _ _ _ found rfl ⟨rfl, rfl, rfl⟩ (pipeline_unqueued s rfl) fun _ => rfl
  | failed => exact orders_refl fun _ => rfl

theorem threads_orders {e : PacketEvent} (h : packetStep s e = .ok s')
    (hthreads : e.arrival ≠ none ∨ e = .take ∨ e = .write ∨ e = .pop ∨ e = .timeout)
    (silent : ∀ k, s.takes k e = []) : Orders s e s' :=
  .aside (threads_conns h hthreads) (.of_eq (threads_pipeline h hthreads)) silent

/-- **Every step.** -/
theorem packetStep_orders {e : PacketEvent} (hclients : OnlyClients s e)
    (h : packetStep s e = .ok s') : Orders s e s' := by
  cases e with
  | main e =>
      obtain ⟨d', hmain, h⟩ := bind_eq_ok.mp h
      cases h
      exact mainStep_orders hmain
  | stream n p callback data =>
      obtain ⟨d', hstream, h⟩ := bind_eq_ok.mp h
      cases h
      obtain rfl : callback = none := hclients
      rw [packetStreamPacket_ok hstream]
      refine (managed_queue s.daemon fun m hm => ?_).toUnattended.orders fun _ => rfl
      rw [List.mem_singleton.mp hm]
  | dispatch connect =>
      unfold packetStep at h
      dsimp only at h
      split at h
      · cases h
        exact orders_refl fun _ => rfl
      · obtain ⟨⟨d, handled⟩, hdispatch, h⟩ := bind_eq_ok.mp h
        cases h
        have hunattended := (packetInpacket_tells hdispatch).unattended
        obtain ⟨ms, hms, hnone⟩ := hunattended.queued
        have hpipeline : ({ s with daemon := d }).pipeline = s.pipeline ++ ms :=
          pipeline_daemon s hms
        exact .aside hunattended.conns ⟨ms, hpipeline, hnone⟩ fun _ => rfl
  | take => exact threads_orders h (by simp) fun _ => rfl
  | write => exact threads_orders h (by simp) fun _ => rfl
  | pop => exact threads_orders h (by simp) fun _ => rfl
  | timeout => exact threads_orders h (by simp) fun _ => rfl
  | answer k v => exact threads_orders h (by simp [PacketEvent.arrival]) fun _ => rfl
  | packet bytes junk => exact threads_orders h (by simp [PacketEvent.arrival]) fun _ => rfl

end Steps

/-! ## Runs -/

/-- What the packets for a connection are, and what its parser has come to. -/
def Connection.Told (c : Connection) (bytes : List UInt8) (ms : List MessageStream) : Prop :=
  ∃ log, tcpListenerRead record ([], NodeBuffer.fresh) bytes = .ok (log, c.nb)
    ∧ ms.map MessageStream.order = log.filterMap c.callback.order

/-- **The queue and the connections** belong together. -/
structure Ordered (tr : List (PacketSystem × PacketEvent)) (s : PacketSystem) : Prop where
  numbered : ∀ (k : Nat) (c : Connection), s.daemon.conns[k]? = some c → c.out = k + 1
  owned : ∀ m ∈ s.pipeline, m.callback ≠ none →
    ∃ (k : Nat) (c : Connection), s.daemon.conns[k]? = some c ∧ m.data = c.out
  unsaid : ∀ k, s.daemon.conns.length ≤ k → said k tr = []
  told : ∀ (k : Nat) (c : Connection), s.daemon.conns[k]? = some c →
    c.Told (said k tr) (s.ordersOf c.out)

section Ordered

variable {tr : List (PacketSystem × PacketEvent)} {s s' : PacketSystem} {e : PacketEvent}

theorem ordersOf_congr (h : s'.pipeline = s.pipeline) (out : Gpointer) :
    s'.ordersOf out = s.ordersOf out := by
  unfold PacketSystem.ordersOf
  rw [h]

/-- Packets without a callback are ordered by nobody. -/
theorem ordersOf_aside (h : Appends (fun m => m.callback = none) s.pipeline s'.pipeline)
    (out : Gpointer) : s'.ordersOf out = s.ordersOf out := by
  obtain ⟨ms, hms, hnone⟩ := h
  have hnobody : ms.filter (·.For out) = [] := by
    rw [List.filter_eq_nil_iff]
    intro m hm
    simp [MessageStream.For, hnone m hm]
  unfold PacketSystem.ordersOf
  rw [hms, List.filter_append, hnobody, List.append_nil]

/-- Where nothing is read, what was said stays. -/
theorem said_silent (h : ∀ k, s.takes k e = []) (k : Nat) :
    said k (tr ++ [(s, e)]) = said k tr := by
  rw [said_snoc, h, List.append_nil]

/-- Nobody has ordered for a stream that no connection has. -/
theorem Ordered.unordered (h : Ordered tr s) (out : Gpointer)
    (hnobody : ∀ (k : Nat) (c : Connection), s.daemon.conns[k]? = some c → c.out ≠ out) :
    s.ordersOf out = [] := by
  unfold PacketSystem.ordersOf
  rw [List.filter_eq_nil_iff]
  intro m hm hfor
  obtain ⟨hset, hout⟩ := of_decide_eq_true hfor
  obtain ⟨k, c, hfound, hc⟩ := h.owned m hm hset
  exact hnobody k c hfound (hc.symm.trans hout)

/-- **One step.** -/
theorem Ordered.step (h : Ordered tr s) (horders : Orders s e s') :
    Ordered (tr ++ [(s, e)]) s' := by
  cases horders with
  | aside conns queued silent =>
      refine ⟨?_, fun m hm hset => ?_, ?_, ?_⟩
      · rw [conns]
        exact h.numbered
      · rw [conns]
        obtain ⟨ms, hms, hnone⟩ := queued
        rw [hms] at hm
        rcases List.mem_append.mp hm with hm | hm
        · exact h.owned m hm hset
        · exact absurd (hnone m hm) hset
      · intro k hk
        rw [conns] at hk
        rw [said_silent silent]
        exact h.unsaid k hk
      · intro k c hfound
        rw [conns] at hfound
        rw [said_silent silent, ordersOf_aside queued]
        exact h.told k c hfound
  | opens c conns out unread queued silent =>
      have hnumbered : ∀ (k : Nat) (x : Connection), s'.daemon.conns[k]? = some x →
          x.out = k + 1 := by
        intro k x hfound
        rw [conns] at hfound
        rcases getElem?_snoc_some hfound with hold | ⟨rfl, rfl⟩
        · exact h.numbered k x hold
        · exact out
      refine ⟨hnumbered, fun m hm hset => ?_, fun k hk => ?_, fun k x hfound => ?_⟩
      · rw [queued] at hm
        obtain ⟨k, x, hfound, hx⟩ := h.owned m hm hset
        refine ⟨k, x, ?_, hx⟩
        rw [conns, List.getElem?_append_left (List.getElem?_eq_some_iff.mp hfound).1]
        exact hfound
      · rw [conns, List.length_append] at hk
        rw [said_silent silent]
        exact h.unsaid k (by omega)
      · rw [said_silent silent, ordersOf_congr queued]
        rw [conns] at hfound
        rcases getElem?_snoc_some hfound with hold | ⟨rfl, rfl⟩
        · exact h.told k x hold
        · -- a new connection: nothing is said, and its stream is that of no other
          have hnobody := h.unordered x.out fun j y hy heq => by
            have hlt := (List.getElem?_eq_some_iff.mp hy).1
            rw [h.numbered j y hy, out] at heq
            exact absurd (Nat.succ.inj heq) (Nat.ne_of_lt hlt)
          rw [h.unsaid _ le_rfl, hnobody]
          exact ⟨[], by rw [unread]; rfl, rfl⟩
  | reads k c nb rs ms found conns parsed queued orders own silent =>
      have hset : ∀ (j : Nat) (x : Connection), s'.daemon.conns[j]? = some x →
          (j = k ∧ x = { c with nb := nb }) ∨ (j ≠ k ∧ s.daemon.conns[j]? = some x) := by
        intro j x hx
        rw [conns] at hx
        exact getElem?_set_some found hx
      have hkept : ∀ (j : Nat) (x : Connection), s.daemon.conns[j]? = some x →
          ∃ x', s'.daemon.conns[j]? = some x' ∧ x'.out = x.out := by
        intro j x hx
        rw [conns]
        by_cases hj : j = k
        · subst hj
          rw [found] at hx
          cases hx
          exact ⟨_, List.getElem?_set_self (List.getElem?_eq_some_iff.mp found).1, rfl⟩
        · exact ⟨x, by rw [List.getElem?_set_ne (Ne.symm hj)]; exact hx, rfl⟩
      refine ⟨fun j x hx => ?_, fun m hm hcallback => ?_, fun j hj => ?_, fun j x hx => ?_⟩
      · rcases hset j x hx with ⟨rfl, rfl⟩ | ⟨-, hx⟩
        · exact h.numbered j c found
        · exact h.numbered j x hx
      · rw [queued] at hm
        obtain ⟨j, x, hx, hout⟩ : ∃ (j : Nat) (x : Connection),
            s.daemon.conns[j]? = some x ∧ m.data = x.out := by
          rcases List.mem_append.mp hm with hm | hm
          · exact h.owned m hm hcallback
          · exact ⟨k, c, found, (own m hm).2⟩
        obtain ⟨x', hx', hout'⟩ := hkept j x hx
        exact ⟨j, x', hx', hout.trans hout'.symm⟩
      · rw [conns, List.length_set] at hj
        have hlt := (List.getElem?_eq_some_iff.mp found).1
        rw [said_snoc, silent j (by omega), List.append_nil]
        exact h.unsaid j hj
      · have hordered : ∀ out, s'.ordersOf out
            = s.ordersOf out ++ ms.filter (·.For out) := by
          intro out
          unfold PacketSystem.ordersOf
          rw [queued, List.filter_append]
        rw [hordered, said_snoc]
        rcases hset j x hx with ⟨rfl, rfl⟩ | ⟨hj, hx⟩
        · -- the connection that is read: its parser goes on
          obtain ⟨log, hread, htold⟩ := h.told j c found
          have hall : ms.filter (·.For c.out) = ms :=
            List.filter_eq_self.mpr fun m hm => decide_eq_true (own m hm)
          refine ⟨log ++ rs, ?_, ?_⟩
          · rw [tcpListenerRead_append, hread]
            exact parsed log
          · show ((s.ordersOf c.out ++ ms.filter (·.For c.out)).map MessageStream.order) = _
            rw [hall, List.map_append, htold, orders, List.filterMap_append]
        · -- the others: nothing is said on them, and nothing is queued for them
          have hnone : ms.filter (·.For x.out) = [] := by
            rw [List.filter_eq_nil_iff]
            intro m hm hfor
            have hout : c.out = x.out :=
              (own m hm).2.symm.trans (of_decide_eq_true hfor).2
            rw [h.numbered k c found, h.numbered j x hx] at hout
            exact hj (Nat.succ.inj hout).symm
          rw [silent j hj, List.append_nil, hnone, List.append_nil]
          exact h.told j x hx
  | ends k c c' found conns same queued silent =>
      obtain ⟨hnb, hkind, hout⟩ := same
      have hsame : ∀ (j : Nat) (x : Connection), s'.daemon.conns[j]? = some x →
          ∃ x', s.daemon.conns[j]? = some x'
            ∧ x.nb = x'.nb ∧ x.callback = x'.callback ∧ x.out = x'.out := by
        intro j x hx
        rw [conns] at hx
        rcases getElem?_set_some found hx with ⟨rfl, rfl⟩ | ⟨-, hx⟩
        · exact ⟨c, found, hnb, hkind, hout⟩
        · exact ⟨x, hx, rfl, rfl, rfl⟩
      refine ⟨fun j x hx => ?_, fun m hm hset => ?_, fun j hj => ?_, fun j x hx => ?_⟩
      · obtain ⟨x', hx', -, -, hxout⟩ := hsame j x hx
        exact hxout.trans (h.numbered j x' hx')
      · rw [queued] at hm
        obtain ⟨j, x, hx, hdata⟩ := h.owned m hm hset
        by_cases hj : j = k
        · subst hj
          rw [found] at hx
          cases hx
          refine ⟨j, c', ?_, hdata.trans hout.symm⟩
          rw [conns]
          exact List.getElem?_set_self (List.getElem?_eq_some_iff.mp found).1
        · refine ⟨j, x, ?_, hdata⟩
          rw [conns, List.getElem?_set_ne (Ne.symm hj)]
          exact hx
      · rw [conns, List.length_set] at hj
        rw [said_silent silent]
        exact h.unsaid j hj
      · obtain ⟨x', hx', hxnb, hxkind, hxout⟩ := hsame j x hx
        obtain ⟨log, hread, htold⟩ := h.told j x' hx'
        rw [said_silent silent, ordersOf_congr queued, hxout]
        exact ⟨log, by rw [hxnb]; exact hread, by rw [hxkind]; exact htold⟩

end Ordered

theorem configured_ordered {nodetimeout : Int} {cs : List NodeConfig} {d : Daemon}
    (h : configured nodetimeout cs = .ok d) : Ordered [] (PacketSystem.init d) := by
  have hmanaged := configured_managed h
  have hconns : (PacketSystem.init d).daemon.conns = [] := hmanaged.conns
  refine ⟨fun k c hc => ?_, fun m hm hset => ?_, fun k _ => rfl, fun k c hc => ?_⟩
  · rw [hconns] at hc
    cases hc
  · obtain ⟨ms, hms, hnone⟩ := hmanaged.queued
    have hpipeline : (PacketSystem.init d).pipeline = ms := hms
    rw [hpipeline] at hm
    exact absurd (hnone m hm) hset
  · rw [hconns] at hc
    cases hc

/-- **Every order goes out once, and in order.** In every run, for every connection, the packets
with its stream that were written to the line, are about to be or wait for it are the commands
on all the bytes that were ever read on it, as `tcp_parse` cuts them, each once and in their
order, save those that `busmgt_streamData` drops for their length; and no packet has a callback
but for a connection. -/
theorem orders_queued_once (nodetimeout : Int) (cs : List NodeConfig) (d₀ : Daemon)
    (tr : List (PacketSystem × PacketEvent)) (s : PacketSystem)
    (h₀ : configured nodetimeout cs = .ok d₀)
    (h : Traced packetStep OnlyClients (PacketSystem.init d₀) tr s) :
    (∀ m ∈ s.pipeline, m.callback ≠ none → ∃ c ∈ s.daemon.conns, m.data = c.out)
      ∧ ∀ (k : Nat) (c : Connection), s.daemon.conns[k]? = some c →
        ∃ log, tcpListenerRead record ([], NodeBuffer.fresh) (said k tr) = .ok (log, c.nb)
          ∧ (s.pipeline.filter (·.For c.out)).map MessageStream.order
            = log.filterMap c.callback.order := by
  have hordered : Ordered tr s :=
    h.invariant (I := Ordered) (configured_ordered h₀) fun tr s e s' hinv hclients hstep =>
      hinv.step (packetStep_orders hclients hstep)
  refine ⟨fun m hm hset => ?_, hordered.told⟩
  obtain ⟨k, c, hfound, hdata⟩ := hordered.owned m hm hset
  exact ⟨c, List.mem_of_getElem? hfound, hdata⟩

/-- A client orders in two reads, the first of which breaks off in a command. -/
def orderedInPieces : List PacketEvent :=
  connected ++ [.main (.read 0 [0x43, 0x78, 0x0A, 0x42, 0x02, 0x79]), .take,
    .main (.read 0 [0x7A, 0x4C, 0x43, 0x78, 0x0A])]

theorem orders_queued_once_pieces : ∃ tr s,
    Traced packetStep OnlyClients (PacketSystem.init (nodesInit 30)) tr s
      ∧ (s.pipeline.filter (·.For 1)).map MessageStream.order
        = [(0, [0x78]), (0, [0x79, 0x7A]), (0, [0x78])]
      ∧ (∀ m ∈ s.pipeline, m.callback ≠ none → ∃ c ∈ s.daemon.conns, m.data = c.out)
      ∧ ∀ (k : Nat) (c : Connection), s.daemon.conns[k]? = some c →
        ∃ log, tcpListenerRead record ([], NodeBuffer.fresh) (said k tr) = .ok (log, c.nb)
          ∧ (s.pipeline.filter (·.For c.out)).map MessageStream.order
            = log.filterMap c.callback.order := by
  have hrun : ∃ tr s, Traced packetStep OnlyClients (PacketSystem.init (nodesInit 30)) tr s
      ∧ (s.pipeline.filter (·.For 1)).map MessageStream.order
        = [(0, [0x78]), (0, [0x79, 0x7A]), (0, [0x78])] := by
    apply Traced.exists_of_eval Fault.assertion orderedInPieces
    decide +kernel
  obtain ⟨tr, s, hs, hordered⟩ := hrun
  exact ⟨tr, s, hs, hordered, orders_queued_once 30 [] (nodesInit 30) tr s rfl hs⟩

end Ubd
