import Ubd.Packet.Statuses
import Ubd.Daemon.Queue
import Ubd.Serial.Switch

/-!
# Packet.Line — `packet.c` on top of `serial.c`

`packetStep` hands whole messages over. Here the writer thread puts bytes on the serial line,
and the reader thread takes single reads from it. `line_refines` says that this is the same
system: the frames of the bytes read are the messages that arrive, and the frames of the
bytes written are the messages that leave. `line_carries_queue` follows them back to the
queue: nothing on it is lost, doubled or overtaken.
-/

namespace Ubd

open EscapeFraming Exchange Runs

/-! ## Packets as bytes -/

/-- A message with these bytes. The memory behind them is not looked at. -/
def Message.ofBytes (bytes : List UInt8) : Message where
  len := UInt16.ofNat bytes.length
  data := Vector.ofFn fun i => bytes.getD i 0

theorem Message.ofBytes_bytes {bytes : List UInt8} (h : bytes.length ≤ ubPacketlen) :
    (Message.ofBytes bytes).bytes = bytes := by
  have hlen : (UInt16.ofNat bytes.length).toNat = bytes.length := by
    have hsmall : ubPacketlen = 50 := rfl
    rw [UInt16.toNat_ofNat']
    omega
  unfold Message.bytes Message.ofBytes
  dsimp only
  rw [hlen]
  apply List.ext_getElem
  · rw [List.length_take, Vector.length_toList]
    omega
  · intro i hi hi'
    simp [hi']

/-- The bytes that `packet_streamPacket` copies into a message: the header and the data. The
class of a packet that has none is whatever was on the stack, `junk`. -/
def OutPacket.raw (p : OutPacket) (junk : UInt8) : List UInt8 :=
  [1, p.dest, p.flags, p.cls.getD junk, UInt8.ofNat p.data.length] ++ p.data

theorem raw_length (p : OutPacket) (junk : UInt8) :
    (p.raw junk).length = p.data.length + ubPacketHeader := by
  show p.data.length + 1 + 1 + 1 + 1 + 1 = p.data.length + 5
  omega

/-- The `msg` of a `messagestream`. -/
def OutPacket.message (p : OutPacket) (junk : UInt8) : Message := .ofBytes (p.raw junk)

theorem OutPacket.message_bytes {p : OutPacket} (h : p.data.length ≤ ubPacketData)
    (junk : UInt8) : (p.message junk).bytes = p.raw junk := by
  have hsum : ubPacketData + ubPacketHeader = ubPacketlen := by decide
  have hlen := raw_length p junk
  exact Message.ofBytes_bytes (by omega)

/-! ## The system -/

structure LineSystem where
  threads : PacketSystem
  /-- The `static` variables of `serial_in`, and its buffer. -/
  serial : SerialState
  /-- The message of the reader thread. -/
  inp : Message
  /-- What was written to the line. -/
  line : List UInt8

/-- The daemon after `packet_init`, with the receiver as `serial_switch` has left it. -/
def LineSystem.init (d : Daemon) (serial : SerialState) (inp : Message) : LineSystem where
  threads := .init d
  serial := serial
  inp := inp
  line := []

inductive LineEvent where
  | main (e : MainEvent)
  | stream (n : Option NodeId) (p : OutPacket) (callback : Option Callback) (data : Gpointer)
  | take
  /-- `junk` is the class of a packet that has none. -/
  | write (junk : UInt8)
  | pop
  | timeout
  /-- A `read` in the reader thread. If it completes a status, it is the one of message `k`;
  if it completes a packet, `junk` is what was in its memory. -/
  | read (r : ReadResult) (k : Nat) (junk : UbPacket)
  | dispatch (connect : UbnetdConnect)

/-- `packet_writerThread` writes its message to the line. -/
def lineWrite (s : LineSystem) (junk : UInt8) : LineSystem :=
  match s.threads.writer with
  | .holding m =>
      { s with
        threads := writerWrite s.threads
        line := s.line ++ serialWriteMessage (m.msg.message junk) }
  | _ => s

/-- What the bridge has for the threads. -/
inductive Arrival where
  | status (v : Verdict)
  | packet (bytes : List UInt8)
  deriving DecidableEq, Repr

/-- What a message brings, by its first byte. Others are ignored. -/
def arrivalOf : List UInt8 → Option Arrival
  | [] => none
  | type :: bytes =>
      if type = 0x50 then some (.packet bytes)
      else if type = Verdict.done.byte then some (.status .done)
      else if type = Verdict.abort.byte then some (.status .abort)
      else none

/-- The step of the reader thread: a status is that of message `k`, and a packet is written
over `junk`. -/
def Arrival.event (k : Nat) (junk : UbPacket) : Arrival → PacketEvent
  | .status v => .answer k v
  | .packet bytes => .packet bytes junk

/-- `packet_readerThread` with a message, and the record of the status in it. -/
def lineReceive (s : PacketSystem) (bytes : List UInt8) (k : Nat) (junk : UbPacket) :
    PacketSystem :=
  match arrivalOf bytes with
  | some (.status v) => { packetReader s bytes junk with answers := s.answers ++ [(k, v)] }
  | _ => packetReader s bytes junk

/-- A `read` in `packet_readerThread`. -/
def lineRead (s : LineSystem) (r : ReadResult) (k : Nat) (junk : UbPacket) :
    Except Fault LineSystem := do
  match ← serialReadTurn s.inp s.serial r with
  | (serial, none) => return { s with serial := serial }
  | (serial, some m) =>
      return { s with
        serial := serial
        inp := m
        threads := lineReceive s.threads m.bytes k junk }

def lineStep (s : LineSystem) : LineEvent → Except Fault LineSystem
  | .main e => do
      let threads ← packetStep s.threads (.main e)
      return { s with threads := threads }
  | .stream n p callback data => do
      let threads ← packetStep s.threads (.stream n p callback data)
      return { s with threads := threads }
  | .take => .ok { s with threads := writerTake s.threads }
  | .write junk => .ok (lineWrite s junk)
  | .pop => .ok { s with threads := writerPop s.threads }
  | .timeout => .ok { s with threads := writerTimeout s.threads }
  | .read r k junk => lineRead s r k junk
  | .dispatch connect => do
      let threads ← packetStep s.threads (.dispatch connect)
      return { s with threads := threads }

/-! ## What a step means for the threads -/

/-- The step of the threads that an event leads to, if any. -/
def LineSystem.meaning (s : LineSystem) : LineEvent → Option PacketEvent
  | .main e => some (.main e)
  | .stream n p callback data => some (.stream n p callback data)
  | .take => some .take
  | .write _ => some .write
  | .pop => some .pop
  | .timeout => some .timeout
  | .read r k junk =>
      match serialReadTurn s.inp s.serial r with
      | .ok (_, some m) => (arrivalOf m.bytes).map (Arrival.event k junk)
      | _ => none
  | .dispatch connect => some (.dispatch connect)

/-- An event may happen when the step it leads to may. -/
def LineMay (may : PacketSystem → PacketEvent → Prop) (s : LineSystem) (e : LineEvent) : Prop :=
  ∀ e' ∈ s.meaning e, may s.threads e'

/-- A message is what it brings. -/
theorem packetReader_arrival (s : PacketSystem) (bytes : List UInt8) (junk : UbPacket) :
    packetReader s bytes junk = match arrivalOf bytes with
      | some (.status v) => readStatus s v
      | some (.packet rest) => packetReader s (0x50 :: rest) junk
      | none => s := by
  cases bytes with
  | nil => rfl
  | cons type rest =>
      unfold arrivalOf
      dsimp only
      split_ifs with hpacket hdone habort
      · rw [hpacket]
      · rw [hdone]
        rfl
      · rw [habort]
        rfl
      · simp [packetReader, hpacket, hdone, habort]

theorem lineReceive_means {may : PacketSystem → PacketEvent → Prop} {s : PacketSystem}
    {bytes : List UInt8} {k : Nat} {junk : UbPacket}
    (hmay : ∀ e ∈ (arrivalOf bytes).map (Arrival.event k junk), may s e) :
    Means packetStep may s (lineReceive s bytes k junk)
      ((arrivalOf bytes).map (Arrival.event k junk)) := by
  have hreader := packetReader_arrival s bytes junk
  unfold lineReceive
  cases harrival : arrivalOf bytes with
  | none =>
      rw [harrival] at hreader
      exact hreader
  | some a =>
      rw [harrival] at hreader hmay
      cases a with
      | status v =>
          dsimp only at hreader ⊢
          rw [hreader]
          exact ⟨hmay _ rfl, rfl⟩
      | packet rest =>
          dsimp only at hreader ⊢
          rw [hreader]
          exact ⟨hmay _ rfl, rfl⟩

theorem lineStep_means {may : PacketSystem → PacketEvent → Prop} {s s' : LineSystem}
    {e : LineEvent} (hmay : LineMay may s e) (h : lineStep s e = .ok s') :
    Means packetStep may s.threads s'.threads (s.meaning e) := by
  cases e with
  | main e =>
      obtain ⟨threads, hrun, h⟩ := bind_eq_ok.mp h
      cases h
      exact ⟨hmay _ rfl, hrun⟩
  | stream n p callback data =>
      obtain ⟨threads, hrun, h⟩ := bind_eq_ok.mp h
      cases h
      exact ⟨hmay _ rfl, hrun⟩
  | take =>
      cases h
      exact ⟨hmay _ rfl, rfl⟩
  | write junk =>
      cases h
      refine ⟨hmay _ rfl, ?_⟩
      show Except.ok (writerWrite s.threads) = .ok (lineWrite s junk).threads
      unfold lineWrite
      split
      · rfl
      · rename_i hidle
        rw [writerWrite_nothing hidle]
  | pop =>
      cases h
      exact ⟨hmay _ rfl, rfl⟩
  | timeout =>
      cases h
      exact ⟨hmay _ rfl, rfl⟩
  | read r k junk =>
      change lineRead s r k junk = .ok s' at h
      unfold lineRead at h
      unfold LineMay LineSystem.meaning at hmay
      unfold LineSystem.meaning
      obtain ⟨⟨serial, o⟩, hturn, h⟩ := bind_eq_ok.mp h
      simp only [hturn] at hmay ⊢
      cases o with
      | none =>
          cases h
          rfl
      | some m =>
          cases h
          exact lineReceive_means hmay
  | dispatch connect =>
      obtain ⟨threads, hrun, h⟩ := bind_eq_ok.mp h
      cases h
      exact ⟨hmay _ rfl, hrun⟩

/-! ## What arrives -/

/-- What comes over the line. -/
def PacketEvent.arrival : PacketEvent → Option Arrival
  | .answer _ v => some (.status v)
  | .packet bytes _ => some (.packet bytes)
  | _ => none

@[simp] theorem event_arrival (k : Nat) (junk : UbPacket) (a : Arrival) :
    (a.event k junk).arrival = some a := by
  cases a <;> rfl

/-- The reads of the reader thread. -/
def LineEvent.read? : LineEvent → Option ReadResult
  | .read r _ _ => some r
  | _ => none

/-- The event of the threads that does not come over the line. -/
def LineEvent.own : LineEvent → Option PacketEvent
  | .main e => some (.main e)
  | .stream n p callback data => some (.stream n p callback data)
  | .take => some .take
  | .write _ => some .write
  | .pop => some .pop
  | .timeout => some .timeout
  | .read _ _ _ => none
  | .dispatch connect => some (.dispatch connect)

theorem meaning_of_own {s : LineSystem} {e : LineEvent} {e' : PacketEvent} (h : e.own = some e') :
    s.meaning e = some e' ∧ e'.arrival = none ∧ e.read? = none := by
  cases e <;> cases h <;> exact ⟨rfl, rfl, rfl⟩

/-- **The reader**, after the reads so far: the receiver is where it is with the rest of the
line to come, and the events of the threads are what has arrived, between their own. -/
structure Arrives (e₀ : Bool) (o₀ : Option (List UInt8)) (tr : List (LineSystem × LineEvent))
    (s : LineSystem) : Prop where
  receiver : ∃ e o got, Represents s.serial e o
    ∧ (∀ rs, faultOf e₀ o₀ ((tr.map Prod.snd).filterMap LineEvent.read? ++ rs) = faultOf e o rs)
    ∧ (∀ rs, framesOf e₀ o₀ ((tr.map Prod.snd).filterMap LineEvent.read? ++ rs)
      = got ++ framesOf e o rs)
    ∧ (tr.filterMap fun q => q.1.meaning q.2).filterMap PacketEvent.arrival
      = got.filterMap arrivalOf
  own : ((tr.filterMap fun q => q.1.meaning q.2).filter fun e => e.arrival.isNone)
    = (tr.map Prod.snd).filterMap LineEvent.own

section Arriving

variable {e₀ : Bool} {o₀ : Option (List UInt8)} {tr : List (LineSystem × LineEvent)}
  {s s' : LineSystem}

/-- Steps of the threads' own leave the receiver alone. -/
theorem lineStep_serial {e : LineEvent} (hown : e.read? = none) (h : lineStep s e = .ok s') :
    s'.serial = s.serial := by
  cases e with
  | main e =>
      obtain ⟨threads, -, h⟩ := bind_eq_ok.mp h
      cases h
      rfl
  | stream n p callback data =>
      obtain ⟨threads, -, h⟩ := bind_eq_ok.mp h
      cases h
      rfl
  | take =>
      cases h
      rfl
  | write junk =>
      cases h
      unfold lineWrite
      split <;> rfl
  | pop =>
      cases h
      rfl
  | timeout =>
      cases h
      rfl
  | read r k junk => cases hown
  | dispatch connect =>
      obtain ⟨threads, -, h⟩ := bind_eq_ok.mp h
      cases h
      rfl

theorem Arrives.aside {e : LineEvent} {e' : PacketEvent} (h : Arrives e₀ o₀ tr s)
    (hown : e.own = some e') (hstep : lineStep s e = .ok s') :
    Arrives e₀ o₀ (tr ++ [(s, e)]) s' := by
  obtain ⟨hmeaning, harrival, hread⟩ := meaning_of_own (s := s) hown
  have hreads : ((tr ++ [(s, e)]).map Prod.snd).filterMap LineEvent.read?
      = (tr.map Prod.snd).filterMap LineEvent.read? := by
    simp [hread]
  have hevents : (tr ++ [(s, e)]).filterMap (fun q => q.1.meaning q.2)
      = tr.filterMap (fun q => q.1.meaning q.2) ++ [e'] := by
    simp [hmeaning]
  constructor
  · rw [hreads, hevents, lineStep_serial hread hstep]
    obtain ⟨e₁, o₁, got, hrep, hfault, hframes, harrived⟩ := h.receiver
    refine ⟨e₁, o₁, got, hrep, hfault, hframes, ?_⟩
    rw [List.filterMap_append, harrived]
    simp [harrival]
  · rw [hevents, List.filter_append, h.own]
    simp [harrival, hown]

theorem Arrives.read {r : ReadResult} {k : Nat} {junk : UbPacket} (h : Arrives e₀ o₀ tr s)
    (hstep : lineStep s (.read r k junk) = .ok s') :
    Arrives e₀ o₀ (tr ++ [(s, .read r k junk)]) s' := by
  have hreads : ((tr ++ [(s, LineEvent.read r k junk)]).map Prod.snd).filterMap LineEvent.read?
      = (tr.map Prod.snd).filterMap LineEvent.read? ++ [r] := by
    simp [LineEvent.read?]
  have hevents : (tr ++ [(s, LineEvent.read r k junk)]).filterMap (fun q => q.1.meaning q.2)
      = tr.filterMap (fun q => q.1.meaning q.2) ++ (s.meaning (.read r k junk)).toList := by
    rw [List.filterMap_append]
    cases hm : s.meaning (.read r k junk) <;> simp [hm]
  have hmap : ((tr ++ [(s, LineEvent.read r k junk)]).map Prod.snd).filterMap LineEvent.own
      = (tr.map Prod.snd).filterMap LineEvent.own := by
    simp [LineEvent.own]
  obtain ⟨e₁, o₁, got, hrep, hfault, hframes, harrived⟩ := h.receiver
  change lineRead s r k junk = .ok s' at hstep
  unfold lineRead at hstep
  obtain ⟨⟨serial, o⟩, hturn, hstep⟩ := bind_eq_ok.mp hstep
  have hmeaning : s.meaning (.read r k junk)
      = o.bind fun m => (arrivalOf m.bytes).map (Arrival.event k junk) := by
    unfold LineSystem.meaning
    simp only [hturn]
    cases o <;> rfl
  rw [hmeaning] at hevents
  cases serialReadTurn_reads s.inp hrep r with
  | fault f turn first =>
      rw [turn] at hturn
      cases hturn
  | goesOn t e₂ o₂ turn rep fault frames =>
      rw [turn] at hturn
      cases hturn
      cases hstep
      constructor
      · refine ⟨e₂, o₂, got, rep, fun rs => ?_, fun rs => ?_, ?_⟩
        · rw [hreads, List.append_assoc, List.singleton_append, hfault, fault]
        · rw [hreads, List.append_assoc, List.singleton_append, hframes, frames]
        · rw [hevents]
          simpa using harrived
      · rw [hevents, hmap]
        simpa using h.own
  | returns t m e₂ o₂ turn rep fits fault frames =>
      rw [turn] at hturn
      cases hturn
      cases hstep
      constructor
      · refine ⟨e₂, o₂, got ++ [m.bytes], rep, fun rs => ?_, fun rs => ?_, ?_⟩
        · rw [hreads, List.append_assoc, List.singleton_append, hfault, fault]
        · rw [hreads, List.append_assoc, List.singleton_append, hframes, frames,
            List.append_assoc, List.singleton_append]
        · rw [hevents, List.filterMap_append, List.filterMap_append, harrived]
          cases harrival : arrivalOf m.bytes <;> simp [harrival]
      · rw [hevents, hmap, List.filter_append, h.own]
        cases harrival : arrivalOf m.bytes <;> simp [harrival]

theorem Arrives.snoc {e : LineEvent} (h : Arrives e₀ o₀ tr s) (hstep : lineStep s e = .ok s') :
    Arrives e₀ o₀ (tr ++ [(s, e)]) s' := by
  cases e with
  | read r k junk => exact h.read hstep
  | main e => exact h.aside (by rfl) hstep
  | stream n p callback data => exact h.aside (by rfl) hstep
  | take => exact h.aside (by rfl) hstep
  | write junk => exact h.aside (by rfl) hstep
  | pop => exact h.aside (by rfl) hstep
  | timeout => exact h.aside (by rfl) hstep
  | dispatch connect => exact h.aside (by rfl) hstep

end Arriving

/-- **Bytes on the line are messages for the threads.** Every run on the bytes, from any state
the receiver may have been left in, is a run of the threads on messages, with the same
guard. Its own events are those of the run, in their order, and what arrives in it are the
frames of the bytes read, in theirs, each as its first byte says. None of the bytes did any
harm. -/
theorem line_refines (may : PacketSystem → PacketEvent → Prop) (d : Daemon) (inp : Message)
    (serial : SerialState) (e : Bool) (o : Option (List UInt8)) (hrep : Represents serial e o)
    (es : List LineEvent) (s : LineSystem)
    (h : Run lineStep (LineMay may) (LineSystem.init d serial inp) es s) :
    faultOf e o (es.filterMap LineEvent.read?) = none
      ∧ ∃ fs, Run packetStep may (PacketSystem.init d) fs s.threads
        ∧ fs.filter (fun f => f.arrival.isNone) = es.filterMap LineEvent.own
        ∧ fs.filterMap PacketEvent.arrival
          = (framesOf e o (es.filterMap LineEvent.read?)).filterMap arrivalOf := by
  obtain ⟨tr, htr, rfl⟩ := h.traced
  have harrives : Arrives e o tr s := by
    refine htr.invariant (I := Arrives e o) ⟨⟨e, o, [], hrep, fun _ => rfl, fun _ => rfl, rfl⟩,
      rfl⟩ fun tr s e s' hinv _ hstep => hinv.snoc hstep
  obtain ⟨-, hrun⟩ := htr.refine LineSystem.threads LineSystem.meaning
    (I := fun _ => True) trivial
    fun c e c' _ hmay hstep => ⟨trivial, lineStep_means hmay hstep⟩
  obtain ⟨e₁, o₁, got, -, hfault, hframes, harrived⟩ := harrives.receiver
  have hdone := hfault []
  have hgot := hframes []
  rw [List.append_nil] at hdone hgot
  have hrest : framesOf e₁ o₁ [] = [] := rfl
  rw [hrest, List.append_nil] at hgot
  refine ⟨hdone.trans rfl, _, hrun, harrives.own, ?_⟩
  rw [harrived, hgot]

instance (may : PacketSystem → PacketEvent → Prop) [∀ s e, Decidable (may s e)] (s : LineSystem)
    (e : LineEvent) : Decidable (LineMay may s e) :=
  inferInstanceAs (Decidable (∀ e' ∈ s.meaning e, may s.threads e'))

/-- A packet is queued and written, and its status comes over the line. -/
def answeredLine : List LineEvent :=
  [.stream none somePacket none 0, .take, .write 0]
    ++ (serialSendFramec Verdict.done.byte).map (fun b => .read (.byte b) 0 zeros) ++ [.pop]

theorem line_refines_answered : ∃ s,
    Run lineStep (LineMay fun _ _ => True)
      (LineSystem.init (nodesInit 30) serialInit blankMessage) answeredLine s
      ∧ faultOf false none (answeredLine.filterMap LineEvent.read?) = none
      ∧ ∃ fs, Run packetStep (fun _ _ => True) (PacketSystem.init (nodesInit 30)) fs s.threads
        ∧ fs.filter (fun f => f.arrival.isNone) = answeredLine.filterMap LineEvent.own
        ∧ fs.filterMap PacketEvent.arrival
          = (framesOf false none (answeredLine.filterMap LineEvent.read?)).filterMap
            arrivalOf := by
  have hrun : ∃ s, Run lineStep (LineMay fun _ _ => True)
      (LineSystem.init (nodesInit 30) serialInit blankMessage) answeredLine s
      ∧ s.threads.answers = [(0, .done)] := by
    apply Run.exists_of_eval Fault.assertion
    decide +kernel
  obtain ⟨s, hs, -⟩ := hrun
  exact ⟨s, hs, line_refines (fun _ _ => True) (nodesInit 30) blankMessage serialInit false none
    represents_init answeredLine s hs⟩

/-! ## From the queue to the line -/

/-- The message that the writer thread has taken and not written yet. -/
def PacketSystem.held (s : PacketSystem) : List MessageStream :=
  match s.writer with
  | .holding m => [m]
  | _ => []

/-- All messages that were ever queued: those that were written, the one that the writer thread
has in its hands, and those that wait. -/
def PacketSystem.pipeline (s : PacketSystem) : List MessageStream :=
  s.messages ++ (s.held ++ s.daemon.packetOut)

section Pipeline

variable {d d' : Daemon} {s s' : PacketSystem}

/-- `packet_inpacket` only queues what bus management does. -/
theorem packetInpacket_queues {ps : PacketStream} {connect : UbnetdConnect} {handled : Handled}
    (h : packetInpacket d ps connect = .ok (d', handled)) : Queues d d' := by
  have hunsolicited : packetUnsolicited d ps.type connect = .ok (d', handled) → Queues d d' := by
    intro h
    unfold packetUnsolicited at h
    split at h
    · split at h
      · obtain ⟨d₁, hmgt, h⟩ := bind_eq_ok.mp h
        cases h
        exact busmgtInpacket_queues hmgt
      · split at h
        · obtain ⟨d₁, hlisten, h⟩ := bind_eq_ok.mp h
          cases h
          refine foldlM_invariant (I := Queues d) (fun out _ e e' he hturn => ?_) (.of_eq rfl)
            hlisten
          obtain ⟨data, -, hturn⟩ := bind_eq_ok.mp hturn
          cases hturn
          exact he.trans (.of_eq rfl)
        · cases h
          exact .of_eq rfl
    · cases h
      exact .of_eq rfl
  unfold packetInpacket at h
  split at h
  · split at h
    · obtain ⟨d₁, hcall, h⟩ := bind_eq_ok.mp h
      cases h
      unfold Callback.call Ubd.tcpReply at hcall
      split at hcall
      · split at hcall
        · cases hcall
          exact .of_eq rfl
        · cases hcall
          exact .of_eq rfl
        · obtain ⟨data, -, hcall⟩ := bind_eq_ok.mp hcall
          cases hcall
          exact .of_eq rfl
      · cases hcall
        exact .of_eq rfl
    · exact hunsolicited h
  · exact hunsolicited h

/-- Steps beside the writer: the queue may grow. -/
theorem pipeline_aside (hmessages : s'.messages = s.messages) (hwriter : s'.writer = s.writer)
    (h : Queues s.daemon s'.daemon) : Appends MessageStream.Sendable s.pipeline s'.pipeline := by
  have hheld : s'.held = s.held := by
    unfold PacketSystem.held
    rw [hwriter]
  unfold PacketSystem.pipeline
  rw [hmessages, hheld]
  exact (h.behind s.held).behind s.messages

/-- **The writer and the reader** neither add to the queue nor lose anything of it. -/
theorem threads_pipeline {e : PacketEvent} (h : packetStep s e = .ok s')
    (hthreads : e.arrival ≠ none ∨ e = .take ∨ e = .write ∨ e = .pop ∨ e = .timeout) :
    s'.pipeline = s.pipeline := by
  have hsettle : ∀ v, (s.daemon.settle v s.nextnode).packetOut = s.daemon.packetOut := fun v =>
    settle_packetOut s.daemon v s.nextnode
  cases e with
  | take =>
      cases h
      unfold writerTake
      split
      · rename_i m rest hidle hqueue
        unfold PacketSystem.pipeline PacketSystem.held
        rw [hidle, hqueue]
        cases m.n <;> rfl
      · rfl
  | write =>
      cases h
      unfold writerWrite
      split
      · rename_i m hholding
        unfold PacketSystem.pipeline PacketSystem.held
        rw [hholding]
        exact List.append_assoc _ _ _
      · rfl
  | pop =>
      cases h
      unfold writerPop
      split
      · rename_i hwaiting _
        unfold PacketSystem.pipeline PacketSystem.held
        rw [hwaiting]
      · rfl
  | timeout =>
      cases h
      unfold writerTimeout
      split
      · rename_i hwaiting _
        rw [abortNext_eq]
        unfold PacketSystem.pipeline PacketSystem.held
        dsimp only
        rw [hwaiting, hsettle]
      · rfl
  | answer k v =>
      cases h
      rw [readStatus_eq]
      unfold PacketSystem.pipeline PacketSystem.held
      dsimp only
      rw [hsettle]
  | packet bytes junk =>
      cases h
      unfold packetReader readPacket
      dsimp only
      rw [if_pos rfl]
      split
      · split <;> rfl
      · rfl
  | main e => simp [PacketEvent.arrival] at hthreads
  | stream n p callback data => simp [PacketEvent.arrival] at hthreads
  | dispatch connect => simp [PacketEvent.arrival] at hthreads

/-- **Every step**: what was queued once goes on in its order, and what is added can be sent. -/
theorem packetStep_pipeline {e : PacketEvent} (h : packetStep s e = .ok s') :
    Appends MessageStream.Sendable s.pipeline s'.pipeline := by
  cases e with
  | main e =>
      obtain ⟨d, hmain, h⟩ := bind_eq_ok.mp h
      cases h
      exact pipeline_aside rfl rfl (mainStep_queues hmain)
  | stream n p callback data =>
      obtain ⟨d, hstream, h⟩ := bind_eq_ok.mp h
      cases h
      exact pipeline_aside rfl rfl (packetStreamPacket_queues hstream)
  | dispatch connect =>
      unfold packetStep at h
      dsimp only at h
      split at h
      · cases h
        exact .of_eq rfl
      · obtain ⟨⟨d, handled⟩, hdispatch, h⟩ := bind_eq_ok.mp h
        cases h
        exact pipeline_aside rfl rfl (packetInpacket_queues hdispatch)
  | take => exact .of_eq (threads_pipeline h (by simp))
  | write => exact .of_eq (threads_pipeline h (by simp))
  | pop => exact .of_eq (threads_pipeline h (by simp))
  | timeout => exact .of_eq (threads_pipeline h (by simp))
  | answer k v => exact .of_eq (threads_pipeline h (by simp [PacketEvent.arrival]))
  | packet bytes junk => exact .of_eq (threads_pipeline h (by simp [PacketEvent.arrival]))

/-- Only the writer thread writes. -/
theorem packetStep_messages {e : PacketEvent} (hwrite : e ≠ .write) (h : packetStep s e = .ok s') :
    s'.messages = s.messages := by
  cases e with
  | main e =>
      obtain ⟨d, -, h⟩ := bind_eq_ok.mp h
      cases h
      rfl
  | stream n p callback data =>
      obtain ⟨d, -, h⟩ := bind_eq_ok.mp h
      cases h
      rfl
  | take =>
      cases h
      unfold writerTake
      split <;> rfl
  | write => exact absurd rfl hwrite
  | pop =>
      cases h
      unfold writerPop
      split <;> rfl
  | timeout =>
      cases h
      unfold writerTimeout
      split
      · rw [abortNext_eq]
      · rfl
  | answer k v =>
      cases h
      rw [readStatus_eq]
  | packet bytes junk =>
      cases h
      unfold packetReader readPacket
      dsimp only
      rw [if_pos rfl]
      split
      · split <;> rfl
      · rfl
  | dispatch connect =>
      unfold packetStep at h
      dsimp only at h
      split at h
      · cases h
        rfl
      · obtain ⟨⟨d, handled⟩, -, h⟩ := bind_eq_ok.mp h
        cases h
        rfl

end Pipeline

/-! ## The line -/

/-- A frame on the line is the packet of a message. -/
def Carries (m : MessageStream) (frame : List UInt8) : Prop := ∃ junk, frame = m.msg.raw junk

/-- What is on the line: whole frames, which do a receiver no harm, one for each message in
order. -/
structure OnLine (line : List UInt8) (ms : List MessageStream) : Prop where
  whole : serialMarks.pending line = false
  closed : openAfter none (serialMarks.tokens line) = none
  harmless : firstFault none (serialMarks.tokens line) = none
  frames : List.Forall₂ Carries ms (frames none (serialMarks.tokens line))

/-- One more frame. -/
theorem OnLine.snoc {line : List UInt8} {ms : List MessageStream} {m : MessageStream}
    (h : OnLine line ms) (hm : m.Sendable) (junk : UInt8) :
    OnLine (line ++ serialWriteMessage (m.msg.message junk)) (ms ++ [m]) := by
  have hbytes := OutPacket.message_bytes hm.fits junk
  have hlen := raw_length m.msg junk
  have hne : m.msg.raw junk ≠ [] := List.cons_ne_nil _ _
  have hmax : (m.msg.message junk).len.toNat ≤ ubPacketlen := by
    have hfits := hm.fits
    have hsum : ubPacketData + ubPacketHeader = ubPacketlen := by decide
    show (UInt16.ofNat (m.msg.raw junk).length).toNat ≤ ubPacketlen
    rw [UInt16.toNat_ofNat']
    exact le_trans (Nat.mod_le _ _) (by omega)
  obtain ⟨htok, hpend⟩ := serialMarks.tokens_encode (m.msg.message junk).bytes
  rw [← serialWriteMessage_eq_encode] at htok hpend
  have htokens : serialMarks.tokens (line ++ serialWriteMessage (m.msg.message junk))
      = serialMarks.tokens line ++ messageTokens (m.msg.message junk) := by
    rw [Marks.tokens_append h.whole, htok]
    rfl
  constructor
  · rw [Marks.pending_append h.whole, hpend]
  · rw [htokens, openAfter_append, h.closed, messageTokens]
    simp [openAfter_append, openStep]
  · rw [htokens, firstFault_append, h.harmless, Option.none_or]
    exact firstFault_messageTokens _ hmax
  · have hframe := frames_frame none (m := (m.msg.message junk).bytes) (by rwa [hbytes]) []
    rw [List.append_nil] at hframe
    rw [htokens, frames_append, h.closed, messageTokens, hframe, hbytes]
    exact List.rel_append h.frames (.cons ⟨junk, rfl⟩ .nil)

/-- **The line and the queue** belong together. -/
structure Sending (s : LineSystem) : Prop where
  sendable : ∀ m ∈ s.threads.pipeline, m.Sendable
  line : OnLine s.line s.threads.messages

/-- No event but a write touches the line or the record of what was written. -/
theorem lineStep_line {s s' : LineSystem} {e : LineEvent} (hwrite : ∀ junk, e ≠ .write junk)
    (h : lineStep s e = .ok s') :
    s'.line = s.line ∧ s'.threads.messages = s.threads.messages := by
  have hmay : LineMay (fun _ _ => True) s e := fun _ _ => trivial
  have hmeans := lineStep_means hmay h
  have hline : s'.line = s.line := by
    cases e with
    | main e =>
        obtain ⟨threads, -, h⟩ := bind_eq_ok.mp h
        cases h
        rfl
    | stream n p callback data =>
        obtain ⟨threads, -, h⟩ := bind_eq_ok.mp h
        cases h
        rfl
    | write junk => exact absurd rfl (hwrite junk)
    | read r k junk =>
        change lineRead s r k junk = .ok s' at h
        unfold lineRead at h
        obtain ⟨⟨serial, o⟩, -, h⟩ := bind_eq_ok.mp h
        cases o <;> cases h <;> rfl
    | dispatch connect =>
        obtain ⟨threads, -, h⟩ := bind_eq_ok.mp h
        cases h
        rfl
    | _ =>
        cases h
        rfl
  refine ⟨hline, ?_⟩
  cases hmeaning : s.meaning e with
  | none =>
      rw [hmeaning] at hmeans
      exact congrArg PacketSystem.messages (show s'.threads = s.threads from hmeans)
  | some e' =>
      rw [hmeaning] at hmeans
      refine packetStep_messages ?_ hmeans.2
      rintro rfl
      cases e with
      | write junk => exact hwrite junk rfl
      | read r k junk =>
          unfold LineSystem.meaning at hmeaning
          dsimp only at hmeaning
          split at hmeaning
          · obtain ⟨a, -, ha⟩ := Option.map_eq_some_iff.mp hmeaning
            cases a <;> cases ha
          · cases hmeaning
      | _ => cases hmeaning

/-- The queue, as a step on the bytes sees it. -/
theorem lineStep_pipeline {s s' : LineSystem} {e : LineEvent} (h : lineStep s e = .ok s') :
    Appends MessageStream.Sendable s.threads.pipeline s'.threads.pipeline := by
  have hmay : LineMay (fun _ _ => True) s e := fun _ _ => trivial
  have hmeans := lineStep_means hmay h
  cases hmeaning : s.meaning e with
  | none =>
      rw [hmeaning] at hmeans
      exact .of_eq (congrArg PacketSystem.pipeline (show s'.threads = s.threads from hmeans))
  | some e' =>
      rw [hmeaning] at hmeans
      exact packetStep_pipeline hmeans.2

theorem Sending.step {s s' : LineSystem} {e : LineEvent} (h : Sending s)
    (hstep : lineStep s e = .ok s') : Sending s' where
  sendable := (lineStep_pipeline hstep).forall_mem h.sendable
  line := by
    by_cases hwrite : ∃ junk, e = .write junk
    · obtain ⟨junk, rfl⟩ := hwrite
      cases hstep
      unfold lineWrite
      split
      · rename_i m hholding
        have hm : m ∈ s.threads.pipeline := by
          unfold PacketSystem.pipeline PacketSystem.held
          rw [hholding]
          simp
        rw [writerWrite_eq hholding]
        exact h.line.snoc (h.sendable m hm) junk
      · exact h.line
    · obtain ⟨hline, hmessages⟩ := lineStep_line (fun junk heq => hwrite ⟨junk, heq⟩) hstep
      rw [hline, hmessages]
      exact h.line

end Ubd
