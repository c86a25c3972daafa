import Ubd.Daemon.Routing
import Ubd.Tcp.Encode

/-!
# Packet.System — `packet.c`

The reader thread, the writer thread and the main loop share the queues `packet_out`
and `packet_status`, the pointer `nextnode`, four fields of every node and the idle
functions of the main loop. `packetStep` interleaves them, a handler at a time, with
the bridge at the other end of the serial line.
-/

namespace Ubd

/-! ## Packets for the main loop -/

/-- What the bridge says of a message: `PACKET_DONE` or `PACKET_ABORT`. -/
inductive Verdict where
  | done
  | abort
  deriving DecidableEq, Repr

/-- The byte of a verdict on the line. -/
def Verdict.byte : Verdict → UInt8
  | .done => 0x53
  | .abort => 0x41

/-- The `type` of a `packetstream`, with the fields that are set for it. -/
inductive StreamType where
  /-- `PACKET_PACKET` -/
  | packet (p : UbPacket) (n : Option NodeId)
  | status (v : Verdict)

/-- `struct packetstream` -/
structure PacketStream where
  type : StreamType
  callback : Option Callback
  data : Gpointer

/-! ## What the main loop does with them -/

/-- Write to an output stream. -/
def Daemon.write (d : Daemon) (out : Gpointer) (writes : List (List UInt8)) : Daemon :=
  { d with written := d.written ++ writes.map fun bytes => (out, bytes) }

/-- The first `len` bytes of the data, where the code does not look how many there are. -/
def UbPacket.payload (p : UbPacket) : Except Fault (List UInt8) :=
  if p.len.toNat ≤ ubPacketData then .ok (p.data.toList.take p.len.toNat) else .error .outOfBounds

/-- `tcp_reply` -/
def tcpReply (d : Daemon) (ps : PacketStream) : Except Fault Daemon :=
  match ps.type with
  | .status .done => .ok (d.write ps.data [[0x41]])
  | .status .abort => .ok (d.write ps.data [[0x4E]])
  | .packet p _ => do
      let data ← p.payload
      return d.write ps.data (tcpWriteCharacterEncoded data false)

/-- `ps->callback(ps)`. The daemon has no other callback than `tcp_reply`. -/
def Callback.call (callback : Callback) (d : Daemon) (ps : PacketStream) : Except Fault Daemon :=
  match callback with
  | .tcpReply => Ubd.tcpReply d ps
  | .other _ => .ok d

/-- The class slot `listen_newMessage` finds: the last one with the class, or the first. -/
def Node.listenClass (n : Node) (cls : UInt8) : ClassId :=
  ((classSlots.filter (n.classes · = cls)).getLast?).getD ClassId.first

/-- `listen_newMessage` -/
def listenNewMessage (d : Daemon) (n : NodeId) (p : UbPacket) : Except Fault Daemon :=
  let listeners := ((d.nodes n).tcpsockets ((d.nodes n).listenClass p.cls)).listeners
  listeners.foldlM (fun d out => do
    let data ← p.payload
    return d.write out (tcpWriteCharacterEncoded data true)) d

/-- Where `packet_inpacket` takes a packet. -/
inductive Handled where
  /-- `ps->callback(ps)` -/
  | callback (callback : Callback) (data : Gpointer)
  /-- `busmgt_inpacket` -/
  | busmgt
  /-- `listen_newMessage` -/
  | listen (n : NodeId)
  | nowhere
  deriving DecidableEq

/-- `ps->type != PACKET_PACKET || !(ps->p.flags & UB_PACKET_UNSOLICITED)` -/
def PacketStream.isReply (ps : PacketStream) : Bool :=
  match ps.type with
  | .packet p _ => p.flags &&& ubPacketUnsolicited = 0
  | .status _ => true

/-- `packet_inpacket` for a packet that is not forwarded to a callback. -/
def packetUnsolicited (d : Daemon) (type : StreamType) (connect : UbnetdConnect) :
    Except Fault (Daemon × Handled) :=
  match type with
  | .packet p n =>
      if p.flags &&& ubPacketMgt ≠ 0 then do
        let d ← busmgtInpacket d p connect
        return (d, .busmgt)
      else
        match n with
        | some n => do
            let d ← listenNewMessage d n p
            return (d, .listen n)
        | none => .ok (d, .nowhere)
  | .status _ => .ok (d, .nowhere)

/-- `packet_inpacket`, without the dump of the packet for the log (`debug_packet`). -/
def packetInpacket (d : Daemon) (ps : PacketStream) (connect : UbnetdConnect) :
    Except Fault (Daemon × Handled) :=
  match ps.callback with
  | some callback =>
      if ps.isReply then do
        let d ← callback.call d ps
        return (d, .callback callback ps.data)
      else packetUnsolicited d ps.type connect
  | none => packetUnsolicited d ps.type connect

/-! ## The threads -/

/-- Where the writer thread is. -/
inductive Writer where
  /-- It waits for `packet_out`. -/
  | idle
  /-- It has taken a message and set `nextnode`. -/
  | holding (m : MessageStream)
  /-- It has written the message and waits for `packet_status`. -/
  | waiting
  deriving DecidableEq

/-- The threads, and what has happened so far. The fields from `messages` on are not in
the code. -/
structure PacketSystem where
  daemon : Daemon
  packetStatus : List Verdict
  nextnode : Option NodeId
  /-- The functions added by `g_idle_add`. -/
  idle : List PacketStream
  writer : Writer
  /-- The messages the bridge has got, in order. -/
  messages : List MessageStream
  /-- The statuses it has sent, each with the number of its message. -/
  answers : List (Nat × Verdict)
  /-- The numbers of the messages on which the writer has timed out. -/
  expired : List Nat
  /-- The numbers of the messages on which its wait was ended by a status. -/
  ended : List Nat
  /-- What `packet_inpacket` was called with, and where it took it. -/
  dispatched : List (PacketStream × Handled)

def PacketSystem.init (d : Daemon) : PacketSystem where
  daemon := d
  packetStatus := []
  nextnode := none
  idle := []
  writer := .idle
  messages := []
  answers := []
  expired := []
  ended := []
  dispatched := []

/-- The number of the message that was written last. -/
def PacketSystem.current (s : PacketSystem) : Nat := s.messages.length - 1

/-- `g_idle_add` -/
def PacketSystem.idleAdd (s : PacketSystem) (ps : PacketStream) : PacketSystem :=
  { s with idle := s.idle ++ [ps] }

/-- `memcpy(&ps->p, in.data+1, in.len-1)` over what was in the memory before. -/
def UbPacket.overlay (junk : UbPacket) (bytes : List UInt8) : UbPacket where
  src := bytes.getD 0 junk.src
  dest := bytes.getD 1 junk.dest
  flags := bytes.getD 2 junk.flags
  cls := bytes.getD 3 junk.cls
  len := bytes.getD 4 junk.len
  data := Vector.ofFn fun i => bytes.getD (5 + i.val) junk.data[i]

/-- `case PACKET_PACKET` of `packet_readerThread` -/
def readPacket (s : PacketSystem) (p : UbPacket) : PacketSystem :=
  match nodesGetNodeByBusAdr s.daemon p.src.toNat with
  | some n =>
      s.idleAdd ⟨.packet p (some n), (s.daemon.nodes n).currentcallback,
        (s.daemon.nodes n).currentdata⟩
  | none => s.idleAdd ⟨.packet p none, none, 0⟩

/-- `case PACKET_DONE` -/
def readDone (s : PacketSystem) : PacketSystem :=
  let s := match s.nextnode with
    | some n =>
        let d := s.daemon.setNode n fun x =>
          { x with currentcallback := x.nextcallback, currentdata := x.nextdata }
        { s with daemon := d }.idleAdd
          ⟨.status .done, (d.nodes n).currentcallback, (d.nodes n).currentdata⟩
    | none => s
  { s with packetStatus := s.packetStatus ++ [.done] }

/-- A message has failed: `nextnode` gets a `PACKET_ABORT`, and its stream ends. -/
def abortNext (s : PacketSystem) : PacketSystem :=
  match s.nextnode with
  | some n =>
      let ps : PacketStream :=
        ⟨.status .abort, (s.daemon.nodes n).nextcallback, (s.daemon.nodes n).nextdata⟩
      let d := s.daemon.setNode n fun x =>
        { x with currentcallback := none, nextcallback := none }
      { s with daemon := d }.idleAdd ps
  | none => s

/-- `case PACKET_ABORT` -/
def readAbort (s : PacketSystem) : PacketSystem :=
  let s := abortNext s
  { s with packetStatus := s.packetStatus ++ [.abort] }

/-- `case PACKET_DONE` and `case PACKET_ABORT` -/
def readStatus (s : PacketSystem) : Verdict → PacketSystem
  | .done => readDone s
  | .abort => readAbort s

/-- `packet_readerThread`, for one message. -/
def packetReader (s : PacketSystem) (inp : List UInt8) (junk : UbPacket) : PacketSystem :=
  match inp with
  | [] => s
  | type :: bytes =>
      if type = 0x50 then
        -- `sizeof(struct ubpacket) >= in.len`
        if inp.length ≤ ubPacketlen then readPacket s (junk.overlay bytes) else s
      else if type = Verdict.done.byte then readStatus s .done
      else if type = Verdict.abort.byte then readStatus s .abort
      else s

/-- `packet_writerThread` takes a message. The dump for the log (`debug_packet`) is left out. -/
def writerTake (s : PacketSystem) : PacketSystem :=
  match s.writer, s.daemon.packetOut with
  | .idle, m :: rest =>
      let d := { s.daemon with packetOut := rest }
      let d := match m.n with
        | some n => d.setNode n fun x => { x with nextcallback := m.callback, nextdata := m.data }
        | none => d
      { s with daemon := d, nextnode := m.n, writer := .holding m }
  | _, _ => s

/-- `serial_writeMessage` -/
def writerWrite (s : PacketSystem) : PacketSystem :=
  match s.writer with
  | .holding m => { s with messages := s.messages ++ [m], writer := .waiting }
  | _ => s

/-- `g_async_queue_timed_pop` finds a status. -/
def writerPop (s : PacketSystem) : PacketSystem :=
  match s.writer, s.packetStatus with
  | .waiting, _ :: rest =>
      { s with packetStatus := rest, writer := .idle, ended := s.ended ++ [s.current] }
  | _, _ => s

/-- `g_async_queue_timed_pop` finds none for two seconds. -/
def writerTimeout (s : PacketSystem) : PacketSystem :=
  match s.writer, s.packetStatus with
  | .waiting, [] =>
      { abortNext s with writer := .idle, expired := s.expired ++ [s.current] }
  | _, _ => s

/-! ## Events -/

inductive PacketEvent where
  | main (e : MainEvent)
  /-- A call of `packet_streamPacket`; with no node and no callback it is one of
  `packet_outpacket`. -/
  | stream (n : Option NodeId) (p : OutPacket) (callback : Option Callback) (data : Gpointer)
  | take
  | write
  | pop
  | timeout
  /-- The status of message `k` arrives. -/
  | answer (k : Nat) (v : Verdict)
  /-- A data packet arrives. -/
  | packet (bytes : List UInt8) (junk : UbPacket)
  /-- The main loop runs the next idle function. -/
  | dispatch (connect : UbnetdConnect)

def packetStep (s : PacketSystem) : PacketEvent → Except Fault PacketSystem
  | .main e => do
      let d ← mainStep s.daemon e
      return { s with daemon := d }
  | .stream n p callback data => do
      let d ← packetStreamPacket s.daemon n p callback data
      return { s with daemon := d }
  | .take => .ok (writerTake s)
  | .write => .ok (writerWrite s)
  | .pop => .ok (writerPop s)
  | .timeout => .ok (writerTimeout s)
  | .answer k v => .ok { readStatus s v with answers := s.answers ++ [(k, v)] }
  | .packet bytes junk => .ok (packetReader s (0x50 :: bytes) junk)
  | .dispatch connect =>
      match s.idle with
      | [] => .ok s
      | ps :: rest => do
          let (d, handled) ← packetInpacket s.daemon ps connect
          return { s with
            daemon := d
            idle := rest
            dispatched := s.dispatched ++ [(ps, handled)] }

/-- **The bridge** only sends statuses for messages it has got, and one for each. -/
def Bridged (s : PacketSystem) : PacketEvent → Prop
  | .answer k _ => k < s.messages.length ∧ k ∉ s.answers.map Prod.fst
  | _ => True

instance : ∀ s e, Decidable (Bridged s e)
  | s, .answer k _ =>
      inferInstanceAs (Decidable (k < s.messages.length ∧ k ∉ s.answers.map Prod.fst))
  | _, .main _ | _, .stream .. | _, .take | _, .write | _, .pop | _, .timeout | _, .packet ..
  | _, .dispatch _ => .isTrue trivial

end Ubd
