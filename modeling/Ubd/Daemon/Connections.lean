import Ubd.Daemon.Busmgt

/-!
# Daemon.Connections — `net_tcp.c`, `listen.c` and the streaming end of `bus.c`

TCP connections of the class and management ports of a node: how they are accepted,
what a command on them queues, and how they end. The answers on them are written by
`tcp_reply` and `listen_newMessage`.
-/

namespace Ubd

/-! ## `listen.c` -/

/-- Change the listeners of a class slot. -/
def Node.setListeners (x : Node) (classid : ClassId) (l : List Gpointer) : Node :=
  let sd := { x.tcpsockets classid with listeners := l }
  { x with tcpsockets := Function.update x.tcpsockets classid sd }

/-- `listen_register` -/
def listenRegister (d : Daemon) (n : NodeId) (classid : ClassId) (out : Gpointer) : Daemon :=
  d.setNode n fun x => x.setListeners classid (out :: (x.tcpsockets classid).listeners)

/-- `listen_unregister` -/
def listenUnregister (d : Daemon) (n : NodeId) (classid : ClassId) (out : Gpointer) : Daemon :=
  d.setNode n fun x =>
    x.setListeners classid ((x.tcpsockets classid).listeners.filter (· ≠ out))

/-! ## Commands -/

/-- `bus_streamToID` -/
def busStreamToID (d : Daemon) (id : CString) (buf : List UInt8) (classid : ClassId)
    (callback : Option Callback) (data : Gpointer) : Except Fault Daemon :=
  match nodesGetNodeById d id with
  -- `ub_assert(n != NULL)`
  | none => .error .assertion
  | some n =>
      -- `memcpy(packet.data, buf, len)`
      if buf.length ≤ ubPacketData then
        packetStreamPacket d (some n)
          ⟨UInt8.ofInt (d.nodes n).busadr, 0, some ((d.nodes n).classes classid), buf⟩ callback data
      else .error .outOfBounds

/-- `busmgt_streamData`. The length is checked after it went through `uint8_t`. -/
def busmgtStreamData (d : Daemon) (n : NodeId) (buf : List UInt8) (callback : Option Callback)
    (data : Gpointer) : Except Fault Daemon :=
  let len : UInt8 := UInt8.ofNat buf.length
  if len.toNat > ubPacketData then .ok d
  else if buf.length ≤ ubPacketData then
    packetStreamPacket d (some n) ⟨UInt8.ofInt (d.nodes n).busadr, ubPacketMgt, none, buf⟩
      callback data
  else .error .outOfBounds

/-- `tcp_queueNewCommand` -/
def tcpQueueNewCommand (d : Daemon) (c : Connection) (cmd : List UInt8) : Except Fault Daemon :=
  busStreamToID d (d.nodes c.n).id cmd c.classid (some .tcpReply) c.out

/-- `tcp_queueNewMgt` -/
def tcpQueueNewMgt (d : Daemon) (c : Connection) (cmd : List UInt8) : Except Fault Daemon :=
  busmgtStreamData d c.n cmd (some .tcpReply) c.out

/-- `nb->callback(nb)` -/
def tcpCallback (d : Daemon) (c : Connection) (cmd : List UInt8) : Except Fault Daemon :=
  match c.callback with
  | .newCommand => tcpQueueNewCommand d c cmd
  | .newMgt => tcpQueueNewMgt d c cmd

/-! ## Life of a connection -/

/-- What `tcp_parse` asks for on a connection. -/
def tcpRequest (c : Connection) (d : Daemon) : Request → Except Fault Daemon
  | .command cmd => tcpCallback d c cmd
  | .listen => .ok (listenRegister d c.n c.classid c.out)

/-- `tcp_listener_read` with data on connection `k` -/
def tcpRead (d : Daemon) (k : Nat) (buf : List UInt8) : Except Fault Daemon :=
  match d.conns[k]? with
  | some c =>
      if c.reading then do
        let (d, nb) ← tcpListenerRead (tcpRequest c) (d, c.nb) buf
        return { d with conns := d.conns.set k { c with nb := nb } }
      else .ok d
  | none => .ok d

/-- `tcp_listener_read` at the end of the stream -/
def tcpClose (d : Daemon) (k : Nat) : Daemon :=
  match d.conns[k]? with
  | some c =>
      if c.reading then
        let d := listenUnregister d c.n c.classid c.out
        { d with conns := d.conns.set k { c with reading := false, released := true } }
      else d
  | none => d

/-- `tcp_listener_read` after an error: nothing is read any more. -/
def tcpReadError (d : Daemon) (k : Nat) : Daemon :=
  match d.conns[k]? with
  | some c => { d with conns := d.conns.set k { c with reading := false } }
  | none => d

/-- The node and the class slot of the `socketdata` of a listening service. -/
def Daemon.listening (d : Daemon) (service : Handle) : Option (NodeId × ClassId) :=
  match d.objects.all[service]? with
  | some ⟨.service (.tcp n classid), true, false⟩ => some (n, classid)
  | some ⟨.service (.mgt n), true, false⟩ => some (n, ClassId.first)
  | _ => none

/-- `tcp_listener`, for a connection to a service. The `n` of a `socketdata` is the node
it lies in: `net.c` sets it before it connects the signal. -/
def tcpListener (d : Daemon) (service : Handle) : Except Fault Daemon :=
  match d.listening service with
  | none => .ok d
  | some (n, classid) =>
      let out := d.conns.length + 1
      if ((d.nodes n).tcpsockets classid).socketservice = some service then
        let d := listenRegister d n classid out
        .ok { d with
          conns := d.conns ++ [⟨NodeBuffer.fresh, n, classid, .newCommand, out, true, false⟩] }
      else if (d.nodes n).mgtsocket.socketservice = some service then
        .ok { d with
          conns := d.conns ++ [⟨NodeBuffer.fresh, n, classid, .newMgt, out, true, false⟩] }
      else .error .assertion

/-! ## Events -/

/-- What can happen in the main loop, besides packets. -/
inductive MainEvent where
  /-- `mgt_tick` -/
  | tick (env : NodeId → NetEnv)
  | accept (service : Handle)
  | read (k : Nat) (buf : List UInt8)
  | close (k : Nat)
  | readError (k : Nat)

def mainStep (d : Daemon) : MainEvent → Except Fault Daemon
  | .tick env => mgtTick d env
  | .accept service => tcpListener d service
  | .read k buf => tcpRead d k buf
  | .close k => .ok (tcpClose d k)
  | .readError k => .ok (tcpReadError d k)

/-- What can happen to the daemon. -/
inductive DaemonEvent where
  | main (e : MainEvent)
  /-- `busmgt_inpacket` -/
  | packet (p : UbPacket) (connect : UbnetdConnect)
  /-- The writer thread takes a packet from the queue. -/
  | take

def daemonStep (d : Daemon) : DaemonEvent → Except Fault Daemon
  | .main e => mainStep d e
  | .packet p connect => busmgtInpacket d p connect
  | .take => .ok { d with packetOut := d.packetOut.tail }

end Ubd
