import Ubd.Message
import Ubd.Tcp.Parse
import Mathlib.Logic.Function.Basic

/-!
# Daemon.State — the data the daemon keeps

The node table of `nodes.h`, the objects the daemon has from GLib, the queue of
outgoing packets and the directory client's table. `struct node` is split in
two: `NodeNet` holds the fields that `net.c` and `interface.c` write, so that
the types say what those files leave alone.

Fields that no modelled function reads (`poll`, `tpoll`, `ttimeout`) are left
out.
-/

namespace Ubd

/-- `MAX_NODE` -/
def maxNode : Nat := 256

/-- `MAX_ID` -/
def maxId : Nat := 100

/-- `sizeof(n->classes)`, also the number of `tcpsockets`, `udpsockets` and `groups`. -/
def maxClass : Nat := 32

/-- A `struct node *` that is not `NULL`: nodes only live in the table. -/
abbrev NodeId := Fin maxNode

abbrev ClassId := Fin maxClass

/-- Slot 0. -/
def ClassId.first : ClassId := ⟨0, by decide⟩

/-- A C string, without its NUL. -/
abbrev CString := List UInt8

/-- A `gpointer` that is handed through. -/
abbrev Gpointer := Nat

/-! ## GLib objects -/

abbrev Handle := Nat

/-- A `struct socketdata`, as the `user_data` of a source or a service. -/
inductive SocketRef where
  | udp (n : NodeId) (classid : ClassId)
  | tcp (n : NodeId) (classid : ClassId)
  | mgt (n : NodeId)
  deriving DecidableEq, Repr

/-- The node a `struct socketdata` lies in. -/
def SocketRef.node : SocketRef → NodeId
  | .udp n _ => n
  | .tcp n _ => n
  | .mgt n => n

inductive ObjectKind where
  | source (sd : SocketRef)
  | socket
  | service (sd : SocketRef)
  deriving DecidableEq, Repr

structure Object where
  kind : ObjectKind
  isOpen : Bool
  released : Bool

/-- All objects ever made, by handle. `misused` collects the handles that were used
after their release; what GLib does then is not modelled further. -/
structure Objects where
  all : List Object
  misused : List Handle

def Objects.empty : Objects := ⟨[], []⟩

def Objects.create (o : Objects) (kind : ObjectKind) : Objects × Handle :=
  ({ o with all := o.all ++ [⟨kind, true, false⟩] }, o.all.length)

/-- Use an object. GLib warns about `NULL` and does nothing. -/
def Objects.use (o : Objects) (f : Object → Object) : Option Handle → Objects
  | none => o
  | some h =>
      match o.all[h]? with
      | none => o
      | some x =>
          if x.released then { o with misused := o.misused ++ [h] }
          else { o with all := o.all.set h (f x) }

/-- `g_source_destroy`, `g_socket_close`, `g_socket_listener_close` -/
def Objects.close (o : Objects) (h : Option Handle) : Objects :=
  o.use (fun x => { x with isOpen := false }) h

/-- `g_object_unref` or `g_source_unref` of the last reference: GLib also closes. -/
def Objects.unref (o : Objects) (h : Option Handle) : Objects :=
  o.use (fun x => { x with isOpen := false, released := true }) h

/-! ## Nodes -/

/-- A `GInetAddress`. -/
inductive NetAddr where
  /-- `g_inet_address_new_from_string` -/
  | fromString (s : CString)
  /-- `address6db_getFreeAddr`: the base address with a digest of the id. -/
  | freeAddr (id : CString)
  deriving DecidableEq, Repr

structure SocketAddress where
  addr : Option NetAddr
  port : Nat
  deriving DecidableEq, Repr

/-- `struct socketdata` -/
structure SocketData where
  n : Option NodeId
  source : Option Handle
  socket : Option Handle
  socketservice : Option Handle
  socketaddress : Option SocketAddress
  classid : Nat
  listeners : List Gpointer

def SocketData.zero : SocketData := ⟨none, none, none, none, none, 0, []⟩

/-- The part of `struct node` that belongs to the network side. -/
structure NodeNet where
  netadr : Option NetAddr
  netup : Bool
  ubnetd : Option Handle
  udpsockets : ClassId → SocketData
  tcpsockets : ClassId → SocketData
  mgtsocket : SocketData

def NodeNet.zero : NodeNet where
  netadr := none
  netup := false
  ubnetd := none
  udpsockets := fun _ => .zero
  tcpsockets := fun _ => .zero
  mgtsocket := .zero

/-- `enum nodestate` -/
inductive NodeState where
  | timeout
  | discover
  | identify
  | normal
  deriving DecidableEq, Repr

/-- `enum type` -/
inductive NodeType where
  | none
  | bridge
  | multicast
  | node
  deriving DecidableEq, Repr

/-- A `UBSTREAM_CALLBACK`. The daemon only ever passes `tcp_reply`. -/
inductive Callback where
  | tcpReply
  | other (address : Nat)
  deriving DecidableEq, Repr

/-- `struct node` -/
structure Node extends NodeNet where
  type : NodeType
  id : CString
  name : CString
  version : Vector UInt8 maxId
  groups : ClassId → Int
  classes : ClassId → UInt8
  active : Bool
  free : Bool
  state : NodeState
  timeout : Int
  busadr : Int
  busup : Bool
  currentcallback : Option Callback
  currentdata : Gpointer
  nextcallback : Option Callback
  nextdata : Gpointer

/-- A node as the loader leaves it: all bytes 0. -/
def Node.zero : Node where
  toNodeNet := .zero
  type := .none
  id := []
  name := []
  version := Vector.replicate maxId 0
  groups := fun _ => 0
  classes := fun _ => 0
  active := false
  free := false
  state := .timeout
  timeout := 0
  busadr := 0
  busup := false
  currentcallback := none
  currentdata := 0
  nextcallback := none
  nextdata := 0

/-- A node without its network side. -/
def Node.bus (n : Node) : Node := { n with toNodeNet := .zero }

/-! ## Outgoing packets -/

/-- A packet on its way to `packet_out`: `struct ubpacket` with its `len` bytes of data.
`busmgt.c` leaves the class of its packets unset. -/
structure OutPacket where
  dest : UInt8
  flags : UInt8
  cls : Option UInt8
  data : List UInt8
  deriving DecidableEq, Repr

/-- `struct messagestream` -/
structure MessageStream where
  msg : OutPacket
  callback : Option Callback
  data : Gpointer
  n : Option NodeId
  deriving DecidableEq, Repr

/-! ## The directory client -/

/-- The commands of the directory client, as the fields of their JSON objects. -/
inductive DirMessage where
  | updateService (serviceType : String) (url : Option NetAddr) (id name : CString) (port : Nat)
  | deleteService (serviceType : String) (id : CString)
  deriving DecidableEq, Repr

/-- What the directory client sent, and its table `services`, keyed by `tcpsockets`
slot. -/
structure DirClient where
  sent : List DirMessage
  services : List ((NodeId × ClassId) × DirMessage)

/-! ## The daemon -/

/-- The callback of a `nodebuffer`. -/
inductive CommandKind where
  /-- `tcp_queueNewCommand` -/
  | newCommand
  /-- `tcp_queueNewMgt` -/
  | newMgt
  deriving DecidableEq, Repr

/-- A `struct nodebuffer` of a class or management connection. Control connections,
where `n` is `NULL`, have a parser of their own and reach nothing modelled here. -/
structure Connection where
  nb : NodeBuffer
  n : NodeId
  classid : ClassId
  callback : CommandKind
  out : Gpointer
  /-- A `g_input_stream_read_async` is pending. -/
  reading : Bool
  released : Bool

structure Daemon where
  nodes : NodeId → Node
  objects : Objects
  dirclient : DirClient
  packetOut : List MessageStream
  conns : List Connection
  /-- What was written to output streams, in order. -/
  written : List (Gpointer × List UInt8)
  /-- `config.nodetimeout` -/
  nodetimeout : Int

/-- Write to a node. -/
def Daemon.setNode (d : Daemon) (n : NodeId) (f : Node → Node) : Daemon :=
  { d with nodes := Function.update d.nodes n (f (d.nodes n)) }

section SetNode

variable (d : Daemon) (n : NodeId) (f : Node → Node)

@[simp] theorem setNode_self : (d.setNode n f).nodes n = f (d.nodes n) := by
  simp [Daemon.setNode]

theorem setNode_of_ne {m : NodeId} (h : m ≠ n) : (d.setNode n f).nodes m = d.nodes m := by
  simp [Daemon.setNode, h]

@[simp] theorem setNode_objects : (d.setNode n f).objects = d.objects := rfl

@[simp] theorem setNode_dirclient : (d.setNode n f).dirclient = d.dirclient := rfl

@[simp] theorem setNode_packetOut : (d.setNode n f).packetOut = d.packetOut := rfl

@[simp] theorem setNode_conns : (d.setNode n f).conns = d.conns := rfl

@[simp] theorem setNode_nodetimeout : (d.setNode n f).nodetimeout = d.nodetimeout := rfl

end SetNode

end Ubd
