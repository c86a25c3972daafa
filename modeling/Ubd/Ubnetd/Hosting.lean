import Ubd.Ubnetd.Addresses

/-!
# Ubnetd.Hosting — the daemon and ubnetd

When a node is registered, the daemon has its address taken off the interface and put there anew,
and when its time has run out it has it taken off. `interface_removeAddress` waits for the answer;
`interface_createAddress` does not, and a tick reads the answer later on. `HostSetup.step` lets the
threads of ubnetd take turns with the main loop of the daemon, also while it waits.
-/

namespace Ubd

open Registries Runs

/-! ## `address6db.c` -/

/-- `address6db_getFreeAddr`: the second half of the address is the beginning of the MD5 digest
of the id. -/
def address6dbGetFreeAddr (baseaddress : Inet6) (md5 : List UInt8 → Vector UInt8 16)
    (id : CString) : Inet6 :=
  Vector.ofFn fun i => if i.val < 8 then baseaddress[i] else (md5 (cstr id))[i.val - 8]

/-! ## The requests of the daemon -/

/-- The body of the loop of `mgt_checkTimeout` calls `address6_removeAddress`. -/
def timesOut (d : Daemon) (n : NodeId) : Bool := (d.nodes n).TimesOut

/-- The loop of `mgt_checkTimeout` at `i`, with these calls. -/
def mgtCheckNodeCalls (q : Daemon × List NodeId) (i : Nat) : Except Fault (Daemon × List NodeId) :=
  match nodesGetNode q.1 i with
  | none => .error .nullPointer
  | some n => logged mgtCheckNode timesOut q n

/-- `mgt_checkTimeout`, with the nodes for which it calls `address6_removeAddress`. -/
def mgtCheckTimeoutCalls (d : Daemon) : Except Fault (Daemon × List NodeId) :=
  (List.range (nodesGetNodeCount d)).foldlM mgtCheckNodeCalls (d, [])

/-- What `interface.c` is called for: `address6_createAddress` has the address taken away
first. -/
def interfaceCalls (d : Daemon) : DaemonEvent → List (Op × NodeId)
  | .packet p _ =>
      match registering d p with
      | some x => [(.del, x), (.add, x)]
      | none => []
  | .main (.tick _) =>
      match mgtCheckTimeoutCalls d with
      | .ok (_, ns) => ns.map fun n => (.del, n)
      | .error _ => []
  | _ => []

/-! ## Both programs -/

/-- What they run on: `ip addr`, the base address of the configuration, MD5, and
`g_inet_address_new_from_string` for the addresses in the configuration. -/
structure HostSetup (σ : Type) where
  ipAddr : Registry σ Inet6
  baseaddress : Inet6
  md5 : List UInt8 → Vector UInt8 16
  fromString : CString → Inet6

/-- Where the main loop is while it deals with an event. -/
structure Doing where
  event : DaemonEvent
  /-- What it makes of the daemon. -/
  next : Daemon
  /-- What `interface.c` is still to be called for. -/
  calls : List (Op × NodeId)
  /-- The connection on which `interface_removeAddress` waits for an answer. -/
  waits : Option Nat

/-- The daemon and ubnetd. `made` has what each connection was opened for; it is not in the
code. -/
structure Hosting (σ : Type) where
  daemon : Daemon
  ubnetd : Ubnetd σ
  doing : Option Doing
  made : List (Op × NodeId)

def Hosting.init {σ : Type} (d : Daemon) (i : σ) : Hosting σ := ⟨d, .init i, none, []⟩

inductive HostEvent where
  /-- A thread of ubnetd takes its turn, or the daemon closes a connection. -/
  | ubnetd (e : HandlerEvent)
  /-- The main loop turns to an event. The writer thread waits until it is through. -/
  | begins (e : DaemonEvent)
  /-- `interface.c` connects and sends its request. -/
  | calls
  /-- `g_socket_receive` in `interface_removeAddress` returns. -/
  | told
  /-- The main loop is through with the event. -/
  | ends

section Steps

variable {σ : Type} (w : HostSetup σ)

def HostSetup.inet : NetAddr → Inet6
  | .freeAddr id => address6dbGetFreeAddr w.baseaddress w.md5 id
  | .fromString s => w.fromString s

/-- The bytes of `n->netadr`. -/
def HostSetup.address (d : Daemon) (n : NodeId) : Option Inet6 := (d.nodes n).netadr.map w.inet

/-- Connect to ubnetd, and send a request. -/
def connecting (k : Nat) (op : Op) (a : Inet6) : List HandlerEvent :=
  .accept :: (interfaceRequest op a).map (.send k)

/-- ubnetd has answered, or has closed the connection. -/
def UbnetdConn.readable (c : UbnetdConn) : Bool := !c.answer.isEmpty || c.state = .closed

def HostSetup.step (s : Hosting σ) : HostEvent → Except Fault (Hosting σ)
  | .ubnetd e => do
      let ubnetd ← s.ubnetd.step w.ipAddr e
      return { s with ubnetd := ubnetd }
  | .begins e =>
      match s.doing with
      | some _ => .ok s
      | none => do
          let next ← daemonStep s.daemon e
          return { s with doing := some ⟨e, next, interfaceCalls s.daemon e, none⟩ }
  | .calls =>
      match s.doing with
      | some ⟨e, next, (op, x) :: calls, none⟩ =>
          match w.address next x with
          | none => .error .nullPointer
          | some a => do
              let k := s.ubnetd.conns.length
              let ubnetd ← (connecting k op a).foldlM (Ubnetd.step w.ipAddr) s.ubnetd
              return { s with
                ubnetd := ubnetd
                doing := some ⟨e, next, calls, if op = .del then some k else none⟩
                made := s.made ++ [(op, x)] }
      | _ => .ok s
  | .told =>
      match s.doing with
      | some ⟨e, next, calls, some k⟩ =>
          if (s.ubnetd.conns[k]?).any UbnetdConn.readable then
            .ok { s with doing := some ⟨e, next, calls, none⟩ }
          else .ok s
      | _ => .ok s
  | .ends =>
      match s.doing with
      | some ⟨_, next, [], none⟩ => .ok { s with daemon := next, doing := none }
      | _ => .ok s

end Steps

/-! ## What may happen -/

/-- A tick, with what the nodes meet in it. -/
def Doing.ticking (q : Doing) : Option (NodeId → NetEnv) :=
  match q.event with
  | .main (.tick env) => some env
  | _ => none

section Guards

variable {σ : Type}

/-- What the connections were opened for, and how far they are. -/
def Hosting.requests (s : Hosting σ) : List ((Op × NodeId) × UbnetdConn) :=
  s.made.zip s.ubnetd.conns

/-- The connection that the latest `interface_createAddress` of the node has opened. -/
def Hosting.latest (s : Hosting σ) (n : NodeId) : Option UbnetdConn :=
  (s.requests.reverse.find? (·.1 = (Op.add, n))).map Prod.snd

/-- A tick reads nothing from ubnetd but what ubnetd has sent. -/
def Hosting.Reads (s : Hosting σ) (env : NodeId → NetEnv) : Prop :=
  ∀ n, (env n).ubnetd = none ∨ (env n).ubnetd = (s.latest n).bind (·.answer.head?)

/-- The commands of the thread have run. -/
def HandlerState.isOver : HandlerState → Bool
  | .answering _ | .waiting | .closed => true
  | _ => false

/-- The commands of all these requests have run. -/
def Hosting.Served (s : Hosting σ) (op : Op) (n : NodeId) : Prop :=
  ∀ q ∈ s.requests, q.1 = (op, n) → q.2.state.isOver = true

/-- ubnetd is there: connecting to it works, and connections hold. Nobody else asks it for
anything. -/
def Hosting.Connected (s : Hosting σ) : HostEvent → Prop
  | .ubnetd (.accept) => False
  | .ubnetd (.send ..) => False
  | .ubnetd (.breakOff _) => False
  | .begins (.packet _ connect) => connect = .connected
  | .ends => ∀ env ∈ s.doing.bind Doing.ticking, s.Reads env
  | _ => True

/-- No request is made for a node as long as a command of an earlier one to add its address is
still to run. -/
def Hosting.Unhurried (s : Hosting σ) : HostEvent → Prop
  | .calls => ∀ q ∈ s.doing.bind (·.calls.head?), s.Served .add q.2
  | _ => True

instance (s : Hosting σ) (op : Op) (n : NodeId) : Decidable (s.Served op n) :=
  inferInstanceAs (Decidable (∀ _ ∈ _, _))

instance (s : Hosting σ) (env : NodeId → NetEnv) : Decidable (s.Reads env) :=
  inferInstanceAs (Decidable (∀ _ : Fin _, _ ∨ _))

instance (s : Hosting σ) (e : HostEvent) : Decidable (s.Connected e) :=
  match e with
  | .ubnetd (.accept) => .isFalse id
  | .ubnetd (.send ..) => .isFalse id
  | .ubnetd (.breakOff _) => .isFalse id
  | .ubnetd (.shut _) => .isTrue trivial
  | .ubnetd (.receive ..) => .isTrue trivial
  | .ubnetd (.system _) => .isTrue trivial
  | .ubnetd (.answer _) => .isTrue trivial
  | .begins (.packet _ connect) => inferInstanceAs (Decidable (connect = .connected))
  | .begins (.main _) => .isTrue trivial
  | .begins (.take) => .isTrue trivial
  | .calls => .isTrue trivial
  | .told => .isTrue trivial
  | .ends => inferInstanceAs (Decidable (∀ _ ∈ s.doing.bind Doing.ticking, _))

instance (s : Hosting σ) (e : HostEvent) : Decidable (s.Unhurried e) :=
  match e with
  | .calls => inferInstanceAs (Decidable (∀ _ ∈ s.doing.bind (·.calls.head?), _))
  | .ubnetd _ => .isTrue trivial
  | .begins _ => .isTrue trivial
  | .told => .isTrue trivial
  | .ends => .isTrue trivial

end Guards

end Ubd
