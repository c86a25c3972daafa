import Ubd.Lib.Delimited
import Ubd.Lib.Registry
import Ubd.Lib.Runs
import Ubd.Message

/-!
# Ubnetd.Handler — `ubnetd.c`, and what `interface.c` sends it

ubnetd puts addresses on an interface and takes them off it, for anyone who connects to it. Each
connection has a thread of its own, `connection_handler`, and the threads take turns at every
system call. `Ubnetd.step` interleaves them with their clients. The command `ip addr` is the
registry `R` of `Lib.Registry`, with the addresses on the interface as its keys.
-/

namespace Ubd

open Delimited Registries Runs

/-! ## Requests -/

/-- The 16 bytes of a `GInetAddress`. -/
abbrev Inet6 := Vector UInt8 16

/-- The first byte of a request: `'A'` or `'D'`. -/
def opByte : Op → UInt8
  | .add => 0x41
  | .del => 0x44

/-- What `interface_createAddress` and `interface_removeAddress` send, in two pieces. -/
def interfaceRequest (op : Op) (addr : Inet6) : List (List UInt8) := [[opByte op], addr.toList]

/-- The length of a request, `sizeof(buf)` of `connection_handler`. -/
def requestLen : Nat := 17

/-- `g_inet_address_new_from_bytes(buf+1, G_SOCKET_FAMILY_IPV6)` -/
def inetAddressNewFromBytes (bytes : List UInt8) : Inet6 := Vector.ofFn fun i => bytes.getD i 0

/-- What `connection_handler` takes a buffer for. -/
def requestOf (buf : List UInt8) : Option (Op × Inet6) :=
  match buf with
  | [] => none
  | cmd :: addr =>
      if buf.length ≠ requestLen ∨ (cmd ≠ opByte .add ∧ cmd ≠ opByte .del) then none
      else some (if cmd = opByte .add then .add else .del, inetAddressNewFromBytes addr)

/-- The request at the beginning of a stream. -/
def requestDecode (l : List UInt8) : Option ((Op × Inet6) × List UInt8) :=
  (requestOf (l.take requestLen)).map fun r => (r, l.drop requestLen)

theorem requestOf_length {buf : List UInt8} {r : Op × Inet6} (h : requestOf buf = some r) :
    buf.length = requestLen := by
  unfold requestOf at h
  split at h
  · cases h
  · split at h
    · cases h
    · rename_i hvalid
      exact not_not.mp fun hlen => hvalid (.inl hlen)

theorem inetAddressNewFromBytes_toList (addr : Inet6) :
    inetAddressNewFromBytes addr.toList = addr := by
  ext i hi
  simp [inetAddressNewFromBytes]

theorem requestOf_interfaceRequest (op : Op) (addr : Inet6) :
    requestOf (interfaceRequest op addr).flatten = some (op, addr) := by
  show requestOf (opByte op :: (addr.toList ++ [])) = some (op, addr)
  rw [List.append_nil]
  unfold requestOf
  dsimp only
  have hlen : (opByte op :: addr.toList).length = requestLen := by
    rw [List.length_cons, Vector.length_toList]
    rfl
  rw [if_neg, inetAddressNewFromBytes_toList]
  · cases op <;> rfl
  · rintro (hbad | ⟨hadd, hdel⟩)
    · exact hbad hlen
    · cases op
      · exact hadd rfl
      · exact hdel rfl

/-- **The requests as a format**: `connection_handler` reads what `interface.c` has sent. -/
def requestFormat : Format (Op × Inet6) UInt8 where
  encode r := (interfaceRequest r.1 r.2).flatten
  decode := requestDecode
  decode_encode := by
    rintro ⟨op, addr⟩
    have hlen := requestOf_length (requestOf_interfaceRequest op addr)
    unfold requestDecode
    rw [List.take_of_length_le hlen.le, List.drop_of_length_le hlen.le,
      requestOf_interfaceRequest]
    rfl
  decode_append := by
    intro l r rest tail h
    obtain ⟨q, hq, hr⟩ := Option.map_eq_some_iff.mp h
    have hlen : requestLen ≤ l.length := by
      have htake := requestOf_length hq
      rw [List.length_take] at htake
      omega
    unfold requestDecode
    rw [List.take_append_of_le_length hlen, List.drop_append_of_le_length hlen, hq]
    cases hr
    rfl
  decode_shorter := by
    intro l r rest h
    obtain ⟨q, hq, hr⟩ := Option.map_eq_some_iff.mp h
    have htake := requestOf_length hq
    rw [List.length_take] at htake
    cases hr
    rw [List.length_drop]
    unfold requestLen at htake ⊢
    omega

/-! ## Threads -/

/-- Where `connection_handler` is. -/
inductive HandlerState where
  /-- `receive`, with what it has in its buffer. -/
  | receiving (buf : List UInt8)
  /-- `ubnetd_createInterface`, before `ip addr del` -/
  | creating (a : Inet6)
  /-- `ubnetd_createInterface`, before `ip addr add` -/
  | adding (a : Inet6)
  /-- `ubnetd_removeAddress` -/
  | removing (a : Inet6)
  /-- It has the return value, and sends its answer. -/
  | answering (rc : Int)
  /-- It waits for the client to go. -/
  | waiting
  | closed
  deriving DecidableEq

/-- A connection: what is on its way to ubnetd, and the thread. `said` and `broken` are not in
the code. -/
structure UbnetdConn where
  transit : List UInt8
  /-- The client sends no more. -/
  ended : Bool
  state : HandlerState
  answer : List UInt8
  /-- All that the client has sent. -/
  said : List UInt8
  /-- A `g_socket_receive` of the request has failed. -/
  broken : Bool

def UbnetdConn.fresh : UbnetdConn := ⟨[], false, .receiving [], [], [], false⟩

/-- The answer to a request: `'A'` or `'N'`. -/
def answerByte (rc : Int) : UInt8 := if rc = 0 then 0x41 else 0x4E

/-- What `connection_handler` does when `receive` has returned. -/
def handleRequest (buf : List UInt8) : HandlerState :=
  match requestOf buf with
  | none => .closed
  | some (.add, a) => .creating a
  | some (.del, a) => .removing a

/-- A `g_socket_receive` that returns the first `n + 1` bytes or fewer, or 0 at the end of the
stream. It does not return while the stream is empty. -/
def UbnetdConn.receive (c : UbnetdConn) (n : Nat) : UbnetdConn :=
  match c.state with
  | .receiving buf =>
      if c.transit = [] then
        -- `rc < 1`: `receive` returns 0
        if c.ended then { c with state := .closed } else c
      else
        let got := c.transit.take (min (n + 1) (requestLen - buf.length))
        let c := { c with transit := c.transit.drop got.length }
        if (buf ++ got).length < requestLen then { c with state := .receiving (buf ++ got) }
        else { c with state := handleRequest (buf ++ got) }
  | .waiting => if c.transit = [] ∧ c.ended = false then c else { c with state := .closed }
  | _ => c

/-- A `g_socket_receive` that fails. -/
def UbnetdConn.breakOff (c : UbnetdConn) : UbnetdConn :=
  match c.state with
  | .receiving _ => { c with state := .closed, broken := true }
  | .waiting => { c with state := .closed }
  | _ => c

/-- `system` is called next, with this command and this address. -/
def HandlerState.command : HandlerState → Option (Op × Inet6)
  | .creating a => some (.del, a)
  | .adding a => some (.add, a)
  | .removing a => some (.del, a)
  | _ => none

/-- `system` has returned. `ubnetd_createInterface` does not look at the first value. -/
def HandlerState.returned (rc : Int) : HandlerState → HandlerState
  | .creating a => .adding a
  | .adding _ => .answering rc
  | .removing _ => .answering rc
  | st => st

/-- ubnetd, and the interface. `log` has the commands in the order in which they ran, each with
the connection that it ran for; it is not in the code. -/
structure Ubnetd (σ : Type) where
  interface : σ
  conns : List UbnetdConn
  log : List (Nat × Entry Inet6)

def Ubnetd.init {σ : Type} (i : σ) : Ubnetd σ := ⟨i, [], []⟩

/-! ## Events -/

inductive HandlerEvent where
  /-- `main` accepts a connection and starts its thread. -/
  | accept
  /-- The client sends. -/
  | send (k : Nat) (bytes : List UInt8)
  /-- The client closes its end. -/
  | shut (k : Nat)
  | receive (k n : Nat)
  | breakOff (k : Nat)
  | system (k : Nat)
  /-- `g_socket_send` of the answer -/
  | answer (k : Nat)

section Steps

variable {σ : Type}

/-- Change one connection. -/
def Ubnetd.onConn (s : Ubnetd σ) (k : Nat) (f : UbnetdConn → UbnetdConn) : Ubnetd σ :=
  match s.conns[k]? with
  | some c => { s with conns := s.conns.set k (f c) }
  | none => s

/-- The next `system` of a thread. -/
def Ubnetd.system (s : Ubnetd σ) (R : Registry σ Inet6) (k : Nat) : Ubnetd σ :=
  match s.conns[k]? with
  | some c =>
      match c.state.command with
      | some (op, a) =>
          let (i, rc) := R.run s.interface op a
          { interface := i
            conns := s.conns.set k { c with state := c.state.returned rc }
            log := s.log ++ [(k, ⟨op, a, rc⟩)] }
      | none => s
  | none => s

/-- Send the answer. -/
def UbnetdConn.sendAnswer (c : UbnetdConn) : UbnetdConn :=
  match c.state with
  | .answering rc => { c with answer := c.answer ++ [answerByte rc], state := .waiting }
  | _ => c

def Ubnetd.step (R : Registry σ Inet6) (s : Ubnetd σ) : HandlerEvent → Except Fault (Ubnetd σ)
  | .accept => .ok { s with conns := s.conns ++ [.fresh] }
  | .send k bytes => .ok <| s.onConn k fun c =>
      if c.ended then c else { c with transit := c.transit ++ bytes, said := c.said ++ bytes }
  | .shut k => .ok <| s.onConn k fun c => { c with ended := true }
  | .receive k n => .ok (s.onConn k (·.receive n))
  | .breakOff k => .ok (s.onConn k (·.breakOff))
  | .system k => .ok (s.system R k)
  | .answer k => .ok (s.onConn k (·.sendAnswer))

end Steps

end Ubd
