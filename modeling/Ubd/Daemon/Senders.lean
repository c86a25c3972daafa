import Ubd.Daemon.Groups
import Ubd.Daemon.Plugged
import Ubd.Debug

/-!
# Daemon.Senders — `bus.c` and who calls it

Input from the network comes in buffers of 100 bytes, and a packet has room for 45 of them.
`busmgt_streamData` looks at the length before it copies, the senders of `bus.c` do not. A
datagram is logged by `debug_hexdump` before it is sent. `input_handled_iff` says which inputs are
queued whole, or dropped, and which are not.
-/

namespace Ubd

open Runs

/-! ## `bus.c` -/

/-- What all senders of `bus.c` end with. -/
def busSend (d : Daemon) (n : Option NodeId) (dest cls flags : UInt8) (buf : List UInt8)
    (callback : Option Callback) (data : Gpointer) : Except Fault Daemon :=
  -- `memcpy(packet.data, buf, len)`
  if buf.length ≤ ubPacketData then
    packetStreamPacket d n ⟨dest, flags, some cls, buf⟩ callback data
  else .error .outOfBounds

/-- `bus_sendToClass` -/
def busSendToClass (d : Daemon) (cls : Nat) (buf : List UInt8) : Except Fault Daemon :=
  busSend d none 0xFF (UInt8.ofNat cls) ubPacketNoack buf none 0

/-- `bus_sendToID` -/
def busSendToID (d : Daemon) (id : CString) (buf : List UInt8) (classid : ClassId)
    (reply : Bool) : Except Fault Daemon :=
  match nodesGetNodeById d id with
  -- `ub_assert(n != NULL)`
  | none => .error .assertion
  | some n =>
      busSend d none (UInt8.ofInt (d.nodes n).busadr) ((d.nodes n).classes classid)
        (if reply then 0 else ubPacketNoack) buf none 0

/-- `bus_sendToAddress` -/
def busSendToAddress (d : Daemon) (dest : Int) (buf : List UInt8) (cls : UInt8) (reply : Bool) :
    Except Fault Daemon :=
  busSend d none (UInt8.ofInt dest) cls (if reply then 0 else ubPacketNoack) buf none 0

/-- `bus_streamToID` sends in the same way. -/
theorem busStreamToID_eq (d : Daemon) {id : CString} {n : NodeId}
    (hn : nodesGetNodeById d id = some n) (buf : List UInt8) (classid : ClassId)
    (callback : Option Callback) (data : Gpointer) :
    busStreamToID d id buf classid callback data
      = busSend d (some n) (UInt8.ofInt (d.nodes n).busadr) ((d.nodes n).classes classid) 0 buf
          callback data := by
  unfold busStreamToID busSend
  simp only [hn]

/-! ## Datagrams -/

/-- `sizeof(buf)` in `udp_read`, `groups_read` and `broadcast_read` -/
def maxDatagram : Nat := 100

/-- `udp_read`, when the socket of this source is readable; `mem` is what `malloc` returns to
`debug_hexdump`. The `n` of a `socketdata` is the node it lies in, and its `classid` the slot. -/
def udpRead (d : Daemon) (source : Handle) (mem : Option (List UInt8)) (datagram : List UInt8) :
    Except Fault Daemon :=
  let buf := datagram.take maxDatagram
  match d.objects.all[source]? with
  | some ⟨.source (.udp n classid), true, false⟩ =>
      if buf ≠ [] then do
        let _ ← debugHexdump mem buf
        busSendToID d (d.nodes n).id buf classid false
      else .ok d
  | _ => .ok d

/-- `groups_read`, when the socket of this group is readable. -/
def groupsRead (d : Daemon) (g : MulticastGroup) (mem : Option (List UInt8))
    (datagram : List UInt8) : Except Fault Daemon :=
  let buf := datagram.take maxDatagram
  if buf ≠ [] then do
    let _ ← debugHexdump mem buf
    busSendToAddress d g.busadr buf g.cls false
  else .ok d

/-- `broadcast_read`, when the socket of this service is readable. -/
def broadcastRead (d : Daemon) (service : Nat) (mem : Option (List UInt8))
    (datagram : List UInt8) : Except Fault Daemon :=
  let buf := datagram.take maxDatagram
  if buf ≠ [] then do
    let _ ← debugHexdump mem buf
    busSendToClass d service buf
  else .ok d

/-! ## Inputs -/

/-- What the network can bring, a datagram with the memory for its dump. -/
inductive NetInput where
  | udp (source : Handle) (mem : Option (List UInt8)) (datagram : List UInt8)
  | group (g : MulticastGroup) (mem : Option (List UInt8)) (datagram : List UInt8)
  | broadcast (service : Nat) (mem : Option (List UInt8)) (datagram : List UInt8)
  /-- A command that `tcp_parse` hands on. -/
  | command (c : Connection) (cmd : List UInt8)

def NetInput.data : NetInput → List UInt8
  | .udp _ _ datagram => datagram
  | .group _ _ datagram => datagram
  | .broadcast _ _ datagram => datagram
  | .command _ cmd => cmd

def netReceive (d : Daemon) : NetInput → Except Fault Daemon
  | .udp source mem datagram => udpRead d source mem datagram
  | .group g mem datagram => groupsRead d g mem datagram
  | .broadcast service mem datagram => broadcastRead d service mem datagram
  | .command c cmd => tcpCallback d c cmd

/-- A datagram that fills no more than the buffer, and what `malloc(len*5)` returns for it. -/
def Receivable (mem : Option (List UInt8)) (datagram : List UInt8) : Prop :=
  (1 ≤ datagram.length ∧ datagram.length ≤ maxDatagram)
    ∧ ∀ buf, mem = some buf → buf.length = datagram.length * 5

/-- A datagram on a socket that is open, or a command that fits into the buffer of a
connection. -/
def NetInput.Possible (d : Daemon) : NetInput → Prop
  | .udp source mem datagram =>
      (∃ n classid, d.objects.all[source]? = some ⟨.source (.udp n classid), true, false⟩)
        ∧ Receivable mem datagram
  | .group _ mem datagram => Receivable mem datagram
  | .broadcast _ mem datagram => Receivable mem datagram
  | .command c cmd => c ∈ d.conns ∧ cmd.length ≤ maxBuf

/-- The input is dropped, or queued whole in one packet. -/
def HandledWhole (d : Daemon) (i : NetInput) : Prop :=
  ∃ d', netReceive d i = .ok d'
    ∧ (d'.packetOut = d.packetOut
      ∨ ∃ m, d'.packetOut = d.packetOut ++ [m] ∧ m.msg.data = i.data)

/-- There is no memory for a dump of the datagram, or one of its bytes is printed as it is. -/
def Dumpable (mem : Option (List UInt8)) (datagram : List UInt8) : Prop :=
  mem = none ∨ ∃ b ∈ datagram, isPrinted b = true

def NetInput.Dumps : NetInput → Prop
  | .udp _ mem datagram => Dumpable mem datagram
  | .group _ mem datagram => Dumpable mem datagram
  | .broadcast _ mem datagram => Dumpable mem datagram
  | .command .. => True

/-- The input fits into a packet, or comes from a management connection, and its dump stays in
its memory. -/
def NetInput.Fits (i : NetInput) : Prop :=
  (i.data.length ≤ ubPacketData ∨ ∃ c cmd, i = .command c cmd ∧ c.callback = .newMgt) ∧ i.Dumps

/-! ## The exact condition -/

section Sending

variable {d : Daemon} {n : Option NodeId} {dest cls flags : UInt8} {buf : List UInt8}
  {callback : Option Callback} {data : Gpointer}

/-- What fits is queued. -/
theorem busSend_fits (h : buf.length ≤ ubPacketData) :
    ∃ d' m, busSend d n dest cls flags buf callback data = .ok d'
      ∧ d'.packetOut = d.packetOut ++ [m] ∧ m.msg.data = buf := by
  have hroom : buf.length + ubPacketHeader ≤ ubPacketlen := Nat.add_le_of_le_sub (by decide) h
  unfold busSend packetStreamPacket
  rw [if_pos h, if_pos hroom]
  exact ⟨_, _, rfl, rfl, rfl⟩

/-- Nothing else is even copied. -/
theorem busSend_overrun (h : ¬ buf.length ≤ ubPacketData) :
    busSend d n dest cls flags buf callback data = .error .outOfBounds := if_neg h

theorem handledWhole_busSend {i : NetInput} (hdata : i.data = buf)
    (hsend : netReceive d i = busSend d n dest cls flags buf callback data) :
    HandledWhole d i ↔ buf.length ≤ ubPacketData := by
  unfold HandledWhole
  rw [hsend]
  constructor
  · rintro ⟨d', hrun, -⟩
    by_contra hlong
    rw [busSend_overrun hlong] at hrun
    cases hrun
  · intro hfits
    obtain ⟨d', m, hrun, hqueue, hm⟩ := busSend_fits hfits
    exact ⟨d', hrun, .inr ⟨m, hqueue, hm.trans hdata.symm⟩⟩

/-- A dump that stays in its memory changes nothing. -/
theorem debugHexdump_ok_iff {mem : Option (List UInt8)} (h : Receivable mem buf) :
    (∃ text, debugHexdump mem buf = .ok text) ↔ Dumpable mem buf := by
  obtain ⟨⟨hlo, hhi⟩, hmem⟩ := h
  have hmax : maxDatagram = 100 := rfl
  cases mem with
  | none => exact iff_of_true ⟨none, rfl⟩ (.inl rfl)
  | some m =>
      rw [hexdump_fits_iff m buf hlo (by omega) (hmem m rfl)]
      exact (or_iff_right (Option.some_ne_none m)).symm

/-- A datagram is dumped before it is sent. -/
theorem handledWhole_datagram {i : NetInput} {mem : Option (List UInt8)}
    (h : Receivable mem buf) (hdata : i.data = buf)
    (hrun : netReceive d i = (do
      let _ ← debugHexdump mem buf
      busSend d n dest cls flags buf callback data)) :
    HandledWhole d i ↔ buf.length ≤ ubPacketData ∧ Dumpable mem buf := by
  rw [← debugHexdump_ok_iff h]
  cases hdump : debugHexdump mem buf with
  | error e =>
      rw [hdump] at hrun
      refine iff_of_false ?_ ?_
      · rintro ⟨d', hd', -⟩
        rw [hrun] at hd'
        cases hd'
      · rintro ⟨-, text, htext⟩
        cases htext
  | ok text =>
      rw [hdump] at hrun
      exact (handledWhole_busSend hdata hrun).trans (and_iff_left ⟨text, rfl⟩).symm

/-- `busmgt_streamData` drops what does not fit, up to the size of the buffers. -/
theorem busmgtStreamData_whole (d : Daemon) (n : NodeId) {buf : List UInt8}
    (h : buf.length ≤ maxBuf) (callback : Option Callback) (data : Gpointer) :
    ∃ d', busmgtStreamData d n buf callback data = .ok d'
      ∧ (d'.packetOut = d.packetOut
        ∨ ∃ m, d'.packetOut = d.packetOut ++ [m] ∧ m.msg.data = buf) := by
  have hmax : maxBuf = 100 := rfl
  have hlen : (UInt8.ofNat buf.length).toNat = buf.length := by
    rw [UInt8.toNat_ofNat']
    omega
  unfold busmgtStreamData
  dsimp only
  rw [hlen]
  by_cases hfits : buf.length ≤ ubPacketData
  · have hroom : buf.length + ubPacketHeader ≤ ubPacketlen := Nat.add_le_of_le_sub (by decide) hfits
    unfold packetStreamPacket
    rw [if_neg (not_lt.mpr hfits), if_pos hfits, if_pos hroom]
    exact ⟨_, rfl, .inr ⟨_, rfl, rfl⟩⟩
  · rw [if_pos (not_le.mp hfits)]
    exact ⟨d, rfl, .inl rfl⟩

end Sending

section Reading

variable {d : Daemon} {mem : Option (List UInt8)} {datagram : List UInt8}

/-- A datagram is read whole. -/
theorem Receivable.take (h : Receivable mem datagram) :
    datagram.take maxDatagram = datagram ∧ datagram ≠ [] :=
  ⟨List.take_of_length_le h.1.2, List.length_pos_iff.mp h.1.1⟩

theorem udpRead_eq (h : Receivable mem datagram) {source : Handle} {n : NodeId} {classid : ClassId}
    (hsource : d.objects.all[source]? = some ⟨.source (.udp n classid), true, false⟩)
    (hid : nodesGetNodeById d (d.nodes n).id = some n) :
    udpRead d source mem datagram = (do
      let _ ← debugHexdump mem datagram
      busSend d none (UInt8.ofInt (d.nodes n).busadr) ((d.nodes n).classes classid)
        ubPacketNoack datagram none 0) := by
  obtain ⟨htake, hne⟩ := h.take
  unfold udpRead
  simp only [hsource, htake]
  rw [if_pos hne]
  unfold busSendToID
  simp only [hid]
  rfl

theorem groupsRead_eq (h : Receivable mem datagram) (g : MulticastGroup) :
    groupsRead d g mem datagram = (do
      let _ ← debugHexdump mem datagram
      busSend d none (UInt8.ofInt g.busadr) g.cls ubPacketNoack datagram none 0) := by
  obtain ⟨htake, hne⟩ := h.take
  unfold groupsRead
  dsimp only
  rw [htake, if_pos hne]
  rfl

theorem broadcastRead_eq (h : Receivable mem datagram) (service : Nat) :
    broadcastRead d service mem datagram = (do
      let _ ← debugHexdump mem datagram
      busSend d none 0xFF (UInt8.ofNat service) ubPacketNoack datagram none 0) := by
  obtain ⟨htake, hne⟩ := h.take
  unfold broadcastRead
  dsimp only
  rw [htake, if_pos hne]
  rfl

end Reading

theorem handledWhole_iff {d : Daemon} (hwired : Wired d) (hsourced : Sourced d) {i : NetInput}
    (hi : i.Possible d) : HandledWhole d i ↔ i.Fits := by
  have hbus : ∀ {i : NetInput}, (∀ c cmd, i = .command c cmd → c.callback = .newCommand) →
      (i.Fits ↔ i.data.length ≤ ubPacketData ∧ i.Dumps) := by
    intro i hnot
    unfold NetInput.Fits
    refine and_congr_left' (or_iff_left ?_)
    rintro ⟨c, cmd, heq, hmgt⟩
    rw [hnot c cmd heq] at hmgt
    cases hmgt
  cases i with
  | udp source mem datagram =>
      obtain ⟨⟨n, classid, hsource⟩, hreceived⟩ := hi
      -- who has a source has had an address, and so is the one with its id
      have hadr : (d.nodes n).busadr ≠ 0 :=
        hsourced source (.udp n classid) (Objects.kindAt_eq_some.mpr ⟨_, hsource, rfl⟩)
      rw [hbus fun _ _ h => by cases h]
      exact handledWhole_datagram hreceived rfl
        (udpRead_eq hreceived hsource (hwired.assigned.canonical n hadr))
  | group g mem datagram =>
      rw [hbus fun _ _ h => by cases h]
      exact handledWhole_datagram hi rfl (groupsRead_eq hi g)
  | broadcast service mem datagram =>
      rw [hbus fun _ _ h => by cases h]
      exact handledWhole_datagram hi rfl (broadcastRead_eq hi service)
  | command c cmd =>
      obtain ⟨hc, hlen⟩ := hi
      have hid : nodesGetNodeById d (d.nodes c.n).id = some c.n :=
        hwired.assigned.canonical c.n (hwired.conns c hc)
      cases hcallback : c.callback with
      | newCommand =>
          rw [hbus fun c' cmd' h => by cases h; exact hcallback]
          have hsend : tcpCallback d c cmd = tcpQueueNewCommand d c cmd := by
            unfold tcpCallback
            rw [hcallback]
          have hwhole : HandledWhole d (.command c cmd) ↔ cmd.length ≤ ubPacketData :=
            handledWhole_busSend rfl (hsend.trans (busStreamToID_eq d hid cmd c.classid _ _))
          exact hwhole.trans (and_iff_left trivial).symm
      | newMgt =>
          -- the only sender that looks at the length
          refine iff_of_true ?_ ⟨.inr ⟨c, cmd, rfl, hcallback⟩, trivial⟩
          obtain ⟨d', hrun, hqueue⟩ :=
            busmgtStreamData_whole d c.n hlen (some .tcpReply) c.out
          have hsend : tcpCallback d c cmd = tcpQueueNewMgt d c cmd := by
            unfold tcpCallback
            rw [hcallback]
          exact ⟨d', hsend.trans hrun, hqueue⟩

/-- **Which inputs are handled whole**, in every state the daemon can be in. -/
theorem input_handled_iff (nodetimeout : Int) (cs : List NodeConfig) (d₀ d : Daemon)
    (es : List DaemonEvent) (h₀ : configured nodetimeout cs = .ok d₀)
    (h : Run daemonStep (fun _ _ => True) d₀ es d) (i : NetInput) (hi : i.Possible d) :
    HandledWhole d i ↔ i.Fits := by
  obtain ⟨hwired, -, hsourced⟩ := reachable_plugged h₀ h
  exact handledWhole_iff hwired hsourced hi

/-- A datagram for the lamps: a byte so many times. -/
def lampDatagram (n : Nat) (b : UInt8) : NetInput :=
  .group ⟨[0x6C], [], 23, 0x80⟩ (some (List.replicate (n * 5) 0)) (List.replicate n b)

theorem lampDatagram_possible (d : Daemon) {n : Nat} (hlo : 1 ≤ n) (hhi : n ≤ maxDatagram)
    (b : UInt8) : (lampDatagram n b).Possible d := by
  show (1 ≤ (List.replicate n b).length ∧ (List.replicate n b).length ≤ maxDatagram)
    ∧ ∀ buf, some (List.replicate (n * 5) 0) = some buf →
      buf.length = (List.replicate n b).length * 5
  rw [List.length_replicate]
  refine ⟨⟨hlo, hhi⟩, fun buf hbuf => ?_⟩
  rw [← Option.some.inj hbuf, List.length_replicate]

theorem handledWhole_lampDatagram {d : Daemon} {n : Nat} {b : UInt8}
    (h : (lampDatagram n b).Possible d) (hwhole : HandledWhole d (lampDatagram n b)) :
    n ≤ ubPacketData ∧ isPrinted b = true := by
  have hreceived : Receivable (some (List.replicate (n * 5) 0)) (List.replicate n b) := h
  have hread := groupsRead_eq (d := d) hreceived ⟨[0x6C], [], 23, 0x80⟩
  obtain ⟨hlen, hdump⟩ :=
    (handledWhole_datagram (i := lampDatagram n b) hreceived rfl hread).mp hwhole
  rw [List.length_replicate] at hlen
  rcases hdump with hnone | ⟨b', hb', hprinted⟩
  · cases hnone
  · rw [List.eq_of_mem_replicate hb'] at hprinted
    exact ⟨hlen, hprinted⟩

/-- One that fits. -/
theorem input_handled_iff_short : HandledWhole (nodesInit 30) (lampDatagram 45 0x31) := by
  have hpossible := lampDatagram_possible (nodesInit 30) (n := 45) (by decide) (by decide) 0x31
  refine (input_handled_iff 30 [] (nodesInit 30) (nodesInit 30) [] rfl .nil _ hpossible).mpr ?_
  exact ⟨.inl (by decide), .inr ⟨0x31, by decide, rfl⟩⟩

/-- **One byte more** is copied behind the packet, and the dump of a control byte goes behind its
own memory. -/
theorem long_datagram_overruns : configured 30 [] = .ok (nodesInit 30)
    ∧ Run daemonStep (fun _ _ => True) (nodesInit 30) [] (nodesInit 30)
    ∧ ((lampDatagram 46 0x31).Possible (nodesInit 30)
      ∧ ¬ HandledWhole (nodesInit 30) (lampDatagram 46 0x31))
    ∧ (lampDatagram 1 0x01).Possible (nodesInit 30)
      ∧ ¬ HandledWhole (nodesInit 30) (lampDatagram 1 0x01) := by
  have hlong := lampDatagram_possible (nodesInit 30) (n := 46) (by decide) (by decide) 0x31
  have hcontrol := lampDatagram_possible (nodesInit 30) (n := 1) (by decide) (by decide) 0x01
  refine ⟨rfl, .nil, ⟨hlong, fun hwhole => ?_⟩, hcontrol, fun hwhole => ?_⟩
  · -- 46 bytes are more than `memcpy` has room for
    exact absurd (handledWhole_lampDatagram hlong hwhole).1 (by decide)
  · exact absurd (handledWhole_lampDatagram hcontrol hwhole).2 (by decide)

end Ubd
