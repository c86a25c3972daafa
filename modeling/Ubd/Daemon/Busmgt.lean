import Ubd.Daemon.Nodes
import Ubd.Daemon.Net

/-!
# Daemon.Busmgt — `busmgt.c`, `mgt.c` and the queueing end of `packet.c`

The management packets of the bus, the registration of nodes and the tick that
takes nodes out again.
-/

namespace Ubd

/-! ## Queueing packets -/

/-- `packet_streamPacket` -/
def packetStreamPacket (d : Daemon) (n : Option NodeId) (p : OutPacket)
    (callback : Option Callback) (data : Gpointer) : Except Fault Daemon :=
  -- `ub_assert((guint)(p->len + UB_PACKET_HEADER) <= sizeof(outmsg->msg.data))`
  if p.data.length + ubPacketHeader ≤ ubPacketlen then
    let p := { p with flags := p.flags &&& (ubPacketMgt ||| ubPacketNoack) }
    .ok { d with packetOut := d.packetOut ++ [⟨p, callback, data, n⟩] }
  else .error .assertion

/-- `packet_outpacket` -/
def packetOutpacket (d : Daemon) (p : OutPacket) : Except Fault Daemon :=
  packetStreamPacket d none p none 0

/-! ## Management commands -/

/-- `busmgt_sendCmdData`. The length passes through `uint8_t`. -/
def busmgtSendCmdData (d : Daemon) (adr cmd : UInt8) (data : List UInt8) : Except Fault Daemon :=
  let len : UInt8 := UInt8.ofNat data.length
  if (len + 1).toNat > ubPacketData then .ok d
  else if len.toNat + 1 ≤ ubPacketData then
    packetOutpacket d ⟨adr, ubPacketMgt, none, cmd :: data.take len.toNat⟩
  else .error .outOfBounds

/-- `busmgt_sendCmd` -/
def busmgtSendCmd (d : Daemon) (adr cmd : UInt8) : Except Fault Daemon :=
  busmgtSendCmdData d adr cmd []

/-- `busmgt_sendReset` -/
def busmgtSendReset (d : Daemon) (adr : UInt8) : Except Fault Daemon :=
  packetOutpacket d ⟨adr, ubPacketMgt ||| ubPacketNoack, none, [0x72]⟩

/-- `busmgt_setQueryInterval` -/
def busmgtSetQueryInterval (d : Daemon) (adr : UInt8) (interval : UInt16) : Except Fault Daemon :=
  busmgtSendCmdData d ubAddressBridge 0x71
    [adr, (interval >>> 8).toUInt8, (interval &&& 0xFF).toUInt8]

/-- `busmgt_setAddress`, a broadcast of the address and the id with its NUL. -/
def busmgtSetAddress (d : Daemon) (adr : UInt8) (id : CString) : Except Fault Daemon :=
  busmgtSendCmdData d ubAddressBroadcast 0x53 (adr :: id ++ [0])

/-- `busmgt_sendOK` -/
def busmgtSendOK (d : Daemon) (adr : UInt8) : Except Fault Daemon := do
  let d ← busmgtSendCmd d adr 0x4F
  busmgtSendCmd d adr 0x56

/-- `busmgt_sendMulticastGroups` -/
def busmgtSendMulticastGroups (d : Daemon) (n : NodeId) : Except Fault Daemon :=
  let node := d.nodes n
  (classSlots.filter (node.groups · ≠ -1)).foldlM
    (fun d i => busmgtSendCmdData d (UInt8.ofInt node.busadr) 0x41 [UInt8.ofInt (node.groups i)]) d

/-- `busmgt_setClasses` -/
def busmgtSetClasses (d : Daemon) (n : NodeId) (classes : List UInt8) : Daemon :=
  d.setNode n fun x => { x with classes := fun i => classes.getD i.val 0 }

/-! ## Registration -/

/-- `busmgt_getFreeBusAdr` -/
def busmgtGetFreeBusAdr (d : Daemon) : Int :=
  match (List.range' 3 252).find? fun i : Nat => (nodesGetNodeByBusAdr d i).isNone with
  | some i => i
  | none => -1

/-- The first half of `mgt_registerNode`: the node with this id, or a new one. -/
def mgtLookupNode (d : Daemon) (id : CString) : Option (Daemon × NodeId) :=
  match nodesGetNodeById d id with
  | some dbn => some (d, dbn)
  | none =>
      match nodesGetFreeNode d with
      | none => none
      | some (d, dbn) =>
          let d := d.setNode dbn fun n => { n with id := id.take maxId }
          some (nodesAddNode d dbn, dbn)

/-- `mgt_registerNode` -/
def mgtRegisterNode (d : Daemon) (id : CString) (type : NodeType) (busadr : UInt8)
    (connect : UbnetdConnect) : Except Fault (Daemon × Option NodeId) :=
  match mgtLookupNode d id with
  | none => .ok (d, none)
  | some (d, dbn) => do
      let adr : Int := if busadr ≠ 0 then busadr.toNat else busmgtGetFreeBusAdr d
      let d := d.setNode dbn fun n => { n with busadr := adr, type := type }
      let d := d.onNet dbn (address6CreateAddress (d.nodes dbn).id connect)
      let d ← nodesActivateNode d dbn
      return (d, some dbn)

/-- `mgt_createNode` -/
def mgtCreateNode (d : Daemon) (id : CString) (connect : UbnetdConnect) :
    Except Fault (Daemon × Option NodeId) :=
  mgtRegisterNode d id .node 0 connect

/-- `mgt_createBridge` -/
def mgtCreateBridge (d : Daemon) (id : CString) (connect : UbnetdConnect) :
    Except Fault (Daemon × Option NodeId) :=
  mgtRegisterNode d id .bridge 2 connect

/-! ## Packets from the bus -/

/-- `memcpy(..., p->data+off, n)`, where a negative `n` is a huge `size_t`. The targets
in `busmgt_inpacket` hold at least the 45 bytes of `p->data`. -/
def copyData (p : UbPacket) (off : Nat) (n : Int) : Except Fault (List UInt8) :=
  if 0 ≤ n ∧ off + n ≤ ubPacketData then .ok ((p.data.toList.drop off).take n.toNat)
  else .error .outOfBounds

/-- `case 'D'`: a new node tries to get an address. -/
def busmgtDiscover (d : Daemon) (p : UbPacket) (connect : UbnetdConnect) :
    Except Fault Daemon := do
  let interval : UInt16 := (p.data[1].toUInt16 <<< 8) + p.data[2].toUInt16
  if p.len.toNat > maxId then return d
  let classes ← copyData p 3 4
  let id := cstr (← copyData p 7 (p.len.toNat - 7))
  match ← mgtCreateNode d id connect with
  | (d, none) => return d
  | (d, some n) =>
      -- `ub_assert(n->busadr != 0)`
      if (d.nodes n).busadr = 0 then .error .assertion
      else
        let adr := UInt8.ofInt (d.nodes n).busadr
        let d := busmgtSetClasses d n classes
        let d ← busmgtSetQueryInterval d adr interval
        let d ← busmgtSetAddress d adr id
        return d.setNode n fun x => { x with state := .identify, timeout := d.nodetimeout }

/-- `case 'I'`: the node confirms an address. -/
def busmgtIdentify (d : Daemon) (p : UbPacket) : Except Fault Daemon := do
  if p.len.toNat > maxId then return d
  let id := cstr (← copyData p 1 (p.len.toNat - 1))
  match nodesGetNodeById d id with
  | none => busmgtSendReset d p.src
  | some n =>
      if (d.nodes n).state ≠ .identify then busmgtSendReset d p.src
      else if (d.nodes n).netup then
        let d ← busmgtSendMulticastGroups d n
        let d ← busmgtSendOK d p.src
        let d := d.setNode n fun x =>
          { x with state := .normal, timeout := d.nodetimeout, busup := true }
        nodesActivateNode d n
      else return d

/-- `case 'V'` -/
def busmgtVersion (d : Daemon) (p : UbPacket) : Except Fault Daemon :=
  match nodesGetNodeByBusAdr d p.src.toNat with
  | none => .error .nullPointer
  | some n => do
      let text ← copyData p 2 (p.len.toNat - 2)
      let version ← memcpy (d.nodes n).version text text.length
      return d.setNode n fun x => { x with version := version }

/-- `case 'A'`: a keep alive packet. -/
def busmgtAlive (d : Daemon) (p : UbPacket) : Except Fault Daemon :=
  match nodesGetNodeByBusAdr d p.src.toNat with
  | none => busmgtSendReset d p.src
  | some n => .ok (d.setNode n fun x => { x with timeout := d.nodetimeout })

/-- `case 'B'`: the bridge id. -/
def busmgtBridge (d : Daemon) (p : UbPacket) (connect : UbnetdConnect) : Except Fault Daemon := do
  let classes ← copyData p 1 4
  let id := cstr (← copyData p 5 (p.len.toNat - 5))
  let (d, _) ← mgtCreateBridge d id connect
  match nodesGetNodeByBusAdr d p.src.toNat with
  | none => .error .nullPointer
  | some n =>
      let d := busmgtSetClasses d n classes
      let d ← busmgtSendMulticastGroups d n
      let d ← busmgtSendOK d p.src
      return d.setNode n fun x =>
        { x with state := .normal, timeout := d.nodetimeout, busup := true }

/-- `busmgt_inpacket` -/
def busmgtInpacket (d : Daemon) (p : UbPacket) (connect : UbnetdConnect) : Except Fault Daemon :=
  if p.kind = 0x44 then busmgtDiscover d p connect
  else if p.kind = 0x49 then busmgtIdentify d p
  else if p.kind = 0x56 then busmgtVersion d p
  else if p.kind = 0x41 then busmgtAlive d p
  else if p.kind = 0x42 then busmgtBridge d p connect
  else .ok d

/-! ## The tick -/

/-- The loops of `mgt.c` over `nodes_getNode(0)` to `nodes_getNode(count-1)`. -/
def forEachNode (body : Daemon → NodeId → Except Fault Daemon) (d : Daemon) :
    Except Fault Daemon :=
  (List.range (nodesGetNodeCount d)).foldlM (fun d (i : Nat) =>
    match nodesGetNode d i with
    | none => .error .nullPointer
    | some n => body d n) d

/-- What `mgt_checkTimeout` does to a node before it deactivates it. The request to
ubnetd to remove the address leaves nothing behind. -/
def mgtRemoved (d : Daemon) (n : NodeId) : Daemon :=
  let d := d.setNode n fun x => { x with timeout := x.timeout - 1 }
  let d := d.onNet n (netRemoveSockets n (d.nodes n))
  d.setNode n fun x => { x with type := .none }

/-- The body of the loop of `mgt_checkTimeout`. -/
def mgtCheckNode (d : Daemon) (n : NodeId) : Except Fault Daemon :=
  let node := d.nodes n
  if node.state = .identify ∨ node.state = .normal then
    if node.timeout = 0 then do
      let d ← nodesDeactivateNode (mgtRemoved d n) n
      return d.setNode n fun x => { x with state := .timeout }
    else .ok (d.setNode n fun x => { x with timeout := x.timeout - 1 })
  else .ok d

/-- `mgt_checkTimeout` -/
def mgtCheckTimeout (d : Daemon) : Except Fault Daemon := forEachNode mgtCheckNode d

/-- The body of the loop of `mgt_tick`. -/
def mgtConfigureNode (env : NodeId → NetEnv) (d : Daemon) (n : NodeId) : Except Fault Daemon :=
  .ok <| d.onNet n fun s =>
    match interfaceGetConfiguredAddress (env n) s with
    | (s, none) => s
    | (s, some _) => netCreateSockets n (d.nodes n) (env n) s

/-- `mgt_tick` -/
def mgtTick (d : Daemon) (env : NodeId → NetEnv) : Except Fault Daemon := do
  let d ← mgtCheckTimeout d
  forEachNode (mgtConfigureNode env) d

/-! ## The configuration -/

/-- A `<node>` of the configuration, its groups as bus addresses. -/
structure NodeConfig where
  id : CString
  hostname : CString
  address : CString
  /-- `g_inet_address_new_from_string` can read the address. -/
  parses : Bool
  groups : List Int

/-- `xml_parseNode`. An empty string stands for an attribute that is missing. -/
def xmlParseNode (d : Daemon) (c : NodeConfig) : Except Fault Daemon :=
  match nodesGetFreeNode d with
  | none => .error .nullPointer
  | some (d, n) =>
      if c.groups.length ≤ maxClass then
        let d := d.setNode n fun x =>
          { x with
            id := c.id.take (maxId - 1)
            name := if c.hostname = [] then x.name else c.hostname.take (maxId - 1)
            netadr := if c.address ≠ [] ∧ c.parses then some (.fromString c.address) else none
            groups := fun i => c.groups.getD i.val (x.groups i) }
        .ok (nodesAddNode d n)
      else .error .outOfBounds

/-- The daemon after `nodes_init` and the configured nodes. -/
def configured (nodetimeout : Int) (cs : List NodeConfig) : Except Fault Daemon :=
  cs.foldlM xmlParseNode (nodesInit nodetimeout)

end Ubd
