import Ubd.Daemon.Connections
import Ubd.Daemon.Slots

/-!
# Daemon.Handlers — what the handlers do

For each handler one lemma that says all it can do: what it queues, and what it writes to which
node. What follows of the handlers is derived from these.
-/

namespace Ubd

open Runs

/-! ## What is queued -/

/-- `packet_out` with more messages. -/
def Daemon.queue (d : Daemon) (ms : List MessageStream) : Daemon :=
  { d with packetOut := d.packetOut ++ ms }

/-- `busmgt_sendReset`, as it lies in the queue. -/
def resetMessage (adr : UInt8) : MessageStream :=
  ⟨⟨adr, ubPacketMgt ||| ubPacketNoack, none, [0x72]⟩, none, 0, none⟩

/-- A command of `busmgt_sendCmdData`, as it lies in the queue. -/
def mgtMessage (adr cmd : UInt8) (data : List UInt8) : MessageStream :=
  ⟨⟨adr, ubPacketMgt, none, cmd :: data⟩, none, 0, none⟩

/-- The messages of `busmgt_sendMulticastGroups`. -/
def groupMessages (x : Node) : List MessageStream :=
  (classSlots.filter (x.groups · ≠ -1)).map fun i =>
    mgtMessage (UInt8.ofInt x.busadr) 0x41 [UInt8.ofInt (x.groups i)]

/-- The messages of `busmgt_sendOK`. -/
def okMessages (adr : UInt8) : List MessageStream :=
  [mgtMessage adr 0x4F [], mgtMessage adr 0x56 []]

section Queueing

variable (d : Daemon)

@[simp] theorem queue_nodes (ms : List MessageStream) : (d.queue ms).nodes = d.nodes := rfl

@[simp] theorem queue_slots (ms : List MessageStream) : (d.queue ms).slots = d.slots := rfl

theorem quiet_queue {ms : List MessageStream} (h : ∀ m ∈ ms, m.n = none) : Quiet d (d.queue ms) :=
  { Quiet.refl d with queued := ⟨ms, rfl, h⟩ }

theorem packetStreamPacket_ok {d d' : Daemon} {n : Option NodeId} {p : OutPacket}
    {callback : Option Callback} {data : Gpointer}
    (h : packetStreamPacket d n p callback data = .ok d') :
    d' = { d with packetOut := d.packetOut ++
      [⟨{ p with flags := p.flags &&& (ubPacketMgt ||| ubPacketNoack) }, callback, data, n⟩] } := by
  unfold packetStreamPacket at h
  split at h
  · cases h
    rfl
  · cases h

theorem packetOutpacket_eq {dest flags : UInt8} {data : List UInt8}
    (hfits : data.length ≤ ubPacketData)
    (hflags : flags &&& (ubPacketMgt ||| ubPacketNoack) = flags) :
    packetOutpacket d ⟨dest, flags, none, data⟩ = .ok { d with
      packetOut := d.packetOut ++ [⟨⟨dest, flags, none, data⟩, none, 0, none⟩] } := by
  have hlen : data.length + ubPacketHeader ≤ ubPacketlen := by
    have : ubPacketData + ubPacketHeader = ubPacketlen := by decide
    omega
  unfold packetOutpacket packetStreamPacket
  rw [if_pos hlen]
  simp only [hflags]

theorem busmgtSendReset_eq (adr : UInt8) :
    busmgtSendReset d adr = .ok { d with packetOut := d.packetOut ++ [resetMessage adr] } :=
  packetOutpacket_eq d (by decide) (by decide)

theorem busmgtSendCmdData_eq {adr cmd : UInt8} {data : List UInt8} (hfits : data.length < 45) :
    busmgtSendCmdData d adr cmd data
      = .ok { d with packetOut := d.packetOut ++ [mgtMessage adr cmd data] } := by
  have hdata : ubPacketData = 45 := rfl
  have hlen : (UInt8.ofNat data.length).toNat = data.length := by
    rw [UInt8.toNat_ofNat']
    omega
  have hlen1 : (UInt8.ofNat data.length + 1).toNat = data.length + 1 := by
    rw [UInt8.toNat_add, hlen, UInt8.toNat_one]
    omega
  unfold busmgtSendCmdData
  dsimp only
  rw [hlen, hlen1, if_neg (by omega), if_pos (by omega), List.take_length]
  refine packetOutpacket_eq d ?_ (by decide)
  rw [List.length_cons]
  omega

theorem busmgtSendOK_eq (adr : UInt8) :
    busmgtSendOK d adr = .ok { d with packetOut := d.packetOut ++ okMessages adr } := by
  unfold busmgtSendOK busmgtSendCmd
  rw [busmgtSendCmdData_eq d (by decide), ok_bind, busmgtSendCmdData_eq _ (by decide)]
  simp [okMessages]

theorem busmgtSendMulticastGroups_eq (n : NodeId) : busmgtSendMulticastGroups d n
    = .ok { d with packetOut := d.packetOut ++ groupMessages (d.nodes n) } := by
  unfold busmgtSendMulticastGroups groupMessages
  dsimp only
  generalize classSlots.filter ((d.nodes n).groups · ≠ -1) = l
  generalize d.nodes n = x
  induction l generalizing d with
  | nil => simp
  | cons i l ih =>
      rw [List.foldlM_cons, busmgtSendCmdData_eq d (by simp), ok_bind, ih]
      simp

end Queueing

/-- The messages of bus management are of no node, and nobody waits for an answer. -/
theorem groupMessages_own {x : Node} {m : MessageStream} (h : m ∈ groupMessages x) :
    m.n = none ∧ m.callback = none := by
  obtain ⟨i, -, rfl⟩ := List.mem_map.mp h
  exact ⟨rfl, rfl⟩

theorem okMessages_own {adr : UInt8} {m : MessageStream} (h : m ∈ okMessages adr) :
    m.n = none ∧ m.callback = none := by
  rcases List.mem_pair.mp h with rfl | rfl
  · exact ⟨rfl, rfl⟩
  · exact ⟨rfl, rfl⟩

/-! ## What a packet carries -/

/-- A byte of the data. -/
def packetByte (p : UbPacket) (i : Nat) : UInt8 := p.data.toList.getD i 0

theorem getElem_packetByte (p : UbPacket) {i : Nat} (hi : i < ubPacketData) :
    p.data[i] = packetByte p i := by
  have hlen : i < p.data.toList.length := by
    rw [Vector.length_toList]
    exact hi
  rw [packetByte, List.getD_eq_getElem?_getD, List.getElem?_eq_getElem hlen]
  simp

/-- The id a packet carries from an offset of its data to the end. -/
def packetId (p : UbPacket) (off : Nat) : CString :=
  cstr ((p.data.toList.drop off).take (p.len.toNat - off))

theorem packetId_length (p : UbPacket) (off : Nat) : (packetId p off).length ≤ maxId := by
  have hdata : p.data.toList.length = ubPacketData := Vector.length_toList
  refine le_trans (List.takeWhile_sublist _).length_le ?_
  rw [List.length_take, List.length_drop, hdata]
  exact le_trans (Nat.min_le_right _ _) (le_trans (Nat.sub_le _ _) (by decide))

/-- With its NUL and an address, the id of a `D` fits into a command. -/
theorem packetId_fits (p : UbPacket) (h : 7 ≤ p.len.toNat ∧ p.len.toNat ≤ ubPacketData) :
    (packetId p 7).length + 2 < 45 := by
  have htake : (packetId p 7).length ≤ p.len.toNat - 7 :=
    le_trans (List.takeWhile_sublist _).length_le (List.length_take_le _ _)
  have hdata : ubPacketData = 45 := rfl
  omega

theorem copyData_ok {p : UbPacket} {off : Nat} {bs : List UInt8}
    (h : copyData p off (p.len.toNat - off) = .ok bs) :
    cstr bs = packetId p off ∧ off ≤ p.len.toNat ∧ p.len.toNat ≤ ubPacketData := by
  unfold copyData at h
  split at h
  · rename_i hlen
    cases h
    have hnat : ((p.len.toNat : Int) - off).toNat = p.len.toNat - off := by omega
    exact ⟨by rw [hnat]; rfl, by omega, by omega⟩
  · cases h

/-- The classes in a `D` packet, as its node gets them. -/
def discoveredClasses (p : UbPacket) : ClassId → UInt8 :=
  fun i => ((p.data.toList.drop 3).take 4).getD i.val 0

/-- The classes in a `B` packet, as the node of the bridge gets them. -/
def announcedClasses (p : UbPacket) : ClassId → UInt8 :=
  fun i => ((p.data.toList.drop 1).take 4).getD i.val 0

/-! ## Registration -/

/-- `mgt_registerNode` finds the slot of an id, or makes one. -/
inductive LooksUp (d : Daemon) (id : CString) (x : NodeId) : Daemon → Prop
  | known (found : nodesGetNodeById d id = some x) : LooksUp d id x d
  | new (unknown : nodesGetNodeById d id = none) (free : (d.nodes x).free = true) :
      LooksUp d id x (nodesAddNode ((d.setNode x Node.reset).setNode x fun n =>
        { n with id := id.take maxId }) x)

/-- A node is put on the bus: the rest of `mgt_registerNode`. -/
def Daemon.registered (d : Daemon) (x : NodeId) (adr : Int) (type : NodeType)
    (connect : UbnetdConnect) : Daemon :=
  let d := d.setNode x fun n => { n with busadr := adr, type := type }
  let d := d.onNet x (address6CreateAddress (d.nodes x).id connect)
  d.setNode x fun n => { n with active := true }

section Registration

variable {d d' : Daemon} {id : CString} {x : NodeId} {o : Option NodeId} {type : NodeType}
  {busadr : UInt8} {connect : UbnetdConnect}

theorem mgtLookupNode_looksUp (h : mgtLookupNode d id = some (d', x)) : LooksUp d id x d' := by
  unfold mgtLookupNode at h
  cases hid : nodesGetNodeById d id with
  | some y =>
      rw [hid] at h
      cases h
      exact .known hid
  | none =>
      rw [hid] at h
      cases hget : nodesGetFreeNode d with
      | none =>
          rw [hget] at h
          cases h
      | some q =>
          obtain ⟨e, y⟩ := q
          obtain ⟨hfree, rfl⟩ := nodesGetFreeNode_some hget
          rw [hget] at h
          cases h
          exact .new hid hfree

/-- **Registration** does nothing, or puts a node on the bus. -/
theorem mgtRegisterNode_cases (h : mgtRegisterNode d id type busadr connect = .ok (d', o)) :
    (d' = d ∧ o = none) ∨ ∃ d₁ x adr, LooksUp d id x d₁ ∧ o = some x
      ∧ d' = d₁.registered x adr type connect := by
  unfold mgtRegisterNode at h
  cases hlook : mgtLookupNode d id with
  | none =>
      rw [hlook] at h
      cases h
      exact .inl ⟨rfl, rfl⟩
  | some q =>
      obtain ⟨d₁, x⟩ := q
      rw [hlook] at h
      obtain ⟨d₂, hactivate, h⟩ := bind_eq_ok.mp h
      cases h
      rw [nodesActivateNode_eq hactivate]
      exact .inr ⟨d₁, x, _, mgtLookupNode_looksUp hlook, rfl, rfl⟩

end Registration

/-! ## Packets -/

/-- What a `D` queues: the query interval for the bridge, and the address with the id. -/
def discoverMessages (p : UbPacket) (adr : UInt8) : List MessageStream :=
  let interval : UInt16 := ((packetByte p 1).toUInt16 <<< 8) + (packetByte p 2).toUInt16
  [mgtMessage ubAddressBridge 0x71 [adr, (interval >>> 8).toUInt8, (interval &&& 0xFF).toUInt8],
    mgtMessage ubAddressBroadcast 0x53 (adr :: packetId p 7 ++ [0])]

theorem confirmMessages_own {x : Node} {adr : UInt8} {m : MessageStream}
    (h : m ∈ groupMessages x ++ okMessages adr) : m.n = none ∧ m.callback = none := by
  rcases List.mem_append.mp h with h | h
  · exact groupMessages_own h
  · exact okMessages_own h

theorem discoverMessages_own {p : UbPacket} {adr : UInt8} {m : MessageStream}
    (h : m ∈ discoverMessages p adr) : m.n = none ∧ m.callback = none := by
  rcases List.mem_pair.mp h with rfl | rfl
  · exact ⟨rfl, rfl⟩
  · exact ⟨rfl, rfl⟩

/-- The node has asked for an address. -/
def Node.discover (x : Node) (p : UbPacket) (nodetimeout : Int) : Node :=
  { x with
    classes := discoveredClasses p
    state := .identify
    timeout := nodetimeout }

/-- **What a `D` does.** -/
inductive Discovers (d : Daemon) (p : UbPacket) (connect : UbnetdConnect) : Daemon → Prop
  | ignored (long : maxId < p.len.toNat) : Discovers d p connect d
  | full (fits : 7 ≤ p.len.toNat ∧ p.len.toNat ≤ ubPacketData)
      (created : mgtCreateNode d (packetId p 7) connect = .ok (d, none)) : Discovers d p connect d
  | discovered {d₁ : Daemon} {x : NodeId} (fits : 7 ≤ p.len.toNat ∧ p.len.toNat ≤ ubPacketData)
      (created : mgtCreateNode d (packetId p 7) connect = .ok (d₁, some x))
      (address : (d₁.nodes x).busadr ≠ 0) :
      Discovers d p connect ((d₁.setNode x fun y => y.discover p d₁.nodetimeout).queue
        (discoverMessages p (UInt8.ofInt (d₁.nodes x).busadr)))

/-- An `I` is accepted: its node waits for it, and has its sockets. -/
structure Accepts (d : Daemon) (p : UbPacket) (x : NodeId) : Prop where
  named : d.slots.byId (packetId p 1) = some x
  waiting : (d.nodes x).state = .identify
  netup : (d.nodes x).netup = true

/-- The node has been confirmed. -/
def Node.confirmed (x : Node) (nodetimeout : Int) : Node :=
  { x with state := .normal, timeout := nodetimeout, busup := true, active := true }

/-- **What an `I` does.** It confirms the node it names, or nothing happens to any node. -/
inductive Identifies (d : Daemon) (p : UbPacket) : Daemon → Prop
  | accepted {x : NodeId} (accepts : Accepts d p x) :
      Identifies d p { d with
        nodes := Function.update d.nodes x ((d.nodes x).confirmed d.nodetimeout)
        packetOut := d.packetOut ++ groupMessages (d.nodes x) ++ okMessages p.src }
  | refused (stranger : ∀ x, d.slots.byId (packetId p 1) = some x →
        (d.nodes x).state ≠ .identify) :
      Identifies d p { d with packetOut := d.packetOut ++ [resetMessage p.src] }
  | ignored (stopped : maxId < p.len.toNat ∨ ∃ x, d.slots.byId (packetId p 1) = some x
        ∧ (d.nodes x).state = .identify ∧ (d.nodes x).netup = false) :
      Identifies d p d

/-- What `busmgt_inpacket` does to the node it finds. -/
def Node.announce (x : Node) (p : UbPacket) (nodetimeout : Int) : Node :=
  { x with
    classes := announcedClasses p
    state := .normal
    timeout := nodetimeout
    busup := true }

section Packets

variable {d d' : Daemon} {p : UbPacket} {connect : UbnetdConnect}

theorem busmgtDiscover_discovers (h : busmgtDiscover d p connect = .ok d') :
    Discovers d p connect d' := by
  unfold busmgtDiscover at h
  dsimp only at h
  split at h
  · rename_i hlong
    cases h
    exact .ignored hlong
  · rename_i hlong
    simp only [bind_eq_ok, pure_eq_ok] at h
    obtain ⟨classes, hcopy, bs, hbs, ⟨d₁, o⟩, hcreate, h⟩ := h
    obtain ⟨hid, hfits⟩ := copyData_ok hbs
    rw [hid] at h hcreate
    cases o with
    | none =>
        cases h
        rcases mgtRegisterNode_cases hcreate with ⟨rfl, -⟩ | ⟨_, _, _, -, hnode, -⟩
        · exact .full hfits hcreate
        · cases hnode
    | some x =>
        dsimp only at h
        split at h
        · cases h
        · rename_i hadr
          have hshort : (UInt8.ofInt (d₁.nodes x).busadr :: packetId p 7 ++ [0]).length < 45 := by
            simpa using packetId_fits p hfits
          rw [getElem_packetByte, getElem_packetByte] at h
          unfold busmgtSetQueryInterval busmgtSetAddress at h
          rw [busmgtSendCmdData_eq _ (by simp), ok_bind, busmgtSendCmdData_eq _ hshort,
            ok_bind] at h
          cases h
          have hclasses : (fun i : ClassId => classes.getD i.val 0) = discoveredClasses p := by
            unfold copyData at hcopy
            rw [if_pos (by decide)] at hcopy
            cases hcopy
            rfl
          have hresult := Discovers.discovered hfits hcreate hadr
          unfold Daemon.queue Daemon.setNode at hresult
          unfold busmgtSetClasses
          rw [hclasses]
          unfold Daemon.setNode
          simp only [Function.update_idem, Function.update_self, List.append_assoc]
          exact hresult

theorem Accepts.unique {x y : NodeId} (h : Accepts d p x) (h' : Accepts d p y) : x = y :=
  Option.some.inj (h.named.symm.trans h'.named)

theorem busmgtIdentify_identifies (h : busmgtIdentify d p = .ok d') : Identifies d p d' := by
  unfold busmgtIdentify at h
  split at h
  · rename_i hlong
    cases h
    exact .ignored (.inl hlong)
  · simp only [bind_eq_ok, pure_eq_ok] at h
    obtain ⟨bs, hbs, h⟩ := h
    obtain ⟨hid, -, -⟩ := copyData_ok hbs
    rw [hid, nodesGetNodeById_slots] at h
    cases hby : d.slots.byId (packetId p 1) with
    | none =>
        rw [hby, busmgtSendReset_eq] at h
        cases h
        refine .refused fun x hx => ?_
        rw [hby] at hx
        cases hx
    | some x =>
        rw [hby] at h
        dsimp only at h
        split at h
        · rename_i hstate
          rw [busmgtSendReset_eq] at h
          cases h
          refine .refused fun y hy => ?_
          rw [hby] at hy
          cases hy
          exact hstate
        · rename_i hstate
          have hwaiting : (d.nodes x).state = .identify := not_not.mp hstate
          split at h
          · rename_i hnetup
            rw [busmgtSendMulticastGroups_eq, ok_bind, busmgtSendOK_eq, ok_bind] at h
            rw [nodesActivateNode_eq h]
            have hnodes : Function.update (Function.update d.nodes x
                  { d.nodes x with state := .normal, timeout := d.nodetimeout, busup := true }) x
                  { { d.nodes x with state := .normal, timeout := d.nodetimeout, busup := true }
                    with active := true }
                = Function.update d.nodes x ((d.nodes x).confirmed d.nodetimeout) := by
              rw [Function.update_idem]
              rfl
            have hresult := Identifies.accepted ⟨hby, hwaiting, hnetup⟩
            rw [← hnodes] at hresult
            unfold Daemon.setNode
            simp only [Function.update_self]
            exact hresult
          · rename_i hnetup
            cases h
            exact .ignored (.inr ⟨x, hby, hwaiting, by simpa using hnetup⟩)

/-- The same, as writes. -/
theorem busmgtIdentify_writes (h : busmgtIdentify d p = .ok d') :
    (∃ x, Accepts d p x ∧ d' = (d.setNode x fun y => y.confirmed d.nodetimeout).queue
        (groupMessages (d.nodes x) ++ okMessages p.src))
      ∨ d' = d.queue [resetMessage p.src] ∨ d' = d := by
  cases busmgtIdentify_identifies h with
  | @accepted x accepts =>
      refine .inl ⟨x, accepts, ?_⟩
      unfold Daemon.queue
      rw [← List.append_assoc]
      rfl
  | refused stranger => exact .inr (.inl rfl)
  | ignored stopped => exact .inr (.inr rfl)

theorem busmgtVersion_sets (h : busmgtVersion d p = .ok d') :
    ∃ n version, d.slots.byAdr p.src.toNat = some n
      ∧ (2 ≤ p.len.toNat ∧ p.len.toNat ≤ ubPacketData)
      ∧ d' = d.setNode n fun x => { x with version := version } := by
  unfold busmgtVersion at h
  rw [nodesGetNodeByBusAdr_slots] at h
  cases hby : d.slots.byAdr p.src.toNat with
  | none =>
      rw [hby] at h
      cases h
  | some n =>
      rw [hby] at h
      simp only [bind_eq_ok, pure_eq_ok] at h
      obtain ⟨text, htext, version, -, h⟩ := h
      cases h
      exact ⟨n, version, rfl, (copyData_ok htext).2, rfl⟩

theorem busmgtAlive_cases (h : busmgtAlive d p = .ok d') :
    (d.slots.byAdr p.src.toNat = none ∧ d' = d.queue [resetMessage p.src])
      ∨ ∃ n, d.slots.byAdr p.src.toNat = some n
        ∧ d' = d.setNode n fun x => { x with timeout := d.nodetimeout } := by
  unfold busmgtAlive at h
  rw [nodesGetNodeByBusAdr_slots, busmgtSendReset_eq] at h
  cases hby : d.slots.byAdr p.src.toNat with
  | none =>
      rw [hby] at h
      cases h
      exact .inl ⟨rfl, rfl⟩
  | some n =>
      rw [hby] at h
      cases h
      exact .inr ⟨n, rfl, rfl⟩

/-- **What a `B` does**: it registers its bridge, and goes on with the node at the address of
the sender. -/
theorem busmgtBridge_writes (h : busmgtBridge d p connect = .ok d') : ∃ d₁ o n,
    (5 ≤ p.len.toNat ∧ p.len.toNat ≤ ubPacketData)
      ∧ mgtCreateBridge d (packetId p 5) connect = .ok (d₁, o)
      ∧ d₁.slots.byAdr p.src.toNat = some n
      ∧ d' = (d₁.setNode n fun x => x.announce p d₁.nodetimeout).queue
        (groupMessages (d₁.nodes n) ++ okMessages p.src) := by
  unfold busmgtBridge at h
  simp only [bind_eq_ok, pure_eq_ok] at h
  obtain ⟨classes, hcopy, bs, hbs, ⟨d₁, o⟩, hcreate, h⟩ := h
  obtain ⟨hid, hfits⟩ := copyData_ok hbs
  rw [hid] at hcreate
  rw [nodesGetNodeByBusAdr_slots] at h
  cases hby : d₁.slots.byAdr p.src.toNat with
  | none =>
      rw [hby] at h
      cases h
  | some n =>
      rw [hby] at h
      dsimp only at h
      rw [busmgtSendMulticastGroups_eq, ok_bind, busmgtSendOK_eq, ok_bind] at h
      cases h
      have hclasses : (fun i : ClassId => classes.getD i.val 0) = announcedClasses p := by
        unfold copyData at hcopy
        rw [if_pos (by decide)] at hcopy
        cases hcopy
        rfl
      refine ⟨d₁, o, n, hfits, hcreate, hby, ?_⟩
      unfold busmgtSetClasses Daemon.queue
      rw [hclasses]
      unfold Daemon.setNode
      simp only [Function.update_idem, Function.update_self, List.append_assoc]
      rfl

/-- What the handlers write to a node is neither its name nor its network side. -/
structure PacketWrites (p : UbPacket) (x y : Node) : Prop where
  net : y.toNodeNet = x.toNodeNet
  stream : y.stream = x.stream
  free : y.free = x.free
  name : y.name = x.name
  groups : y.groups = x.groups
  version : p.kind ≠ 0x56 → y.version = x.version

/-- **The rule for packets**: what registering, writing to a node and answering keep. -/
theorem busmgtInpacket_relation {R : Daemon → Daemon → Prop} (hrefl : ∀ a, R a a)
    (htrans : ∀ a b c, R a b → R b c → R a c)
    (hregister : ∀ off type busadr a b o, 5 ≤ off →
      mgtRegisterNode a (packetId p off) type busadr connect = .ok (b, o) → R a b)
    (hwrite : ∀ a n f, PacketWrites p (a.nodes n) (f (a.nodes n)) → R a (a.setNode n f))
    (hqueue : ∀ (a : Daemon) ms, (∀ m ∈ ms, m.callback = none) → R a (a.queue ms))
    (h : busmgtInpacket d p connect = .ok d') : R d d' := by
  have hreset : ∀ m ∈ [resetMessage p.src], m.callback = none := by
    intro m hm
    rw [List.mem_singleton.mp hm, resetMessage]
  unfold busmgtInpacket at h
  split_ifs at h with hD hI hV hA hB
  · cases busmgtDiscover_discovers h with
    | ignored long => exact hrefl d
    | full fits created => exact hrefl d
    | @discovered d₁ x fits created address =>
        refine htrans _ _ _ (hregister 7 _ _ d d₁ _ (by decide) created) (htrans _ _ _ ?_
          (hqueue _ _ fun m hm => (discoverMessages_own hm).2))
        exact hwrite d₁ x _ ⟨rfl, rfl, rfl, rfl, rfl, fun _ => rfl⟩
  · rcases busmgtIdentify_writes h with ⟨x, -, rfl⟩ | rfl | rfl
    · exact htrans _ _ _ (hwrite d x _ ⟨rfl, rfl, rfl, rfl, rfl, fun _ => rfl⟩)
        (hqueue _ _ fun m hm => (confirmMessages_own hm).2)
    · exact hqueue d _ hreset
    · exact hrefl d'
  · obtain ⟨n, version, -, -, rfl⟩ := busmgtVersion_sets h
    exact hwrite d n _ ⟨rfl, rfl, rfl, rfl, rfl, fun hkind => absurd hV hkind⟩
  · rcases busmgtAlive_cases h with ⟨-, rfl⟩ | ⟨n, -, rfl⟩
    · exact hqueue d _ hreset
    · exact hwrite d n _ ⟨rfl, rfl, rfl, rfl, rfl, fun _ => rfl⟩
  · obtain ⟨d₁, o, n, -, created, -, rfl⟩ := busmgtBridge_writes h
    refine htrans _ _ _ (hregister 5 _ _ d d₁ _ (le_refl 5) created) (htrans _ _ _ ?_
      (hqueue _ _ fun m hm => (confirmMessages_own hm).2))
    exact hwrite d₁ n _ ⟨rfl, rfl, rfl, rfl, rfl, fun _ => rfl⟩
  · cases h
    exact hrefl d

end Packets

/-! ## The tick -/

/-- The time of the node has run out. -/
def Node.TimesOut (x : Node) : Prop :=
  (x.state = .identify ∨ x.state = .normal) ∧ x.timeout = 0

instance (x : Node) : Decidable x.TimesOut :=
  inferInstanceAs (Decidable ((x.state = .identify ∨ x.state = .normal) ∧ x.timeout = 0))

/-- **What a turn of `mgt_checkTimeout` does.** -/
inductive Checks (d : Daemon) (n : NodeId) : Daemon → Prop
  | off (off : ¬ ((d.nodes n).state = .identify ∨ (d.nodes n).state = .normal)) : Checks d n d
  | left (onBus : (d.nodes n).state = .identify ∨ (d.nodes n).state = .normal)
      (left : (d.nodes n).timeout ≠ 0) :
      Checks d n (d.setNode n fun x => { x with timeout := x.timeout - 1 })
  | out (out : (d.nodes n).TimesOut) :
      Checks d n ((mgtRemoved d n).setNode n fun x => { x with active := false, state := .timeout })

theorem mgtCheckNode_checks {d d' : Daemon} {n : NodeId} (h : mgtCheckNode d n = .ok d') :
    Checks d n d' := by
  unfold mgtCheckNode at h
  dsimp only at h
  split at h
  · rename_i honBus
    split at h
    · rename_i htime
      obtain ⟨d₁, hdeact, h⟩ := bind_eq_ok.mp h
      cases h
      unfold nodesDeactivateNode at hdeact
      split at hdeact
      · cases hdeact
      · cases hdeact
        have hresult := Checks.out ⟨honBus, htime⟩
        unfold Daemon.setNode at hresult ⊢
        simp only [Function.update_idem, Function.update_self]
        exact hresult
    · rename_i hleft
      cases h
      exact .left honBus hleft
  · rename_i hoff
    cases h
    exact .off hoff

/-! ## Connections -/

section Connections

variable {d d' : Daemon} {c : Connection}

/-- A command is queued for its node, and answered to its connection. -/
theorem tcpCallback_queues {cmd : List UInt8} (h : tcpCallback d c cmd = .ok d') :
    ∃ ms, d' = d.queue ms
      ∧ ∀ m ∈ ms, m.n ≠ none ∧ m.callback = some .tcpReply ∧ m.data = c.out := by
  have hqueue : ∀ {n : NodeId} {p : OutPacket},
      packetStreamPacket d (some n) p (some .tcpReply) c.out = .ok d' → ∃ ms, d' = d.queue ms
        ∧ ∀ m ∈ ms, m.n ≠ none ∧ m.callback = some .tcpReply ∧ m.data = c.out := by
    intro n p h
    refine ⟨_, packetStreamPacket_ok h, fun m hm => ?_⟩
    rw [List.mem_singleton.mp hm]
    exact ⟨Option.some_ne_none n, rfl, rfl⟩
  unfold tcpCallback tcpQueueNewCommand tcpQueueNewMgt busStreamToID busmgtStreamData at h
  dsimp only at h
  split at h
  · split at h
    · cases h
    · split at h
      · exact hqueue h
      · cases h
  · split at h
    · cases h
      exact ⟨[], by unfold Daemon.queue; rw [List.append_nil], fun m hm => nomatch hm⟩
    · split at h
      · exact hqueue h
      · cases h

/-- What every request does, reading does. -/
theorem tcpListenerRead_relation {R : Daemon → Daemon → Prop} {nb nb' : NodeBuffer}
    {buf : List UInt8} (hrefl : ∀ d, R d d) (htrans : ∀ a b c, R a b → R b c → R a c)
    (hrequest : ∀ d r d', tcpRequest c d r = .ok d' → R d d')
    (h : tcpListenerRead (tcpRequest c) (d, nb) buf = .ok (d', nb')) : R d d' := by
  have hloop := foldlM_invariant (I := fun q => R d q.1) (fun b _ q q' hq hturn => ?_)
    (hrefl d) h
  · exact hloop
  · obtain ⟨⟨nb₁, r⟩, -, hturn⟩ := bind_eq_ok.mp hturn
    cases r with
    | none =>
        cases hturn
        exact hq
    | some r =>
        obtain ⟨d₁, hrun, hturn⟩ := bind_eq_ok.mp hturn
        cases hturn
        exact htrans _ _ _ hq (hrequest _ _ _ hrun)

/-- **What the main loop does for connections.** -/
inductive Serves (d : Daemon) : MainEvent → Daemon → Prop
  | unknown {service : Handle} (nobody : d.listening service = none) :
      Serves d (.accept service) d
  | command {service : Handle} {n : NodeId} {classid : ClassId}
      (listening : d.listening service = some (n, classid)) :
      Serves d (.accept service) { listenRegister d n classid (d.conns.length + 1) with
        conns := d.conns
          ++ [⟨NodeBuffer.fresh, n, classid, .newCommand, d.conns.length + 1, true, false⟩] }
  | management {service : Handle} {n : NodeId} {classid : ClassId}
      (listening : d.listening service = some (n, classid)) :
      Serves d (.accept service) { d with
        conns := d.conns
          ++ [⟨NodeBuffer.fresh, n, classid, .newMgt, d.conns.length + 1, true, false⟩] }
  | reads {k : Nat} {buf : List UInt8} {c : Connection} {nb : NodeBuffer} {d₁ : Daemon}
      (found : d.conns[k]? = some c) (reading : c.reading = true)
      (run : tcpListenerRead (tcpRequest c) (d, c.nb) buf = .ok (d₁, nb)) :
      Serves d (.read k buf) { d₁ with conns := d₁.conns.set k { c with nb := nb } }
  | deaf {k : Nat} {buf : List UInt8} : Serves d (.read k buf) d
  | closes {k : Nat} {c : Connection} (found : d.conns[k]? = some c)
      (reading : c.reading = true) :
      Serves d (.close k) { listenUnregister d c.n c.classid c.out with
        conns := d.conns.set k { c with reading := false, released := true } }
  | closed {k : Nat} (nobody : ∀ c, d.conns[k]? = some c → c.reading = false) :
      Serves d (.close k) d
  | fails {k : Nat} {c : Connection} (found : d.conns[k]? = some c) :
      Serves d (.readError k) { d with conns := d.conns.set k { c with reading := false } }
  | failed {k : Nat} : Serves d (.readError k) d

theorem mainStep_serves {e : MainEvent} (h : mainStep d e = .ok d')
    (he : ∀ env, e ≠ .tick env) : Serves d e d' := by
  cases e with
  | tick env => exact absurd rfl (he env)
  | accept service =>
      change tcpListener d service = .ok d' at h
      unfold tcpListener at h
      split at h
      · rename_i hnobody
        cases h
        exact .unknown hnobody
      · rename_i n classid hlistening
        dsimp only at h
        split at h
        · cases h
          exact .command hlistening
        · split at h
          · cases h
            exact .management hlistening
          · cases h
  | read k buf =>
      change tcpRead d k buf = .ok d' at h
      unfold tcpRead at h
      split at h
      · rename_i c hfound
        split at h
        · rename_i hreading
          obtain ⟨⟨d₁, nb⟩, hrun, h⟩ := bind_eq_ok.mp h
          cases h
          exact .reads hfound hreading hrun
        · cases h
          exact .deaf
      · cases h
        exact .deaf
  | close k =>
      cases h
      unfold tcpClose
      split
      · rename_i c hfound
        split
        · rename_i hreading
          exact .closes hfound hreading
        · rename_i hreading
          refine .closed fun x hx => ?_
          rw [hfound] at hx
          cases hx
          simpa using hreading
      · rename_i hfound
        refine .closed fun x hx => ?_
        rw [hfound] at hx
        cases hx
  | readError k =>
      cases h
      unfold tcpReadError
      split
      · rename_i c hfound
        exact .fails hfound
      · exact .failed

end Connections

end Ubd
