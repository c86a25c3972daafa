import Ubd.Daemon.Handlers

/-!
# Daemon.Changes — what the handlers do to the addresses

`PacketChange` says once and for all what a management packet can do to the table of
slots, whoever sent it and whether it is well-formed or not; `Expired` says it of a
tick. Both leave alone what `Quiet` lists. What holds of the addresses over whole runs
is derived from these two.
-/

namespace Ubd

/-! ## Registration -/

/-- The slot in which an id is registered: its own, or the first free one. -/
def SlotTable.target (t : SlotTable) (id : CString) : Option NodeId :=
  (t.byId id).or (slots.find? fun i => (t i).free)

/-- Put a node on the bus. -/
def SlotTable.register (t : SlotTable) (x : NodeId) (id : CString) (adr : Int)
    (state : NodeState) : SlotTable :=
  Function.update t x ⟨id, false, true, state, adr⟩

theorem target_some {t : SlotTable} {id : CString} {x : NodeId} (h : t.target id = some x) :
    t.byId id = some x ∨ (t.byId id = none ∧ (t x).free = true) := by
  unfold SlotTable.target at h
  cases hid : t.byId id with
  | some y =>
      rw [hid, Option.some_or] at h
      cases h
      exact .inl rfl
  | none =>
      rw [hid, Option.none_or] at h
      exact .inr ⟨rfl, by simpa using List.find?_some h⟩

/-- `mgt_registerNode` finds the slot, or makes one with this id. -/
theorem mgtLookupNode_spec (d : Daemon) {id : CString} (hid : id.length ≤ maxId) :
    (d.slots.target id = none ∧ mgtLookupNode d id = none)
      ∨ ∃ d₁ x, d.slots.target id = some x ∧ mgtLookupNode d id = some (d₁, x)
        ∧ d₁.slots = Function.update d.slots x { d.slots x with id := id, free := false }
        ∧ Quiet d d₁ := by
  unfold SlotTable.target mgtLookupNode
  rw [nodesGetNodeById_slots]
  cases hby : d.slots.byId id with
  | some x =>
      obtain ⟨⟨hfree, hidx⟩, -⟩ := byId_eq_some.mp hby
      refine .inr ⟨d, x, rfl, rfl, ?_, Quiet.refl d⟩
      have hsame : ({ d.slots x with id := id, free := false } : Slot) = d.slots x := by
        rw [← hfree, ← hidx]
      rw [hsame]
      exact (Function.update_eq_self x d.slots).symm
  | none =>
      cases hfree : slots.find? fun i => (d.slots i).free with
      | none =>
          have : nodesGetFreeNode d = none := by
            unfold nodesGetFreeNode
            rw [show (slots.find? fun i => (d.nodes i).free) = none from hfree]
            rfl
          refine .inl ⟨rfl, ?_⟩
          simp only [this]
      | some x =>
          have hget : nodesGetFreeNode d = some (d.setNode x Node.reset, x) := by
            unfold nodesGetFreeNode
            rw [show (slots.find? fun i => (d.nodes i).free) = some x from hfree]
            rfl
          simp only [hget]
          refine .inr ⟨_, x, rfl, rfl, ?_, ?_⟩
          · unfold nodesAddNode
            simp only [setNode_slots, setNode_self, Function.update_idem]
            rw [nodesSetNameFromID_slot, List.take_of_length_le hid]
            rfl
          · unfold nodesAddNode
            exact ((quiet_setNode d x rfl rfl (.inl rfl)).trans
              (quiet_setNode _ x rfl rfl (.inl rfl))).trans
              (quiet_setNode _ x (nodesSetNameFromID_stream _) (nodesSetNameFromID_ubnetd _)
                (.inl (nodesSetNameFromID_busadr _)))

/-- Registering an id the table has, or in a free slot, changes the lookup of that id
alone. -/
theorem byId_update {t : SlotTable} {x : NodeId} {id : CString} {s : Slot}
    (h : t.target id = some x) (hid : s.id = id) (hfree : s.free = false) (id' : CString) :
    SlotTable.byId (Function.update t x s) id' = if id' = id then some x else t.byId id' := by
  rcases target_some h with hby | ⟨hnone, hx⟩
  · -- the id was in the table already
    obtain ⟨⟨hxfree, hxid⟩, -⟩ := byId_eq_some.mp hby
    have hcongr : SlotTable.byId (Function.update t x s) id' = t.byId id' := by
      unfold SlotTable.byId
      congr 1
      funext i
      by_cases hi : i = x
      · subst hi
        simp [hid, hfree, hxfree, hxid]
      · simp [hi]
    rw [hcongr]
    split_ifs with heq
    · rw [heq, hby]
    · rfl
  · by_cases heq : id' = id
    · rw [if_pos heq, heq, byId_eq_some]
      refine ⟨by simp [hid, hfree], fun j hj hjfree => ?_⟩
      have hne : j ≠ x := fun hjx => absurd hj (by simp [hjx])
      rw [Function.update_of_ne hne] at hjfree ⊢
      exact byId_eq_none.mp hnone j hjfree
    · rw [if_neg heq]
      unfold SlotTable.byId
      congr 1
      funext i
      by_cases hi : i = x
      · subst hi
        have hne : ¬ id = id' := fun hc => heq hc.symm
        simp [hid, hx, hne]
      · simp [hi]

/-- Only a node with an address is given a connection to ubnetd. -/
theorem quiet_createAddress (d : Daemon) (n : NodeId) (id : CString) (connect : UbnetdConnect)
    (hn : (d.nodes n).busadr ≠ 0) : Quiet d (d.onNet n (address6CreateAddress id connect)) := by
  refine quiet_onNet d n fun i hi => ?_
  rw [onNet_touched] at hi
  by_cases hin : i = n
  · rw [hin]
    exact .inr hn
  · rw [if_neg hin] at hi
    exact .inl (hi.imp_right address6CreateAddress_serves)

theorem quiet_removeSockets (d : Daemon) (n : NodeId) (x : Node) :
    Quiet d (d.onNet n (netRemoveSockets n x)) := by
  refine quiet_onNet d n fun i hi => .inl ?_
  obtain ⟨hnet, hserves⟩ :=
    netRemoveSockets_keeps n x ⟨(d.nodes n).toNodeNet, d.objects, d.dirclient⟩
  rw [onNet_touched, hnet] at hi
  rcases hi with hub | hi
  · split at hub
    · rename_i hin
      exact .inl (by rw [hin]; exact hub)
    · exact .inl hub
  · exact .inr (hserves i hi)

/-- Sockets are only made for a node that is connected to ubnetd. -/
theorem quiet_configure (env : NodeId → NetEnv) {d d' : Daemon} {n : NodeId}
    (h : mgtConfigureNode env d n = .ok d') : d'.slots = d.slots ∧ Quiet d d' := by
  cases h
  refine ⟨onNet_slots d n _, quiet_onNet d n fun i hi => .inl ?_⟩
  rw [onNet_touched] at hi
  generalize hs : (⟨(d.nodes n).toNodeNet, d.objects, d.dirclient⟩ : NetState) = s at hi
  have hubnetd : s.net.ubnetd = (d.nodes n).ubnetd := by rw [← hs]
  have hobjects : s.objects = d.objects := by rw [← hs]
  obtain ⟨hkeep, hready, hserves⟩ := interfaceGetConfiguredAddress_keeps (env n) s
  cases hget : interfaceGetConfiguredAddress (env n) s with
  | mk s₁ addr =>
      rw [hget] at hkeep hready hserves hi
      cases addr with
      | none =>
          rcases hi with hub | hi
          · split at hub
            · rename_i hin
              rw [hin]
              exact .inl (hubnetd ▸ hkeep hub)
            · exact .inl hub
          · exact .inr (hobjects ▸ hserves i hi)
      | some a =>
          obtain ⟨hnet, hown⟩ := netCreateSockets_own n (d.nodes n) (env n) s₁
          rcases hi with hub | hi
          · split at hub
            · rename_i hin
              rw [hin]
              exact .inl (hubnetd ▸ hready (by simp))
            · exact .inl hub
          · rcases hown i hi with hi | rfl
            · exact .inr (hobjects ▸ hserves i hi)
            · exact .inl (hubnetd ▸ hready (by simp))

/-- The new entry is not active yet, so it takes no address. -/
theorem freeAdr_target {t : SlotTable} {id : CString} {x : NodeId}
    (hfree : ∀ i, (t i).free = true → (t i).active = false) (htarget : t.target id = some x) :
    SlotTable.freeAdr (Function.update t x { t x with id := id, free := false }) = t.freeAdr := by
  have hholds : ∀ (adr : Int) (i : NodeId),
      (Function.update t x { t x with id := id, free := false } i).holds adr
        = (t i).holds adr := by
    intro adr i
    by_cases hi : i = x
    · subst hi
      rw [Function.update_self]
      rcases target_some htarget with hby | ⟨-, hx⟩
      · simp [Slot.holds, (byId_eq_some.mp hby).1.1]
      · simp [Slot.holds, hfree i hx]
    · rw [Function.update_of_ne hi]
  simp only [SlotTable.freeAdr, SlotTable.byAdr, hholds]

/-- The address that `mgt_registerNode` is told, or a free one. -/
theorem registerAdr_ne_zero (t : SlotTable) (busadr : UInt8) :
    (if busadr ≠ 0 then (busadr.toNat : Int) else t.freeAdr) ≠ 0 := by
  split
  · rename_i hne
    intro h0
    exact hne (UInt8.toNat_inj.mp (Int.ofNat_eq_zero.mp h0))
  · exact freeAdr_ne_zero t

/-- `mgt_registerNode`, in a table whose free slots are inactive. -/
theorem mgtRegisterNode_spec (d : Daemon) {id : CString} (hid : id.length ≤ maxId)
    (hfree : ∀ i, (d.slots i).free = true → (d.slots i).active = false)
    (type : NodeType) (busadr : UInt8) (connect : UbnetdConnect) :
    (d.slots.target id = none ∧ mgtRegisterNode d id type busadr connect = .ok (d, none))
      ∨ ∃ d' x, d.slots.target id = some x
        ∧ mgtRegisterNode d id type busadr connect = .ok (d', some x)
        ∧ d'.slots = d.slots.register x id
            (if busadr ≠ 0 then (busadr.toNat : Int) else d.slots.freeAdr) (d.slots x).state
        ∧ Quiet d d' := by
  unfold mgtRegisterNode
  rcases mgtLookupNode_spec d hid with ⟨htarget, hlook⟩ | ⟨d₁, x, htarget, hlook, hslots, hquiet⟩
  · rw [hlook]
    exact .inl ⟨htarget, rfl⟩
  · rw [hlook]
    have hfreeAdr : busmgtGetFreeBusAdr d₁ = d.slots.freeAdr := by
      rw [busmgtGetFreeBusAdr_slots, hslots]
      exact freeAdr_target hfree htarget
    dsimp only
    rw [hfreeAdr]
    let adr : Int := if busadr ≠ 0 then (busadr.toNat : Int) else d.slots.freeAdr
    let d₂ := d₁.setNode x fun n => { n with busadr := adr, type := type }
    let d₃ := d₂.onNet x (address6CreateAddress (d₂.nodes x).id connect)
    have hslots₃ : d₃.slots = Function.update d.slots x
        ⟨id, false, (d.slots x).active, (d.slots x).state, adr⟩ := by
      have hx := congrFun hslots x
      rw [Function.update_self] at hx
      have hslot : (Node.slot { d₁.nodes x with busadr := adr, type := type })
          = { d₁.slots x with busadr := adr } := rfl
      rw [onNet_slots, setNode_slots, hslot, hx, hslots, Function.update_idem]
    have hused : (d₃.nodes x).free = false := by
      have hx := congrFun hslots₃ x
      rw [Function.update_self] at hx
      exact congrArg Slot.free hx
    refine .inr ⟨d₃.setNode x fun n => { n with active := true }, x, htarget, ?_, ?_, ?_⟩
    · show (nodesActivateNode d₃ x >>= fun e => .ok (e, some x)) = _
      rw [nodesActivateNode, hused]
      rfl
    · have hx := congrFun hslots₃ x
      rw [Function.update_self] at hx
      have hslot : (Node.slot { d₃.nodes x with active := true })
          = { d₃.slots x with active := true } := rfl
      rw [setNode_slots, hslot, hx, hslots₃, Function.update_idem]
      rfl
    · have hadr0 : adr ≠ 0 := registerAdr_ne_zero d.slots busadr
      have hassign : Quiet d₁ d₂ := quiet_setNode d₁ x rfl rfl (.inr hadr0)
      have hx : (d₂.nodes x).busadr ≠ 0 := by
        rw [setNode_self]
        exact hadr0
      exact ((hquiet.trans hassign).trans (quiet_createAddress d₂ x _ connect hx)).trans
        (quiet_setNode d₃ x rfl rfl (.inl rfl))

/-! ## Management packets -/

/-- A node on the bus has answered. -/
def SlotTable.confirm (t : SlotTable) (n : NodeId) : SlotTable :=
  Function.update t n { t n with active := true, state := .normal }

/-- What holds of all slots still does when one gets an id and an address. -/
theorem SlotTable.forall_register {Q : Slot → Prop} {t : SlotTable} (h : ∀ i, Q (t i))
    {x : NodeId} {id : CString} {adr : Int} {state : NodeState}
    (hx : Q ⟨id, false, true, state, adr⟩) : ∀ i, Q (t.register x id adr state i) :=
  (Function.forall_update_iff t fun _ s => Q s).mpr ⟨hx, fun i _ => h i⟩

theorem SlotTable.forall_confirm {Q : Slot → Prop} {t : SlotTable} (h : ∀ i, Q (t i))
    {x : NodeId} (hx : Q { t x with active := true, state := .normal }) :
    ∀ i, Q (t.confirm x i) :=
  (Function.forall_update_iff t fun _ s => Q s).mpr ⟨hx, fun i _ => h i⟩

/-- The table after `mgt_createBridge` for a `B` packet. -/
def SlotTable.bridged (t : SlotTable) (p : UbPacket) : SlotTable :=
  match t.target (packetId p 5) with
  | some x => t.register x (packetId p 5) 2 (t x).state
  | none => t

theorem bridged_some {t : SlotTable} {p : UbPacket} {x : NodeId}
    (h : t.target (packetId p 5) = some x) :
    t.bridged p = t.register x (packetId p 5) 2 (t x).state := by
  simp only [SlotTable.bridged, h]

theorem bridged_none {t : SlotTable} {p : UbPacket} (h : t.target (packetId p 5) = none) :
    t.bridged p = t := by
  simp only [SlotTable.bridged, h]

/-- A `D` finds the slot of its id. -/
theorem mgtCreateNode_target {d d' : Daemon} {p : UbPacket} {connect : UbnetdConnect}
    {o : Option NodeId} (hfree : ∀ i, (d.slots i).free = true → (d.slots i).active = false)
    (h : mgtCreateNode d (packetId p 7) connect = .ok (d', o)) :
    d.slots.target (packetId p 7) = o := by
  rcases mgtRegisterNode_spec d (packetId_length p 7) hfree .node 0 connect with
    ⟨htarget, hreg⟩ | ⟨d₁, x, htarget, hreg, -⟩
  · cases hreg.symm.trans h
    exact htarget
  · cases hreg.symm.trans h
    exact htarget

/-- Its node gets the address that is given next. -/
theorem mgtCreateNode_slots {d d' : Daemon} {p : UbPacket} {connect : UbnetdConnect} {x : NodeId}
    (hfree : ∀ i, (d.slots i).free = true → (d.slots i).active = false)
    (h : mgtCreateNode d (packetId p 7) connect = .ok (d', some x)) :
    d'.slots = d.slots.register x (packetId p 7) d.slots.freeAdr (d.slots x).state
      ∧ Quiet d d' := by
  rcases mgtRegisterNode_spec d (packetId_length p 7) hfree .node 0 connect with
    ⟨-, hreg⟩ | ⟨d₁, y, -, hreg, hslots, hquiet⟩
  · cases hreg.symm.trans h
  · cases hreg.symm.trans h
    exact ⟨hslots, hquiet⟩

theorem mgtCreateBridge_slots {d d' : Daemon} {p : UbPacket} {connect : UbnetdConnect}
    {o : Option NodeId} (hfree : ∀ i, (d.slots i).free = true → (d.slots i).active = false)
    (h : mgtCreateBridge d (packetId p 5) connect = .ok (d', o)) :
    d'.slots = d.slots.bridged p := by
  rcases mgtRegisterNode_spec d (packetId_length p 5) hfree .bridge 2 connect with
    ⟨htarget, hreg⟩ | ⟨d₁, x, htarget, hreg, hslots, -⟩
  · cases hreg.symm.trans h
    exact (bridged_none htarget).symm
  · cases hreg.symm.trans h
    exact hslots.trans (bridged_some htarget).symm

/-- A packet that registers nobody. -/
def Unregistering (p : UbPacket) (t : SlotTable) : Prop :=
  (p.kind = 0x44 → maxId < p.len.toNat ∨ t.target (packetId p 7) = none) ∧ p.kind ≠ 0x42

theorem unregistering_of_kind {p : UbPacket} {kind : UInt8} (t : SlotTable)
    (hkind : p.kind = kind) (hD : kind ≠ 0x44) (hB : kind ≠ 0x42) : Unregistering p t := by
  constructor
  · intro h
    exact absurd (hkind.symm.trans h) hD
  · rw [hkind]
    exact hB

/-- **What a management packet does to the slots.** A `D` registers its node under the
next free address, an `I` confirms a node that waits for it, a `B` registers the bridge at
address 2 and confirms the node at the address the packet came from. -/
inductive PacketChange (p : UbPacket) (t : SlotTable) : SlotTable → Prop
  | same (idle : Unregistering p t) : PacketChange p t t
  | discover {x : NodeId} (kind : p.kind = 0x44) (fits : p.len.toNat ≤ maxId)
      (slot : t.target (packetId p 7) = some x) :
      PacketChange p t (t.register x (packetId p 7) t.freeAdr .identify)
  | identify {x : NodeId} (kind : p.kind = 0x49) (slot : t.byId (packetId p 1) = some x)
      (waiting : (t x).state = .identify) :
      PacketChange p t (t.confirm x)
  | bridge {x n : NodeId} {t₁ : SlotTable} (kind : p.kind = 0x42)
      (slot : t.target (packetId p 5) = some x)
      (registered : t₁ = t.register x (packetId p 5) 2 (t x).state)
      (found : t₁.byAdr p.src.toNat = some n) :
      PacketChange p t (t₁.confirm n)
  | bridgeFull {n : NodeId} (kind : p.kind = 0x42) (slot : t.target (packetId p 5) = none)
      (found : t.byAdr p.src.toNat = some n) :
      PacketChange p t (t.confirm n)

section Packets

variable {d d' : Daemon} {p : UbPacket} {connect : UbnetdConnect}

theorem busmgtDiscover_change (hkind : p.kind = 0x44)
    (hfree : ∀ i, (d.slots i).free = true → (d.slots i).active = false)
    (h : busmgtDiscover d p connect = .ok d') :
    PacketChange p d.slots d'.slots ∧ Quiet d d' := by
  have hnotB : p.kind ≠ 0x42 := by
    rw [hkind]
    decide
  cases busmgtDiscover_discovers h with
  | ignored long => exact ⟨.same ⟨fun _ => .inl long, hnotB⟩, Quiet.refl d⟩
  | full fits created =>
      exact ⟨.same ⟨fun _ => .inr (mgtCreateNode_target hfree created), hnotB⟩, Quiet.refl d⟩
  | @discovered d₁ x fits created address =>
      obtain ⟨hslots, hquiet⟩ := mgtCreateNode_slots hfree created
      refine ⟨?_, (hquiet.trans (quiet_setNode d₁ x rfl rfl (.inl rfl))).trans
        (quiet_queue _ fun m hm => (discoverMessages_own hm).1)⟩
      have hx := congrFun hslots x
      rw [SlotTable.register, Function.update_self] at hx
      have hslot : Node.slot ((d₁.nodes x).discover p d₁.nodetimeout)
          = { d₁.slots x with state := .identify } := rfl
      have hlen : p.len.toNat ≤ maxId := Nat.le_trans fits.2 (by decide)
      rw [queue_slots, setNode_slots, hslot, hx, hslots, SlotTable.register,
        Function.update_idem]
      exact .discover hkind hlen (mgtCreateNode_target hfree created)

theorem busmgtIdentify_change (hkind : p.kind = 0x49) (h : busmgtIdentify d p = .ok d') :
    PacketChange p d.slots d'.slots ∧ Quiet d d' := by
  have hidle := unregistering_of_kind d.slots hkind (by decide) (by decide)
  rcases busmgtIdentify_writes h with ⟨x, haccepts, rfl⟩ | rfl | rfl
  · refine ⟨?_, (quiet_setNode d x rfl rfl (.inl rfl)).trans
      (quiet_queue _ fun m hm => (confirmMessages_own hm).1)⟩
    have hslot : Node.slot ((d.nodes x).confirmed d.nodetimeout)
        = { d.slots x with active := true, state := .normal } := rfl
    rw [queue_slots, setNode_slots, hslot]
    exact .identify hkind haccepts.named haccepts.waiting
  · refine ⟨.same hidle, quiet_queue d fun m hm => ?_⟩
    rw [List.mem_singleton.mp hm]
    rfl
  · exact ⟨.same hidle, Quiet.refl d'⟩

theorem busmgtVersion_change (hkind : p.kind = 0x56) (h : busmgtVersion d p = .ok d') :
    PacketChange p d.slots d'.slots ∧ Quiet d d' := by
  have hidle := unregistering_of_kind d.slots hkind (by decide) (by decide)
  obtain ⟨n, version, -, -, rfl⟩ := busmgtVersion_sets h
  refine ⟨?_, quiet_setNode d n rfl rfl (.inl rfl)⟩
  rw [setNode_slots_same d n rfl]
  exact .same hidle

theorem busmgtAlive_change (hkind : p.kind = 0x41) (h : busmgtAlive d p = .ok d') :
    PacketChange p d.slots d'.slots ∧ Quiet d d' := by
  have hidle := unregistering_of_kind d.slots hkind (by decide) (by decide)
  rcases busmgtAlive_cases h with ⟨-, rfl⟩ | ⟨n, -, rfl⟩
  · refine ⟨.same hidle, quiet_queue d fun m hm => ?_⟩
    rw [List.mem_singleton.mp hm]
    rfl
  · refine ⟨?_, quiet_setNode d n rfl rfl (.inl rfl)⟩
    rw [setNode_slots_same d n rfl]
    exact .same hidle

theorem busmgtBridge_change (hkind : p.kind = 0x42)
    (hfree : ∀ i, (d.slots i).free = true → (d.slots i).active = false)
    (h : busmgtBridge d p connect = .ok d') :
    PacketChange p d.slots d'.slots ∧ Quiet d d' := by
  obtain ⟨d₁, o, n, -, created, found, rfl⟩ := busmgtBridge_writes h
  -- what happens to the node that is found at the address of the sender
  have hend : Quiet d d₁ →
      ((d₁.setNode n fun x => x.announce p d₁.nodetimeout).queue
        (groupMessages (d₁.nodes n) ++ okMessages p.src)).slots = d₁.slots.confirm n
      ∧ Quiet d ((d₁.setNode n fun x => x.announce p d₁.nodetimeout).queue
        (groupMessages (d₁.nodes n) ++ okMessages p.src)) := by
    intro hquiet
    have hslot : Node.slot ((d₁.nodes n).announce p d₁.nodetimeout)
        = { d₁.slots n with state := .normal } := rfl
    have hactive : (d₁.slots n).active = true := (byAdr_eq_some found).2.1
    refine ⟨?_, (hquiet.trans (quiet_setNode d₁ n rfl rfl (.inl rfl))).trans
      (quiet_queue _ fun m hm => (confirmMessages_own hm).1)⟩
    rw [queue_slots, setNode_slots, hslot, SlotTable.confirm, ← hactive]
  rcases mgtRegisterNode_spec d (packetId_length p 5) hfree .bridge 2 connect with
    ⟨htarget, hreg⟩ | ⟨d₂, x, htarget, hreg, hslots, hquiet⟩
  · cases hreg.symm.trans created
    obtain ⟨hslots', hquiet'⟩ := hend (Quiet.refl d)
    rw [hslots']
    exact ⟨.bridgeFull hkind htarget found, hquiet'⟩
  · cases hreg.symm.trans created
    obtain ⟨hslots', hquiet'⟩ := hend hquiet
    rw [hslots']
    exact ⟨.bridge hkind htarget hslots found, hquiet'⟩

/-- **Every management packet**, well-formed or not, in a table whose free slots are
inactive. -/
theorem busmgtInpacket_change
    (hfree : ∀ i, (d.slots i).free = true → (d.slots i).active = false)
    (h : busmgtInpacket d p connect = .ok d') :
    PacketChange p d.slots d'.slots ∧ Quiet d d' := by
  unfold busmgtInpacket at h
  split_ifs at h with hD hI hV hA hB
  · exact busmgtDiscover_change hD hfree h
  · exact busmgtIdentify_change hI h
  · exact busmgtVersion_change hV h
  · exact busmgtAlive_change hA h
  · exact busmgtBridge_change hB hfree h
  · cases h
    exact ⟨.same ⟨fun hD' => absurd hD' hD, hB⟩, Quiet.refl d⟩

end Packets

/-! ## The tick -/

/-- A node is on the bus. -/
def NodeState.onBus (s : NodeState) : Prop := s = .identify ∨ s = .normal

/-- Take a node off the bus. It keeps its address. -/
def SlotTable.expire (t : SlotTable) (n : NodeId) : SlotTable :=
  Function.update t n { t n with active := false, state := .timeout }

theorem SlotTable.forall_expire {Q : Slot → Prop} {t : SlotTable} (h : ∀ i, Q (t i))
    {n : NodeId} (hn : Q { t n with active := false, state := .timeout }) :
    ∀ i, Q (t.expire n i) :=
  (Function.forall_update_iff t fun _ s => Q s).mpr ⟨hn, fun i _ => h i⟩

/-- Some of the nodes on the bus have timed out. -/
inductive Expired (t : SlotTable) : SlotTable → Prop
  | refl : Expired t t
  | step {t' : SlotTable} {n : NodeId} (before : Expired t t') (onBus : (t' n).state.onBus) :
      Expired t (t'.expire n)

/-- **The rule for expiry**, slot by slot. -/
theorem Expired.forall_slot {Q : Slot → Prop} {t t' : SlotTable} (hexp : Expired t t')
    (h : ∀ i, Q (t i)) (hexpire : ∀ s, Q s → Q { s with active := false, state := .timeout }) :
    ∀ i, Q (t' i) := by
  induction hexp with
  | refl => exact h
  | step _ _ ih => exact SlotTable.forall_expire ih (hexpire _ (ih _))

section Tick

theorem mgtRemoved_change (d : Daemon) (n : NodeId) :
    (mgtRemoved d n).slots = d.slots ∧ Quiet d (mgtRemoved d n) := by
  unfold mgtRemoved
  constructor
  · rw [setNode_slots_same _ n rfl, onNet_slots, setNode_slots_same d n rfl]
  · exact ((quiet_setNode d n rfl rfl (.inl rfl)).trans (quiet_removeSockets _ n _)).trans
      (quiet_setNode _ n rfl rfl (.inl rfl))

theorem mgtCheckNode_change {d d' : Daemon} {n : NodeId} (h : mgtCheckNode d n = .ok d') :
    (d'.slots = d.slots ∨ ((d.slots n).state.onBus ∧ d'.slots = d.slots.expire n))
      ∧ Quiet d d' := by
  cases mgtCheckNode_checks h with
  | off off => exact ⟨.inl rfl, Quiet.refl d⟩
  | left onBus left =>
      exact ⟨.inl (setNode_slots_same d n rfl), quiet_setNode d n rfl rfl (.inl rfl)⟩
  | out out =>
      -- what comes before the deactivation is not in the slot
      obtain ⟨hslots, hquiet⟩ := mgtRemoved_change d n
      refine ⟨.inr ⟨out.1, ?_⟩, hquiet.trans (quiet_setNode _ n rfl rfl (.inl rfl))⟩
      have hx := congrFun hslots n
      have hslot : Node.slot { (mgtRemoved d n).nodes n with active := false, state := .timeout }
          = { (mgtRemoved d n).slots n with active := false, state := .timeout } := rfl
      rw [setNode_slots, hslot, hx, hslots]
      rfl

/-- What every turn keeps, a counted loop over the nodes keeps. -/
theorem forEachNode_invariant {I : Daemon → Prop} {body : Daemon → NodeId → Except Fault Daemon}
    (hbody : ∀ d n d', I d → body d n = .ok d' → I d') {d d' : Daemon} (h : I d)
    (hrun : forEachNode body d = .ok d') : I d' := by
  refine Runs.foldlM_invariant (fun i _ b b' hb hturn => ?_) h hrun
  split at hturn
  · cases hturn
  · exact hbody b _ b' hb hturn

/-- **The rule for the tick**: what the turns of both its loops keep, it keeps. -/
theorem mgtTick_invariant {I : Daemon → Prop} {env : NodeId → NetEnv}
    (hcheck : ∀ d n d', I d → mgtCheckNode d n = .ok d' → I d')
    (hconfigure : ∀ d n d', I d → mgtConfigureNode env d n = .ok d' → I d') {d d' : Daemon}
    (h : I d) (hrun : mgtTick d env = .ok d') : I d' := by
  obtain ⟨d₁, hfirst, hsecond⟩ := bind_eq_ok.mp hrun
  exact forEachNode_invariant hconfigure (forEachNode_invariant hcheck h hfirst) hsecond

/-- A counted loop whose turns succeed and keep the `free` flags finds a node at every
turn. -/
theorem forEachNode_total {I : Daemon → Prop} {body : Daemon → NodeId → Except Fault Daemon}
    (hbody : ∀ d n, I d → (d.slots n).free = false →
      ∃ d', body d n = .ok d' ∧ I d' ∧ ∀ i, (d'.slots i).free = (d.slots i).free)
    {d : Daemon} (h : I d) : ∃ d', forEachNode body d = .ok d' ∧ I d' := by
  suffices hloop : ∃ d', forEachNode body d = .ok d'
      ∧ I d' ∧ ∀ i, (d'.slots i).free = (d.slots i).free by
    obtain ⟨d', hrun, hI, -⟩ := hloop
    exact ⟨d', hrun, hI⟩
  unfold forEachNode
  refine Runs.foldlM_total (I := fun e => I e ∧ ∀ i, (e.slots i).free = (d.slots i).free)
    (fun i hi e he => ?_) ⟨h, fun _ => rfl⟩
  · obtain ⟨hI, hfree⟩ := he
    have hcount : i < nodesGetNodeCount e := by
      rw [nodesGetNodeCount_congr hfree]
      exact List.mem_range.mp hi
    obtain ⟨n, hn, hnfree⟩ := nodesGetNode_lt hcount
    obtain ⟨e', hrun, hI', hfree'⟩ := hbody e n hI hnfree
    refine ⟨e', ?_, hI', fun j => (hfree' j).trans (hfree j)⟩
    rw [hn]
    exact hrun

theorem mgtTick_change {d d' : Daemon} {env : NodeId → NetEnv} (h : mgtTick d env = .ok d') :
    Expired d.slots d'.slots ∧ Quiet d d' := by
  refine mgtTick_invariant (I := fun e => Expired d.slots e.slots ∧ Quiet d e)
    (fun e n e' he hturn => ?_) (fun e n e' he hturn => ?_) ⟨.refl, Quiet.refl d⟩ h
  · obtain ⟨hchange, hquiet⟩ := mgtCheckNode_change hturn
    refine ⟨?_, he.2.trans hquiet⟩
    rcases hchange with hsame | ⟨honBus, hexp⟩
    · rw [hsame]
      exact he.1
    · rw [hexp]
      exact .step he.1 honBus
  · obtain ⟨hslots, hquiet⟩ := quiet_configure env hturn
    refine ⟨?_, he.2.trans hquiet⟩
    rw [hslots]
    exact he.1

/-- The tick never fails. -/
theorem mgtTick_ok (d : Daemon) (env : NodeId → NetEnv) : ∃ d', mgtTick d env = .ok d' := by
  have hcheck : ∃ d₁, forEachNode mgtCheckNode d = .ok d₁ ∧ True := by
    refine forEachNode_total (fun e n _ hfree => ?_) trivial
    have hok : ∃ e', mgtCheckNode e n = .ok e' := by
      unfold mgtCheckNode
      dsimp only
      split
      · split
        · have hused : ((mgtRemoved e n).nodes n).free = false := by
            have hx := congrFun (mgtRemoved_change e n).1 n
            exact (congrArg Slot.free hx).trans hfree
          unfold nodesDeactivateNode
          rw [hused]
          exact ⟨_, rfl⟩
        · exact ⟨_, rfl⟩
      · exact ⟨_, rfl⟩
    obtain ⟨e', he'⟩ := hok
    refine ⟨e', he', trivial, fun i => ?_⟩
    rcases (mgtCheckNode_change he').1 with hsame | ⟨-, hexp⟩
    · rw [hsame]
    · rw [hexp, SlotTable.expire]
      by_cases hi : i = n
      · subst hi
        rw [Function.update_self]
      · rw [Function.update_of_ne hi]
  obtain ⟨d₁, hd₁, -⟩ := hcheck
  have hconfigure : ∃ d', forEachNode (mgtConfigureNode env) d₁ = .ok d' ∧ True := by
    refine forEachNode_total (fun e n _ _ => ⟨_, rfl, trivial, fun i => ?_⟩) trivial
    rw [onNet_slots]
  obtain ⟨d', hd', -⟩ := hconfigure
  refine ⟨d', ?_⟩
  show (forEachNode mgtCheckNode d >>= fun d => forEachNode (mgtConfigureNode env) d) = _
  rw [hd₁]
  exact hd'

end Tick

end Ubd
