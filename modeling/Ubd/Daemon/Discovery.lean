import Ubd.Daemon.Bridge
import Ubd.Daemon.Exhaustion

/-!
# Daemon.Discovery — a node asks for an address

A `D` packet is read with offsets, its id is looked up, a slot and an address are found for
it, and two commands go out. `discover_registers` follows it from the packet to the queue.
-/

namespace Ubd

open Runs

/-- The addresses that are left for nodes. -/
def Daemon.left (d : Daemon) : Set Int := {a | 3 ≤ a ∧ a ≤ 254 ∧ ¬ d.Held a}

/-- What a `D` has done once its node is registered in slot `x`. -/
structure Discovered (d : Daemon) (p : UbPacket) (x : NodeId) (d' : Daemon) : Prop where
  /-- No other slot has changed, and this one has. -/
  changed : ∀ j, d'.nodes j ≠ d.nodes j ↔ j = x
  named : nodesGetNodeById d' (packetId p 7) = some x
  active : (d'.nodes x).active = true
  state : (d'.nodes x).state = .identify
  type : (d'.nodes x).type = .node
  timeout : (d'.nodes x).timeout = d.nodetimeout
  classes : (d'.nodes x).classes = discoveredClasses p
  address : IsLeast d.left (d'.nodes x).busadr
  queued : d'.packetOut = d.packetOut ++
    [mgtMessage ubAddressBridge 0x71
      [UInt8.ofInt (d'.nodes x).busadr, packetByte p 1, packetByte p 2],
    mgtMessage ubAddressBroadcast 0x53 (UInt8.ofInt (d'.nodes x).busadr :: packetId p 7 ++ [0])]

/-! ## The interval -/

/-- The interval is put together from two bytes and taken apart again. -/
theorem interval_bytes (a b : UInt8) :
    (((a.toUInt16 <<< 8) + b.toUInt16) >>> 8).toUInt8 = a
      ∧ (((a.toUInt16 <<< 8) + b.toUInt16) &&& 0xFF).toUInt8 = b := by
  have ha := a.toNat_lt
  have hb := b.toNat_lt
  have hsum : ((a.toUInt16 <<< 8) + b.toUInt16).toNat = a.toNat * 256 + b.toNat := by
    rw [UInt16.toNat_add, UInt16.toNat_shiftLeft]
    simp only [UInt8.toNat_toUInt16, UInt16.reduceToNat, Nat.shiftLeft_eq,
      Nat.reduceMod, Nat.reducePow]
    omega
  constructor
  · apply UInt8.toNat_inj.mp
    rw [UInt16.toNat_toUInt8, UInt16.toNat_shiftRight, hsum]
    simp only [UInt16.reduceToNat, Nat.shiftRight_eq_div_pow, Nat.reduceMod,
      Nat.reducePow]
    omega
  · apply UInt8.toNat_inj.mp
    rw [UInt16.toNat_toUInt8, UInt16.toNat_and, hsum]
    simp only [UInt16.reduceToNat, Nat.and_two_pow_sub_one_eq_mod _ 8]
    omega

/-- What the bridge is told is what the packet says. -/
theorem discoverMessages_eq (p : UbPacket) (adr : UInt8) :
    discoverMessages p adr = [mgtMessage ubAddressBridge 0x71 [adr, packetByte p 1, packetByte p 2],
      mgtMessage ubAddressBroadcast 0x53 (adr :: packetId p 7 ++ [0])] := by
  obtain ⟨hhigh, hlow⟩ := interval_bytes (packetByte p 1) (packetByte p 2)
  unfold discoverMessages
  dsimp only
  rw [hhigh, hlow]

/-! ## The slot -/

section Registering

variable {d d' : Daemon} {p : UbPacket} {x : NodeId} {connect : UbnetdConnect}

theorem mgtRegisterNode_type {id : CString} {type : NodeType} {busadr : UInt8}
    (h : mgtRegisterNode d id type busadr connect = .ok (d', some x)) :
    (d'.nodes x).type = type := by
  rcases mgtRegisterNode_cases h with ⟨-, hnone⟩ | ⟨d₁, y, adr, -, hsome, rfl⟩
  · cases hnone
  · cases hsome
    unfold Daemon.registered
    dsimp only
    rw [setNode_self]
    refine (congrArg Node.type (onNet_bus _ x _ x)).trans ?_
    rw [setNode_self]
    rfl

/-- While an address is left, the least one is given. -/
theorem freeAdr_isLeast (h : d.slots.Assigned) (hleft : d.left.Nonempty) :
    IsLeast d.left d.slots.freeAdr := by
  have hlower : ∀ a ∈ d.left, 3 ≤ d.slots.freeAdr ∧ d.slots.freeAdr ≤ a :=
    fun a ⟨hlo, hhi, hfree⟩ => freeAdr_le hlo hhi ((byAdr_eq_none_iff h a).mpr hfree)
  refine ⟨?_, fun a ha => (hlower a ha).2⟩
  obtain ⟨a, ha⟩ := hleft
  obtain ⟨hlo, -⟩ := hlower a ha
  rcases freeAdr_spec d.slots with ⟨-, hhi, hnone⟩ | ⟨hneg, -⟩
  · exact ⟨hlo, hhi, (byAdr_eq_none_iff h _).mp hnone⟩
  · omega

theorem registrable_of_target {id : CString} (h : d.slots.target id = some x) :
    Registrable d id := by
  rcases target_some h with hby | ⟨-, hfree⟩
  · exact ⟨x, .inr (byId_eq_some.mp hby).1.2⟩
  · exact ⟨x, .inl hfree⟩

/-- The slot that `mgt_createNode` returns. -/
theorem mgtCreateNode_slot (h : d.slots.Assigned)
    (hcreated : mgtCreateNode d (packetId p 7) connect = .ok (d', some x)) :
    (d'.nodes x).slot = ⟨packetId p 7, false, true, (d.slots x).state, d.slots.freeAdr⟩ := by
  have hx := congrFun (mgtCreateNode_slots h.free hcreated).1 x
  rw [SlotTable.register, Function.update_self] at hx
  exact hx

/-- The nodes after a `D`. -/
theorem discovered_nodes {d₁ : Daemon}
    (hcreated : mgtCreateNode d (packetId p 7) connect = .ok (d₁, some x))
    (hd' : d' = (d₁.setNode x fun y => y.discover p d₁.nodetimeout).queue
      (discoverMessages p (UInt8.ofInt (d₁.nodes x).busadr))) :
    d'.nodes x = (d₁.nodes x).discover p d.nodetimeout
      ∧ ∀ j, j ≠ x → d'.nodes j = d.nodes j := by
  obtain ⟨hothers, -, -, hconfig⟩ := mgtRegisterNode_nodes hcreated
  subst hd'
  constructor
  · rw [← hconfig]
    exact setNode_self d₁ x fun y => y.discover p d₁.nodetimeout
  · intro j hj
    exact (setNode_of_ne d₁ x (fun y => y.discover p d₁.nodetimeout) hj).trans (hothers j hj)

/-- An id is looked up to the slot in which it has been registered. -/
theorem getNodeById_registered {id : CString} (hothers : ∀ j, j ≠ x → d'.nodes j = d.nodes j)
    (htarget : d.slots.target id = some x) (hid : (d'.nodes x).slot.id = id)
    (hused : (d'.nodes x).slot.free = false) : nodesGetNodeById d' id = some x := by
  have htable : d'.slots = Function.update d.slots x (d'.nodes x).slot := by
    funext j
    by_cases hj : j = x
    · rw [hj, Function.update_self]
      rfl
    · rw [Function.update_of_ne hj]
      exact congrArg Node.slot (hothers j hj)
  rw [nodesGetNodeById_slots, htable, byId_update htarget hid hused, if_pos rfl]

/-- A `D` is about the node that `mgt_createNode` returns. -/
theorem created_discovered (h : d.slots.Assigned) (hleft : d.left.Nonempty) {d₁ : Daemon}
    (hcreated : mgtCreateNode d (packetId p 7) connect = .ok (d₁, some x))
    (hd' : d' = (d₁.setNode x fun y => y.discover p d₁.nodetimeout).queue
      (discoverMessages p (UInt8.ofInt (d₁.nodes x).busadr))) : Discovered d p x d' := by
  obtain ⟨hx, hothers⟩ := discovered_nodes hcreated hd'
  have hslot := mgtCreateNode_slot h hcreated
  have hslot' : (d'.nodes x).slot
      = ⟨packetId p 7, false, true, .identify, d.slots.freeAdr⟩ := by
    rw [hx]
    exact congrArg (fun s : Slot => { s with state := .identify }) hslot
  have hactive : (d'.nodes x).active = true := congrArg Slot.active hslot'
  have haddress : (d'.nodes x).busadr = d.slots.freeAdr := congrArg Slot.busadr hslot'
  have hleast := freeAdr_isLeast h hleft
  constructor
  case changed =>
    intro j
    constructor
    · intro hchanged
      by_contra hj
      exact hchanged (hothers j hj)
    · rintro rfl hsame
      -- an active node would have held the new address already
      rw [hsame] at hactive haddress
      exact hleast.1.2.2 ⟨j, hactive, haddress⟩
  case named =>
    exact getNodeById_registered hothers (mgtCreateNode_target h.free hcreated)
      (congrArg Slot.id hslot') (congrArg Slot.free hslot')
  case active => exact hactive
  case state => exact congrArg Slot.state hslot'
  case type =>
    rw [hx]
    exact mgtRegisterNode_type hcreated
  case timeout => rw [hx, Node.discover]
  case classes => rw [hx, Node.discover]
  case address =>
    rw [haddress]
    exact hleast
  case queued =>
    have hadr : (d₁.nodes x).busadr = d.slots.freeAdr := congrArg Slot.busadr hslot
    rw [haddress, ← discoverMessages_eq, ← hadr, hd', ← mgtRegisterNode_packetOut hcreated]
    rfl

/-- **A `D`**, whatever happened before: all it needs is `Assigned`. -/
theorem busmgtInpacket_discover (h : d.slots.Assigned) (connect : UbnetdConnect)
    (hkind : p.kind = 0x44) (hlo : 7 ≤ p.len.toNat) (hhi : p.len.toNat ≤ 45) :
    (d.left.Nonempty → Registrable d (packetId p 7) →
      ∃ x d', busmgtInpacket d p connect = .ok d' ∧ Discovered d p x d')
    ∧ (¬ Registrable d (packetId p 7) → busmgtInpacket d p connect = .ok d) := by
  obtain ⟨d', hrun⟩ := @busmgtDiscover_ok d p connect h.free hlo hhi
  rw [busmgtInpacket, if_pos hkind, hrun]
  have hfits : p.len.toNat ≤ maxId := le_trans hhi (by decide)
  cases busmgtDiscover_discovers hrun with
  | ignored long => omega
  | full fits created =>
      refine ⟨fun _ hslot => ?_, fun _ => rfl⟩
      obtain ⟨x, hx⟩ := target_of_registrable hslot
      have hnone := mgtCreateNode_target h.free created
      rw [hx] at hnone
      cases hnone
  | @discovered d₁ x fits created address =>
      refine ⟨fun hleft _ => ⟨x, _, rfl, created_discovered h hleft created rfl⟩, fun hfull => ?_⟩
      exact absurd (registrable_of_target (mgtCreateNode_target h.free created)) hfull

end Registering

/-- **A `D` in any run.** While an address is left, its node is registered, if its id is known
or a slot is free; if neither, nothing happens. -/
theorem discover_registers {nodetimeout : Int} {cs : List NodeConfig} {d₀ d : Daemon}
    {es : List DaemonEvent} (hconfigured : configured nodetimeout cs = .ok d₀)
    (hrun : Run daemonStep (fun _ _ => True) d₀ es d) (p : UbPacket) (connect : UbnetdConnect)
    (hkind : p.kind = 0x44) (hlen : 7 ≤ p.len.toNat ∧ p.len.toNat ≤ 45) :
    (d.left.Nonempty → Registrable d (packetId p 7) →
      ∃ x d', daemonStep d (.packet p connect) = .ok d' ∧ Discovered d p x d')
    ∧ (¬ Registrable d (packetId p 7) → daemonStep d (.packet p connect) = .ok d) := by
  have hwired : Wired d :=
    hrun.invariant (configured_wired hconfigured).1 fun _ _ _ h _ hstep => h.step hstep
  exact busmgtInpacket_discover hwired.assigned connect hkind hlen.1 hlen.2

/-- The first node of all. -/
theorem discover_registers_first : ∃ x d',
    daemonStep (nodesInit 30) (.packet (newcomer 0) .connected) = .ok d'
      ∧ Discovered (nodesInit 30) (newcomer 0) x d' := by
  obtain ⟨hroom, -⟩ := @discover_registers 30 [] _ _ [] rfl .nil
    (newcomer 0) .connected (discoverPacket_kind _) (by decide)
  refine hroom ⟨3, by decide, by decide, ?_⟩ ⟨⟨0, by decide⟩, .inl rfl⟩
  rintro ⟨i, hactive, -⟩
  cases hactive

end Ubd
