import Ubd.Daemon.Inpacket

/-!
# Daemon.Bridge — announcing a bridge

A `B` packet registers its bridge by id and goes on with the node it finds at the address
of the sender. `bridge_announced_iff` says when the two are one node, or when it makes no
difference.
-/

namespace Ubd

open Runs

/-- The node is in the state the announcement asks for. -/
structure UpToDate (d : Daemon) (p : UbPacket) (i : NodeId) : Prop where
  state : (d.nodes i).state = .normal
  classes : (d.nodes i).classes = announcedClasses p
  timeout : (d.nodes i).timeout = d.nodetimeout

/-- The bridge is on the bus. -/
structure Announced (d : Daemon) (p : UbPacket) (x : NodeId) : Prop extends UpToDate d p x where
  id : (d.nodes x).id = packetId p 5
  active : (d.nodes x).active = true
  busadr : (d.nodes x).busadr = 2

/-- The announcement takes effect on the bridge in slot `x`, nobody else is at its address,
and no other node has changed unless it was at that address before. -/
def TakesEffect (d : Daemon) (p : UbPacket) (connect : UbnetdConnect) (x : NodeId) : Prop :=
  ∃ d', busmgtInpacket d p connect = .ok d' ∧ Announced d' p x
    ∧ (∀ j, j ≠ x → (d'.nodes j).active = true → (d'.nodes j).busadr ≠ 2)
    ∧ ∀ j, j ≠ x → d'.nodes j = d.nodes j
      ∨ ((d.nodes j).active = true ∧ (d.nodes j).busadr = 2)

/-- The first node at this address, other than `x`. -/
def SlotTable.otherAt (t : SlotTable) (x : NodeId) (adr : Int) : Option NodeId :=
  slots.find? fun i => decide (i ≠ x) && (t i).holds adr

/-- Nobody but the bridge is at address 2, and the packet comes from there. Or it comes from
another node, and both that and the bridge are in the state the announcement asks for already. -/
def AnnouncedAlone (d : Daemon) (p : UbPacket) (x : NodeId) : Prop :=
  (∀ j, j ≠ x → (d.nodes j).active = true → (d.nodes j).busadr ≠ 2)
    ∧ (p.src = 2 ∨ ∃ n, d.slots.otherAt x p.src.toNat = some n
      ∧ UpToDate d p n ∧ (d.nodes n).busup = true ∧ UpToDate d p x)

/-! ## What a `B` packet does to the nodes -/

theorem Node.announce_eq_self {x : Node} {p : UbPacket} {nodetimeout : Int} :
    x.announce p nodetimeout = x ↔ x.state = .normal ∧ x.classes = announcedClasses p
      ∧ x.timeout = nodetimeout ∧ x.busup = true := by
  constructor
  · intro h
    exact ⟨(congrArg Node.state h).symm, (congrArg Node.classes h).symm,
      (congrArg Node.timeout h).symm, (congrArg Node.busup h).symm⟩
  · rintro ⟨hstate, hclasses, htimeout, hbusup⟩
    unfold Node.announce
    rw [← hstate, ← hclasses, ← htimeout, ← hbusup]

section Registering

variable {d d' : Daemon} {x : NodeId} {p : UbPacket} {connect : UbnetdConnect}

theorem onNet_of_ne (d : Daemon) (f : NetState → NetState) {j : NodeId} (h : j ≠ x) :
    (d.onNet x f).nodes j = d.nodes j := by
  unfold Daemon.onNet
  dsimp only
  rw [setNode_of_ne d x _ h]

theorem LooksUp.nodes {id : CString} (h : LooksUp d id x d') :
    (∀ j, j ≠ x → d'.nodes j = d.nodes j) ∧ (d'.nodes x).timeout = (d.nodes x).timeout
      ∧ ((d.nodes x).free = false → (d'.nodes x).classes = (d.nodes x).classes)
      ∧ d'.nodetimeout = d.nodetimeout := by
  cases h with
  | known found => exact ⟨fun _ _ => rfl, rfl, fun _ => rfl, rfl⟩
  | new unknown free =>
      unfold nodesAddNode
      refine ⟨fun j hj => ?_, ?_, fun hused => ?_, rfl⟩
      · rw [setNode_of_ne _ x _ hj, setNode_of_ne _ x _ hj, setNode_of_ne _ x _ hj]
      · simp only [setNode_self, nodesSetNameFromID]
        split <;> rfl
      · rw [free] at hused
        cases hused

/-- Registration changes one node, and neither its timeout nor the classes it had. -/
theorem mgtRegisterNode_nodes {id : CString} {type : NodeType} {busadr : UInt8}
    (h : mgtRegisterNode d id type busadr connect = .ok (d', some x)) :
    (∀ j, j ≠ x → d'.nodes j = d.nodes j) ∧ (d'.nodes x).timeout = (d.nodes x).timeout
      ∧ ((d.nodes x).free = false → (d'.nodes x).classes = (d.nodes x).classes)
      ∧ d'.nodetimeout = d.nodetimeout := by
  rcases mgtRegisterNode_cases h with ⟨-, hnone⟩ | ⟨d₁, y, adr, hlook, hsome, rfl⟩
  · cases hnone
  · cases hsome
    obtain ⟨hothers, htimeout, hclasses, hconfig⟩ := hlook.nodes
    unfold Daemon.registered
    dsimp only
    refine ⟨fun j hj => ?_, ?_, fun hused => ?_, hconfig⟩
    · rw [setNode_of_ne _ x _ hj, onNet_of_ne _ _ hj, setNode_of_ne _ x _ hj]
      exact hothers j hj
    · rw [setNode_self]
      refine (congrArg Node.timeout (onNet_bus _ x _ x)).trans ?_
      rw [setNode_self]
      exact htimeout
    · rw [setNode_self]
      refine (congrArg Node.classes (onNet_bus _ x _ x)).trans ?_
      rw [setNode_self]
      exact hclasses hused

/-- Away from address 2, registering a bridge only takes its slot out of the lookup. -/
theorem bridged_byAdr {t : SlotTable} (htarget : t.target (packetId p 5) = some x)
    (hsrc : p.src ≠ 2) : (t.bridged p).byAdr p.src.toNat = t.otherAt x p.src.toNat := by
  have hadr : (2 : Int) ≠ p.src.toNat := fun h =>
    hsrc (UInt8.toNat_inj.mp (Int.ofNat_inj.mp h.symm))
  unfold SlotTable.byAdr SlotTable.otherAt
  rw [bridged_some htarget]
  refine congrArg (List.find? · slots) (funext fun i => ?_)
  by_cases hi : i = x
  · subst hi
    rw [SlotTable.register, Function.update_self, Slot.holds]
    simp [hadr]
  · rw [SlotTable.register, Function.update_of_ne hi]
    simp [hi]

end Registering

/-- What a `B` packet does: `d₁` is the daemon with its bridge registered in slot `x`, and `n`
the node that is then found at the address of the sender. -/
structure Bridging (d d₁ d' : Daemon) (p : UbPacket) (x n : NodeId) : Prop where
  slots : d₁.slots = d.slots.bridged p
  found : (d.slots.bridged p).byAdr p.src.toNat = some n
  others : ∀ j, j ≠ x → d₁.nodes j = d.nodes j
  timeout : (d₁.nodes x).timeout = (d.nodes x).timeout
  classes : (d.nodes x).free = false → (d₁.nodes x).classes = (d.nodes x).classes
  nodes : d'.nodes = Function.update d₁.nodes n ((d₁.nodes n).announce p d.nodetimeout)
  nodetimeout : d'.nodetimeout = d.nodetimeout

theorem busmgtBridge_nodes {d d' : Daemon} {p : UbPacket} {connect : UbnetdConnect} {x : NodeId}
    (h : d.slots.Assigned) (htarget : d.slots.target (packetId p 5) = some x)
    (hrun : busmgtBridge d p connect = .ok d') : ∃ d₁ n, Bridging d d₁ d' p x n := by
  obtain ⟨d₁, o, n, -, hcreate, hfound, rfl⟩ := busmgtBridge_writes hrun
  have hbridged := mgtCreateBridge_slots h.free hcreate
  unfold mgtCreateBridge at hcreate
  rcases mgtRegisterNode_spec d (packetId_length p 5) h.free .bridge 2 connect with
    ⟨hnone, -⟩ | ⟨d₂, y, hy, hreg, -, -⟩
  · rw [htarget] at hnone
    cases hnone
  · rw [htarget] at hy
    cases hy
    cases hreg.symm.trans hcreate
    obtain ⟨hothers, htimeout, hclasses, hconfig⟩ := mgtRegisterNode_nodes hcreate
    rw [hbridged] at hfound
    refine ⟨d₁, n, hbridged, hfound, hothers, htimeout, hclasses, ?_, hconfig⟩
    rw [← hconfig]
    rfl

namespace Bridging

variable {d d₁ d' : Daemon} {p : UbPacket} {x n : NodeId}

theorem at_found (h : Bridging d d₁ d' p x n) :
    d'.nodes n = (d₁.nodes n).announce p d.nodetimeout := by
  rw [h.nodes, Function.update_self]

theorem at_other (h : Bridging d d₁ d' p x n) {j : NodeId} (hj : j ≠ n) :
    d'.nodes j = d₁.nodes j := by
  rw [h.nodes, Function.update_of_ne hj]

/-- Announcing changes neither ids nor flags nor addresses. -/
theorem same_place (h : Bridging d d₁ d' p x n) (j : NodeId) :
    (d'.nodes j).id = (d₁.nodes j).id ∧ (d'.nodes j).active = (d₁.nodes j).active
      ∧ (d'.nodes j).busadr = (d₁.nodes j).busadr := by
  by_cases hj : j = n
  · subst hj
    rw [h.at_found]
    exact ⟨rfl, rfl, rfl⟩
  · rw [h.at_other hj]
    exact ⟨rfl, rfl, rfl⟩

theorem slot_bridge (h : Bridging d d₁ d' p x n)
    (htarget : d.slots.target (packetId p 5) = some x) :
    (d₁.nodes x).slot = ⟨packetId p 5, false, true, (d.nodes x).state, 2⟩ := by
  have hx := congrFun h.slots x
  rw [bridged_some htarget, SlotTable.register, Function.update_self] at hx
  exact hx

/-- Being announced is being up to date: the rest is what registering does. -/
theorem announced_iff (h : Bridging d d₁ d' p x n)
    (htarget : d.slots.target (packetId p 5) = some x) :
    Announced d' p x ↔ UpToDate d' p x := by
  refine ⟨fun hall => hall.toUpToDate, fun hup => ?_⟩
  obtain ⟨hid, hactive, hadr⟩ := h.same_place x
  have hslot := h.slot_bridge htarget
  exact ⟨hup, hid.trans (congrArg Slot.id hslot), hactive.trans (congrArg Slot.active hslot),
    hadr.trans (congrArg Slot.busadr hslot)⟩

/-- Who is alone at address 2 was so before. -/
theorem alone_iff (h : Bridging d d₁ d' p x n) :
    (∀ j, j ≠ x → (d'.nodes j).active = true → (d'.nodes j).busadr ≠ 2)
      ↔ ∀ j, j ≠ x → (d.nodes j).active = true → (d.nodes j).busadr ≠ 2 := by
  refine forall_congr' fun j => forall_congr' fun hj => ?_
  obtain ⟨-, hactive, hadr⟩ := h.same_place j
  rw [hactive, hadr, h.others j hj]

/-- The node that is found is active at the address of the sender. -/
theorem found_place (h : Bridging d d₁ d' p x n) :
    (d₁.nodes n).active = true ∧ (d₁.nodes n).busadr = p.src.toNat := by
  obtain ⟨-, hactive, hadr⟩ := byAdr_eq_some h.found
  rw [← h.slots] at hactive hadr
  exact ⟨hactive, hadr⟩

/-- A packet from the address of the bridge finds it, if nobody else is there. -/
theorem finds_bridge (h : Bridging d d₁ d' p x n) (hsrc : p.src = 2)
    (halone : ∀ j, j ≠ x → (d.nodes j).active = true → (d.nodes j).busadr ≠ 2) : n = x := by
  by_contra hnx
  obtain ⟨hactive, hadr⟩ := h.found_place
  rw [h.others n hnx] at hactive hadr
  rw [hsrc] at hadr
  exact halone n hnx hactive hadr

/-- A packet from elsewhere does not, and finds nobody at address 2. -/
theorem finds_other (h : Bridging d d₁ d' p x n)
    (htarget : d.slots.target (packetId p 5) = some x) (hsrc : p.src ≠ 2) :
    n ≠ x ∧ (d₁.nodes n).busadr ≠ 2 := by
  have hne2 : (d₁.nodes n).busadr ≠ 2 := by
    intro h2
    exact hsrc (UInt8.toNat_inj.mp (Int.ofNat_inj.mp (h.found_place.2.symm.trans h2)))
  refine ⟨?_, hne2⟩
  rintro rfl
  exact hne2 (congrArg Slot.busadr (h.slot_bridge htarget))

/-- If another node is announced, the bridge stays as it was. -/
theorem upToDate_iff (h : Bridging d d₁ d' p x n) (hassigned : d.slots.Assigned)
    (htarget : d.slots.target (packetId p 5) = some x) (hnx : n ≠ x) :
    UpToDate d' p x ↔ UpToDate d p x := by
  have hx : d'.nodes x = d₁.nodes x := h.at_other (Ne.symm hnx)
  have hstate : (d'.nodes x).state = (d.nodes x).state := by
    rw [hx]
    exact congrArg Slot.state (h.slot_bridge htarget)
  have hclasses : (d.nodes x).state = .normal → (d'.nodes x).classes = (d.nodes x).classes := by
    intro hnormal
    rw [hx]
    exact h.classes (hassigned.used (hassigned.onBus x (.inr hnormal)))
  have htimeout : (d'.nodes x).timeout = (d.nodes x).timeout := by
    rw [hx]
    exact h.timeout
  constructor
  · rintro ⟨hs, hc, ht⟩
    rw [hstate] at hs
    exact ⟨hs, (hclasses hs).symm.trans hc, htimeout.symm.trans (ht.trans h.nodetimeout)⟩
  · rintro ⟨hs, hc, ht⟩
    exact ⟨hstate.trans hs, (hclasses hs).trans hc,
      htimeout.trans (ht.trans h.nodetimeout.symm)⟩

/-- Another node that is announced does not change only if there is nothing to change. -/
theorem same_iff (h : Bridging d d₁ d' p x n) (hnx : n ≠ x) :
    d'.nodes n = d.nodes n ↔ UpToDate d p n ∧ (d.nodes n).busup = true := by
  rw [h.at_found, h.others n hnx, Node.announce_eq_self]
  exact ⟨fun ⟨hs, hc, ht, hb⟩ => ⟨⟨hs, hc, ht⟩, hb⟩, fun ⟨⟨hs, hc, ht⟩, hb⟩ => ⟨hs, hc, ht, hb⟩⟩

/-- The bridge itself is brought up to date. -/
theorem upToDate_found (h : Bridging d d₁ d' p x n) : UpToDate d' p n := by
  refine ⟨?_, ?_, ?_⟩
  · rw [h.at_found]
    rfl
  · rw [h.at_found]
    rfl
  · rw [h.at_found, h.nodetimeout]
    rfl

end Bridging

/-- **Announcing a bridge.** -/
theorem takesEffect_iff {d : Daemon} {p : UbPacket} {connect : UbnetdConnect} {x : NodeId}
    (h : d.slots.Assigned) (hkind : p.kind = 0x42) (hlo : 5 ≤ p.len.toNat)
    (hhi : p.len.toNat ≤ 45) (htarget : d.slots.target (packetId p 5) = some x) :
    TakesEffect d p connect x ↔ AnnouncedAlone d p x := by
  have hinpacket : busmgtInpacket d p connect = busmgtBridge d p connect := by
    rw [busmgtInpacket, hkind, if_neg (by decide), if_neg (by decide), if_neg (by decide),
      if_neg (by decide), if_pos rfl]
  unfold TakesEffect
  rw [hinpacket]
  constructor
  · rintro ⟨d', hrun, hannounced, hunique, hframe⟩
    obtain ⟨d₁, n, hb⟩ := busmgtBridge_nodes h htarget hrun
    refine ⟨hb.alone_iff.mp hunique, ?_⟩
    by_cases hsrc : p.src = 2
    · exact .inl hsrc
    · obtain ⟨hnx, hne2⟩ := hb.finds_other htarget hsrc
      rw [hb.others n hnx] at hne2
      have hsame := (hframe n hnx).resolve_right fun hboth => hne2 hboth.2
      obtain ⟨hupn, hbusup⟩ := (hb.same_iff hnx).mp hsame
      exact .inr ⟨n, (bridged_byAdr htarget hsrc).symm.trans hb.found, hupn, hbusup,
        (hb.upToDate_iff h htarget hnx).mp hannounced.toUpToDate⟩
  · rintro ⟨halone, hsender⟩
    have hfound : ∃ n, (d.slots.bridged p).byAdr p.src.toNat = some n := by
      by_cases hsrc : p.src = 2
      · rw [exists_bridged_byAdr_iff h p]
        exact .inr ⟨hsrc, by rw [htarget]; simp⟩
      · obtain ⟨n, hn, -⟩ := hsender.resolve_left hsrc
        exact ⟨n, (bridged_byAdr htarget hsrc).trans hn⟩
    obtain ⟨d', hrun⟩ : ∃ d', busmgtBridge d p connect = .ok d' :=
      busmgtBridge_ok h.free hlo hhi hfound
    obtain ⟨d₁, n, hb⟩ := busmgtBridge_nodes h htarget hrun
    refine ⟨d', hrun, ?_⟩
    rw [hb.announced_iff htarget, hb.alone_iff]
    by_cases hnx : n = x
    · subst hnx
      refine ⟨hb.upToDate_found, halone, fun j hj => .inl ?_⟩
      rw [hb.at_other hj, hb.others j hj]
    · -- the sender is another node, which has nothing to change
      have hsrc : p.src ≠ 2 := fun hsrc => hnx (hb.finds_bridge hsrc halone)
      obtain ⟨m, hm, hupn, hbusup, hupx⟩ := hsender.resolve_left hsrc
      cases hb.found.symm.trans ((bridged_byAdr htarget hsrc).trans hm)
      refine ⟨(hb.upToDate_iff h htarget hnx).mpr hupx, halone, fun j hj => .inl ?_⟩
      by_cases hjn : j = n
      · rw [hjn]
        exact (hb.same_iff hnx).mpr ⟨hupn, hbusup⟩
      · rw [hb.at_other hjn, hb.others j hj]

/-- **An announcement takes effect on the announced bridge alone** exactly when nobody else
is at address 2 and it comes from there, or has nothing to change. -/
theorem bridge_announced_iff (nodetimeout : Int) (cs : List NodeConfig) (d₀ d : Daemon)
    (es : List DaemonEvent) (h₀ : configured nodetimeout cs = .ok d₀)
    (h : Run daemonStep (fun _ _ => True) d₀ es d) (p : UbPacket) (connect : UbnetdConnect)
    (x : NodeId) (hkind : p.kind = 0x42) (hlo : 5 ≤ p.len.toNat) (hhi : p.len.toNat ≤ 45)
    (hx : d.slots.target (packetId p 5) = some x) :
    TakesEffect d p connect x ↔ AnnouncedAlone d p x := by
  have hwired : Wired d := h.invariant (I := Wired) (configured_wired h₀).1
    fun _ _ _ hs _ hstep => hs.step hstep
  exact takesEffect_iff hwired.assigned hkind hlo hhi hx

/-- A `B` packet from address 2 with this id. -/
def announcePacket (id : CString) : UbPacket where
  src := 2
  dest := 1
  flags := ubPacketMgt
  cls := 0
  len := UInt8.ofNat (5 + id.length)
  data := Vector.ofFn fun i => ([0x42, 23, 0, 0, 0] ++ id).getD i.val 0

/-- The first bridge. -/
theorem bridge_announced_iff_first :
    TakesEffect (nodesInit 30) (announcePacket [0x61]) .connected ⟨0, by decide⟩
      ↔ AnnouncedAlone (nodesInit 30) (announcePacket [0x61]) ⟨0, by decide⟩ :=
  bridge_announced_iff 30 [] (nodesInit 30) (nodesInit 30) [] rfl .nil _ .connected _ (by decide)
    (by decide) (by decide) (by decide +kernel)

/-- The state after a bridge was announced, and where another one will be put. -/
theorem second_bridge : ∃ d, Run daemonStep (fun _ _ => True) (nodesInit 30)
      [.packet (announcePacket [0x61]) .connected] d
    ∧ (d.slots ⟨0, by decide⟩).active = true ∧ (d.slots ⟨0, by decide⟩).busadr = 2
    ∧ d.slots.target (packetId (announcePacket [0x62]) 5) = some ⟨1, by decide⟩ := by
  apply Run.exists_of_eval Fault.assertion
  decide +kernel

/-- **Another bridge** leaves the first one at its address. -/
theorem second_bridge_ignored : configured 30 [] = .ok (nodesInit 30)
    ∧ ∃ d, Run daemonStep (fun _ _ => True) (nodesInit 30)
        [.packet (announcePacket [0x61]) .connected] d
      ∧ d.slots.target (packetId (announcePacket [0x62]) 5) = some ⟨1, by decide⟩
      ∧ ¬ TakesEffect d (announcePacket [0x62]) .connected ⟨1, by decide⟩ := by
  obtain ⟨d, hrun, hactive, hadr, htarget⟩ := second_bridge
  have h₀ : configured 30 [] = .ok (nodesInit 30) := rfl
  have hwired : Wired d := hrun.invariant (I := Wired) (configured_wired h₀).1
    fun _ _ _ hs _ hstep => hs.step hstep
  refine ⟨rfl, d, hrun, htarget, ?_⟩
  rw [takesEffect_iff hwired.assigned (by decide) (by decide) (by decide) htarget]
  rintro ⟨halone, -⟩
  exact halone ⟨0, by decide⟩ (by decide) hactive hadr

end Ubd
