import Ubd.Daemon.Routing

/-!
# Daemon.Inpacket — what a packet from the bus can do at worst

Nobody has looked at a packet before `busmgt_inpacket` does, and its length byte can be
anything. The handlers compute with it before they check it, and two of them look up the
sender without checking that it was found. `packet_handled_iff` says which packets they
survive, in whatever state the daemon is.
-/

namespace Ubd

open Runs

/-- Where the id or the text of a packet starts in its data. -/
def UbPacket.textOffset (p : UbPacket) : Option Nat :=
  if p.kind = 0x44 then some 7
  else if p.kind = 0x49 then some 1
  else if p.kind = 0x56 then some 2
  else if p.kind = 0x42 then some 5
  else none

/-- The text starts behind the end of the packet, or the packet is longer than its data. -/
def UbPacket.Malformed (p : UbPacket) : Prop :=
  ∃ off, p.textOffset = some off ∧ ¬ (off ≤ p.len.toNat ∧ p.len.toNat ≤ ubPacketData)

/-- The node a handler looks up by the address of the sender. A `B` packet is looked up
when its bridge has been registered. -/
def SlotTable.sender (t : SlotTable) (p : UbPacket) : Option NodeId :=
  if p.kind = 0x42 then (t.bridged p).byAdr p.src.toNat else t.byAdr p.src.toNat

/-- The handler looks up the sender, and there is none. -/
def UbPacket.FromUnknown (p : UbPacket) (t : SlotTable) : Prop :=
  (p.kind = 0x56 ∨ p.kind = 0x41 ∨ p.kind = 0x42) ∧ t.sender p = none

/-- The packet is handled to the end, and without an effect on the nodes if it should have
been rejected. -/
def HandledSafely (d : Daemon) (p : UbPacket) (connect : UbnetdConnect) : Prop :=
  ∃ d', busmgtInpacket d p connect = .ok d'
    ∧ (p.Malformed ∨ p.FromUnknown d.slots → d'.nodes = d.nodes)

/-- The packets that do no harm. Behind `D` and `I` lengths over 100 are refused; a `V` has
to come from an active node, a `B` from one that is not the bridge itself or from address 2
when there is a slot for the bridge. -/
def HarmlessPacket (d : Daemon) (p : UbPacket) : Prop :=
  let len := p.len.toNat
  (p.kind = 0x44 → maxId < len ∨ (7 ≤ len ∧ len ≤ ubPacketData))
    ∧ (p.kind = 0x49 → maxId < len ∨ (1 ≤ len ∧ len ≤ ubPacketData))
    ∧ (p.kind = 0x56 → 2 ≤ len ∧ len ≤ ubPacketData
      ∧ ∃ i, (d.nodes i).active = true ∧ (d.nodes i).busadr = p.src.toNat)
    ∧ (p.kind = 0x42 → 5 ≤ len ∧ len ≤ ubPacketData
      ∧ ((∃ i, d.slots.target (packetId p 5) ≠ some i ∧ (d.nodes i).active = true
            ∧ (d.nodes i).busadr = p.src.toNat)
          ∨ (p.src = 2 ∧ d.slots.target (packetId p 5) ≠ none)))

/-! ## Looking up the sender -/

theorem SlotTable.Assigned.used {t : SlotTable} (h : t.Assigned) {i : NodeId}
    (hi : (t i).active = true) : (t i).free = false := by
  cases hfree : (t i).free with
  | false => rfl
  | true =>
      rw [h.free i hfree] at hi
      cases hi

/-- Somebody is found at an address exactly when somebody is active there. -/
theorem exists_byAdr_iff {t : SlotTable} (h : t.Assigned) (adr : Int) :
    (∃ n, t.byAdr adr = some n) ↔ ∃ i, (t i).active = true ∧ (t i).busadr = adr := by
  constructor
  · rintro ⟨n, hn⟩
    exact ⟨n, (byAdr_eq_some hn).2⟩
  · rintro ⟨i, hactive, hadr⟩
    rw [← Option.ne_none_iff_exists', ne_eq, byAdr_eq_none]
    exact fun hnone => hnone i (h.used hactive) hactive hadr

theorem SlotTable.Assigned.bridged {t : SlotTable} (h : t.Assigned) (p : UbPacket) :
    (t.bridged p).Assigned := by
  cases htarget : t.target (packetId p 5) with
  | none =>
      rw [bridged_none htarget]
      exact h
  | some x =>
      rw [bridged_some htarget]
      exact h.register htarget (by omega) (by omega)

/-- Who can be at the address of the sender once the bridge is registered. -/
theorem exists_bridged_byAdr_iff {t : SlotTable} (h : t.Assigned) (p : UbPacket) :
    (∃ n, (t.bridged p).byAdr p.src.toNat = some n) ↔
      (∃ i, t.target (packetId p 5) ≠ some i ∧ (t i).active = true
          ∧ (t i).busadr = p.src.toNat)
        ∨ (p.src = 2 ∧ t.target (packetId p 5) ≠ none) := by
  rw [exists_byAdr_iff (h.bridged p)]
  cases htarget : t.target (packetId p 5) with
  | none =>
      rw [bridged_none htarget]
      simp
  | some x =>
      rw [bridged_some htarget, SlotTable.register]
      constructor
      · rintro ⟨i, hactive, hadr⟩
        by_cases hi : i = x
        · subst hi
          rw [Function.update_self] at hadr
          refine .inr ⟨UInt8.toNat_inj.mp ?_, by simp⟩
          exact (Int.ofNat_inj.mp hadr).symm
        · rw [Function.update_of_ne hi] at hactive hadr
          exact .inl ⟨i, fun heq => hi (Option.some.inj heq).symm, hactive, hadr⟩
      · rintro (⟨i, hne, hactive, hadr⟩ | ⟨hsrc, -⟩)
        · have hi : i ≠ x := fun heq => hne (congrArg some heq.symm)
          refine ⟨i, ?_⟩
          rw [Function.update_of_ne hi]
          exact ⟨hactive, hadr⟩
        · refine ⟨x, ?_⟩
          rw [Function.update_self, hsrc]
          exact ⟨rfl, rfl⟩

/-! ## Handlers that complete -/

section Handlers

variable {d d' : Daemon} {p : UbPacket} {connect : UbnetdConnect}

theorem busmgtDiscover_length (h : busmgtDiscover d p connect = .ok d') :
    (maxId < p.len.toNat ∧ d' = d) ∨ (7 ≤ p.len.toNat ∧ p.len.toNat ≤ ubPacketData) := by
  cases busmgtDiscover_discovers h with
  | ignored long => exact .inl ⟨long, rfl⟩
  | full fits created => exact .inr fits
  | discovered fits created address => exact .inr fits

theorem busmgtIdentify_length (h : busmgtIdentify d p = .ok d') :
    (maxId < p.len.toNat ∧ d' = d) ∨ (1 ≤ p.len.toNat ∧ p.len.toNat ≤ ubPacketData) := by
  unfold busmgtIdentify at h
  split at h
  · rename_i hlen
    cases h
    exact .inl ⟨hlen, rfl⟩
  · simp only [bind_eq_ok] at h
    obtain ⟨bs, hbs, -⟩ := h
    exact .inr (copyData_ok hbs).2

theorem busmgtVersion_length (h : busmgtVersion d p = .ok d') :
    (∃ n, d.slots.byAdr p.src.toNat = some n)
      ∧ 2 ≤ p.len.toNat ∧ p.len.toNat ≤ ubPacketData := by
  obtain ⟨n, version, hfound, hfits, -⟩ := busmgtVersion_sets h
  exact ⟨⟨n, hfound⟩, hfits⟩

theorem busmgtBridge_length (hassigned : d.slots.Assigned)
    (h : busmgtBridge d p connect = .ok d') :
    (∃ n, (d.slots.bridged p).byAdr p.src.toNat = some n)
      ∧ 5 ≤ p.len.toNat ∧ p.len.toNat ≤ ubPacketData := by
  obtain ⟨d₁, o, n, hfits, hcreate, hfound, -⟩ := busmgtBridge_writes h
  rw [mgtCreateBridge_slots hassigned.free hcreate] at hfound
  exact ⟨⟨n, hfound⟩, hfits⟩

theorem busmgtAlive_unknown (hnone : d.slots.byAdr p.src.toNat = none)
    (h : busmgtAlive d p = .ok d') : d'.nodes = d.nodes := by
  rcases busmgtAlive_cases h with ⟨-, rfl⟩ | ⟨n, hfound, -⟩
  · rfl
  · rw [hnone] at hfound
    cases hfound

/-- A packet that is handled to the end is harmless. -/
theorem busmgtInpacket_harmless (hassigned : d.slots.Assigned)
    (h : busmgtInpacket d p connect = .ok d') : HarmlessPacket d p := by
  refine ⟨fun hD => ?_, fun hI => ?_, fun hV => ?_, fun hB => ?_⟩
  · rw [busmgtInpacket, if_pos hD] at h
    exact (busmgtDiscover_length h).imp_left And.left
  · rw [busmgtInpacket, hI, if_neg (by decide), if_pos rfl] at h
    exact (busmgtIdentify_length h).imp_left And.left
  · rw [busmgtInpacket, hV, if_neg (by decide), if_neg (by decide), if_pos rfl] at h
    obtain ⟨hfound, hlo, hhi⟩ := busmgtVersion_length h
    exact ⟨hlo, hhi, (exists_byAdr_iff hassigned _).mp hfound⟩
  · rw [busmgtInpacket, hB, if_neg (by decide), if_neg (by decide), if_neg (by decide),
      if_neg (by decide), if_pos rfl] at h
    obtain ⟨hfound, hlo, hhi⟩ := busmgtBridge_length hassigned h
    exact ⟨hlo, hhi, (exists_bridged_byAdr_iff hassigned p).mp hfound⟩

/-- A harmless packet is handled to the end. -/
theorem busmgtInpacket_total (hassigned : d.slots.Assigned) (h : HarmlessPacket d p) :
    ∃ d', busmgtInpacket d p connect = .ok d' := by
  obtain ⟨hD, hI, hV, hB⟩ := h
  have hdata : ubPacketData = 45 := rfl
  unfold busmgtInpacket
  split_ifs with kD kI kV kA kB
  · rcases hD kD with hlong | ⟨hlo, hhi⟩
    · refine ⟨d, ?_⟩
      unfold busmgtDiscover
      dsimp only
      rw [if_pos hlong]
      rfl
    · exact busmgtDiscover_ok hassigned.free hlo (by omega)
  · rcases hI kI with hlong | ⟨hlo, hhi⟩
    · refine ⟨d, ?_⟩
      unfold busmgtIdentify
      rw [if_pos hlong]
      rfl
    · exact busmgtIdentify_ok hlo (by omega)
  · obtain ⟨hlo, hhi, hfound⟩ := hV kV
    exact busmgtVersion_ok hlo (by omega) ((exists_byAdr_iff hassigned _).mpr hfound)
  · exact busmgtAlive_ok
  · obtain ⟨hlo, hhi, hfound⟩ := hB kB
    exact busmgtBridge_ok hassigned.free hlo (by omega)
      ((exists_bridged_byAdr_iff hassigned p).mpr hfound)
  · exact ⟨d, rfl⟩

/-- What is malformed or from nobody, and does not stop the daemon, changes no node. -/
theorem busmgtInpacket_rejects (hassigned : d.slots.Assigned)
    (h : busmgtInpacket d p connect = .ok d')
    (hbad : p.Malformed ∨ p.FromUnknown d.slots) : d'.nodes = d.nodes := by
  obtain ⟨hD, hI, hV, hB⟩ := busmgtInpacket_harmless hassigned h
  rcases hbad with ⟨off, hoff, hlen⟩ | ⟨hkind, hnone⟩
  · unfold UbPacket.textOffset at hoff
    split_ifs at hoff with kD kI kV kB <;> cases hoff
    · rw [busmgtInpacket, if_pos kD] at h
      rcases busmgtDiscover_length h with ⟨-, rfl⟩ | hgood
      · rfl
      · exact absurd hgood hlen
    · rw [busmgtInpacket, if_neg kD, if_pos kI] at h
      rcases busmgtIdentify_length h with ⟨-, rfl⟩ | hgood
      · rfl
      · exact absurd hgood hlen
    · obtain ⟨hlo, hhi, -⟩ := hV kV
      exact absurd ⟨hlo, hhi⟩ hlen
    · obtain ⟨hlo, hhi, -⟩ := hB kB
      exact absurd ⟨hlo, hhi⟩ hlen
  · rcases hkind with kV | kA | kB
    · obtain ⟨-, -, hfound⟩ := hV kV
      obtain ⟨n, hn⟩ := (exists_byAdr_iff hassigned _).mpr hfound
      rw [SlotTable.sender, kV, if_neg (by decide), hn] at hnone
      cases hnone
    · rw [SlotTable.sender, kA, if_neg (by decide)] at hnone
      rw [busmgtInpacket, kA, if_neg (by decide), if_neg (by decide), if_neg (by decide),
        if_pos rfl] at h
      exact busmgtAlive_unknown hnone h
    · obtain ⟨-, -, hfound⟩ := hB kB
      obtain ⟨n, hn⟩ := (exists_bridged_byAdr_iff hassigned p).mpr hfound
      rw [SlotTable.sender, if_pos kB, hn] at hnone
      cases hnone

end Handlers

/-- **Which packets are handled safely**, in every state the daemon can be in. -/
theorem packet_handled_iff (nodetimeout : Int) (cs : List NodeConfig) (d₀ d : Daemon)
    (es : List DaemonEvent) (h₀ : configured nodetimeout cs = .ok d₀)
    (h : Run daemonStep (fun _ _ => True) d₀ es d) (p : UbPacket) (connect : UbnetdConnect) :
    HandledSafely d p connect ↔ HarmlessPacket d p := by
  have hwired : Wired d :=
    h.invariant (I := Wired) (configured_wired h₀).1 fun _ _ _ hs _ hstep => hs.step hstep
  have hassigned : d.slots.Assigned := hwired.assigned
  constructor
  · rintro ⟨d', hrun, -⟩
    exact busmgtInpacket_harmless hassigned hrun
  · intro hharmless
    obtain ⟨d', hrun⟩ : ∃ d', busmgtInpacket d p connect = .ok d' :=
      busmgtInpacket_total hassigned hharmless
    exact ⟨d', hrun, busmgtInpacket_rejects hassigned hrun⟩

/-- A keep alive packet from an address that nobody has. -/
def strayAlive : UbPacket where
  src := 9
  dest := 1
  flags := ubPacketMgt
  cls := 0
  len := 1
  data := Vector.ofFn fun i => if i.val = 0 then 0x41 else 0

/-- It is harmless in the first state. -/
theorem packet_handled_iff_stray :
    HandledSafely (nodesInit 30) strayAlive .connected
      ↔ HarmlessPacket (nodesInit 30) strayAlive :=
  packet_handled_iff 30 [] (nodesInit 30) (nodesInit 30) [] rfl .nil strayAlive .connected

/-- A version from an address that nobody has. -/
def strayVersion : UbPacket := { strayAlive with data := Vector.ofFn fun _ => 0x56, len := 10 }

/-- **A missing node is followed.** -/
theorem version_of_nobody : configured 30 [] = .ok (nodesInit 30)
    ∧ Run daemonStep (fun _ _ => True) (nodesInit 30) [] (nodesInit 30)
    ∧ ¬ HandledSafely (nodesInit 30) strayVersion .connected := by
  refine ⟨rfl, .nil, ?_⟩
  rintro ⟨d', hrun, -⟩
  have hfault : busmgtInpacket (nodesInit 30) strayVersion .connected = .error .nullPointer := by
    have hkind : strayVersion.kind = 0x56 := by decide
    have hnone : nodesGetNodeByBusAdr (nodesInit 30) strayVersion.src.toNat = none := by
      decide +kernel
    rw [busmgtInpacket, hkind, if_neg (by decide), if_neg (by decide), if_pos rfl, busmgtVersion,
      hnone]
  rw [hfault] at hrun
  cases hrun

end Ubd
