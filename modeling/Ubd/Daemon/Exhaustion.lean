import Ubd.Daemon.Inpacket

/-!
# Daemon.Exhaustion — when the addresses run out

`busmgt_getFreeBusAdr` says -1 when all addresses are held, and nobody looks at it. A `D`
packet then moves its node to an address that is none, and the bus is told that it is the
broadcast address. `exhaustion_refused_iff` says when this cannot happen.
-/

namespace Ubd

open Runs

/-! ## The addresses that are left -/

/-- Somebody is on the bus with this address. -/
def Daemon.Held (d : Daemon) (a : Int) : Prop :=
  ∃ i, (d.nodes i).active = true ∧ (d.nodes i).busadr = a

/-- Every address for nodes is held. -/
def Daemon.Exhausted (d : Daemon) : Prop := ∀ a : Int, 3 ≤ a → a ≤ 254 → d.Held a

/-- No address before the one that `busmgt_getFreeBusAdr` finds is free. -/
theorem freeAdr_le {t : SlotTable} {a : Int} (hlo : 3 ≤ a) (hhi : a ≤ 254)
    (h : t.byAdr a = none) : 3 ≤ t.freeAdr ∧ t.freeAdr ≤ a := by
  cases hf : (List.range' 3 252).find? fun i : Nat => (t.byAdr i).isNone with
  | none =>
      have := List.find?_eq_none.mp hf a.toNat (by rw [List.mem_range'_1]; omega)
      rw [Int.toNat_of_nonneg (by omega), h] at this
      simp at this
  | some i =>
      have hadr : t.freeAdr = i := by simp only [SlotTable.freeAdr, hf]
      obtain ⟨-, hmem, hbefore⟩ := List.find?_range'_eq_some.mp hf
      rw [List.mem_range'_1] at hmem
      refine ⟨by omega, ?_⟩
      by_contra hlt
      have := hbefore a.toNat (by omega) (by omega)
      rw [Int.toNat_of_nonneg (by omega), h] at this
      simp at this

theorem byAdr_eq_none_iff {d : Daemon} (h : d.slots.Assigned) (a : Int) :
    d.slots.byAdr a = none ↔ ¬ d.Held a := by
  rw [← not_iff_not, not_not, ← ne_eq, Option.ne_none_iff_exists']
  exact exists_byAdr_iff h a

/-- -1 is returned exactly when every address is held. -/
theorem freeAdr_eq_neg_iff {d : Daemon} (h : d.slots.Assigned) :
    d.slots.freeAdr = -1 ↔ d.Exhausted := by
  constructor
  · intro hneg a hlo hhi
    by_contra hfree
    have := (freeAdr_le hlo hhi ((byAdr_eq_none_iff h a).mpr hfree)).1
    omega
  · intro hall
    rcases freeAdr_spec d.slots with ⟨hlo, hhi, hnone⟩ | ⟨hneg, -⟩
    · exact absurd (hall _ hlo hhi) ((byAdr_eq_none_iff h _).mp hnone)
    · exact hneg

/-! ## Addresses of active nodes -/

section ActiveAddresses

variable {Q : Int → Prop} {t t' : SlotTable} {p : UbPacket}

/-- The only addresses that are new on the bus are the bridge's and the one that is given
next. -/
theorem activeAdr_packet (h : t.Assigned) (hQ : ∀ i, (t i).active = true → Q (t i).busadr)
    (h2 : Q 2) (hnext : p.kind = 0x44 → p.len.toNat ≤ maxId → t.target (packetId p 7) ≠ none →
      Q t.freeAdr)
    (hchange : PacketChange p t t') : ∀ i, (t' i).active = true → Q (t' i).busadr :=
  -- registering writes an address, confirming does not
  h.forall_slot (Q := fun s => s.active = true → Q s.busadr) hchange hQ
    (fun kind fits slot _ => hnext kind fits slot) (fun _ _ => h2)
    fun _ hactive hs _ => hs hactive

theorem activeAdr_expired (hQ : ∀ i, (t i).active = true → Q (t i).busadr)
    (hexp : Expired t t') : ∀ i, (t' i).active = true → Q (t' i).busadr :=
  hexp.forall_slot (Q := fun s => s.active = true → Q s.busadr) hQ
    fun _ _ hactive => nomatch hactive

/-- A node that is discovered has the address that is given next. -/
theorem discover_active {x : NodeId} (hkind : p.kind = 0x44) (hfits : p.len.toNat ≤ maxId)
    (hslot : t.target (packetId p 7) = some x) (hchange : PacketChange p t t') :
    (t' x).active = true ∧ (t' x).busadr = t.freeAdr := by
  cases hchange with
  | same idle =>
      rcases idle.1 hkind with hlong | hnone
      · omega
      · rw [hslot] at hnone
        cases hnone
  | @discover y _ _ slot =>
      rw [hslot] at slot
      cases slot
      simp [SlotTable.register]
  | identify kind _ _ =>
      rw [hkind] at kind
      exact absurd kind (by decide)
  | bridge kind _ _ _ =>
      rw [hkind] at kind
      exact absurd kind (by decide)
  | bridgeFull kind _ _ =>
      rw [hkind] at kind
      exact absurd kind (by decide)

end ActiveAddresses

/-- The packet registers its node: it is a `D` that is not too long, and there is a slot. -/
def Registers (d : Daemon) (p : UbPacket) : Prop :=
  p.kind = 0x44 ∧ p.len.toNat ≤ maxId ∧ d.slots.target (packetId p 7) ≠ none

/-- **What one step can bring about** on the bus. -/
theorem activeAdr_step {Q : Int → Prop} {d d' : Daemon} {e : DaemonEvent} (h : Wired d)
    (hQ : ∀ i, (d.nodes i).active = true → Q (d.nodes i).busadr) (h2 : Q 2)
    (hnext : ∀ p connect, e = .packet p connect → Registers d p → Q d.slots.freeAdr)
    (hstep : daemonStep d e = .ok d') :
    ∀ i, (d'.nodes i).active = true → Q (d'.nodes i).busadr := by
  cases e with
  | packet p connect =>
      obtain ⟨hchange, -⟩ := busmgtInpacket_change h.assigned.free hstep
      exact activeAdr_packet h.assigned hQ h2
        (fun hkind hfits hslot => hnext p connect rfl ⟨hkind, hfits, hslot⟩) hchange
  | take =>
      cases hstep
      exact hQ
  | main e =>
      by_cases he : ∃ env, e = .tick env
      · obtain ⟨env, rfl⟩ := he
        exact activeAdr_expired hQ (mgtTick_change hstep).1
      · have hslots := (mainStep_traffic (fun env heq => he ⟨env, heq⟩) hstep).slots
        intro i hi
        have hactive : (d.nodes i).active = true :=
          (congrArg Slot.active (congrFun hslots i)).symm.trans hi
        have hadr : (d'.nodes i).busadr = (d.nodes i).busadr :=
          congrArg Slot.busadr (congrFun hslots i)
        rw [hadr]
        exact hQ i hactive

/-! ## Assignments in the queue -/

/-- A packet of the bus management that assigns an address: an `S` or a `q`. -/
def MessageStream.Assigns (m : MessageStream) (a : UInt8) : Prop :=
  m.n = none ∧ ∃ rest, m.msg.data = 0x53 :: a :: rest ∨ m.msg.data = 0x71 :: a :: rest

/-- What is queued between two states only assigns addresses in `A`. -/
def Posts (A : UInt8 → Prop) (d d' : Daemon) : Prop :=
  ∃ ms, d'.packetOut = d.packetOut ++ ms ∧ ∀ m ∈ ms, ∀ a, m.Assigns a → A a

section Posts

variable {A : UInt8 → Prop} {d d' : Daemon}

theorem Posts.of_eq (h : d'.packetOut = d.packetOut) : Posts A d d' :=
  ⟨[], by rw [h, List.append_nil], fun _ hm => nomatch hm⟩

theorem Posts.trans {d₁ : Daemon} (h : Posts A d d₁) (h' : Posts A d₁ d') : Posts A d d' := by
  obtain ⟨ms, hms, hA⟩ := h
  obtain ⟨ms', hms', hA'⟩ := h'
  refine ⟨ms ++ ms', by rw [hms', hms, List.append_assoc], fun m hm a ha => ?_⟩
  rcases List.mem_append.mp hm with hm | hm
  · exact hA m hm a ha
  · exact hA' m hm a ha

theorem Posts.mem (h : Posts A d d') {m : MessageStream} (hm : m ∈ d'.packetOut) {a : UInt8}
    (ha : m.Assigns a) : m ∈ d.packetOut ∨ A a := by
  obtain ⟨ms, hms, hA⟩ := h
  rw [hms] at hm
  rcases List.mem_append.mp hm with hm | hm
  · exact .inl hm
  · exact .inr (hA m hm a ha)

theorem posts_queue (d : Daemon) {ms : List MessageStream}
    (hms : ∀ m ∈ ms, ∀ a, m.Assigns a → A a) : Posts A d (d.queue ms) :=
  ⟨ms, rfl, hms⟩

theorem resetMessage_assigns (adr a : UInt8) : ¬ (resetMessage adr).Assigns a := by
  rintro ⟨-, rest, hdata⟩
  simp [resetMessage] at hdata

theorem confirmMessages_assigns {x : Node} {adr a : UInt8} {m : MessageStream}
    (hm : m ∈ groupMessages x ++ okMessages adr) : ¬ m.Assigns a := by
  rintro ⟨-, rest, hdata⟩
  rcases List.mem_append.mp hm with hm | hm
  · obtain ⟨i, -, rfl⟩ := List.mem_map.mp hm
    simp [mgtMessage] at hdata
  · rcases List.mem_pair.mp hm with rfl | rfl
    · simp [mgtMessage] at hdata
    · simp [mgtMessage] at hdata

/-- Both messages of a `D` assign its address. -/
theorem discoverMessages_assigns {p : UbPacket} {adr : UInt8} {m : MessageStream}
    (hm : m ∈ discoverMessages p adr) {a : UInt8} : m.Assigns a ↔ a = adr := by
  constructor
  · rintro ⟨-, rest, hdata⟩
    rcases List.mem_pair.mp hm with rfl | rfl
    · simp only [mgtMessage, List.cons.injEq] at hdata
      rcases hdata with hdata | hdata
      · exact absurd hdata.1 (by decide)
      · exact hdata.2.1.symm
    · simp only [mgtMessage, List.cons_append, List.cons.injEq] at hdata
      rcases hdata with hdata | hdata
      · exact hdata.2.1.symm
      · exact absurd hdata.1 (by decide)
  · rintro rfl
    rcases List.mem_pair.mp hm with rfl | rfl
    · exact ⟨rfl, _, .inr rfl⟩
    · exact ⟨rfl, _, .inl rfl⟩

theorem mgtRegisterNode_packetOut {id : CString} {type : NodeType} {busadr : UInt8}
    {connect : UbnetdConnect} {o : Option NodeId}
    (h : mgtRegisterNode d id type busadr connect = .ok (d', o)) :
    d'.packetOut = d.packetOut := by
  rcases mgtRegisterNode_cases h with ⟨rfl, -⟩ | ⟨d₁, x, adr, hlook, -, rfl⟩
  · rfl
  · cases hlook with
    | known found => rfl
    | new unknown free => rfl

/-- What a `D` that registers its node queues. -/
theorem busmgtDiscover_queues {p : UbPacket} {connect : UbnetdConnect} (h : d.slots.Assigned)
    (hrun : busmgtDiscover d p connect = .ok d') :
    (maxId < p.len.toNat ∨ d.slots.target (packetId p 7) = none) ∧ d' = d
      ∨ (p.len.toNat ≤ maxId ∧ d.slots.target (packetId p 7) ≠ none) ∧ d'.packetOut
        = d.packetOut ++ discoverMessages p (UInt8.ofInt d.slots.freeAdr) := by
  cases busmgtDiscover_discovers hrun with
  | ignored long => exact .inl ⟨.inl long, rfl⟩
  | full fits created => exact .inl ⟨.inr (mgtCreateNode_target h.free created), rfl⟩
  | @discovered d₁ x fits created address =>
      have hx := congrFun (mgtCreateNode_slots h.free created).1 x
      rw [SlotTable.register, Function.update_self] at hx
      have hadr : (d₁.nodes x).busadr = d.slots.freeAdr := congrArg Slot.busadr hx
      refine .inr ⟨⟨le_trans fits.2 (by decide), ?_⟩, ?_⟩
      · rw [mgtCreateNode_target h.free created]
        exact Option.some_ne_none x
      · unfold mgtCreateNode at created
        rw [← hadr, ← mgtRegisterNode_packetOut created]
        rfl

theorem busmgtDiscover_posts {p : UbPacket} {connect : UbnetdConnect} (h : d.slots.Assigned)
    (hkind : p.kind = 0x44) (hrun : busmgtDiscover d p connect = .ok d') :
    Posts (fun a => Registers d p ∧ a = UInt8.ofInt d.slots.freeAdr) d d' := by
  rcases busmgtDiscover_queues h hrun with ⟨-, rfl⟩ | ⟨⟨hfits, hslot⟩, hqueue⟩
  · exact .of_eq rfl
  · exact ⟨_, hqueue, fun m hm a ha =>
      ⟨⟨hkind, hfits, hslot⟩, (discoverMessages_assigns hm).mp ha⟩⟩

/-- A reset gives no address to anybody. -/
theorem posts_reset (d : Daemon) (adr : UInt8) : Posts A d (d.queue [resetMessage adr]) := by
  refine posts_queue d fun m hm a ha => absurd ha ?_
  rw [List.mem_singleton.mp hm]
  exact resetMessage_assigns _ a

theorem busmgtIdentify_posts {p : UbPacket} (hrun : busmgtIdentify d p = .ok d') :
    Posts A d d' := by
  rcases busmgtIdentify_writes hrun with ⟨x, -, rfl⟩ | rfl | rfl
  · exact ⟨_, rfl, fun m hm a ha => absurd ha (confirmMessages_assigns hm)⟩
  · exact posts_reset d _
  · exact .of_eq rfl

theorem busmgtVersion_posts {p : UbPacket} (hrun : busmgtVersion d p = .ok d') :
    Posts A d d' := by
  obtain ⟨n, version, -, -, rfl⟩ := busmgtVersion_sets hrun
  exact .of_eq rfl

theorem busmgtAlive_posts {p : UbPacket} (hrun : busmgtAlive d p = .ok d') : Posts A d d' := by
  rcases busmgtAlive_cases hrun with ⟨-, rfl⟩ | ⟨n, -, rfl⟩
  · exact posts_reset d _
  · exact .of_eq rfl

theorem busmgtBridge_posts {p : UbPacket} {connect : UbnetdConnect}
    (hrun : busmgtBridge d p connect = .ok d') : Posts A d d' := by
  obtain ⟨d₁, o, n, -, hcreate, -, rfl⟩ := busmgtBridge_writes hrun
  unfold mgtCreateBridge at hcreate
  have hqueue : Posts A d d₁ := .of_eq (mgtRegisterNode_packetOut hcreate)
  exact hqueue.trans ⟨_, rfl, fun m hm a ha => absurd ha (confirmMessages_assigns hm)⟩

/-- **Only a `D` packet that registers its node assigns an address**, and it is the one that
is given next. -/
theorem busmgtInpacket_posts {p : UbPacket} {connect : UbnetdConnect} (h : d.slots.Assigned)
    (hrun : busmgtInpacket d p connect = .ok d') :
    Posts (fun a => Registers d p ∧ a = UInt8.ofInt d.slots.freeAdr) d d' := by
  unfold busmgtInpacket at hrun
  split_ifs at hrun with hD hI hV hA hB
  · exact busmgtDiscover_posts h hD hrun
  · exact busmgtIdentify_posts hrun
  · exact busmgtVersion_posts hrun
  · exact busmgtAlive_posts hrun
  · exact busmgtBridge_posts hrun
  · cases hrun
    exact .of_eq rfl

/-- What clients queue belongs to their nodes. -/
theorem tcpRequest_posts {c : Connection} {r : Request} (h : tcpRequest c d r = .ok d') :
    Posts A d d' := by
  cases r with
  | listen =>
      cases h
      exact .of_eq rfl
  | command cmd =>
      obtain ⟨ms, rfl, hms⟩ := tcpCallback_queues h
      exact posts_queue d fun m hm a ha => absurd ha.1 (hms m hm).1

theorem mgtTick_posts {env : NodeId → NetEnv} (h : mgtTick d env = .ok d') : Posts A d d' := by
  refine mgtTick_invariant (I := fun e => Posts A d e) (fun e n e' he hturn => ?_)
    (fun e n e' he hturn => ?_) (.of_eq rfl) h
  · refine he.trans (.of_eq ?_)
    cases mgtCheckNode_checks hturn with
    | off off => rfl
    | left onBus left => rfl
    | out out => rfl
  · cases hturn
    exact he.trans (.of_eq rfl)

end Posts

/-- No event of the main loop assigns an address. -/
theorem mainStep_posts {d d' : Daemon} {e : MainEvent} (h : mainStep d e = .ok d') :
    Posts (fun _ => False) d d' := by
  by_cases he : ∃ env, e = .tick env
  · obtain ⟨env, rfl⟩ := he
    exact mgtTick_posts h
  · cases mainStep_serves h fun env heq => he ⟨env, heq⟩ with
    | reads found reading run =>
        exact (tcpListenerRead_relation (fun _ => .of_eq rfl) (fun _ _ _ h h' => h.trans h')
          (fun _ _ _ hrequest => tcpRequest_posts hrequest) run).trans (.of_eq rfl)
    | unknown nobody => exact .of_eq rfl
    | command listening => exact .of_eq rfl
    | management listening => exact .of_eq rfl
    | deaf => exact .of_eq rfl
    | closes found reading => exact .of_eq rfl
    | closed nobody => exact .of_eq rfl
    | fails found => exact .of_eq rfl
    | failed => exact .of_eq rfl

/-- Every packet in the queue that assigns an address was there before, or comes from a `D`
packet that registered its node. -/
theorem assigns_step {d d' : Daemon} {e : DaemonEvent} (h : Wired d)
    (hstep : daemonStep d e = .ok d') {m : MessageStream} (hm : m ∈ d'.packetOut) {a : UInt8}
    (ha : m.Assigns a) :
    m ∈ d.packetOut ∨ ∃ p connect, e = .packet p connect ∧ Registers d p
      ∧ a = UInt8.ofInt d.slots.freeAdr := by
  cases e with
  | packet p connect =>
      rcases (busmgtInpacket_posts h.assigned hstep).mem hm ha with hold | hnew
      · exact .inl hold
      · exact .inr ⟨p, connect, rfl, hnew⟩
  | take =>
      cases hstep
      exact .inl (List.mem_of_mem_tail hm)
  | main e => exact .inl (((mainStep_posts hstep).mem hm ha).resolve_right id)

/-! ## Refusing a node -/

/-- The packet is handled, no node changes its place on the bus, and nobody is told an
address. -/
def RefusedCleanly (d : Daemon) (p : UbPacket) (connect : UbnetdConnect) : Prop :=
  ∃ d', busmgtInpacket d p connect = .ok d'
    ∧ (∀ i, (d'.nodes i).busadr = (d.nodes i).busadr ∧ (d'.nodes i).active = (d.nodes i).active
      ∧ (d'.nodes i).state = (d.nodes i).state)
    ∧ Posts (fun _ => False) d d'

/-- Active nodes have addresses of nodes, and no packet assigns the broadcast address. -/
structure InRange (d : Daemon) : Prop where
  nodes : ∀ i, (d.nodes i).active = true → 2 ≤ (d.nodes i).busadr ∧ (d.nodes i).busadr ≤ 254
  queue : ∀ m ∈ d.packetOut, ¬ m.Assigns ubAddressBroadcast

/-- No `D` packet registers its node while every address is held. -/
def AddressLeft (d : Daemon) (e : DaemonEvent) : Prop :=
  ∀ p connect, e = .packet p connect → Registers d p → ¬ d.Exhausted

/-- A `D` packet that registers its node queues an assignment. -/
theorem busmgtDiscover_assigns {d d' : Daemon} {p : UbPacket} {connect : UbnetdConnect}
    (h : d.slots.Assigned) (hlen : p.len.toNat ≤ maxId)
    (hslot : d.slots.target (packetId p 7) ≠ none) (hrun : busmgtDiscover d p connect = .ok d') :
    ¬ Posts (fun _ => False) d d' := by
  rintro ⟨ms, hms, hfalse⟩
  rcases busmgtDiscover_queues h hrun with ⟨hnot, -⟩ | ⟨-, hqueue⟩
  · rcases hnot with hlong | hnone
    · omega
    · exact hslot hnone
  · have hall : ms = discoverMessages p (UInt8.ofInt d.slots.freeAdr) :=
      List.append_cancel_left (hms.symm.trans hqueue)
    subst hall
    -- the query is the first packet that is queued
    exact hfalse _ List.mem_cons_self _ ((discoverMessages_assigns List.mem_cons_self).mpr rfl)

/-- In a table that is full, a `D` packet is refused cleanly exactly when there is no slot
for its node. -/
theorem refusedCleanly_iff {d : Daemon} {p : UbPacket} {connect : UbnetdConnect}
    (h : d.slots.Assigned) (hkind : p.kind = 0x44) (hlo : 7 ≤ p.len.toNat)
    (hhi : p.len.toNat ≤ 45) :
    RefusedCleanly d p connect ↔ d.slots.target (packetId p 7) = none := by
  have hfits : p.len.toNat ≤ maxId := le_trans hhi (by decide)
  constructor
  · rintro ⟨d', hrun, -, hposts⟩
    by_contra hslot
    rw [busmgtInpacket, if_pos hkind] at hrun
    exact busmgtDiscover_assigns h hfits hslot hrun hposts
  · intro hnone
    obtain ⟨d', hrun⟩ : ∃ d', busmgtDiscover d p connect = .ok d' :=
      busmgtDiscover_ok h.free hlo hhi
    -- without a slot `mgt_createNode` returns NULL, and nothing has been written by then
    have hsame : d' = d := by
      rcases busmgtDiscover_queues h hrun with ⟨-, hsame⟩ | ⟨⟨-, hslot⟩, -⟩
      · exact hsame
      · exact absurd hnone hslot
    subst hsame
    refine ⟨d', ?_, fun i => ⟨rfl, rfl, rfl⟩, .of_eq rfl⟩
    rw [busmgtInpacket, if_pos hkind]
    exact hrun

theorem configured_inRange {nodetimeout : Int} {cs : List NodeConfig} {d : Daemon}
    (h : configured nodetimeout cs = .ok d) : InRange d where
  nodes := by
    intro i hi
    have hoff : (d.nodes i).active = false := (configured_silent h i).1
    rw [hoff] at hi
    cases hi
  queue := by
    have hqueue : d.packetOut = [] :=
      configured_invariant (I := fun e => e.packetOut = []) h rfl fun _ _ _ he => he
    rw [hqueue]
    exact fun m hm => nomatch hm

/-- **One step.** -/
theorem inRange_step {d d' : Daemon} {e : DaemonEvent} (h : Wired d) (hrange : InRange d)
    (hstep : daemonStep d e = .ok d') : InRange d' ↔ AddressLeft d e := by
  constructor
  · rintro hrange' p connect rfl ⟨hkind, hfits, hslot⟩ hfull
    obtain ⟨x, hx⟩ := Option.ne_none_iff_exists'.mp hslot
    obtain ⟨hchange, -⟩ := busmgtInpacket_change h.assigned.free hstep
    obtain ⟨hactive, hadr⟩ := discover_active hkind hfits hx hchange
    -- the node got the -1 that means that there is no address
    rw [(freeAdr_eq_neg_iff h.assigned).mpr hfull] at hadr
    have hlow : 2 ≤ (d'.slots x).busadr := (hrange'.nodes x hactive).1
    omega
  · intro hleft
    -- while an address is left, the one that is given next is one of a node
    have hnext : ∀ p connect, e = .packet p connect → Registers d p →
        3 ≤ d.slots.freeAdr ∧ d.slots.freeAdr ≤ 254 := by
      intro p connect he hregisters
      rcases freeAdr_spec d.slots with ⟨hlo, hhi, -⟩ | ⟨hneg, -⟩
      · exact ⟨hlo, hhi⟩
      · exact absurd ((freeAdr_eq_neg_iff h.assigned).mp hneg) (hleft p connect he hregisters)
    refine ⟨?_, fun m hm hassigns => ?_⟩
    · refine activeAdr_step (Q := fun a => 2 ≤ a ∧ a ≤ 254) h hrange.nodes (by decide)
        (fun p connect he hregisters => ?_) hstep
      have := hnext p connect he hregisters
      omega
    · rcases assigns_step h hstep hm hassigns with hold | ⟨p, connect, he, hregisters, ha⟩
      · exact hrange.queue m hold hassigns
      · obtain ⟨hlo, hhi⟩ := hnext p connect he hregisters
        have hnat := ofInt_toNat (a := d.slots.freeAdr) (by omega) (by omega)
        rw [← ha] at hnat
        have h255 : ubAddressBroadcast.toNat = 255 := by decide
        omega

/-- **Running out of addresses.** In a state in which all are held, a `D` packet is refused
cleanly exactly when there is no slot for its node; and in a run, every active node has an
address of a node and nobody is assigned the broadcast address exactly when no `D` packet
registers its node in such a state. -/
theorem exhaustion_refused_iff (nodetimeout : Int) (cs : List NodeConfig) (d₀ d : Daemon)
    (es : List DaemonEvent) (h₀ : configured nodetimeout cs = .ok d₀)
    (h : Run daemonStep (fun _ _ => True) d₀ es d) :
    (∀ p connect, d.Exhausted → p.kind = 0x44 → 7 ≤ p.len.toNat → p.len.toNat ≤ 45 →
        (RefusedCleanly d p connect ↔ d.slots.target (packetId p 7) = none))
      ∧ (Always daemonStep (fun _ _ => True) d₀ InRange es
        ↔ EveryStep daemonStep (fun _ _ => True) d₀ AddressLeft es) := by
  have hwired : Wired d := h.invariant (I := Wired) (configured_wired h₀).1
    fun _ _ _ hs _ hstep => hs.step hstep
  refine ⟨fun p connect _ hkind hlo hhi => refusedCleanly_iff hwired.assigned hkind hlo hhi, ?_⟩
  refine h.always_iff (I := fun s => Wired s ∧ InRange s)
    ⟨(configured_wired h₀).1, configured_inRange h₀⟩ (fun s hs => hs.2)
    (fun s e s' hs _ hstep hleft => ?_) (fun s e s' hs _ hstep hrange => ?_)
  · exact ⟨hs.1.step hstep, (inRange_step hs.1 hs.2 hstep).mpr hleft⟩
  · exact (inRange_step hs.1 hs.2 hstep).mp hrange

/-! ## A full bus -/

theorem discoverPacket_kind (id : CString) : (discoverPacket id).kind = 0x44 := by
  simp [UbPacket.kind, discoverPacket]

theorem packetId_discover {b : UInt8} (hb : b ≠ 0) : packetId (discoverPacket [b]) 7 = [b] := by
  have hdata : (discoverPacket [b]).data.toList
      = [0x44, 0, 1, 23, 0, 0, 0, b] ++ List.replicate 37 0 := by
    simp [discoverPacket, Vector.toList_ofFn, ubPacketData, ubPacketlen, ubPacketHeader,
      List.ofFn_succ]
  have hlen : (discoverPacket [b]).len.toNat = 8 := rfl
  rw [packetId, hdata, hlen]
  simp [cstr, hb]

/-- The packet of the `k`-th node of a crowd. -/
def newcomer (k : Nat) : UbPacket := discoverPacket [UInt8.ofNat (k + 1)]

/-- So many nodes are discovered, one after the other. -/
def crowd (k : Nat) : List DaemonEvent :=
  (List.range k).map fun i => .packet (newcomer i) .connected

/-- The first `k` slots are a crowd, the others are free. -/
structure SlotTable.Filled (t : SlotTable) (k : Nat) : Prop where
  free : ∀ i, (t i).free = true ↔ k ≤ i.val
  node : ∀ i, i.val < k → (t i).id = [UInt8.ofNat (i.val + 1)] ∧ (t i).active = true
    ∧ (t i).busadr = 3 + i.val

theorem SlotTable.Filled.register {t : SlotTable} {k : Nat} {hk : k < maxNode}
    (h : t.Filled k) {state : NodeState} :
    (t.register ⟨k, hk⟩ [UInt8.ofNat (k + 1)] (3 + k) state).Filled (k + 1) := by
  obtain ⟨x, hx⟩ : ∃ x : NodeId, x = ⟨k, hk⟩ := ⟨_, rfl⟩
  have hval : x.val = k := by rw [hx]
  rw [← hx, SlotTable.register]
  constructor
  · -- only slot `k` is written
    intro i
    by_cases hi : i = x
    · subst hi
      simp [hval]
    · rw [Function.update_of_ne hi, h.free i]
      have hne : i.val ≠ k := fun heq => hi (Fin.ext (heq.trans hval.symm))
      omega
  · intro i hik
    by_cases hi : i = x
    · subst hi
      simp [hval]
    · rw [Function.update_of_ne hi]
      have hne : i.val ≠ k := fun heq => hi (Fin.ext (heq.trans hval.symm))
      exact h.node i (by omega)

section Crowd

variable {d : Daemon} {k : Nat}

theorem ofNat_succ_inj {j k : Nat} (hj : j < 255) (hk : k < 255)
    (h : UInt8.ofNat (j + 1) = UInt8.ofNat (k + 1)) : j = k := by
  have hnat := congrArg UInt8.toNat h
  simp only [UInt8.toNat_ofNat'] at hnat
  omega

theorem packetId_newcomer (hk : k < 255) : packetId (newcomer k) 7 = [UInt8.ofNat (k + 1)] := by
  refine packetId_discover fun h0 => ?_
  have hnat := congrArg UInt8.toNat h0
  simp only [UInt8.toNat_ofNat', UInt8.toNat_zero] at hnat
  omega

/-- Where a newcomer is put. -/
theorem target_newcomer (hk : k < 255) (hd : d.slots.Filled k) :
    d.slots.target (packetId (newcomer k) 7) = some ⟨k, by simp only [maxNode]; omega⟩ := by
  have hnone : d.slots.byId (packetId (newcomer k) 7) = none := by
    rw [packetId_newcomer hk, byId_eq_none]
    intro j hj hid
    have hjk : j.val < k := by
      by_contra hge
      rw [(hd.free j).mpr (Nat.le_of_not_lt hge)] at hj
      cases hj
    rw [(hd.node j hjk).1] at hid
    have := ofNat_succ_inj (by omega) hk (List.cons_eq_cons.mp hid).1
    omega
  -- nobody has the id, so it is the first free slot
  rw [SlotTable.target, hnone, Option.none_or, find?_slots_eq_some]
  refine ⟨(hd.free _).mpr (Nat.le_refl k), fun j hj => ?_⟩
  have hjk : ¬ k ≤ j.val := Nat.not_le.mpr hj
  rw [← hd.free j] at hjk
  exact Bool.eq_false_iff.mpr hjk

/-- The addresses a crowd holds. -/
theorem held_filled (hk : k ≤ maxNode) (h : d.slots.Assigned) (hd : d.slots.Filled k) (a : Int) :
    d.Held a ↔ 3 ≤ a ∧ a < 3 + k := by
  constructor
  · rintro ⟨i, hactive, hadr⟩
    have hik : i.val < k := by
      by_contra hge
      have hused := h.used hactive
      rw [(hd.free i).mpr (Nat.le_of_not_lt hge)] at hused
      cases hused
    obtain ⟨-, -, hi⟩ := hd.node i hik
    have hadr' : (d.slots i).busadr = a := hadr
    omega
  · rintro ⟨hlo, hhi⟩
    obtain ⟨i, hi⟩ : ∃ i : NodeId, (i.val : Int) = a - 3 :=
      ⟨⟨(a - 3).toNat, by omega⟩, Int.toNat_of_nonneg (by omega)⟩
    obtain ⟨-, hactive, hadr⟩ := hd.node i (by omega)
    exact ⟨i, hactive, hadr.trans (by omega)⟩

theorem freeAdr_filled (hk : k < 252) (h : d.slots.Assigned) (hd : d.slots.Filled k) :
    d.slots.freeAdr = 3 + k := by
  have hheld := held_filled (by simp only [maxNode]; omega) h hd
  have hnext : d.slots.byAdr (3 + k) = none := by
    rw [byAdr_eq_none_iff h, hheld]
    omega
  obtain ⟨hlo, hle⟩ := freeAdr_le (by omega) (by omega) hnext
  rcases freeAdr_spec d.slots with ⟨-, -, hnone⟩ | ⟨hneg, -⟩
  · rw [byAdr_eq_none_iff h, hheld] at hnone
    omega
  · omega

/-- A newcomer is discovered. -/
theorem discover_newcomer (hk : k < 255) (h : Wired d) (hd : d.slots.Filled k) :
    ∃ d', daemonStep d (.packet (newcomer k) .connected) = .ok d'
      ∧ d'.slots = d.slots.register ⟨k, by simp only [maxNode]; omega⟩ [UInt8.ofNat (k + 1)]
        d.slots.freeAdr .identify := by
  have hkind : (newcomer k).kind = 0x44 := discoverPacket_kind _
  have hlen : (newcomer k).len.toNat = 8 := rfl
  obtain ⟨d', hrun⟩ : ∃ d', busmgtDiscover d (newcomer k) .connected = .ok d' :=
    busmgtDiscover_ok h.assigned.free (by omega) (by omega)
  have hstep : daemonStep d (.packet (newcomer k) .connected) = .ok d' := by
    show busmgtInpacket d (newcomer k) .connected = _
    rw [busmgtInpacket, if_pos hkind]
    exact hrun
  refine ⟨d', hstep, ?_⟩
  have htarget := target_newcomer hk hd
  obtain ⟨hchange, -⟩ := busmgtDiscover_change hkind h.assigned.free hrun
  generalize d'.slots = t' at hchange
  cases hchange with
  | same idle =>
      rcases idle.1 hkind with hlong | hnone
      · simp only [maxId] at hlong
        omega
      · rw [htarget] at hnone
        cases hnone
  | discover _ _ slot =>
      rw [htarget] at slot
      cases slot
      rw [packetId_newcomer hk]
  | identify kind _ _ =>
      rw [hkind] at kind
      exact absurd kind (by decide)
  | bridge kind _ _ _ =>
      rw [hkind] at kind
      exact absurd kind (by decide)
  | bridgeFull kind _ _ =>
      rw [hkind] at kind
      exact absurd kind (by decide)

end Crowd

theorem crowd_succ (k : Nat) : crowd (k + 1) = crowd k ++ [.packet (newcomer k) .connected] := by
  simp [crowd, List.range_succ]

/-- A crowd of up to 252 nodes fills the addresses in their order. -/
theorem crowd_run {k : Nat} (hk : k ≤ 252) :
    ∃ d, Run daemonStep (fun _ _ => True) (nodesInit 30) (crowd k) d ∧ Wired d
      ∧ d.slots.Filled k := by
  have h₀ : configured 30 [] = .ok (nodesInit 30) := rfl
  induction k with
  | zero =>
      exact ⟨nodesInit 30, .nil, (configured_wired h₀).1, fun i => by simp [Daemon.slots, nodesInit,
        Node.slot], fun i hi => by omega⟩
  | succ k ih =>
      -- every newcomer gets the next slot and the next address
      obtain ⟨d, hrun, hwired, hd⟩ := ih (by omega)
      obtain ⟨d', hstep, hslots⟩ := discover_newcomer (by omega) hwired hd
      have hadr := freeAdr_filled (by omega) hwired.assigned hd
      refine ⟨d', ?_, hwired.step hstep, ?_⟩
      · rw [crowd_succ]
        exact hrun.snoc trivial hstep
      · rw [hslots, hadr]
        exact hd.register

/-- 252 nodes take all addresses. -/
theorem crowd_exhausts : ∃ d, Run daemonStep (fun _ _ => True) (nodesInit 30) (crowd 252) d
    ∧ Wired d ∧ d.slots.Filled 252 ∧ d.Exhausted := by
  obtain ⟨d, hrun, hwired, hd⟩ := crowd_run (Nat.le_refl 252)
  refine ⟨d, hrun, hwired, hd, fun a hlo hhi => ?_⟩
  exact (held_filled (by decide) hwired.assigned hd a).mpr ⟨hlo, by omega⟩

/-- **The next node is not refused.** -/
theorem newcomer_not_refused : configured 30 [] = .ok (nodesInit 30)
    ∧ ∃ d, Run daemonStep (fun _ _ => True) (nodesInit 30) (crowd 252) d ∧ d.Exhausted
      ∧ (newcomer 252).kind = 0x44 ∧ (newcomer 252).len.toNat = 8
      ∧ ¬ RefusedCleanly d (newcomer 252) .connected := by
  obtain ⟨d, hrun, hwired, hd, hfull⟩ := crowd_exhausts
  have hkind : (newcomer 252).kind = 0x44 := discoverPacket_kind _
  refine ⟨rfl, d, hrun, hfull, hkind, rfl, ?_⟩
  rw [refusedCleanly_iff hwired.assigned hkind (by decide) (by decide),
    target_newcomer (by decide) hd]
  simp

/-- The full bus. -/
theorem exhaustion_refused_iff_crowd :
    ∃ d, Run daemonStep (fun _ _ => True) (nodesInit 30) (crowd 252) d
      ∧ (RefusedCleanly d (newcomer 252) .connected
        ↔ d.slots.target (packetId (newcomer 252) 7) = none)
      ∧ (Always daemonStep (fun _ _ => True) (nodesInit 30) InRange (crowd 252)
        ↔ EveryStep daemonStep (fun _ _ => True) (nodesInit 30) AddressLeft (crowd 252)) := by
  obtain ⟨d, hrun, -, -, hfull⟩ := crowd_exhausts
  obtain ⟨hrefused, hrange⟩ := exhaustion_refused_iff 30 [] (nodesInit 30) d (crowd 252) rfl hrun
  exact ⟨d, hrun, hrefused (newcomer 252) .connected hfull (discoverPacket_kind _) (by decide)
    (by decide), hrange⟩

end Ubd
