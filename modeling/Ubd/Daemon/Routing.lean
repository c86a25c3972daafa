import Ubd.Daemon.Addresses
import Ubd.Daemon.Connections

/-!
# Daemon.Routing — where commands go

A connection outlives the stay of its node on the bus, and the address of a node that
has left is given to the next one. `RouteKept` says which steps do no harm by that, and
`routes_right_iff` that the commands go where they should exactly as long as there are
no others.
-/

namespace Ubd

open Leases Runs

/-! ## Routes -/

/-- The address on a command for a node. -/
def SlotTable.route (t : SlotTable) (i : NodeId) : Int := (UInt8.ofInt (t i).busadr).toNat

/-- A connection of the node is still read from. -/
def Daemon.client (d : Daemon) (i : NodeId) : Prop := ∃ c ∈ d.conns, c.reading = true ∧ c.n = i

/-- **No command is misrouted**: whatever the next command on an open connection is, the
packet that is queued for it is not for the address of another active node. -/
def Daemon.RoutesRight (d : Daemon) : Prop :=
  ∀ c ∈ d.conns, c.reading = true → ∀ cmd d' m, tcpCallback d c cmd = .ok d' →
    d'.packetOut = d.packetOut ++ [m] →
      ∀ j, j ≠ c.n → (d.nodes j).active = true → (d.nodes j).busadr ≠ m.msg.dest.toNat

theorem route_update (t : SlotTable) {x : NodeId} {s : Slot} (h : s.busadr = (t x).busadr) :
    SlotTable.route (Function.update t x s) = t.route := by
  funext i
  by_cases hi : i = x
  · subst hi
    simp [SlotTable.route, h]
  · simp [SlotTable.route, hi]

theorem route_register (t : SlotTable) (x : NodeId) (id : CString) (adr : Int)
    (state : NodeState) : (t.register x id adr state).route
      = Function.update t.route x ((UInt8.ofInt adr).toNat : Int) := by
  funext i
  by_cases hi : i = x
  · subst hi
    simp [SlotTable.route, SlotTable.register]
  · simp [SlotTable.route, SlotTable.register, hi]

theorem client_congr {d d' : Daemon} (h : d'.conns = d.conns) : d'.client = d.client := by
  unfold Daemon.client
  rw [h]

/-! ## The table of slots -/

/-- What holds of the addresses of the daemon, well-formed packets or not. -/
structure SlotTable.Assigned (t : SlotTable) : Prop where
  free : ∀ i, (t i).free = true → (t i).active = false
  onBus : ∀ i, (t i).state.onBus → (t i).active = true
  /-- -1 is what `busmgt_getFreeBusAdr` returns when all addresses are taken. -/
  range : ∀ i, -1 ≤ (t i).busadr ∧ (t i).busadr ≤ 254
  /-- A node that ever had an address is the one its id is looked up to. -/
  canonical : ∀ i, (t i).busadr ≠ 0 → t.byId (t i).id = some i

theorem SlotTable.Silent.assigned {t : SlotTable} (h : t.Silent) : t.Assigned where
  free := fun i _ => (h i).1
  onBus := by
    intro i hi
    rw [(h i).2.1] at hi
    simp [NodeState.onBus] at hi
  range := by
    intro i
    rw [(h i).2.2]
    omega
  canonical := fun i hi => absurd (h i).2.2 hi

namespace SlotTable.Assigned

variable {t t' : SlotTable}

theorem register (h : t.Assigned) {x : NodeId} {id : CString} {adr : Int} {state : NodeState}
    (htarget : t.target id = some x) (hlo : -1 ≤ adr) (hhi : adr ≤ 254) :
    (t.register x id adr state).Assigned where
  free := SlotTable.forall_register (Q := fun s => s.free = true → s.active = false) h.free
    fun hfree => nomatch hfree
  onBus := SlotTable.forall_register (Q := fun s => s.state.onBus → s.active = true) h.onBus
    fun _ => rfl
  range := SlotTable.forall_register (Q := fun s => -1 ≤ s.busadr ∧ s.busadr ≤ 254) h.range
    ⟨hlo, hhi⟩
  canonical := by
    intro i hi
    rw [SlotTable.register, byId_update htarget rfl rfl]
    by_cases hix : i = x
    · subst hix
      simp
    · rw [SlotTable.register, Function.update_of_ne hix] at hi
      rw [Function.update_of_ne hix]
      have hcan := h.canonical i hi
      split_ifs with hid
      · -- the id was looked up to `i`, so that `i` is the slot
        rw [hid] at hcan
        rcases target_some htarget with hby | ⟨hnone, -⟩
        · exact hby.symm.trans hcan
        · rw [hnone] at hcan
          cases hcan
      · exact hcan

/-- Changes of the flags that keep ids and addresses. -/
theorem restate (h : t.Assigned)
    (hsame : ∀ i, (t' i).free = (t i).free ∧ (t' i).id = (t i).id ∧ (t' i).busadr = (t i).busadr)
    (hfree : ∀ i, (t i).free = true → (t' i).active = false)
    (honBus : ∀ i, (t' i).state.onBus → (t' i).active = true) : t'.Assigned where
  free := by
    intro i hi
    rw [(hsame i).1] at hi
    exact hfree i hi
  onBus := honBus
  range := by
    intro i
    rw [(hsame i).2.2]
    exact h.range i
  canonical := by
    intro i hi
    rw [(hsame i).2.2] at hi
    rw [byId_congr fun j => ⟨(hsame j).1, (hsame j).2.1⟩, (hsame i).2.1]
    exact h.canonical i hi

theorem confirm (h : t.Assigned) {x : NodeId} (hx : (t x).active = true) :
    (t.confirm x).Assigned := by
  refine h.restate (fun i => ?_) (fun i hi => ?_) (SlotTable.forall_confirm
    (Q := fun s => s.state.onBus → s.active = true) h.onBus fun _ => rfl)
  · by_cases hix : i = x
    · subst hix
      simp [SlotTable.confirm]
    · simp [SlotTable.confirm, hix]
  · have hoff := h.free i hi
    have hix : i ≠ x := by
      intro heq
      rw [heq, hx] at hoff
      cases hoff
    rw [SlotTable.confirm, Function.update_of_ne hix]
    exact hoff

theorem expire (h : t.Assigned) (n : NodeId) : (t.expire n).Assigned := by
  refine h.restate (fun i => ?_) (fun i hi => ?_) (SlotTable.forall_expire
    (Q := fun s => s.state.onBus → s.active = true) h.onBus fun honBus => ?_)
  · by_cases hin : i = n
    · subst hin
      simp [SlotTable.expire]
    · simp [SlotTable.expire, hin]
  · by_cases hin : i = n
    · subst hin
      simp [SlotTable.expire]
    · rw [SlotTable.expire, Function.update_of_ne hin]
      exact h.free i hi
  · simp [NodeState.onBus] at honBus

theorem freeAdr_range (t : SlotTable) : -1 ≤ t.freeAdr ∧ t.freeAdr ≤ 254 := by
  rcases freeAdr_spec t with ⟨hlo, hhi, -⟩ | ⟨hnone, -⟩ <;> omega

theorem packet (h : t.Assigned) {p : UbPacket} (hchange : PacketChange p t t') : t'.Assigned := by
  cases hchange with
  | same => exact h
  | discover _ _ slot => exact h.register slot (freeAdr_range t).1 (freeAdr_range t).2
  | identify _ _ waiting => exact h.confirm (h.onBus _ (.inl waiting))
  | bridge _ slot registered found =>
      subst registered
      exact (h.register slot (by omega) (by omega)).confirm (byAdr_eq_some found).2.1
  | bridgeFull _ _ found => exact h.confirm (byAdr_eq_some found).2.1

theorem expired (h : t.Assigned) (hexp : Expired t t') : t'.Assigned := by
  induction hexp with
  | refl => exact h
  | step _ _ ih => exact ih.expire _

/-- **The rule for packets**, slot by slot: what holds of all slots, of one that is registered
and of one that is confirmed on the bus. -/
theorem forall_slot (h : t.Assigned) {p : UbPacket} (hchange : PacketChange p t t')
    {Q : Slot → Prop} (hall : ∀ i, Q (t i))
    (hdiscover : p.kind = 0x44 → p.len.toNat ≤ maxId → t.target (packetId p 7) ≠ none →
      Q ⟨packetId p 7, false, true, .identify, t.freeAdr⟩)
    (hbridge : ∀ state, Q ⟨packetId p 5, false, true, state, 2⟩)
    (hconfirm : ∀ s, s.active = true → Q s → Q { s with active := true, state := .normal }) :
    ∀ i, Q (t' i) := by
  cases hchange with
  | same => exact hall
  | discover kind fits slot =>
      exact forall_register hall (hdiscover kind fits (by rw [slot]; exact Option.some_ne_none _))
  | @identify x _ _ waiting =>
      exact forall_confirm hall (hconfirm _ (h.onBus x (.inl waiting)) (hall x))
  | @bridge x n t₁ _ _ registered found =>
      have hfirst : ∀ i, Q (t₁ i) := by
        rw [registered]
        exact forall_register hall (hbridge _)
      exact forall_confirm hfirst (hconfirm _ (byAdr_eq_some found).2.1 (hfirst _))
  | bridgeFull _ _ found =>
      exact forall_confirm hall (hconfirm _ (byAdr_eq_some found).2.1 (hall _))

end SlotTable.Assigned

/-! ## The daemon -/

/-- **The invariant of the daemon.** Who is served, and who has a connection, has had an
address. -/
structure Wired (d : Daemon) : Prop where
  assigned : d.slots.Assigned
  touched : ∀ i, d.Touched i → (d.nodes i).busadr ≠ 0
  conns : ∀ c ∈ d.conns, (d.nodes c.n).busadr ≠ 0

theorem Wired.quiet {d d' : Daemon} (h : Wired d) (hassigned : d'.slots.Assigned)
    (hquiet : Quiet d d') : Wired d' where
  assigned := hassigned
  touched := by
    intro i hi
    rcases hquiet.touched i hi with hi | hi
    · exact hquiet.assigned i (h.touched i hi)
    · exact hi
  conns := by
    intro c hc
    rw [hquiet.conns] at hc
    exact hquiet.assigned c.n (h.conns c hc)

/-- A command goes along the route of the node of its connection. -/
theorem tcpCallback_route {d d' : Daemon} {c : Connection} {cmd : List UInt8} {m : MessageStream}
    (hcan : d.slots.byId (d.slots c.n).id = some c.n) (h : tcpCallback d c cmd = .ok d')
    (hm : d'.packetOut = d.packetOut ++ [m]) : (m.msg.dest.toNat : Int) = d.slots.route c.n := by
  have hid : nodesGetNodeById d (d.nodes c.n).id = some c.n := hcan
  unfold tcpCallback tcpQueueNewCommand tcpQueueNewMgt busStreamToID busmgtStreamData at h
  simp only [hid] at h
  split at h
  · split at h
    · rw [packetStreamPacket_ok h] at hm
      rw [← List.singleton_inj.mp (List.append_cancel_left hm)]
      rfl
    · cases h
  · split at h
    · cases h
      simp at hm
    · split at h
      · rw [packetStreamPacket_ok h] at hm
        rw [← List.singleton_inj.mp (List.append_cancel_left hm)]
        rfl
      · cases h

/-- There is a command that goes through: the empty one. -/
theorem tcpCallback_empty {d : Daemon} {c : Connection}
    (hcan : d.slots.byId (d.slots c.n).id = some c.n) :
    ∃ d' m, tcpCallback d c [] = .ok d' ∧ d'.packetOut = d.packetOut ++ [m] := by
  have hid : nodesGetNodeById d (d.nodes c.n).id = some c.n := hcan
  have hfits : ([] : List UInt8).length + ubPacketHeader ≤ ubPacketlen := by decide
  have hshort : ([] : List UInt8).length ≤ ubPacketData := by decide
  have hlen : ¬(UInt8.ofNat ([] : List UInt8).length).toNat > ubPacketData := by decide
  unfold tcpCallback tcpQueueNewCommand tcpQueueNewMgt busStreamToID busmgtStreamData
    packetStreamPacket
  simp only [hid, if_pos hshort, if_neg hlen, if_pos hfits]
  cases c.callback with
  | newCommand => exact ⟨_, _, rfl, rfl⟩
  | newMgt => exact ⟨_, _, rfl, rfl⟩

/-- **The commands of the daemon are leases** on the addresses of their nodes. -/
theorem routesRight_iff {d : Daemon} (h : Wired d) :
    d.RoutesRight ↔ Safe d.slots.holder d.slots.route d.client := by
  have hcan : ∀ c ∈ d.conns, d.slots.byId (d.slots c.n).id = some c.n := fun c hc =>
    h.assigned.canonical c.n (h.conns c hc)
  constructor
  · rintro hright i j ⟨c, hc, hreading, rfl⟩ hne hj
    obtain ⟨d', m, hrun, hm⟩ := tcpCallback_empty (hcan c hc)
    obtain ⟨hactive, hadr⟩ := holder_eq_some.mp hj
    have hdest := tcpCallback_route (hcan c hc) hrun hm
    exact hright c hc hreading [] d' m hrun hm j hne hactive (hadr.trans hdest.symm)
  · intro hsafe c hc hreading cmd d' m hrun hm j hne hactive hadr
    rw [tcpCallback_route (hcan c hc) hrun hm] at hadr
    exact hsafe c.n j ⟨c, hc, hreading, rfl⟩ hne (holder_eq_some.mpr ⟨hactive, hadr⟩)

/-! ## Client traffic -/

/-- Client traffic changes neither the addresses nor what depends on them, and only adds
to the queue. -/
structure Traffic (d d' : Daemon) : Prop where
  slots : d'.slots = d.slots
  streams : d'.streams = d.streams
  queued : ∃ ms, d'.packetOut = d.packetOut ++ ms
  ubnetd : ∀ i, (d'.nodes i).ubnetd = (d.nodes i).ubnetd
  objects : d'.objects = d.objects

theorem Traffic.refl (d : Daemon) : Traffic d d :=
  ⟨rfl, rfl, ⟨[], (List.append_nil _).symm⟩, fun _ => rfl, rfl⟩

theorem Traffic.trans {a b c : Daemon} (h : Traffic a b) (h' : Traffic b c) : Traffic a c where
  slots := h'.slots.trans h.slots
  streams := h'.streams.trans h.streams
  queued := by
    obtain ⟨ms, hms⟩ := h.queued
    obtain ⟨ms', hms'⟩ := h'.queued
    exact ⟨ms ++ ms', by rw [hms', hms, List.append_assoc]⟩
  ubnetd := fun i => (h'.ubnetd i).trans (h.ubnetd i)
  objects := h'.objects.trans h.objects

/-- What is done to the connections themselves does not count. -/
theorem Traffic.conns {d d' : Daemon} (h : Traffic d d') (cs : List Connection) :
    Traffic d { d' with conns := cs } :=
  ⟨h.slots, h.streams, h.queued, h.ubnetd, h.objects⟩

theorem Traffic.wired {d d' : Daemon} (h : Traffic d d') (hd : Wired d)
    (hconns : ∀ c ∈ d'.conns, (d.nodes c.n).busadr ≠ 0) : Wired d' := by
  have hadr : ∀ i, (d'.nodes i).busadr = (d.nodes i).busadr := fun i =>
    congrArg Slot.busadr (congrFun h.slots i)
  constructor
  · rw [h.slots]
    exact hd.assigned
  · intro i hi
    unfold Daemon.Touched at hi
    rw [h.ubnetd i, h.objects] at hi
    rw [hadr]
    exact hd.touched i hi
  · intro c hc
    rw [hadr]
    exact hconns c hc

theorem setListeners_traffic (d : Daemon) (n : NodeId) (classid : ClassId)
    (l : Node → List Gpointer) :
    Traffic d (d.setNode n fun x => x.setListeners classid (l x)) where
  slots := setNode_slots_same d n rfl
  streams := setNode_streams_same d n rfl
  queued := ⟨[], (List.append_nil _).symm⟩
  ubnetd := by
    intro i
    by_cases hi : i = n
    · subst hi
      rw [setNode_self]
      rfl
    · rw [setNode_of_ne d n _ hi]
  objects := rfl

theorem listenRegister_traffic (d : Daemon) (n : NodeId) (classid : ClassId) (out : Gpointer) :
    Traffic d (listenRegister d n classid out) := setListeners_traffic d n classid _

theorem listenUnregister_traffic (d : Daemon) (n : NodeId) (classid : ClassId) (out : Gpointer) :
    Traffic d (listenUnregister d n classid out) := setListeners_traffic d n classid _

/-- What a connection asks for leaves the connections alone, too. -/
theorem tcpRequest_traffic {c : Connection} {d d' : Daemon} {r : Request}
    (h : tcpRequest c d r = .ok d') : Traffic d d' ∧ d'.conns = d.conns := by
  cases r with
  | command cmd =>
      obtain ⟨ms, rfl, -⟩ := tcpCallback_queues h
      exact ⟨⟨rfl, rfl, ⟨ms, rfl⟩, fun _ => rfl, rfl⟩, rfl⟩
  | listen =>
      cases h
      exact ⟨listenRegister_traffic d c.n c.classid c.out, rfl⟩

theorem tcpListenerRead_traffic {c : Connection} {d d' : Daemon} {nb nb' : NodeBuffer}
    {buf : List UInt8} (h : tcpListenerRead (tcpRequest c) (d, nb) buf = .ok (d', nb')) :
    Traffic d d' ∧ d'.conns = d.conns := by
  refine tcpListenerRead_relation (R := fun d d' => Traffic d d' ∧ d'.conns = d.conns)
    (fun d => ⟨.refl d, rfl⟩) (fun _ _ _ h h' => ?_) (fun _ _ _ => tcpRequest_traffic) h
  exact ⟨h.1.trans h'.1, h'.2.trans h.2⟩

/-- A connection is replaced by itself in a later state. -/
theorem mem_set_conns {d : Daemon} {k : Nat} {c x : Connection} (c' : Connection)
    (hk : d.conns[k]? = some c)
    (hn : c'.n = c.n) (hreading : c'.reading = true → c.reading = true)
    (hx : x ∈ d.conns.set k c') :
    ∃ y ∈ d.conns, y.n = x.n ∧ (x.reading = true → y.reading = true) := by
  rcases List.mem_or_eq_of_mem_set hx with hx | rfl
  · exact ⟨x, hx, rfl, id⟩
  · exact ⟨c, List.mem_of_getElem? hk, hn.symm, hreading⟩

/-- Traffic on the connections there are: nobody becomes a client. -/
structure Retiring (d d' : Daemon) : Prop where
  traffic : Traffic d d'
  conns : ∀ x ∈ d'.conns, ∃ y ∈ d.conns, y.n = x.n ∧ (x.reading = true → y.reading = true)

theorem Retiring.refl (d : Daemon) : Retiring d d :=
  ⟨Traffic.refl d, fun x hx => ⟨x, hx, rfl, id⟩⟩

theorem Serves.retiring {d d' : Daemon} {e : MainEvent} (h : Serves d e d')
    (he : ∀ service, e ≠ .accept service) : Retiring d d' := by
  cases h with
  | unknown nobody => exact absurd rfl (he _)
  | command listening => exact absurd rfl (he _)
  | management listening => exact absurd rfl (he _)
  | @reads k buf c nb d₁ found reading run =>
      obtain ⟨htraffic, hconns⟩ := tcpListenerRead_traffic run
      refine ⟨htraffic.conns _, fun x hx => ?_⟩
      have hx' : x ∈ d₁.conns.set k { c with nb := nb } := hx
      rw [hconns] at hx'
      exact mem_set_conns { c with nb := nb } found rfl id hx'
  | deaf => exact .refl d
  | @closes k c found reading =>
      refine ⟨(listenUnregister_traffic d c.n c.classid c.out).conns _, fun x hx => ?_⟩
      exact mem_set_conns { c with reading := false, released := true } found rfl
        (fun h => nomatch h) hx
  | closed nobody => exact .refl d
  | @fails k c found =>
      refine ⟨(Traffic.refl d).conns _, fun x hx => ?_⟩
      exact mem_set_conns { c with reading := false } found rfl (fun h => nomatch h) hx
  | failed => exact .refl d

theorem Retiring.wired {d d' : Daemon} (h : Retiring d d') (hd : Wired d) : Wired d' := by
  refine h.traffic.wired hd fun c hc => ?_
  obtain ⟨y, hy, hn, -⟩ := h.conns c hc
  rw [← hn]
  exact hd.conns y hy

theorem Retiring.safe {d d' : Daemon} (h : Retiring d d')
    (hsafe : Safe d.slots.holder d.slots.route d.client) :
    Safe d'.slots.holder d'.slots.route d'.client := by
  rw [h.traffic.slots]
  refine hsafe.leave ?_
  rintro i ⟨x, hx, hreading, rfl⟩
  obtain ⟨y, hy, hn, hkept⟩ := h.conns x hx
  exact ⟨y, hy, hkept hreading, hn⟩

/-- A service that listens belongs to a node that was served. -/
theorem listening_touched {d : Daemon} {service : Handle} {n : NodeId} {classid : ClassId}
    (h : d.listening service = some (n, classid)) : d.Touched n := by
  unfold Daemon.listening at h
  split at h
  · rename_i hobj
    cases h
    exact .inr ⟨_, List.mem_of_getElem? hobj, _, rfl, rfl⟩
  · rename_i hobj
    cases h
    exact .inr ⟨_, List.mem_of_getElem? hobj, _, rfl, rfl⟩
  · cases h

/-- **Accepting a connection**: one more client, of the node whose service it is. -/
theorem Serves.accepts {d d' : Daemon} {service : Handle} (h : Serves d (.accept service) d') :
    (d.listening service = none ∧ d' = d)
      ∨ ∃ n classid c, d.listening service = some (n, classid) ∧ Traffic d d'
        ∧ d'.conns = d.conns ++ [c] ∧ c.n = n ∧ c.reading = true := by
  cases h with
  | unknown nobody => exact .inl ⟨nobody, rfl⟩
  | @command _ n classid listening =>
      exact .inr ⟨n, classid, _, listening, (listenRegister_traffic d n classid _).conns _, rfl,
        rfl, rfl⟩
  | @management _ n classid listening =>
      exact .inr ⟨n, classid, _, listening, (Traffic.refl d).conns _, rfl, rfl, rfl⟩

/-- All events of the main loop but the tick are traffic. -/
theorem mainStep_traffic {d d' : Daemon} {e : MainEvent} (he : ∀ env, e ≠ .tick env)
    (h : mainStep d e = .ok d') : Traffic d d' := by
  have hserves := mainStep_serves h he
  by_cases hservice : ∃ service, e = .accept service
  · obtain ⟨service, rfl⟩ := hservice
    rcases hserves.accepts with ⟨-, rfl⟩ | ⟨_, _, _, -, htraffic, -⟩
    · exact .refl _
    · exact htraffic
  · exact (hserves.retiring fun service heq => hservice ⟨service, heq⟩).traffic

/-! ## The steps -/

/-- The steps that do no harm. A `D` packet must not give an address that a connection of
another node still uses, a `B` packet must not do so with address 2, where nobody else may
be if the bridge has a connection, and a connection is only accepted while nobody else is
at the address of its node. -/
def RouteKept (d : Daemon) : DaemonEvent → Prop
  | .packet p _ =>
      (p.kind = 0x44 → p.len.toNat ≤ maxId → ∀ x, d.slots.target (packetId p 7) = some x →
          ∀ i, i ≠ x → d.client i → d.slots.route i ≠ d.slots.freeAdr)
        ∧ (p.kind = 0x42 → ∀ x, d.slots.target (packetId p 5) = some x →
          (∀ i, i ≠ x → d.client i → d.slots.route i ≠ 2)
            ∧ (d.client x → ∀ j, j ≠ x → d.slots.holder j ≠ some 2))
  | .main (.accept service) => ∀ n classid, d.listening service = some (n, classid) →
      ∀ j, j ≠ n → d.slots.holder j ≠ some (d.slots.route n)
  | _ => True

theorem confirm_leases {t : SlotTable} {x : NodeId} (hx : (t x).active = true) :
    (t.confirm x).holder = t.holder ∧ (t.confirm x).route = t.route :=
  ⟨holder_update t hx.symm rfl, route_update t rfl⟩

theorem expired_leases {t t' : SlotTable} (h : Expired t t') :
    (∀ i a, t'.holder i = some a → t.holder i = some a) ∧ t'.route = t.route := by
  induction h with
  | refl => exact ⟨fun _ _ h => h, rfl⟩
  | @step t' n before onBus ih =>
      have hroute : (t'.expire n).route = t'.route := by
        rw [SlotTable.expire]
        exact route_update t' rfl
      refine ⟨fun i a hi => ih.1 i a ?_, hroute.trans ih.2⟩
      obtain ⟨hactive, hadr⟩ := holder_eq_some.mp hi
      by_cases hin : i = n
      · subst hin
        simp [SlotTable.expire] at hactive
      · rw [SlotTable.expire, Function.update_of_ne hin] at hactive hadr
        exact holder_eq_some.mpr ⟨hactive, hadr⟩

theorem ofInt_toNat {a : Int} (hlo : 0 ≤ a) (hhi : a ≤ 255) :
    ((UInt8.ofInt a).toNat : Int) = a := by
  rw [UInt8.ofInt, UInt8.toNat_ofNat']
  omega

/-- Nobody holds the address that is given next, also if all are taken. -/
theorem freeAdr_unheld {t : SlotTable} (h : t.Assigned) (j : NodeId) :
    t.holder j ≠ some ((UInt8.ofInt t.freeAdr).toNat : Int) := by
  intro hj
  obtain ⟨hactive, hadr⟩ := holder_eq_some.mp hj
  rcases freeAdr_spec t with ⟨hlo, hhi, hnone⟩ | ⟨hneg, -⟩
  · rw [ofInt_toNat (by omega) (by omega)] at hadr
    have hused : (t j).free = false := by
      by_contra hfree
      rw [h.free j (by simpa using hfree)] at hactive
      cases hactive
    exact byAdr_eq_none.mp hnone j hused hactive hadr
  · rw [hneg] at hadr
    have h255 : ((UInt8.ofInt (-1)).toNat : Int) = 255 := by decide
    have := (h.range j).2
    omega

/-- **A packet.** -/
theorem packet_safe_iff {d : Daemon} {p : UbPacket} {connect : UbnetdConnect} {t' : SlotTable}
    (h : d.slots.Assigned) (hsafe : Safe d.slots.holder d.slots.route d.client)
    (hchange : PacketChange p d.slots t') :
    Safe t'.holder t'.route d.client ↔ RouteKept d (.packet p connect) := by
  cases hchange with
  | same idle =>
      refine iff_of_true hsafe ⟨fun hD hlen x hx => ?_, fun hB => absurd hB idle.2⟩
      rcases idle.1 hD with hlong | hnone
      · omega
      · rw [hnone] at hx
        cases hx
  | @discover x kind fits slot =>
      rw [holder_register, route_register, hsafe.grant_iff]
      have hnotB : p.kind ≠ 0x42 := by
        rw [kind]
        decide
      constructor
      · rintro ⟨hothers, -⟩
        refine ⟨fun _ _ y hy => ?_, fun hB => absurd hB hnotB⟩
        rw [slot] at hy
        cases hy
        exact hothers
      · rintro ⟨hD, -⟩
        exact ⟨hD kind fits x slot, fun _ j _ => freeAdr_unheld h j⟩
  | @identify x kind slot waiting =>
      obtain ⟨hholder, hroute⟩ := confirm_leases (h.onBus x (.inl waiting))
      rw [hholder, hroute]
      refine iff_of_true hsafe ⟨fun hD => ?_, fun hB => ?_⟩
      · rw [kind] at hD
        exact absurd hD (by decide)
      · rw [kind] at hB
        exact absurd hB (by decide)
  | @bridge x n t₁ kind slot registered found =>
      obtain ⟨hholder, hroute⟩ := confirm_leases (byAdr_eq_some found).2.1
      have h2 : ((UInt8.ofInt 2).toNat : Int) = 2 := by decide
      rw [hholder, hroute, registered, holder_register, route_register, hsafe.grant_iff, h2]
      have hnotD : p.kind ≠ 0x44 := by
        rw [kind]
        decide
      constructor
      · rintro ⟨hothers, hown⟩
        refine ⟨fun hD => absurd hD hnotD, fun _ y hy => ?_⟩
        rw [slot] at hy
        cases hy
        exact ⟨hothers, hown⟩
      · rintro ⟨-, hB⟩
        exact hB kind x slot
  | @bridgeFull n kind slot found =>
      obtain ⟨hholder, hroute⟩ := confirm_leases (byAdr_eq_some found).2.1
      rw [hholder, hroute]
      refine iff_of_true hsafe ⟨fun hD => ?_, fun _ x hx => ?_⟩
      · rw [kind] at hD
        exact absurd hD (by decide)
      · rw [slot] at hx
        cases hx

theorem accept_safe_iff {d d' : Daemon} {service : Handle}
    (hsafe : Safe d.slots.holder d.slots.route d.client) (h : Serves d (.accept service) d') :
    Safe d'.slots.holder d'.slots.route d'.client ↔ RouteKept d (.main (.accept service)) := by
  rcases h.accepts with
    ⟨hnone, rfl⟩ | ⟨n, classid, c, hsome, htraffic, hconns, hn, hreading⟩
  · refine iff_of_true hsafe fun n classid hsome => ?_
    rw [hnone] at hsome
    cases hsome
  · have hclient : d'.client = fun i => d.client i ∨ i = n := by
      funext i
      refine propext ⟨?_, ?_⟩
      · rintro ⟨x, hx, hopen, rfl⟩
        rw [hconns, List.mem_append, List.mem_singleton] at hx
        rcases hx with hx | rfl
        · exact .inl ⟨x, hx, hopen, rfl⟩
        · exact .inr hn
      · have hmem : ∀ x, x ∈ d.conns ∨ x = c → x ∈ d'.conns := fun x hx => by
          rw [hconns, List.mem_append, List.mem_singleton]
          exact hx
        rintro (⟨x, hx, hopen, rfl⟩ | rfl)
        · exact ⟨x, hmem x (.inl hx), hopen, rfl⟩
        · exact ⟨c, hmem c (.inr rfl), hreading, hn⟩
    rw [htraffic.slots, hclient, hsafe.connect_iff]
    constructor
    · intro hroute m classid' hm
      rw [hsome] at hm
      cases hm
      exact hroute
    · intro hkept
      exact hkept n classid hsome

/-- What neither ticks nor accepts a connection. -/
theorem mainStep_retiring {d d' : Daemon} {e : MainEvent} (h : mainStep d e = .ok d')
    (he : ∀ env, e ≠ .tick env) (ha : ∀ service, e ≠ .accept service) : Retiring d d' :=
  (mainStep_serves h he).retiring ha

theorem Wired.mainStep {d d' : Daemon} {e : MainEvent} (h : Wired d)
    (hstep : mainStep d e = .ok d') : Wired d' := by
  cases e with
  | tick env =>
      obtain ⟨hexp, hquiet⟩ := mgtTick_change hstep
      exact h.quiet (h.assigned.expired hexp) hquiet
  | accept service =>
      rcases (mainStep_serves hstep fun _ heq => nomatch heq).accepts with
        ⟨-, rfl⟩ | ⟨n, classid, c, hsome, htraffic, hconns, hn, -⟩
      · exact h
      · refine htraffic.wired h fun x hx => ?_
        rw [hconns, List.mem_append, List.mem_singleton] at hx
        rcases hx with hx | rfl
        · exact h.conns x hx
        · rw [hn]
          exact h.touched n (listening_touched hsome)
  | read k buf | close k | readError k =>
      exact (mainStep_retiring hstep (fun _ heq => nomatch heq) fun _ heq => nomatch heq).wired h

theorem Wired.step {d d' : Daemon} {e : DaemonEvent} (h : Wired d)
    (hstep : daemonStep d e = .ok d') : Wired d' := by
  cases e with
  | main e => exact h.mainStep hstep
  | packet p connect =>
      obtain ⟨hchange, hquiet⟩ := busmgtInpacket_change h.assigned.free hstep
      exact h.quiet (h.assigned.packet hchange) hquiet
  | take =>
      cases hstep
      exact ⟨h.assigned, h.touched, h.conns⟩

theorem mainStep_safe_iff {d d' : Daemon} {e : MainEvent}
    (hsafe : Safe d.slots.holder d.slots.route d.client) (hstep : mainStep d e = .ok d') :
    Safe d'.slots.holder d'.slots.route d'.client ↔ RouteKept d (.main e) := by
  cases e with
  | tick env =>
      obtain ⟨hexp, hquiet⟩ := mgtTick_change hstep
      obtain ⟨hle, hroute⟩ := expired_leases hexp
      rw [client_congr hquiet.conns, hroute]
      exact iff_of_true (hsafe.shrink hle) trivial
  | accept service => exact accept_safe_iff hsafe (mainStep_serves hstep fun _ heq => nomatch heq)
  | read k buf | close k | readError k =>
      have hretiring := mainStep_retiring hstep (fun _ heq => nomatch heq) fun _ heq => nomatch heq
      exact iff_of_true (hretiring.safe hsafe) trivial

/-- **One step** keeps the routes right exactly when it meets the condition. -/
theorem step_routesRight_iff {d d' : Daemon} {e : DaemonEvent} (h : Wired d)
    (hright : d.RoutesRight) (hstep : daemonStep d e = .ok d') :
    d'.RoutesRight ↔ RouteKept d e := by
  have hsafe := (routesRight_iff h).mp hright
  rw [routesRight_iff (h.step hstep)]
  cases e with
  | main e => exact mainStep_safe_iff hsafe hstep
  | packet p connect =>
      obtain ⟨hchange, hquiet⟩ := busmgtInpacket_change h.assigned.free hstep
      rw [client_congr hquiet.conns]
      exact packet_safe_iff h.assigned hsafe hchange
  | take =>
      cases hstep
      exact iff_of_true hsafe trivial

/-! ## From the configuration on -/

/-- Nothing has happened yet. -/
structure Daemon.Untouched (d : Daemon) : Prop where
  objects : d.objects = Objects.empty
  conns : d.conns = []
  ubnetd : ∀ i, (d.nodes i).ubnetd = none
  current : ∀ i, (d.streams i).currentcallback = none

theorem Daemon.Untouched.setNode {d : Daemon} (h : d.Untouched) (n : NodeId) {f : Node → Node}
    (hubnetd : (f (d.nodes n)).ubnetd = (d.nodes n).ubnetd)
    (hstream : (f (d.nodes n)).stream = (d.nodes n).stream) : (d.setNode n f).Untouched where
  objects := h.objects
  conns := h.conns
  ubnetd := by
    intro i
    by_cases hi : i = n
    · subst hi
      rw [setNode_self, hubnetd]
      exact h.ubnetd i
    · rw [setNode_of_ne d n f hi]
      exact h.ubnetd i
  current := by
    rw [setNode_streams_same d n hstream]
    exact h.current

theorem configured_untouched {nodetimeout : Int} {cs : List NodeConfig} {d : Daemon}
    (h : configured nodetimeout cs = .ok d) : d.Untouched := by
  refine configured_invariant (I := Daemon.Untouched) h ⟨rfl, rfl, fun _ => rfl, fun _ => rfl⟩
    fun e n c he => ?_
  unfold Daemon.withConfigured nodesAddNode
  exact ((he.setNode n rfl rfl).setNode n rfl rfl).setNode n (nodesSetNameFromID_ubnetd _)
    (nodesSetNameFromID_stream _)

theorem configured_wired {nodetimeout : Int} {cs : List NodeConfig} {d : Daemon}
    (h : configured nodetimeout cs = .ok d) : Wired d ∧ d.RoutesRight := by
  have huntouched := configured_untouched h
  refine ⟨⟨(configured_silent h).assigned, fun i hi => ?_, fun c hc => ?_⟩, fun c hc => ?_⟩
  · rcases hi with hi | ⟨x, hx, -⟩
    · exact absurd (huntouched.ubnetd i) hi
    · rw [huntouched.objects] at hx
      cases hx
  · rw [huntouched.conns] at hc
    cases hc
  · rw [huntouched.conns] at hc
    cases hc

/-- **Where commands go**: in every run of the daemon, no command is misrouted in any state
exactly when every step meets the condition. -/
theorem routes_right_iff (nodetimeout : Int) (cs : List NodeConfig) (d₀ d : Daemon)
    (es : List DaemonEvent) (h₀ : configured nodetimeout cs = .ok d₀)
    (h : Run daemonStep (fun _ _ => True) d₀ es d) :
    Always daemonStep (fun _ _ => True) d₀ Daemon.RoutesRight es
      ↔ EveryStep daemonStep (fun _ _ => True) d₀ RouteKept es := by
  refine h.always_iff (I := fun s => Wired s ∧ s.RoutesRight) (configured_wired h₀)
    (fun s hs => hs.2) (fun s e s' hs _ hstep hkept => ?_) (fun s e s' hs _ hstep hright => ?_)
  · exact ⟨hs.1.step hstep, (step_routesRight_iff hs.1 hs.2 hstep).mpr hkept⟩
  · exact (step_routesRight_iff hs.1 hs.2 hstep).mp hright

/-! ## A former address -/

/-- Ubnetd has configured the address, and the sockets work. -/
def liveEnv : NetEnv := ⟨some 0x41, fun _ => true, fun _ => true, true⟩

/-- A client connects to a node, which then times out, and another node is discovered. -/
def reuse : List DaemonEvent :=
  [.packet (discoverPacket [0x61]) .connected, .main (.tick fun _ => liveEnv), .main (.accept 3),
    .main (.tick fun _ => deadEnv), .packet (discoverPacket [0x62]) .connected]

/-- The connection to the first node is still open, and the second one has its address. -/
theorem reuse_state : ∃ d, Run daemonStep (fun _ _ => True) (nodesInit 1) reuse d
    ∧ (d.conns.map fun c => (c.n, c.reading)) = [(⟨0, by decide⟩, true)]
    ∧ (d.slots ⟨0, by decide⟩).busadr = 3
    ∧ (d.slots ⟨1, by decide⟩).active = true ∧ (d.slots ⟨1, by decide⟩).busadr = 3 := by
  apply Run.exists_of_eval Fault.assertion
  decide +kernel

theorem reuse_misroutes : ∃ d, Run daemonStep (fun _ _ => True) (nodesInit 1) reuse d
    ∧ ¬ d.RoutesRight := by
  obtain ⟨d, hd, hconns, hroute, hactive, hadr⟩ := reuse_state
  obtain ⟨c, hc, hnode⟩ := List.map_eq_singleton_iff.mp hconns
  simp only [Prod.mk.injEq] at hnode
  have h₀ : configured 1 [] = .ok (nodesInit 1) := rfl
  have hwired : Wired d := hd.invariant (I := Wired) (configured_wired h₀).1
    fun _ _ _ hs _ hstep => hs.step hstep
  refine ⟨d, hd, fun hright => ?_⟩
  have hclient : d.client ⟨0, by decide⟩ := by
    refine ⟨c, ?_, hnode.2, hnode.1⟩
    rw [hc]
    exact List.mem_singleton_self c
  refine (routesRight_iff hwired).mp hright _ ⟨1, by decide⟩ hclient (by decide) ?_
  rw [holder_eq_some, SlotTable.route, hroute]
  exact ⟨hactive, hadr⟩

/-- **A command for a node that has left** is sent to the node that has its address now. -/
theorem former_address_misroutes : configured 1 [] = .ok (nodesInit 1)
    ∧ ∃ d, Run daemonStep (fun _ _ => True) (nodesInit 1) reuse d ∧ ¬ d.RoutesRight :=
  ⟨rfl, reuse_misroutes⟩

/-- In that run a step does not meet the condition. -/
theorem routes_right_iff_reuse :
    ¬ EveryStep daemonStep (fun _ _ => True) (nodesInit 1) RouteKept reuse := by
  obtain ⟨d, hd, hwrong⟩ := reuse_misroutes
  intro hkept
  have hright := (routes_right_iff 1 [] (nodesInit 1) d reuse rfl hd).mpr hkept
  exact hwrong (hright reuse [] d (List.append_nil _).symm hd)

end Ubd
