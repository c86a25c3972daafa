import Ubd.Daemon.Sockets

/-!
# Daemon.Lifecycle — how a node gets to `NODE_NORMAL`

A node asks for an address with `D` and confirms it with `I`. What an `I` does is
decided by the id in it and by the state of the node with this id; where the packet came
from only decides who is answered. `identify_confirms_iff` says when the two agree.
-/

namespace Ubd

open Runs

/-- What a node is told when it is confirmed: `O`, or `A` for one of its groups. -/
def MessageStream.Confirms (m : MessageStream) : Prop :=
  m.msg.data.head? = some 0x4F ∨ m.msg.data.head? = some 0x41

/-! ## What an `I` does -/

section Identify

variable {d d' : Daemon} {p : UbPacket}

/-- An `I` of a proper length that is accepted confirms its node. -/
theorem busmgtIdentify_accepted {x : NodeId} (hlo : 1 ≤ p.len.toNat) (hhi : p.len.toNat ≤ 45)
    (h : Accepts d p x) : ∃ d', busmgtIdentify d p = .ok d'
      ∧ d'.nodes = Function.update d.nodes x ((d.nodes x).confirmed d.nodetimeout) := by
  obtain ⟨d', hrun⟩ := busmgtIdentify_ok (d := d) hlo hhi
  refine ⟨d', hrun, ?_⟩
  cases busmgtIdentify_identifies hrun with
  | accepted h' => rw [h.unique h']
  | refused stranger => exact absurd h.waiting (stranger x h.named)
  | ignored stopped =>
      rcases stopped with hlong | ⟨y, hy, -, hdown⟩
      · simp only [maxId] at hlong
        omega
      · obtain rfl : x = y := Option.some.inj (h.named.symm.trans hy)
        rw [h.netup] at hdown
        cases hdown

/-- An `I` of a proper length that is refused is answered with one reset. -/
theorem busmgtIdentify_refused (hlo : 1 ≤ p.len.toNat) (hhi : p.len.toNat ≤ 45)
    (h : ∀ x, d.slots.byId (packetId p 1) = some x → (d.nodes x).state ≠ .identify) :
    busmgtIdentify d p = .ok { d with packetOut := d.packetOut ++ [resetMessage p.src] } := by
  obtain ⟨d', hrun⟩ := busmgtIdentify_ok (d := d) hlo hhi
  rw [hrun]
  cases busmgtIdentify_identifies hrun with
  | accepted h' => exact absurd h'.waiting (h _ h'.named)
  | refused => rfl
  | ignored stopped =>
      rcases stopped with hlong | ⟨y, hy, hwaiting, -⟩
      · simp only [maxId] at hlong
        omega
      · exact absurd hwaiting (h y hy)

end Identify

theorem busmgtInpacket_identify {d : Daemon} {p : UbPacket} {connect : UbnetdConnect}
    (hkind : p.kind = 0x49) : busmgtInpacket d p connect = busmgtIdentify d p := by
  rw [busmgtInpacket, hkind, if_neg (by decide), if_pos rfl]

/-! ## The address that is confirmed -/

/-- What the address of an `I` should decide: a node only moves to `NODE_NORMAL`, and is only
told so, if the packet comes from the address it was given. From elsewhere the packet leaves
the nodes with its id as they are. -/
structure ConfirmsAssigned (d d' : Daemon) (p : UbPacket) : Prop where
  moves : ∀ n, (d.nodes n).state ≠ .normal → (d'.nodes n).state = .normal →
    (d.nodes n).busadr = p.src.toNat
  queues : ∀ ms, d'.packetOut = d.packetOut ++ ms → (∃ m ∈ ms, m.Confirms) →
    ∃ n, (d.nodes n).state ≠ .normal ∧ (d'.nodes n).state = .normal
      ∧ (d.nodes n).busadr = p.src.toNat
  stays : ∀ n, (d.nodes n).free = false → (d.nodes n).id = packetId p 1 →
    (d.nodes n).busadr ≠ p.src.toNat → (d'.nodes n).state = (d.nodes n).state

/-- The event is no `I`, or one that only confirms the address its node was given. -/
def IdentifyConfirms (d : Daemon) (e : DaemonEvent) : Prop :=
  ∀ p connect d', e = .packet p connect → p.kind = 0x49 → daemonStep d e = .ok d' →
    ConfirmsAssigned d d' p

/-- An `I` that is accepted comes from the address of its node. -/
def FromAssigned (d : Daemon) (e : DaemonEvent) : Prop :=
  ∀ p connect x, e = .packet p connect → p.kind = 0x49 → 1 ≤ p.len.toNat → p.len.toNat ≤ 45 →
    Accepts d p x → (d.nodes x).busadr = p.src.toNat

section Confirming

variable {d d' : Daemon} {p : UbPacket}

theorem not_confirms_reset (adr : UInt8) : ¬ (resetMessage adr).Confirms := by
  simp [resetMessage, MessageStream.Confirms]

/-- Who is moved was accepted, and nobody else changes. -/
theorem Identifies.moved {n : NodeId} (h : Identifies d p d')
    (hne : (d'.nodes n).state ≠ (d.nodes n).state) : Accepts d p n := by
  cases h with
  | @accepted x accepts =>
      by_cases hn : n = x
      · rw [hn]
        exact accepts
      · simp [Function.update_of_ne hn] at hne
  | refused => exact absurd rfl hne
  | ignored => exact absurd rfl hne

/-- What is told that it is confirmed has been. -/
theorem Identifies.queued {ms : List MessageStream} (h : Identifies d p d')
    (hms : d'.packetOut = d.packetOut ++ ms) (hconfirms : ∃ m ∈ ms, m.Confirms) :
    ∃ x, Accepts d p x ∧ (d'.nodes x).state = .normal := by
  obtain ⟨m, hm, hconfirms⟩ := hconfirms
  cases h with
  | accepted accepts =>
      exact ⟨_, accepts, congrArg Node.state (Function.update_self _ _ d.nodes)⟩
  | refused =>
      obtain rfl := List.append_cancel_left hms
      rw [List.mem_singleton.mp hm] at hconfirms
      exact absurd hconfirms (not_confirms_reset p.src)
  | ignored =>
      obtain rfl : ms = [] := by simpa using hms
      cases hm

/-- Of an `I` that is accepted, the address of its sender decides. -/
theorem Identifies.confirms_iff (h : Identifies d p d') (hlo : 1 ≤ p.len.toNat)
    (hhi : p.len.toNat ≤ 45) (hrun : busmgtIdentify d p = .ok d') :
    ConfirmsAssigned d d' p ↔ ∀ x, Accepts d p x → (d.nodes x).busadr = p.src.toNat := by
  constructor
  · intro hconfirms x hx
    obtain ⟨e, hrun', hnodes⟩ := busmgtIdentify_accepted hlo hhi hx
    obtain rfl := Except.ok.inj (hrun.symm.trans hrun')
    refine hconfirms.moves x (fun hnormal => ?_) ?_
    · rw [hx.waiting] at hnormal
      cases hnormal
    · rw [hnodes, Function.update_self]
      rfl
  · intro hsrc
    refine ⟨fun n hbefore hafter => hsrc n (h.moved (fun heq => hbefore (heq.symm.trans hafter))),
      fun ms hms hconfirms => ?_, fun n _ _ hne => ?_⟩
    · obtain ⟨x, hx, hnormal⟩ := h.queued hms hconfirms
      refine ⟨x, fun hbefore => ?_, hnormal, hsrc x hx⟩
      rw [hx.waiting] at hbefore
      cases hbefore
    · by_contra hmoved
      exact hne (hsrc n (h.moved hmoved))

/-- An `I` whose length is no good changes nothing. -/
theorem confirms_of_long (hrun : busmgtIdentify d p = .ok d') (hlong : maxId < p.len.toNat) :
    ConfirmsAssigned d d' p := by
  have hsame : d' = d := by
    rcases busmgtIdentify_length hrun with ⟨-, hsame⟩ | ⟨-, hhi⟩
    · exact hsame
    · have hdata : ubPacketData = 45 := rfl
      simp only [maxId] at hlong
      omega
  subst hsame
  refine ⟨fun n hbefore hafter => absurd hafter hbefore, fun ms hms hconfirms => ?_,
    fun _ _ _ _ => rfl⟩
  obtain ⟨m, hm, -⟩ := hconfirms
  obtain rfl : ms = [] := by simpa using hms
  cases hm

theorem identifyConfirms_iff (d : Daemon) (e : DaemonEvent) :
    IdentifyConfirms d e ↔ FromAssigned d e := by
  have hdata : ubPacketData = 45 := rfl
  constructor
  · rintro hconfirms p connect x rfl hkind hlo hhi hx
    obtain ⟨d', hrun⟩ := busmgtIdentify_ok (d := d) hlo hhi
    have hc := hconfirms p connect d' rfl hkind ((busmgtInpacket_identify hkind).trans hrun)
    exact ((busmgtIdentify_identifies hrun).confirms_iff hlo hhi hrun).mp hc x hx
  · rintro hsrc p connect d' rfl hkind hrun
    replace hrun : busmgtIdentify d p = .ok d' := (busmgtInpacket_identify hkind).symm.trans hrun
    rcases busmgtIdentify_length hrun with ⟨hlong, -⟩ | ⟨hlo, hhi⟩
    · exact confirms_of_long hrun hlong
    · have hhi' : p.len.toNat ≤ 45 := by omega
      exact ((busmgtIdentify_identifies hrun).confirms_iff hlo hhi' hrun).mpr
        fun x hx => hsrc p connect x rfl hkind hlo hhi' hx

end Confirming

/-- **Who confirms an address**: in every run, an `I` confirms the address that was assigned
exactly as long as every `I` that is accepted comes from the address of its node. -/
theorem identify_confirms_iff (d₀ : Daemon) (es : List DaemonEvent) :
    EveryStep daemonStep (fun _ _ => True) d₀ IdentifyConfirms es
      ↔ EveryStep daemonStep (fun _ _ => True) d₀ FromAssigned es := by
  unfold EveryStep
  simp only [identifyConfirms_iff]

/-- A node that has come up is discovered once more, and gets another address. -/
def rediscovered : List DaemonEvent :=
  discoverOnce ++ [.packet (discoverPacket [0x61]) .connected]

/-- **An `I` from the old address is accepted**, although the node has been given a new one. -/
theorem stale_identify_accepted : configured 30 [] = .ok (nodesInit 30)
    ∧ ∃ d, Run daemonStep (fun _ _ => True) (nodesInit 30) rediscovered d
      ∧ ¬ EveryStep daemonStep (fun _ _ => True) (nodesInit 30) IdentifyConfirms
        (rediscovered ++ [.packet identifyPacket .connected]) := by
  obtain ⟨d, hd, hadr, hbefore, hafter⟩ : ∃ d,
      Run daemonStep (fun _ _ => True) (nodesInit 30) rediscovered d
        ∧ (d.nodes ⟨0, by decide⟩).busadr = 4
        ∧ (d.nodes ⟨0, by decide⟩).state = .identify
        ∧ (busmgtInpacket d identifyPacket .connected).toOption.map
          (fun d' => (d'.nodes ⟨0, by decide⟩).state) = some .normal := by
    apply Run.exists_of_eval Fault.assertion
    decide +kernel
  refine ⟨rfl, d, hd, fun hconfirms => ?_⟩
  cases hrun : busmgtInpacket d identifyPacket .connected with
  | error x =>
      rw [hrun] at hafter
      cases hafter
  | ok d' =>
      rw [hrun] at hafter
      have hkind : identifyPacket.kind = 0x49 := by decide
      have hc := hconfirms rediscovered _ [] d rfl hd identifyPacket .connected d' rfl hkind hrun
      have hsrc := hc.moves ⟨0, by decide⟩ (by rw [hbefore]; decide) (Option.some.inj hafter)
      rw [hadr] at hsrc
      revert hsrc
      decide

/-! ## The life of a node -/

/-- There is one bridge, and its packets come from address 2. -/
def OneBridge (bid : CString) (_ : Daemon) : BusEvent → Prop
  | .packet p _ => p.kind = 0x42 → p.src = 2 ∧ packetId p 5 = bid
  | .tick _ => True

/-- A `D` with this id. -/
def DiscoverOf (id : CString) (q : Daemon × BusEvent) : Prop :=
  ∃ p connect, q.2 = .packet p connect ∧ p.kind = 0x44 ∧ packetId p 7 = id

/-- An `I` with this id, handled while the sockets of the node are there. -/
def IdentifyOf (i : NodeId) (id : CString) (q : Daemon × BusEvent) : Prop :=
  ∃ p connect, q.2 = .packet p connect ∧ p.kind = 0x49 ∧ packetId p 1 = id
    ∧ (q.1.nodes i).netup = true

/-- The node has asked for an address, and has not been in `NODE_TIMEOUT` since. -/
def Asked (tr : List (Daemon × BusEvent)) (i : NodeId) (id : CString) : Prop :=
  ∃ pre x post, tr = pre ++ x :: post ∧ DiscoverOf id x
    ∧ ∀ y ∈ post, (y.1.nodes i).state ≠ .timeout

/-- It has also confirmed its address. -/
def AskedAndConfirmed (tr : List (Daemon × BusEvent)) (i : NodeId) (id : CString) : Prop :=
  ∃ pre x mid y post, tr = pre ++ x :: (mid ++ y :: post) ∧ DiscoverOf id x ∧ IdentifyOf i id y
    ∧ ∀ z ∈ mid ++ y :: post, (z.1.nodes i).state ≠ .timeout

section Histories

variable {tr : List (Daemon × BusEvent)} {i : NodeId} {id : CString} {q : Daemon × BusEvent}

theorem Asked.discovered (h : DiscoverOf id q) : Asked (tr ++ [q]) i id :=
  ⟨tr, q, [], rfl, h, fun _ hy => nomatch hy⟩

theorem Asked.later (h : Asked tr i id) (hawake : (q.1.nodes i).state ≠ .timeout) :
    Asked (tr ++ [q]) i id := by
  obtain ⟨pre, x, post, rfl, hx, hpost⟩ := h
  refine ⟨pre, x, post ++ [q], by simp, hx, fun y hy => ?_⟩
  rcases List.mem_append.mp hy with hy | hy
  · exact hpost y hy
  · rw [List.mem_singleton.mp hy]
    exact hawake

theorem Asked.confirmed (h : Asked tr i id) (hq : IdentifyOf i id q)
    (hawake : (q.1.nodes i).state ≠ .timeout) : AskedAndConfirmed (tr ++ [q]) i id := by
  obtain ⟨pre, x, post, rfl, hx, hpost⟩ := h
  refine ⟨pre, x, post, q, [], by simp, hx, hq, fun z hz => ?_⟩
  rcases List.mem_append.mp hz with hz | hz
  · exact hpost z hz
  · rw [List.mem_singleton.mp hz]
    exact hawake

theorem AskedAndConfirmed.later (h : AskedAndConfirmed tr i id)
    (hawake : (q.1.nodes i).state ≠ .timeout) : AskedAndConfirmed (tr ++ [q]) i id := by
  obtain ⟨pre, x, mid, y, post, rfl, hx, hy, hpost⟩ := h
  refine ⟨pre, x, mid, y, post ++ [q], by simp, hx, hy, fun z hz => ?_⟩
  rw [← List.cons_append, ← List.append_assoc] at hz
  rcases List.mem_append.mp hz with hz | hz
  · exact hpost z hz
  · rw [List.mem_singleton.mp hz]
    exact hawake

end Histories

/-- Only the bridge has address 2. -/
def SlotTable.BridgeAlone (bid : CString) (t : SlotTable) : Prop :=
  ∀ i, (t i).busadr = 2 → (t i).id = bid

section Steps

variable {bid : CString} {t t' : SlotTable} {p : UbPacket}

/-- **What a packet does to a slot**, apart from that of the bridge. -/
inductive SlotStep (bid : CString) (p : UbPacket) (s s' : Slot) : Prop
  | same (same : s' = s)
  | bridge (id : s'.id = bid)
  | discovered (kind : p.kind = 0x44) (id : packetId p 7 = s'.id) (state : s'.state = .identify)
      (adr : s'.busadr ≠ 2)
  | confirmed (kind : p.kind = 0x49) (id : packetId p 1 = s'.id) (before : s.state = .identify)
      (kept : s'.id = s.id) (adr : s'.busadr = s.busadr)

/-- At address 2 there is nobody but the bridge when it is registered. -/
theorem SlotTable.BridgeAlone.register (h : t.BridgeAlone bid) (x : NodeId) (state : NodeState) :
    (t.register x bid 2 state).BridgeAlone bid := by
  intro i hi
  by_cases hix : i = x
  · subst hix
    simp [SlotTable.register]
  · rw [SlotTable.register, Function.update_of_ne hix] at hi ⊢
    exact h i hi

theorem packet_slotStep (halone : t.BridgeAlone bid)
    (hbridge : p.kind = 0x42 → p.src = 2 ∧ packetId p 5 = bid) (h : PacketChange p t t')
    (i : NodeId) : SlotStep bid p (t i) (t' i) := by
  -- the node that is found at address 2 is the bridge
  have hfound : ∀ {u : SlotTable} {n : NodeId}, u.BridgeAlone bid → p.kind = 0x42 →
      u.byAdr p.src.toNat = some n → (u n).id = bid := by
    intro u n hu kind found
    rw [(hbridge kind).1] at found
    exact hu n (byAdr_eq_some found).2.2
  cases h with
  | same => exact .same rfl
  | @discover x kind _ slot =>
      by_cases hi : i = x
      · subst hi
        refine .discovered kind ?_ ?_ ?_
        · simp [SlotTable.register]
        · simp [SlotTable.register]
        · rw [SlotTable.register, Function.update_self]
          rcases freeAdr_spec t with ⟨hlo, -, -⟩ | ⟨hnone, -⟩
          · show t.freeAdr ≠ 2
            omega
          · show t.freeAdr ≠ 2
            omega
      · rw [SlotTable.register, Function.update_of_ne hi]
        exact .same rfl
  | @identify x kind slot waiting =>
      by_cases hi : i = x
      · subst hi
        have hid : (t i).id = packetId p 1 := (byId_eq_some.mp slot).1.2
        refine .confirmed kind ?_ waiting ?_ ?_
        · rw [SlotTable.confirm, Function.update_self]
          exact hid.symm
        · rw [SlotTable.confirm, Function.update_self]
        · rw [SlotTable.confirm, Function.update_self]
      · rw [SlotTable.confirm, Function.update_of_ne hi]
        exact .same rfl
  | @bridge x n t₁ kind slot registered found =>
      rw [(hbridge kind).2] at registered
      have hone : t₁.BridgeAlone bid := registered ▸ halone.register x _
      by_cases hn : i = n
      · subst hn
        refine .bridge ?_
        rw [SlotTable.confirm, Function.update_self]
        exact hfound hone kind found
      · rw [SlotTable.confirm, Function.update_of_ne hn, registered, SlotTable.register]
        by_cases hx : i = x
        · subst hx
          refine .bridge ?_
          rw [Function.update_self]
        · rw [Function.update_of_ne hx]
          exact .same rfl
  | @bridgeFull n kind slot found =>
      by_cases hn : i = n
      · subst hn
        refine .bridge ?_
        rw [SlotTable.confirm, Function.update_self]
        exact hfound halone kind found
      · rw [SlotTable.confirm, Function.update_of_ne hn]
        exact .same rfl

/-- A node is left as it is, or it has timed out. -/
theorem Expired.slot (h : Expired t t') (i : NodeId) :
    t' i = t i ∨ (t' i).state = .timeout ∧ (t' i).id = (t i).id ∧ (t' i).busadr = (t i).busadr := by
  induction h with
  | refl => exact .inl rfl
  | @step t' n _ _ ih =>
      rw [SlotTable.expire]
      by_cases hi : i = n
      · subst hi
        rw [Function.update_self]
        refine .inr ⟨rfl, ?_⟩
        rcases ih with hsame | ⟨-, hboth⟩
        · rw [hsame]
          exact ⟨rfl, rfl⟩
        · exact hboth
      · rw [Function.update_of_ne hi]
        exact ih

theorem SlotTable.BridgeAlone.packet (h : t.BridgeAlone bid)
    (hbridge : p.kind = 0x42 → p.src = 2 ∧ packetId p 5 = bid) (hchange : PacketChange p t t') :
    t'.BridgeAlone bid := by
  intro i hi
  cases packet_slotStep h hbridge hchange i with
  | same same =>
      rw [same] at hi ⊢
      exact h i hi
  | bridge id => exact id
  | discovered _ _ _ adr => exact absurd hi adr
  | confirmed _ _ _ kept adr =>
      rw [adr] at hi
      rw [kept]
      exact h i hi

theorem SlotTable.BridgeAlone.expired (h : t.BridgeAlone bid) (hexp : Expired t t') :
    t'.BridgeAlone bid := by
  intro i hi
  rcases hexp.slot i with hsame | ⟨-, hid, hadr⟩
  · rw [hsame] at hi ⊢
    exact h i hi
  · rw [hadr] at hi
    rw [hid]
    exact h i hi

end Steps

/-- What is known of the past of the nodes on the bus. -/
structure Remembered (bid : CString) (tr : List (Daemon × BusEvent)) (d : Daemon) : Prop where
  assigned : d.slots.Assigned
  alone : d.slots.BridgeAlone bid
  asked : ∀ i, (d.slots i).id ≠ bid → (d.slots i).state = .identify → Asked tr i (d.slots i).id
  confirmed : ∀ i, (d.slots i).id ≠ bid → (d.slots i).state = .normal →
    AskedAndConfirmed tr i (d.slots i).id

section Remembering

variable {bid : CString} {tr : List (Daemon × BusEvent)} {d d' : Daemon}

/-- Of a node that an event leaves alone, the past is longer. -/
theorem Remembered.same (h : Remembered bid tr d) {i : NodeId} (e : BusEvent)
    (hsame : d'.slots i = d.slots i) (hid : (d'.slots i).id ≠ bid) :
    ((d'.slots i).state = .identify → Asked (tr ++ [(d, e)]) i (d'.slots i).id)
      ∧ ((d'.slots i).state = .normal → AskedAndConfirmed (tr ++ [(d, e)]) i (d'.slots i).id) := by
  rw [hsame] at hid ⊢
  have hawake : ∀ s, (d.slots i).state = s → s ≠ .timeout → (d.nodes i).state ≠ .timeout := by
    intro s hs hne htimeout
    exact hne (hs.symm.trans htimeout)
  exact ⟨fun hs => (h.asked i hid hs).later (hawake _ hs (by decide)),
    fun hs => (h.confirmed i hid hs).later (hawake _ hs (by decide))⟩

/-- **One step.** -/
theorem Remembered.step {e : BusEvent} (h : Remembered bid tr d) (hguard : OneBridge bid d e)
    (hstep : busStep d e = .ok d') : Remembered bid (tr ++ [(d, e)]) d' := by
  suffices hpast : d'.slots.Assigned ∧ d'.slots.BridgeAlone bid
      ∧ ∀ i, (d'.slots i).id ≠ bid →
        ((d'.slots i).state = .identify → Asked (tr ++ [(d, e)]) i (d'.slots i).id)
          ∧ ((d'.slots i).state = .normal →
            AskedAndConfirmed (tr ++ [(d, e)]) i (d'.slots i).id) by
    obtain ⟨hassigned, halone, hboth⟩ := hpast
    exact ⟨hassigned, halone, fun i hid => (hboth i hid).1, fun i hid => (hboth i hid).2⟩
  cases e with
  | tick env =>
      have hexp := (mgtTick_change hstep).1
      refine ⟨h.assigned.expired hexp, h.alone.expired hexp, fun i hid => ?_⟩
      rcases hexp.slot i with hsame | ⟨hstate, -⟩
      · exact h.same _ hsame hid
      · rw [hstate]
        exact ⟨(fun hs => nomatch hs), fun hs => nomatch hs⟩
  | packet p connect =>
      have hchange := (busmgtInpacket_change h.assigned.free hstep).1
      refine ⟨h.assigned.packet hchange, h.alone.packet hguard hchange, fun i hid => ?_⟩
      cases packet_slotStep h.alone hguard hchange i with
      | same hsame => exact h.same _ hsame hid
      | bridge hbridge => exact absurd hbridge hid
      | discovered kind hid' hstate =>
          rw [hstate]
          exact ⟨fun _ => .discovered ⟨p, connect, rfl, kind, hid'⟩, fun hs => nomatch hs⟩
      | confirmed kind hid' hbefore hkept =>
          have hrun : busmgtIdentify d p = .ok d' := (busmgtInpacket_identify kind).symm.trans hstep
          have hwaiting : (d.nodes i).state = .identify := hbefore
          refine ⟨fun hs => ?_, fun hs => ?_⟩
          · rw [hkept] at hid ⊢
            exact (h.asked i hid hbefore).later (by rw [hwaiting]; decide)
          · have hnetup := busmgtIdentify_netup (n := i) hrun (by rw [hwaiting]; decide) hs
            rw [hkept] at hid hid' ⊢
            exact (h.asked i hid hbefore).confirmed ⟨p, connect, rfl, kind, hid', hnetup⟩
              (by rw [hwaiting]; decide)

theorem SlotTable.Silent.remembered (h : d.slots.Silent) : Remembered bid [] d where
  assigned := h.assigned
  alone := by
    intro i hi
    rw [(h i).2.2] at hi
    cases hi
  asked := by
    intro i _ hs
    rw [(h i).2.1] at hs
    cases hs
  confirmed := by
    intro i _ hs
    rw [(h i).2.1] at hs
    cases hs

end Remembering

/-- An `I` that names nobody who waits for it, or an `A` from an address that no active node
holds. -/
def Unexpected (d : Daemon) (p : UbPacket) : Prop :=
  (p.kind = 0x49 ∧ 1 ≤ p.len.toNat ∧ p.len.toNat ≤ 45
      ∧ ∀ x, nodesGetNodeById d (packetId p 1) = some x → (d.nodes x).state ≠ .identify)
    ∨ (p.kind = 0x41 ∧ ∀ i, (d.nodes i).active = true → (d.nodes i).busadr ≠ p.src.toNat)

/-- It is answered with a reset, and that is all. -/
theorem unexpected_reset {d : Daemon} {p : UbPacket} (h : Unexpected d p)
    (connect : UbnetdConnect) : busStep d (.packet p connect)
      = .ok { d with packetOut := d.packetOut ++ [resetMessage p.src] } := by
  show busmgtInpacket d p connect = _
  rcases h with ⟨hkind, hlo, hhi, hstranger⟩ | ⟨hkind, hnobody⟩
  · rw [busmgtInpacket_identify hkind]
    exact busmgtIdentify_refused hlo hhi hstranger
  · have hnone : nodesGetNodeByBusAdr d p.src.toNat = none := by
      rw [nodesGetNodeByBusAdr_slots, byAdr_eq_none]
      exact fun j _ hactive => hnobody j hactive
    rw [busmgtInpacket, hkind, if_neg (by decide), if_neg (by decide), if_neg (by decide),
      if_pos rfl, busmgtAlive, hnone]
    exact busmgtSendReset_eq d p.src

/-- **The life cycle of a node**, in every run with one bridge: a node is in `NODE_NORMAL` only
after it has asked for an address and confirmed it while its sockets were there, without having
timed out in between. What comes unexpected is answered with a reset and changes no node. -/
theorem node_lifecycle (bid : CString) (nodetimeout : Int) (cs : List NodeConfig) (d₀ d : Daemon)
    (tr : List (Daemon × BusEvent)) (h₀ : configured nodetimeout cs = .ok d₀)
    (h : Traced busStep (OneBridge bid) d₀ tr d) :
    (∀ i, (d.nodes i).id ≠ bid → (d.nodes i).state = .normal →
        AskedAndConfirmed tr i (d.nodes i).id)
      ∧ ∀ p connect, Unexpected d p → ∃ d', busStep d (.packet p connect) = .ok d'
        ∧ d'.nodes = d.nodes ∧ d'.packetOut = d.packetOut ++ [resetMessage p.src] := by
  have hpast : Remembered bid tr d := h.invariant (configured_silent h₀).remembered
    fun tr s e s' hs hguard hstep => hs.step hguard hstep
  exact ⟨hpast.confirmed, fun p connect hp =>
    ⟨_, unexpected_reset hp connect, rfl, rfl⟩⟩

instance (bid : CString) (d : Daemon) (e : BusEvent) : Decidable (OneBridge bid d e) := by
  cases e with
  | packet p connect =>
      exact inferInstanceAs (Decidable (p.kind = 0x42 → p.src = 2 ∧ packetId p 5 = bid))
  | tick env => exact .isTrue trivial

/-- A node is discovered, comes up and confirms its address. -/
theorem node_lifecycle_first : configured 30 [] = .ok (nodesInit 30)
    ∧ ∃ tr d, Traced busStep (OneBridge [0x62]) (nodesInit 30) tr d
      ∧ tr.map Prod.snd = [.packet (discoverPacket [0x61]) .connected, .tick fun _ => liveEnv,
        .packet identifyPacket .connected]
      ∧ AskedAndConfirmed tr ⟨0, by decide⟩ [0x61] := by
  obtain ⟨d, hd, hnormal, hid⟩ : ∃ d, Run busStep (OneBridge [0x62]) (nodesInit 30)
      [.packet (discoverPacket [0x61]) .connected, .tick fun _ => liveEnv,
        .packet identifyPacket .connected] d
      ∧ (d.nodes ⟨0, by decide⟩).state = .normal ∧ (d.nodes ⟨0, by decide⟩).id = [0x61] := by
    apply Run.exists_of_eval Fault.assertion
    decide +kernel
  obtain ⟨tr, htr, hes⟩ := hd.traced
  have hcycle := (node_lifecycle [0x62] 30 [] (nodesInit 30) d tr rfl htr).1 ⟨0, by decide⟩
    (by rw [hid]; decide) hnormal
  rw [hid] at hcycle
  exact ⟨rfl, tr, d, htr, hes, hcycle⟩

end Ubd
