import Ubd.Ubnetd.Hosting

/-!
# Ubnetd.Calls — what the daemon asks ubnetd for

For each step of the daemon, which calls of `interface.c` it makes and what it does to the nodes
they are about: `Addressing.hosting` says that what was asked for last can be seen in the table of
slots. And the address of a node is never replaced: `Addressing.kept`.
-/

namespace Ubd

open Registries Runs

/-! ## The calls of a tick -/

section Calls

variable {d d' : Daemon} {n : NodeId} {env : NodeId → NetEnv} {ns : List NodeId}

/-- Keeping the calls changes nothing. -/
theorem mgtCheckTimeoutCalls_fst (d : Daemon) :
    (mgtCheckTimeoutCalls d).map Prod.fst = mgtCheckTimeout d := by
  refine foldlM_map (fun q i => ?_) _ _
  unfold mgtCheckNodeCalls
  cases nodesGetNode q.1 i with
  | none => rfl
  | some n =>
      unfold logged
      dsimp only
      cases mgtCheckNode q.1 n <;> rfl

theorem timesOut_iff : timesOut d n = true ↔ (d.nodes n).TimesOut := decide_eq_true_iff

/-- The loop goes through the slots in use. -/
theorem checkLoop_visits (h : Plugged d) :
    mgtCheckTimeoutCalls d = (usedSlots d).foldlM (logged mgtCheckNode timesOut) (d, []) := by
  unfold mgtCheckTimeoutCalls
  rw [nodesGetNodeCount_eq]
  refine foldlM_range (I := fun q => Plugged q.1 ∧ usedSlots q.1 = usedSlots d)
    (fun q i n hq hi => ?_) (fun q n q' hq hturn => ?_) ⟨h, rfl⟩
  · have hget : nodesGetNode q.1 i = some n := by
      rw [nodesGetNode_eq]
      show (usedSlots q.1)[i]? = some n
      rw [hq.2]
      exact hi
    unfold mgtCheckNodeCalls
    rw [hget]
  · unfold logged at hturn
    obtain ⟨e, hcheck, rfl⟩ := map_eq_ok hturn
    have hbody := mgtCheckNode_turnBody q.1 n e hq.1 hcheck
    refine ⟨hq.1.turn hbody, Eq.trans ?_ hq.2⟩
    unfold usedSlots
    simp only [hbody.free_all]

/-- **Whose address `mgt_checkTimeout` has removed**: those whose time has run out. -/
theorem mgtCheckTimeoutCalls_calls (h : Plugged d)
    (hrun : mgtCheckTimeoutCalls d = .ok (d', ns)) (n : NodeId) :
    n ∈ ns ↔ (d.nodes n).free = false ∧ (d.nodes n).TimesOut := by
  rw [checkLoop_visits h] at hrun
  have hcalls : ns = [] ++ (usedSlots d).filter (timesOut d) := by
    refine foldlM_logged (I := Plugged) (fun a n a' ha hturn => ?_) (nodup_usedSlots d) h hrun
    have hbody := mgtCheckNode_turnBody a n a' ha hturn
    refine ⟨ha.turn hbody, fun m hm => ?_⟩
    unfold timesOut
    rw [hbody.others m hm]
  rw [hcalls, List.nil_append, List.mem_filter, mem_usedSlots, timesOut_iff]

theorem mem_tickCalls (h : Plugged d) (hrun : mgtTick d env = .ok d') {op : Op} :
    (op, n) ∈ interfaceCalls d (.main (.tick env))
      ↔ op = .del ∧ (d.nodes n).free = false ∧ (d.nodes n).TimesOut := by
  obtain ⟨e, hcheck, -⟩ := bind_eq_ok.mp hrun
  rw [← mgtCheckTimeoutCalls_fst] at hcheck
  unfold interfaceCalls
  dsimp only
  cases hcalls : mgtCheckTimeoutCalls d with
  | error x =>
      rw [hcalls] at hcheck
      cases hcheck
  | ok q =>
      obtain ⟨e', ns⟩ := q
      dsimp only
      rw [List.mem_map, ← mgtCheckTimeoutCalls_calls h hcalls n]
      constructor
      · rintro ⟨m, hm, heq⟩
        cases heq
        exact ⟨rfl, hm⟩
      · rintro ⟨rfl, hm⟩
        exact ⟨n, hm, rfl⟩

end Calls

/-! ## What a step does to the address of a node -/

/-- What was asked for last: to add the address of an active node, to remove that of one that has
timed out. -/
def Slot.hosting (s : Slot) : Option Op :=
  if s.active = true then some .add else if s.busadr ≠ 0 then some .del else none

/-- What the last of these calls for the node is for. -/
def lastCall (calls : List (Op × NodeId)) (n : NodeId) : Option Op :=
  (calls.reverse.find? (·.2 = n)).map Prod.fst

@[simp] theorem lastCall_nil (n : NodeId) : lastCall [] n = none := rfl

theorem lastCall_append (calls calls' : List (Op × NodeId)) (n : NodeId) :
    lastCall (calls ++ calls') n = (lastCall calls' n).or (lastCall calls n) := by
  unfold lastCall
  rw [List.reverse_append, List.find?_append, Option.map_or]

theorem lastCall_snoc (calls : List (Op × NodeId)) (op : Op) (m n : NodeId) :
    lastCall (calls ++ [(op, m)]) n = if m = n then some op else lastCall calls n := by
  rw [lastCall_append]
  by_cases hm : m = n
  · simp [lastCall, hm]
  · simp [lastCall, hm]

theorem lastCall_none {calls : List (Op × NodeId)} {n : NodeId} :
    lastCall calls n = none ↔ ∀ op, (op, n) ∉ calls := by
  unfold lastCall
  rw [Option.map_eq_none_iff, List.find?_eq_none]
  constructor
  · intro h op hmem
    exact h (op, n) (List.mem_reverse.mpr hmem) (decide_eq_true rfl)
  · rintro h ⟨op, m⟩ hmem hm
    obtain rfl : m = n := of_decide_eq_true hm
    exact h op (List.mem_reverse.mp hmem)

theorem lastCall_only {calls : List (Op × NodeId)} {n : NodeId} {op : Op}
    (hmem : (op, n) ∈ calls) (hall : ∀ op', (op', n) ∈ calls → op' = op) :
    lastCall calls n = some op := by
  cases hlast : lastCall calls n with
  | none => exact absurd hmem (lastCall_none.mp hlast op)
  | some op' =>
      obtain ⟨⟨op'', m⟩, hfind, heq⟩ := Option.map_eq_some_iff.mp hlast
      obtain rfl : m = n := by simpa using List.find?_some hfind
      cases heq
      rw [hall _ (List.mem_reverse.mp (List.mem_of_find?_eq_some hfind))]

section Slots

variable {t t' : SlotTable} {p : UbPacket} {n : NodeId}

/-- Confirming a node that is active changes nothing. -/
theorem hosting_confirm {x : NodeId} (hactive : (t x).active = true) (n : NodeId) :
    (t.confirm x n).hosting = (t n).hosting := by
  unfold SlotTable.confirm
  by_cases hn : n = x
  · subst hn
    rw [Function.update_self]
    unfold Slot.hosting
    rw [if_pos hactive]
    rfl
  · rw [Function.update_of_ne hn]

theorem hosting_register (x : NodeId) (id : CString) (adr : Int) (state : NodeState) (n : NodeId) :
    (t.register x id adr state n).hosting = if x = n then some .add else (t n).hosting := by
  unfold SlotTable.register
  by_cases hn : n = x
  · subst hn
    rw [Function.update_self, if_pos rfl]
    rfl
  · rw [Function.update_of_ne hn, if_neg (Ne.symm hn)]

end Slots

section Packets

variable {d d' : Daemon} {t' : SlotTable} {p : UbPacket} {connect : UbnetdConnect} {n x : NodeId}

/-- The calls of a packet. -/
theorem lastCall_packet (hregister : registering d p = some x) (n : NodeId) :
    lastCall (interfaceCalls d (.packet p connect)) n = if x = n then some .add else none := by
  unfold interfaceCalls
  dsimp only
  rw [hregister]
  show lastCall ([(.del, x)] ++ [(.add, x)]) n = _
  rw [lastCall_snoc]
  by_cases hx : x = n
  · rw [if_pos hx, if_pos hx]
  · rw [if_neg hx, if_neg hx]
    exact lastCall_none.mpr fun op hmem => hx (congrArg Prod.snd (List.mem_singleton.mp hmem)).symm

theorem lastCall_unregistering (hregister : registering d p = none) (n : NodeId) :
    lastCall (interfaceCalls d (.packet p connect)) n = none := by
  unfold interfaceCalls
  dsimp only
  rw [hregister]
  rfl

theorem Unregistering.registering (h : Unregistering p d.slots) : registering d p = none := by
  unfold Ubd.registering
  rw [if_neg h.2]
  split_ifs with hkind hfits
  · exact (h.1 hkind).resolve_left (Nat.not_lt.mpr hfits)
  · rfl
  · rfl

/-- **A packet** is about the node that it registers. -/
theorem packet_hosting (h : d.slots.Assigned) (hchange : PacketChange p d.slots t') (n : NodeId) :
    (t' n).hosting
      = (lastCall (interfaceCalls d (.packet p connect)) n).or (d.slots n).hosting := by
  have hother : ∀ {x : NodeId} {o : Option Op}, (if x = n then some .add else o)
      = (if x = n then some Op.add else none).or o := by
    intro x o
    by_cases hx : x = n
    · rw [if_pos hx, if_pos hx]
      rfl
    · rw [if_neg hx, if_neg hx]
      rfl
  cases hchange with
  | same idle =>
      rw [lastCall_unregistering idle.registering]
      rfl
  | @discover x kind fits slot =>
      have hregister : registering d p = some x := by
        unfold registering
        rw [if_pos kind, if_pos fits, slot]
      rw [lastCall_packet hregister, hosting_register, hother]
  | @identify x kind slot waiting =>
      have hregister : registering d p = none := by
        unfold registering
        rw [if_neg (by rw [kind]; decide), if_neg (by rw [kind]; decide)]
      rw [lastCall_unregistering hregister, hosting_confirm (h.onBus x (.inl waiting))]
      rfl
  | @bridge x m t₁ kind slot registered found =>
      have hregister : registering d p = some x := by
        unfold registering
        rw [if_neg (by rw [kind]; decide), if_pos kind, slot]
      rw [lastCall_packet hregister, hosting_confirm (byAdr_eq_some found).2.1, registered,
        hosting_register, hother]
  | @bridgeFull m kind slot found =>
      have hregister : registering d p = none := by
        unfold registering
        rw [if_neg (by rw [kind]; decide), if_pos kind, slot]
      rw [lastCall_unregistering hregister, hosting_confirm (byAdr_eq_some found).2.1]
      rfl

end Packets

/-- **What a tick does to a node**, as far as its address is concerned. -/
structure Ticked (x x' : Node) (env : NetEnv) : Prop where
  slot : x'.slot = if x.TimesOut then { x.slot with active := false, state := .timeout } else x.slot
  netadr : x'.netadr = x.netadr
  ubnetd : x'.ubnetd = if env.ubnetd = none then x.ubnetd else none

section Ticks

variable {d d' : Daemon} {n : NodeId} {env : NodeId → NetEnv}

theorem Checks.slot (h : Checks d n d') : (d'.nodes n).slot
    = if (d.nodes n).TimesOut then { (d.nodes n).slot with active := false, state := .timeout }
      else (d.nodes n).slot := by
  cases h with
  | off off => rw [if_neg fun hout => off hout.1]
  | left onBus left =>
      rw [if_neg fun hout => left hout.2, setNode_self]
      rfl
  | out out =>
      have hslot : ((mgtRemoved d n).nodes n).slot = (d.nodes n).slot :=
        congrFun (mgtRemoved_change d n).1 n
      rw [if_pos out, setNode_self, ← hslot]
      rfl

theorem interfaceGetConfiguredAddress_keeps_netadr (env : NetEnv) (s : NetState) :
    (interfaceGetConfiguredAddress env s).1.net.netadr = s.net.netadr
      ∧ (interfaceGetConfiguredAddress env s).1.net.ubnetd
        = if env.ubnetd = none then s.net.ubnetd else none := by
  unfold interfaceGetConfiguredAddress
  cases hub : s.net.ubnetd with
  | none =>
      refine ⟨rfl, ?_⟩
      dsimp only
      rw [hub, ite_self]
  | some h =>
      cases env.ubnetd with
      | none => exact ⟨rfl, hub⟩
      | some buf => exact ⟨rfl, rfl⟩

theorem mgtConfigureNode_ticked (h : mgtConfigureNode env d n = .ok d') :
    (d'.nodes n).slot = (d.nodes n).slot ∧ (d'.nodes n).netadr = (d.nodes n).netadr
      ∧ (d'.nodes n).ubnetd = if (env n).ubnetd = none then (d.nodes n).ubnetd else none := by
  obtain ⟨hadr, hub⟩ := interfaceGetConfiguredAddress_keeps_netadr (env n) (d.netAt n)
  rcases mgtConfigureNode_cases h with ⟨-, rfl⟩ | ⟨-, rfl⟩
  · refine ⟨congrFun (onNet_slots d n _) n, ?_, ?_⟩
    · rw [congrArg NodeNet.netadr (onNet_net d n _), (netCreateSockets_uses n _ _ _).2]
      exact hadr
    · rw [congrArg NodeNet.ubnetd (onNet_net d n _), (netCreateSockets_own n _ _ _).1]
      exact hub
  · refine ⟨congrFun (onNet_slots d n _) n, ?_, ?_⟩
    · rw [congrArg NodeNet.netadr (onNet_net d n _)]
      exact hadr
    · rw [congrArg NodeNet.ubnetd (onNet_net d n _)]
      exact hub

theorem mgtTick_ticked (hd : Plugged d) (hused : (d.nodes n).free = false)
    (h : mgtTick d env = .ok d') : Ticked (d.nodes n) (d'.nodes n) (env n) := by
  obtain ⟨d₁, d₂, d₃, d₄, ⟨-, hsame₁, hcheck⟩, ⟨-, hsame₃, hconfigure⟩, hsame₄⟩ :=
    mgtTick_turns hd hused h
  have hslot := (mgtCheckNode_checks hcheck).slot
  have hnet := (mgtCheckNode_checked hcheck).net
  obtain ⟨hslot', hadr, hub⟩ := mgtConfigureNode_ticked hconfigure
  rw [hsame₁.node] at hslot hnet
  rw [hsame₃.node] at hslot' hadr hub
  refine ⟨?_, ?_, ?_⟩
  · rw [hsame₄.node, hslot', hslot]
  · rw [hsame₄.node, hadr, congrArg NodeNet.netadr hnet]
  · rw [hsame₄.node, hub, congrArg NodeNet.ubnetd hnet]

/-- A slot that has never been used is none of its business. -/
theorem mgtTick_free (hd : Plugged d) (hfree : (d.nodes n).free = true)
    (h : mgtTick d env = .ok d') : d'.nodes n = d.nodes n := by
  obtain ⟨e, hcheck, hconfigure⟩ := bind_eq_ok.mp h
  have he := forEachNode_plugged mgtCheckNode_turnBody hd hcheck
  have hsame := forEachNode_free mgtCheckNode_turnBody hd hfree hcheck
  have hsame' := forEachNode_free (mgtConfigureNode_turnBody env) he
    (by rw [hsame.node]; exact hfree) hconfigure
  rw [hsame'.node, hsame.node]

end Ticks

/-! ## Addresses stay -/

/-- A node in use keeps its address, and a slot that stays free has what it had. -/
structure KeepsAddresses (d d' : Daemon) : Prop where
  used : ∀ n, (d.nodes n).free = false → (d'.nodes n).free = false
    ∧ ∀ a, (d.nodes n).netadr = some a → (d'.nodes n).netadr = some a
  free : ∀ n, (d'.nodes n).free = true →
    (d.nodes n).free = true ∧ (d'.nodes n).netadr = (d.nodes n).netadr

section Keeping

variable {a b c d d' : Daemon} {n x : NodeId} {f : Node → Node}

theorem KeepsAddresses.refl (d : Daemon) : KeepsAddresses d d :=
  ⟨fun _ hused => ⟨hused, fun _ h => h⟩, fun _ hfree => ⟨hfree, rfl⟩⟩

theorem KeepsAddresses.trans (h : KeepsAddresses a b) (h' : KeepsAddresses b c) :
    KeepsAddresses a c where
  used := by
    intro n hused
    obtain ⟨hb, hkeeps⟩ := h.used n hused
    obtain ⟨hc, hkeeps'⟩ := h'.used n hb
    exact ⟨hc, fun adr hadr => hkeeps' adr (hkeeps adr hadr)⟩
  free := by
    intro n hfree
    obtain ⟨hb, hsame⟩ := h'.free n hfree
    obtain ⟨ha, hsame'⟩ := h.free n hb
    exact ⟨ha, hsame.trans hsame'⟩

theorem keepsAddresses_of_same (h : ∀ n, (b.nodes n).free = (a.nodes n).free
    ∧ (b.nodes n).netadr = (a.nodes n).netadr) : KeepsAddresses a b where
  used := fun n hused => ⟨(h n).1.trans hused, fun _ hadr => (h n).2.trans hadr⟩
  free := fun n hfree => ⟨(h n).1.symm.trans hfree, (h n).2⟩

/-- One node is written to. -/
theorem keepsAddresses_setNode (d : Daemon) (n : NodeId)
    (hfree : (f (d.nodes n)).free = (d.nodes n).free)
    (hnetadr : (f (d.nodes n)).netadr = (d.nodes n).netadr) :
    KeepsAddresses d (d.setNode n f) := by
  refine keepsAddresses_of_same fun m => ?_
  by_cases hm : m = n
  · rw [hm, setNode_self]
    exact ⟨hfree, hnetadr⟩
  · rw [setNode_of_ne d n f hm]
    exact ⟨rfl, rfl⟩

/-- A slot is taken. -/
theorem LooksUp.keepsAddresses {id : CString} (h : LooksUp d id x d') :
    KeepsAddresses d d' ∧ (d'.nodes x).free = false := by
  cases h with
  | known found =>
      rw [nodesGetNodeById_slots] at found
      exact ⟨.refl d, (byId_eq_some.mp found).1.1⟩
  | new unknown free =>
      unfold nodesAddNode
      have hx : (nodesSetNameFromID { (((d.setNode x Node.reset).setNode x fun n =>
          { n with id := id.take maxId }).nodes x) with free := false }).free = false :=
        congrArg Slot.free (nodesSetNameFromID_slot _)
      refine ⟨⟨fun n hused => ?_, fun n hfree => ?_⟩, by rw [setNode_self]; exact hx⟩
      · have hn : n ≠ x := by
          rintro rfl
          exact nomatch hused.symm.trans free
        rw [setNode_of_ne _ _ _ hn, setNode_of_ne _ _ _ hn, setNode_of_ne _ _ _ hn]
        exact ⟨hused, fun _ h => h⟩
      · have hn : n ≠ x := by
          rintro rfl
          rw [setNode_self] at hfree
          exact nomatch hfree.symm.trans hx
        rw [setNode_of_ne _ _ _ hn, setNode_of_ne _ _ _ hn, setNode_of_ne _ _ _ hn] at hfree ⊢
        exact ⟨hfree, rfl⟩

/-- `address6_createAddress` leaves an address that is there. -/
theorem registered_netadr (d : Daemon) (x : NodeId) (adr : Int) (type : NodeType)
    (connect : UbnetdConnect) (n : NodeId) :
    ((d.registered x adr type connect).nodes n).free = (d.nodes n).free
      ∧ ((d.registered x adr type connect).nodes n).netadr
        = if n = x then (d.nodes x).netadr.or (some (.freeAddr (d.nodes x).id))
          else (d.nodes n).netadr := by
  unfold Daemon.registered
  dsimp only
  by_cases hn : n = x
  · subst hn
    rw [setNode_self, if_pos rfl]
    refine ⟨?_, ?_⟩
    · refine (onNet_free _ n _ n).trans ?_
      rw [setNode_self]
    · have hnet : ∀ s : NetState, (interfaceCreateAddress connect s).net.netadr = s.net.netadr := by
        intro s
        cases connect <;> rfl
      refine (congrArg NodeNet.netadr (onNet_net _ n _)).trans ((hnet _).trans ?_)
      unfold Daemon.netAt
      simp only [setNode_self]
  · rw [setNode_of_ne _ _ _ hn, onNet_of_ne _ _ hn, setNode_of_ne _ _ _ hn, if_neg hn]
    exact ⟨rfl, rfl⟩

theorem mgtRegisterNode_keepsAddresses {id : CString} {type : NodeType} {busadr : UInt8}
    {connect : UbnetdConnect} {o : Option NodeId}
    (h : mgtRegisterNode d id type busadr connect = .ok (d', o)) : KeepsAddresses d d' := by
  rcases mgtRegisterNode_cases h with ⟨rfl, -⟩ | ⟨d₁, x, adr, hlook, -, rfl⟩
  · exact .refl _
  · obtain ⟨hkeeps, hused⟩ := hlook.keepsAddresses
    have hfields := registered_netadr d₁ x adr type connect
    refine hkeeps.trans ⟨fun n hn => ⟨(hfields n).1.trans hn, fun a ha => ?_⟩, fun n hn => ?_⟩
    · rw [(hfields n).2]
      by_cases hnx : n = x
      · subst hnx
        rw [if_pos rfl, ha]
        rfl
      · rw [if_neg hnx]
        exact ha
    · rw [(hfields n).1] at hn
      have hnx : n ≠ x := by
        rintro rfl
        exact nomatch hn.symm.trans hused
      rw [(hfields n).2, if_neg hnx]
      exact ⟨hn, rfl⟩

theorem busmgtInpacket_keepsAddresses {p : UbPacket} {connect : UbnetdConnect}
    (h : busmgtInpacket d p connect = .ok d') : KeepsAddresses d d' := by
  refine busmgtInpacket_relation .refl (fun _ _ _ h h' => h.trans h')
    (fun _ _ _ _ _ _ _ hregister => mgtRegisterNode_keepsAddresses hregister)
    (fun d n f hwrites => ?_) (fun _ _ _ => keepsAddresses_of_same fun _ => ⟨rfl, rfl⟩) h
  exact keepsAddresses_setNode d n hwrites.free (congrArg NodeNet.netadr hwrites.net)

theorem listenRegister_keepsAddresses (d : Daemon) (n : NodeId) (classid : ClassId)
    (out : Gpointer) : KeepsAddresses d (listenRegister d n classid out) :=
  keepsAddresses_setNode d n rfl rfl

theorem listenUnregister_keepsAddresses (d : Daemon) (n : NodeId) (classid : ClassId)
    (out : Gpointer) : KeepsAddresses d (listenUnregister d n classid out) :=
  keepsAddresses_setNode d n rfl rfl

/-- The connections are not of interest. -/
theorem KeepsAddresses.conns (h : KeepsAddresses a b) (cs : List Connection) :
    KeepsAddresses a { b with conns := cs } :=
  h.trans (keepsAddresses_of_same fun _ => ⟨rfl, rfl⟩)

theorem tcpRequest_keepsAddresses {k : Connection} {r : Request}
    (h : tcpRequest k d r = .ok d') : KeepsAddresses d d' := by
  cases r with
  | command cmd =>
      obtain ⟨ms, rfl, -⟩ := tcpCallback_queues h
      exact keepsAddresses_of_same fun _ => ⟨rfl, rfl⟩
  | listen =>
      cases h
      exact listenRegister_keepsAddresses d _ _ _

theorem Serves.keepsAddresses {e : MainEvent} (h : Serves d e d') : KeepsAddresses d d' := by
  cases h with
  | unknown | deaf | closed | failed | management | fails =>
      exact keepsAddresses_of_same fun _ => ⟨rfl, rfl⟩
  | command listening => exact (listenRegister_keepsAddresses d _ _ _).conns _
  | reads found reading run =>
      exact (tcpListenerRead_relation .refl (fun _ _ _ h h' => h.trans h')
        (fun _ _ _ => tcpRequest_keepsAddresses) run).conns _
  | closes found reading => exact (listenUnregister_keepsAddresses d _ _ _).conns _

theorem mgtTick_keepsAddresses {env : NodeId → NetEnv} (hd : Plugged d)
    (h : mgtTick d env = .ok d') : KeepsAddresses d d' := by
  refine keepsAddresses_of_same fun n => ?_
  cases hfree : (d.nodes n).free with
  | true => rw [mgtTick_free hd hfree h, hfree]; exact ⟨rfl, rfl⟩
  | false =>
      have hticked := mgtTick_ticked hd hfree h
      refine ⟨?_, hticked.netadr⟩
      have hslot := congrArg Slot.free hticked.slot
      rw [apply_ite Slot.free] at hslot
      exact (hslot.trans (ite_self _)).trans hfree

end Keeping

/-! ## A step of the daemon -/

/-- What holds in every state of the daemon. -/
structure Addressing (d : Daemon) : Prop where
  wired : Wired d
  plugged : Plugged d
  unaddressed : ∀ n, (d.nodes n).free = true → (d.nodes n).netadr = none
  assigned : ∀ n, (d.nodes n).active = true → (d.nodes n).busadr ≠ 0

section Daemons

variable {d d' : Daemon} {n : NodeId} {e : DaemonEvent}

theorem daemonStep_keepsAddresses (hd : Plugged d) (hstep : daemonStep d e = .ok d') :
    KeepsAddresses d d' := by
  cases e with
  | packet p connect => exact busmgtInpacket_keepsAddresses hstep
  | take =>
      cases hstep
      exact keepsAddresses_of_same fun _ => ⟨rfl, rfl⟩
  | main e =>
      by_cases he : ∃ env, e = .tick env
      · obtain ⟨env, rfl⟩ := he
        exact mgtTick_keepsAddresses hd hstep
      · exact (mainStep_serves hstep fun env heq => he ⟨env, heq⟩).keepsAddresses

theorem Addressing.step (h : Addressing d) (hstep : daemonStep d e = .ok d') : Addressing d' where
  wired := h.wired.step hstep
  plugged := h.plugged.step h.wired hstep
  unaddressed := by
    intro n hfree
    obtain ⟨hbefore, hsame⟩ := (daemonStep_keepsAddresses h.plugged hstep).free n hfree
    exact hsame.trans (h.unaddressed n hbefore)
  assigned := activeAdr_step (Q := (· ≠ 0)) h.wired h.assigned (by decide)
    (fun _ _ _ _ => freeAdr_ne_zero _) hstep

/-- Once a node has an address, it keeps it. -/
theorem Addressing.kept (h : Addressing d) (hstep : daemonStep d e = .ok d') {a : NetAddr}
    (ha : (d.nodes n).netadr = some a) : (d'.nodes n).netadr = some a := by
  refine ((daemonStep_keepsAddresses h.plugged hstep).used n ?_).2 a ha
  cases hfree : (d.nodes n).free with
  | false => rfl
  | true => exact nomatch ha.symm.trans (h.unaddressed n hfree)

theorem Addressing.hosting_tick {env : NodeId → NetEnv} (h : Addressing d)
    (hstep : mgtTick d env = .ok d') (n : NodeId) : (d'.slots n).hosting
      = (lastCall (interfaceCalls d (.main (.tick env))) n).or (d.slots n).hosting := by
  by_cases hout : (d.nodes n).free = false ∧ (d.nodes n).TimesOut
  · have hlast : lastCall (interfaceCalls d (.main (.tick env))) n = some .del :=
      lastCall_only ((mem_tickCalls h.plugged hstep).mpr ⟨rfl, hout⟩)
        fun op hop => ((mem_tickCalls h.plugged hstep).mp hop).1
    have hactive : (d.nodes n).active = true := h.wired.assigned.onBus n hout.2.1
    have hslot := (mgtTick_ticked h.plugged hout.1 hstep).slot
    rw [if_pos hout.2] at hslot
    rw [hlast, ← slot_nodes, hslot]
    exact if_pos (h.assigned n hactive)
  · have hlast : lastCall (interfaceCalls d (.main (.tick env))) n = none :=
      lastCall_none.mpr fun op hop => hout ((mem_tickCalls h.plugged hstep).mp hop).2
    have hslot : (d'.nodes n).slot = (d.nodes n).slot := by
      cases hfree : (d.nodes n).free with
      | true => rw [mgtTick_free h.plugged hfree hstep]
      | false =>
          rw [(mgtTick_ticked h.plugged hfree hstep).slot, if_neg fun ht => hout ⟨hfree, ht⟩]
    rw [hlast, ← slot_nodes, hslot]
    rfl

/-- **What was asked for last** is what the step asks for, or what had been asked for before. -/
theorem Addressing.hosting (h : Addressing d) (hstep : daemonStep d e = .ok d') (n : NodeId) :
    (d'.slots n).hosting = (lastCall (interfaceCalls d e) n).or (d.slots n).hosting := by
  cases e with
  | packet p connect =>
      exact packet_hosting h.wired.assigned
        (busmgtInpacket_change h.wired.assigned.free hstep).1 n
  | take =>
      cases hstep
      rfl
  | main e =>
      by_cases he : ∃ env, e = .tick env
      · obtain ⟨env, rfl⟩ := he
        exact h.hosting_tick hstep n
      · have hslots := (mainStep_traffic (fun env heq => he ⟨env, heq⟩) hstep).slots
        have hcalls : interfaceCalls d (.main e) = [] := by
          cases e with
          | tick env => exact absurd ⟨env, rfl⟩ he
          | accept | read | close | readError => rfl
        rw [hcalls, hslots]
        rfl

end Daemons

end Ubd
