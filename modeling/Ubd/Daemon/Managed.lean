import Ubd.Daemon.Lifecycle

/-!
# Daemon.Managed — what bus management has nothing to do with

No packet from the bus and no tick says anything to a client or listens for one, and what they
queue is answered to nobody. `Managed` lists this for packets; the tick, which also deals with
the directory client, is `Unattended`.
-/

namespace Ubd

open Runs

/-- Nothing is done for a client: what is queued has no callback, and listeners can only get
lost. -/
structure Unattended (d d' : Daemon) : Prop where
  conns : d'.conns = d.conns
  written : d'.written = d.written
  streams : d'.streams = d.streams
  queued : ∃ ms, d'.packetOut = d.packetOut ++ ms ∧ ∀ m ∈ ms, m.callback = none
  listeners : ∀ n i, ((d'.nodes n).tcpsockets i).listeners
    ⊆ ((d.nodes n).tcpsockets i).listeners

/-- Nor is anything said to the directory. -/
structure Managed (d d' : Daemon) : Prop extends Unattended d d' where
  dirclient : d'.dirclient = d.dirclient

section Frames

variable {d d' d'' : Daemon}

theorem Unattended.refl (d : Daemon) : Unattended d d :=
  ⟨rfl, rfl, rfl, ⟨[], (List.append_nil _).symm, by simp⟩, fun _ _ => List.Subset.refl _⟩

theorem Unattended.trans (h : Unattended d d') (h' : Unattended d' d'') : Unattended d d'' where
  conns := h'.conns.trans h.conns
  written := h'.written.trans h.written
  streams := h'.streams.trans h.streams
  queued := by
    obtain ⟨ms, hms, hnone⟩ := h.queued
    obtain ⟨ms', hms', hnone'⟩ := h'.queued
    refine ⟨ms ++ ms', by rw [hms', hms, List.append_assoc], fun m hm => ?_⟩
    exact (List.mem_append.mp hm).elim (hnone m) (hnone' m)
  listeners := fun n i => List.Subset.trans (h'.listeners n i) (h.listeners n i)

theorem Managed.refl (d : Daemon) : Managed d d := ⟨.refl d, rfl⟩

theorem Managed.trans (h : Managed d d') (h' : Managed d' d'') : Managed d d'' :=
  ⟨h.toUnattended.trans h'.toUnattended, h'.dirclient.trans h.dirclient⟩

/-- Queueing what nobody waits for. -/
theorem managed_queue (d : Daemon) {ms : List MessageStream} (h : ∀ m ∈ ms, m.callback = none) :
    Managed d { d with packetOut := d.packetOut ++ ms } :=
  ⟨⟨rfl, rfl, rfl, ⟨ms, rfl, h⟩, fun _ _ => List.Subset.refl _⟩, rfl⟩

/-- Writing to a node. -/
theorem managed_listeners (d : Daemon) (n : NodeId) {f : Node → Node}
    (hstream : (f (d.nodes n)).stream = (d.nodes n).stream)
    (hlisteners : ∀ i, ((f (d.nodes n)).tcpsockets i).listeners
      ⊆ ((d.nodes n).tcpsockets i).listeners) : Managed d (d.setNode n f) where
  conns := rfl
  written := rfl
  streams := setNode_streams_same d n hstream
  queued := ⟨[], (List.append_nil _).symm, by simp⟩
  listeners := by
    intro m i
    by_cases hm : m = n
    · subst hm
      rw [setNode_self]
      exact hlisteners i
    · rw [setNode_of_ne d n f hm]
      exact List.Subset.refl _
  dirclient := rfl

theorem managed_setNode (d : Daemon) (n : NodeId) {f : Node → Node}
    (hstream : (f (d.nodes n)).stream = (d.nodes n).stream)
    (htcp : (f (d.nodes n)).tcpsockets = (d.nodes n).tcpsockets) :
    Managed d (d.setNode n f) := by
  refine managed_listeners d n hstream fun i => ?_
  rw [htcp]
  exact List.Subset.refl _

/-- Running the network side of a node. -/
theorem unattended_onNet (d : Daemon) (n : NodeId) {f : NetState → NetState}
    (hlisteners : ∀ s i, ((f s).net.tcpsockets i).listeners = (s.net.tcpsockets i).listeners) :
    Unattended d (d.onNet n f) where
  conns := rfl
  written := rfl
  streams := onNet_streams d n f
  queued := ⟨[], (List.append_nil _).symm, by simp⟩
  listeners := by
    intro m i
    by_cases hm : m = n
    · subst hm
      unfold Daemon.onNet
      simp only [setNode_self]
      rw [hlisteners]
      exact List.Subset.refl _
    · rw [onNet_of_ne d f hm]
      exact List.Subset.refl _

end Frames

/-! ## Packets -/

section Packets

variable {d d' : Daemon} {p : UbPacket} {connect : UbnetdConnect}

theorem address6CreateAddress_managed (d : Daemon) (n : NodeId) (id : CString)
    (connect : UbnetdConnect) : Managed d (d.onNet n (address6CreateAddress id connect)) := by
  refine ⟨unattended_onNet d n fun s i => ?_, ?_⟩
  · cases connect <;> rfl
  · cases connect <;> rfl

theorem nodesSetNameFromID_tcpsockets (x : Node) :
    (nodesSetNameFromID x).tcpsockets = x.tcpsockets := by
  unfold nodesSetNameFromID
  split <;> rfl

/-- A slot that gets free has no listeners any more. -/
theorem LooksUp.managed {id : CString} {x : NodeId} (h : LooksUp d id x d') : Managed d d' := by
  cases h with
  | known found => exact .refl d
  | new unknown free =>
      have hreset : Managed d (d.setNode x Node.reset) :=
        managed_listeners d x rfl fun i => List.nil_subset _
      unfold nodesAddNode
      exact (hreset.trans (managed_setNode _ x rfl rfl)).trans
        (managed_setNode _ x (nodesSetNameFromID_stream _) (nodesSetNameFromID_tcpsockets _))

theorem registered_managed (d : Daemon) (x : NodeId) (adr : Int) (type : NodeType)
    (connect : UbnetdConnect) : Managed d (d.registered x adr type connect) := by
  unfold Daemon.registered
  exact ((managed_setNode d x rfl rfl).trans
    (address6CreateAddress_managed _ x _ connect)).trans (managed_setNode _ x rfl rfl)

theorem mgtRegisterNode_managed {id : CString} {type : NodeType} {busadr : UInt8}
    {o : Option NodeId} (h : mgtRegisterNode d id type busadr connect = .ok (d', o)) :
    Managed d d' := by
  rcases mgtRegisterNode_cases h with ⟨rfl, -⟩ | ⟨d₁, x, adr, hlook, -, rfl⟩
  · exact .refl d'
  · exact hlook.managed.trans (registered_managed d₁ x adr type connect)

/-- **Management packets are managed.** -/
theorem busmgtInpacket_managed (h : busmgtInpacket d p connect = .ok d') : Managed d d' :=
  busmgtInpacket_relation (R := Managed) Managed.refl (fun _ _ _ h h' => h.trans h')
    (fun _ _ _ _ _ _ _ hregister => mgtRegisterNode_managed hregister)
    (fun a n _ hwrite => managed_setNode a n hwrite.stream
      (congrArg NodeNet.tcpsockets hwrite.net))
    (fun a _ hms => managed_queue a hms) h

end Packets

/-! ## The tick -/

section Tick

variable {d d' : Daemon} {n : NodeId} {env : NodeId → NetEnv}

theorem netRemoveSockets_listeners (self : NodeId) (x : Node) (s : NetState) (i : ClassId) :
    ((netRemoveSockets self x s).net.tcpsockets i).listeners
      = (s.net.tcpsockets i).listeners := by
  rw [(netRemoveSockets_keeps self x s).1]

theorem netCreateUDPSocket_listeners (self : NodeId) (x : Node) (env : NetEnv) (c : ClassId)
    (s : NetState) (i : ClassId) :
    ((netCreateUDPSocket self x env c s).1.net.tcpsockets i).listeners
      = (s.net.tcpsockets i).listeners := by
  unfold netCreateUDPSocket
  dsimp only
  split <;> rfl

theorem netCreateTCPSocket_listeners (self : NodeId) (x : Node) (env : NetEnv) (c : ClassId)
    (s : NetState) (i : ClassId) :
    ((netCreateTCPSocket self x env c s).1.net.tcpsockets i).listeners
      = (s.net.tcpsockets i).listeners := by
  unfold netCreateTCPSocket
  dsimp only
  split
  · by_cases hi : i = c
    · subst hi
      simp only [Function.update_self]
    · simp only [Function.update_of_ne hi]
  · rfl

theorem netCreateClassSockets_listeners (self : NodeId) (x : Node) (env : NetEnv)
    (l : List ClassId) (s : NetState) (i : ClassId) :
    ((netCreateClassSockets self x env l s).1.net.tcpsockets i).listeners
      = (s.net.tcpsockets i).listeners :=
  netCreateClassSockets_relation
    (R := fun a b => (b.net.tcpsockets i).listeners = (a.net.tcpsockets i).listeners)
    (fun _ => rfl) (fun _ _ _ h h' => h'.trans h)
    (fun c s => netCreateUDPSocket_listeners self x env c s i)
    (fun c s => netCreateTCPSocket_listeners self x env c s i) l s

theorem netCreateSockets_listeners (self : NodeId) (x : Node) (env : NetEnv) (s : NetState)
    (i : ClassId) : ((netCreateSockets self x env s).net.tcpsockets i).listeners
      = (s.net.tcpsockets i).listeners := by
  refine netCreateSockets_relation
    (R := fun a b => (b.net.tcpsockets i).listeners = (a.net.tcpsockets i).listeners)
    (fun _ _ _ h h' => h'.trans h)
    (fun s => netCreateClassSockets_listeners self x env classSlots s i) (fun s => ?_) s
  unfold netCreateMgtSocket
  dsimp only
  split <;> rfl

theorem interfaceGetConfiguredAddress_listeners (env : NetEnv) (s : NetState) (i : ClassId) :
    ((interfaceGetConfiguredAddress env s).1.net.tcpsockets i).listeners
      = (s.net.tcpsockets i).listeners := by
  unfold interfaceGetConfiguredAddress
  split <;> rfl

theorem mgtRemoved_unattended (d : Daemon) (n : NodeId) : Unattended d (mgtRemoved d n) := by
  unfold mgtRemoved
  exact ((managed_setNode d n rfl rfl).toUnattended.trans
    (unattended_onNet _ n (netRemoveSockets_listeners n _))).trans
    (managed_setNode _ n rfl rfl).toUnattended

theorem mgtCheckNode_unattended (h : mgtCheckNode d n = .ok d') : Unattended d d' := by
  cases mgtCheckNode_checks h with
  | off off => exact .refl d
  | left onBus left => exact (managed_setNode d n rfl rfl).toUnattended
  | out out =>
      exact (mgtRemoved_unattended d n).trans (managed_setNode _ n rfl rfl).toUnattended

/-- What the tick does on the network side of a node. -/
theorem configure_listeners (self : NodeId) (x : Node) (env : NetEnv) (s : NetState)
    (i : ClassId) :
    ((match interfaceGetConfiguredAddress env s with
      | (s, none) => s
      | (s, some _) => netCreateSockets self x env s).net.tcpsockets i).listeners
      = (s.net.tcpsockets i).listeners := by
  have hget := interfaceGetConfiguredAddress_listeners env s i
  cases hrun : interfaceGetConfiguredAddress env s with
  | mk s₁ addr =>
      rw [hrun] at hget
      cases addr with
      | none => exact hget
      | some a => exact (netCreateSockets_listeners self x env s₁ i).trans hget

theorem mgtConfigureNode_unattended (h : mgtConfigureNode env d n = .ok d') :
    Unattended d d' := by
  cases h
  exact unattended_onNet d n (configure_listeners n _ (env n))

/-- **The tick does nothing for a client.** -/
theorem mgtTick_unattended (h : mgtTick d env = .ok d') : Unattended d d' :=
  mgtTick_invariant (I := fun e => Unattended d e)
    (fun _ _ _ he hturn => he.trans (mgtCheckNode_unattended hturn))
    (fun _ _ _ he hturn => he.trans (mgtConfigureNode_unattended hturn)) (.refl d) h

end Tick

/-! ## Slots in use -/

/-- A slot in use stays in use, with its groups and its listeners. -/
def UsedKept (d d' : Daemon) : Prop :=
  ∀ n, (d.nodes n).free = false → (d'.nodes n).free = false
    ∧ (d'.nodes n).groups = (d.nodes n).groups
    ∧ ∀ i, ((d'.nodes n).tcpsockets i).listeners = ((d.nodes n).tcpsockets i).listeners

section UsedKept

variable {d d' d'' : Daemon} {p : UbPacket} {connect : UbnetdConnect}

theorem UsedKept.refl (d : Daemon) : UsedKept d d := fun _ hn => ⟨hn, rfl, fun _ => rfl⟩

theorem UsedKept.trans (h : UsedKept d d') (h' : UsedKept d' d'') : UsedKept d d'' := by
  intro n hn
  obtain ⟨hused, hgroups, hlisteners⟩ := h n hn
  obtain ⟨hused', hgroups', hlisteners'⟩ := h' n hused
  exact ⟨hused', hgroups'.trans hgroups, fun i => (hlisteners' i).trans (hlisteners i)⟩

/-- Writing other fields to a node. -/
theorem usedKept_setNode (d : Daemon) (n : NodeId) {f : Node → Node}
    (hfree : (f (d.nodes n)).free = (d.nodes n).free)
    (hgroups : (f (d.nodes n)).groups = (d.nodes n).groups)
    (htcp : (f (d.nodes n)).tcpsockets = (d.nodes n).tcpsockets) :
    UsedKept d (d.setNode n f) := by
  intro m hm
  by_cases hmn : m = n
  · subst hmn
    rw [setNode_self]
    exact ⟨hfree.trans hm, hgroups, fun i => by rw [htcp]⟩
  · rw [setNode_of_ne d n f hmn]
    exact ⟨hm, rfl, fun _ => rfl⟩

theorem usedKept_queue (d : Daemon) (ms : List MessageStream) : UsedKept d (d.queue ms) :=
  fun _ hn => ⟨hn, rfl, fun _ => rfl⟩

theorem usedKept_onNet (d : Daemon) (n : NodeId) {f : NetState → NetState}
    (hlisteners : ∀ s i, ((f s).net.tcpsockets i).listeners = (s.net.tcpsockets i).listeners) :
    UsedKept d (d.onNet n f) := by
  intro m hm
  have hfree := congrArg Node.free (onNet_bus d n f m)
  have hgroups := congrArg Node.groups (onNet_bus d n f m)
  refine ⟨hfree.trans hm, hgroups, fun i => ?_⟩
  by_cases hmn : m = n
  · subst hmn
    unfold Daemon.onNet
    simp only [setNode_self]
    exact hlisteners _ i
  · rw [onNet_of_ne d f hmn]

/-- A slot that is taken was not in use. -/
theorem LooksUp.usedKept {id : CString} {x : NodeId} (h : LooksUp d id x d') : UsedKept d d' := by
  cases h with
  | known found => exact .refl d
  | new unknown free =>
      intro n hn
      have hne : n ≠ x := by
        rintro rfl
        rw [free] at hn
        cases hn
      unfold nodesAddNode
      rw [setNode_of_ne _ x _ hne, setNode_of_ne _ x _ hne, setNode_of_ne _ x _ hne]
      exact ⟨hn, rfl, fun _ => rfl⟩

theorem registered_usedKept (d : Daemon) (x : NodeId) (adr : Int) (type : NodeType)
    (connect : UbnetdConnect) : UsedKept d (d.registered x adr type connect) := by
  unfold Daemon.registered
  refine ((usedKept_setNode d x rfl rfl rfl).trans (usedKept_onNet _ x fun s i => ?_)).trans
    (usedKept_setNode _ x rfl rfl rfl)
  cases connect <;> rfl

theorem mgtRegisterNode_usedKept {id : CString} {type : NodeType} {busadr : UInt8}
    {o : Option NodeId} (h : mgtRegisterNode d id type busadr connect = .ok (d', o)) :
    UsedKept d d' := by
  rcases mgtRegisterNode_cases h with ⟨rfl, -⟩ | ⟨d₁, x, adr, hlook, -, rfl⟩
  · exact .refl d'
  · exact hlook.usedKept.trans (registered_usedKept d₁ x adr type connect)

/-- **Management packets** keep the slots in use. -/
theorem busmgtInpacket_usedKept (h : busmgtInpacket d p connect = .ok d') : UsedKept d d' :=
  busmgtInpacket_relation (R := UsedKept) UsedKept.refl (fun _ _ _ h h' => h.trans h')
    (fun _ _ _ _ _ _ _ hregister => mgtRegisterNode_usedKept hregister)
    (fun a n _ hwrite => usedKept_setNode a n hwrite.free hwrite.groups
      (congrArg NodeNet.tcpsockets hwrite.net))
    (fun a ms _ => usedKept_queue a ms) h

/-- So does the tick. -/
theorem mgtTick_usedKept {env : NodeId → NetEnv} (h : mgtTick d env = .ok d') :
    UsedKept d d' := by
  refine mgtTick_invariant (I := fun e => UsedKept d e) (fun e n e' he hturn => he.trans ?_)
    (fun e n e' he hturn => he.trans ?_) (.refl d) h
  · cases mgtCheckNode_checks hturn with
    | off off => exact .refl e
    | left onBus left => exact usedKept_setNode e n rfl rfl rfl
    | out out =>
        unfold mgtRemoved
        exact (((usedKept_setNode e n rfl rfl rfl).trans
          (usedKept_onNet _ n (netRemoveSockets_listeners n _))).trans
          (usedKept_setNode _ n rfl rfl rfl)).trans (usedKept_setNode _ n rfl rfl rfl)
  · cases hturn
    exact usedKept_onNet e n (configure_listeners n _ (env n))

end UsedKept

/-! ## The configuration -/

/-- The configuration has nothing to do with clients either. -/
theorem configured_managed {nodetimeout : Int} {cs : List NodeConfig} {d : Daemon}
    (h : configured nodetimeout cs = .ok d) : Managed (nodesInit nodetimeout) d := by
  refine configured_invariant (I := fun e => Managed (nodesInit nodetimeout) e) h (.refl _)
    fun e n c he => ?_
  have hreset : Managed e (e.setNode n Node.reset) :=
    managed_listeners e n rfl fun i => List.nil_subset _
  unfold Daemon.withConfigured nodesAddNode
  exact ((he.trans hreset).trans (managed_setNode _ n rfl rfl)).trans
    (managed_setNode _ n (nodesSetNameFromID_stream _) (nodesSetNameFromID_tcpsockets _))

end Ubd
