import Ubd.Daemon.Wiring
import Ubd.Daemon.Bridge

/-!
# Daemon.Plugged — sockets in the events of the daemon

Only the tick opens and closes the sockets of nodes, each in the turn of its node.
`KeepsSockets` says what all other events leave alone, and `NodeTurn` what a turn does.
-/

namespace Ubd

open Runs

/-! ## Everything but the tick -/

/-- The handles of the node point to objects made for it. -/
def Daemon.WiredAt (d : Daemon) (n : NodeId) : Prop :=
  (d.nodes n).toNodeNet.WiredTo d.objects n

/-- The sockets of all nodes stay as they are. Nobody's `netup` becomes true, and the
classes of a node only change to those in `C`. -/
structure KeepsSockets (C : NodeId → (ClassId → UInt8) → Prop) (d d' : Daemon) : Prop where
  work : Objects.Work (fun _ => False) d.objects d'.objects
  wired : ∀ n, d.WiredAt n → d'.WiredAt n
  ports : ∀ n, (d'.nodes n).ports = (d.nodes n).ports
  netup : ∀ n, (d'.nodes n).netup = true → (d.nodes n).netup = true
  classes : ∀ n, (d'.nodes n).classes = (d.nodes n).classes ∨ C n (d'.nodes n).classes

section OnNet

variable (d : Daemon) (n : NodeId) (f : NetState → NetState) (m : NodeId)

theorem onNet_classes : ((d.onNet n f).nodes m).classes = (d.nodes m).classes := by
  have hbus := congrArg Node.classes (onNet_bus d n f m)
  exact hbus

theorem onNet_free : ((d.onNet n f).nodes m).free = (d.nodes m).free := by
  have hbus := congrArg Node.free (onNet_bus d n f m)
  exact hbus

end OnNet

section KeepsSockets

variable {C : NodeId → (ClassId → UInt8) → Prop} {d d' d'' : Daemon}

theorem KeepsSockets.refl (d : Daemon) : KeepsSockets C d d :=
  ⟨.refl _ _, fun _ h => h, fun _ => rfl, fun _ h => h, fun _ => .inl rfl⟩

theorem KeepsSockets.trans (h : KeepsSockets C d d') (h' : KeepsSockets C d' d'') :
    KeepsSockets C d d'' where
  work := h.work.trans h'.work
  wired := fun n hn => h'.wired n (h.wired n hn)
  ports := fun n => (h'.ports n).trans (h.ports n)
  netup := fun n hn => h.netup n (h'.netup n hn)
  classes := by
    intro n
    rcases h'.classes n with hsame | hC
    · rw [hsame]
      exact h.classes n
    · exact .inr hC

theorem KeepsSockets.mono {C' : NodeId → (ClassId → UInt8) → Prop} (h : KeepsSockets C d d')
    (hle : ∀ n cls, C n cls → C' n cls) : KeepsSockets C' d d' :=
  { h with classes := fun n => (h.classes n).imp_right (hle n _) }

/-- Nothing about sockets is written. -/
theorem KeepsSockets.of_same (hobjects : d'.objects = d.objects)
    (hnodes : ∀ n, (d'.nodes n).ports = (d.nodes n).ports
      ∧ (d'.nodes n).ubnetd = (d.nodes n).ubnetd ∧ (d'.nodes n).netup = (d.nodes n).netup
      ∧ (d'.nodes n).classes = (d.nodes n).classes) : KeepsSockets C d d' where
  work := hobjects ▸ .refl _ _
  wired := by
    intro n hn
    obtain ⟨hports, hubnetd, -, -⟩ := hnodes n
    unfold Daemon.WiredAt at hn ⊢
    rw [hobjects]
    refine ⟨hports ▸ hn.ports, fun k hk => hn.ubnetd k ?_⟩
    rw [← hubnetd]
    exact hk
  ports := fun n => (hnodes n).1
  netup := by
    intro n hn
    rw [← (hnodes n).2.2.1]
    exact hn
  classes := fun n => .inl (hnodes n).2.2.2

/-- Writing to a node. -/
theorem keeps_setNode (d : Daemon) (n : NodeId) {f : Node → Node}
    (hports : (f (d.nodes n)).ports = (d.nodes n).ports)
    (hubnetd : (f (d.nodes n)).ubnetd = (d.nodes n).ubnetd)
    (hnetup : (f (d.nodes n)).netup = true → (d.nodes n).netup = true)
    (hclasses : (f (d.nodes n)).classes = (d.nodes n).classes ∨ C n (f (d.nodes n)).classes) :
    KeepsSockets C d (d.setNode n f) where
  work := .refl _ _
  wired := by
    intro m hm
    unfold Daemon.WiredAt at hm ⊢
    by_cases hmn : m = n
    · subst hmn
      rw [setNode_self]
      refine ⟨hports ▸ hm.ports, fun k hk => hm.ubnetd k ?_⟩
      rw [← hubnetd]
      exact hk
    · rw [setNode_of_ne d n f hmn]
      exact hm
  ports := by
    intro m
    by_cases hmn : m = n
    · subst hmn
      rw [setNode_self]
      exact hports
    · rw [setNode_of_ne d n f hmn]
  netup := by
    intro m hm
    by_cases hmn : m = n
    · subst hmn
      rw [setNode_self] at hm
      exact hnetup hm
    · rw [setNode_of_ne d n f hmn] at hm
      exact hm
  classes := by
    intro m
    by_cases hmn : m = n
    · subst hmn
      rw [setNode_self]
      exact hclasses
    · rw [setNode_of_ne d n f hmn]
      exact .inl rfl

/-- Asking ubnetd for an address. -/
theorem keeps_createAddress (d : Daemon) (n : NodeId) (id : CString) (connect : UbnetdConnect)
    (h : d.WiredAt n) : KeepsSockets C d (d.onNet n (address6CreateAddress id connect)) := by
  obtain ⟨hwork, hwired⟩ := address6CreateAddress_work id connect
    (s := ⟨(d.nodes n).toNodeNet, d.objects, d.dirclient⟩) h
  have hself : ((d.onNet n (address6CreateAddress id connect)).nodes n).toNodeNet
      = (address6CreateAddress id connect
        ⟨(d.nodes n).toNodeNet, d.objects, d.dirclient⟩).net := by
    unfold Daemon.onNet
    simp only [setNode_self]
  refine ⟨hwork, fun m hm => ?_, fun m => ?_, fun m hm => ?_, fun m => .inl ?_⟩
  · unfold Daemon.WiredAt at hm ⊢
    by_cases hmn : m = n
    · subst hmn
      rw [hself]
      exact hwired
    · rw [onNet_of_ne d _ hmn]
      exact hm.work hwork
  · by_cases hmn : m = n
    · subst hmn
      rw [hself]
      cases connect <;> rfl
    · rw [onNet_of_ne d _ hmn]
  · by_cases hmn : m = n
    · subst hmn
      rw [hself] at hm
      cases connect <;> exact hm
    · rw [onNet_of_ne d _ hmn] at hm
      exact hm
  · exact onNet_classes d n _ m

end KeepsSockets

/-! ### Packets -/

section Packets

variable {C : NodeId → (ClassId → UInt8) → Prop} {d d' : Daemon} {p : UbPacket}
  {connect : UbnetdConnect}

/-- What only queues packets keeps the sockets. -/
theorem keeps_queue (d : Daemon) (ms : List MessageStream) : KeepsSockets C d (d.queue ms) :=
  .of_same rfl fun _ => ⟨rfl, rfl, rfl, rfl⟩

theorem nodesSetNameFromID_net (x : Node) : (nodesSetNameFromID x).toNodeNet = x.toNodeNet := by
  unfold nodesSetNameFromID
  split <;> rfl

theorem nodesSetNameFromID_classes (x : Node) : (nodesSetNameFromID x).classes = x.classes := by
  unfold nodesSetNameFromID
  split <;> rfl

/-- Only a slot that was free loses its classes. -/
theorem LooksUp.keeps {id : CString} {x : NodeId} (h : LooksUp d id x d') :
    KeepsSockets (fun n _ => (d.nodes n).free = true) d d' := by
  cases h with
  | known found => exact .refl d
  | new unknown free =>
      unfold nodesAddNode
      -- `nodes_getFreeNode` clears the slot, the other two writes fill it
      refine ((keeps_setNode d x rfl rfl (fun h : false = true => nomatch h)
        (.inr free)).trans (keeps_setNode _ x rfl rfl (fun h => h) (.inl rfl))).trans
        (keeps_setNode _ x ?_ ?_ (fun h => ?_) (.inl ?_))
      · rw [nodesSetNameFromID_net]
      · rw [nodesSetNameFromID_net]
      · rw [nodesSetNameFromID_net] at h
        exact h
      · rw [nodesSetNameFromID_classes]

/-- Putting a node on the bus asks ubnetd for an address, and changes no socket. -/
theorem registered_keeps {x : NodeId} (adr : Int) (type : NodeType) (connect : UbnetdConnect)
    (hwired : d.WiredAt x) : KeepsSockets C d (d.registered x adr type connect) := by
  have hassign : KeepsSockets C d (d.setNode x fun n => { n with busadr := adr, type := type }) :=
    keeps_setNode d x rfl rfl (fun h => h) (.inl rfl)
  unfold Daemon.registered
  refine KeepsSockets.trans ?_ (keeps_setNode _ x rfl rfl (fun h => h) (.inl rfl))
  exact hassign.trans (keeps_createAddress _ x _ connect (hassign.wired x hwired))

theorem mgtRegisterNode_keeps {id : CString} {type : NodeType} {busadr : UInt8}
    {o : Option NodeId} (hwired : ∀ n, d.WiredAt n)
    (h : mgtRegisterNode d id type busadr connect = .ok (d', o)) :
    KeepsSockets (fun n _ => (d.nodes n).free = true) d d' := by
  rcases mgtRegisterNode_cases h with ⟨rfl, -⟩ | ⟨d₁, x, adr, hlook, -, rfl⟩
  · exact .refl d'
  · exact hlook.keeps.trans (registered_keeps adr type connect (hlook.keeps.wired x (hwired x)))

/-- The classes a packet can give to a node. -/
inductive Reclasses (d : Daemon) (p : UbPacket) : NodeId → (ClassId → UInt8) → Prop
  | fresh {n : NodeId} {classes : ClassId → UInt8} (free : (d.nodes n).free = true) :
      Reclasses d p n classes
  | discovered {n : NodeId} (kind : p.kind = 0x44) (len : p.len.toNat ≤ maxId)
      (slot : d.slots.target (packetId p 7) = some n) : Reclasses d p n (discoveredClasses p)
  | announced {n : NodeId} (kind : p.kind = 0x42)
      (found : (d.slots.bridged p).byAdr p.src.toNat = some n) :
      Reclasses d p n (announcedClasses p)

/-- Registering comes before the classes are written. -/
theorem mgtRegisterNode_reclasses {id : CString} {type : NodeType} {busadr : UInt8}
    {o : Option NodeId} (hwired : ∀ n, d.WiredAt n)
    (h : mgtRegisterNode d id type busadr connect = .ok (d', o)) :
    KeepsSockets (Reclasses d p) d d' :=
  (mgtRegisterNode_keeps hwired h).mono fun _ _ hfree => .fresh hfree

theorem busmgtDiscover_keeps (hkind : p.kind = 0x44) (hwired : ∀ n, d.WiredAt n)
    (hfree : ∀ i, (d.slots i).free = true → (d.slots i).active = false)
    (h : busmgtDiscover d p connect = .ok d') : KeepsSockets (Reclasses d p) d d' := by
  cases busmgtDiscover_discovers h with
  | ignored long => exact .refl d
  | full fits created => exact .refl d
  | @discovered d₁ x fits created address =>
      have hfirst := mgtRegisterNode_reclasses (p := p) hwired created
      have htarget := mgtCreateNode_target hfree created
      have hlen : p.len.toNat ≤ maxId := le_trans fits.2 (by decide)
      exact (hfirst.trans (keeps_setNode d₁ x rfl rfl (fun h => h)
        (.inr (.discovered hkind hlen htarget)))).trans (keeps_queue _ _)

theorem busmgtIdentify_keeps (h : busmgtIdentify d p = .ok d') : KeepsSockets C d d' := by
  rcases busmgtIdentify_writes h with ⟨x, -, rfl⟩ | rfl | rfl
  · exact (keeps_setNode d x rfl rfl (fun h => h) (.inl rfl)).trans (keeps_queue _ _)
  · exact keeps_queue d _
  · exact .refl d'

theorem busmgtVersion_keeps (h : busmgtVersion d p = .ok d') : KeepsSockets C d d' := by
  obtain ⟨n, version, -, -, rfl⟩ := busmgtVersion_sets h
  exact keeps_setNode d n rfl rfl (fun h => h) (.inl rfl)

theorem busmgtAlive_keeps (h : busmgtAlive d p = .ok d') : KeepsSockets C d d' := by
  rcases busmgtAlive_cases h with ⟨-, rfl⟩ | ⟨n, -, rfl⟩
  · exact keeps_queue d _
  · exact keeps_setNode d n rfl rfl (fun h => h) (.inl rfl)

theorem busmgtBridge_keeps (hkind : p.kind = 0x42) (hwired : ∀ n, d.WiredAt n)
    (hfree : ∀ i, (d.slots i).free = true → (d.slots i).active = false)
    (h : busmgtBridge d p connect = .ok d') : KeepsSockets (Reclasses d p) d d' := by
  obtain ⟨d₁, o, n, -, hcreate, hn, rfl⟩ := busmgtBridge_writes h
  rw [mgtCreateBridge_slots hfree hcreate] at hn
  have hfirst := mgtRegisterNode_reclasses (p := p) hwired hcreate
  exact (hfirst.trans (keeps_setNode d₁ n rfl rfl (fun h => h)
    (.inr (.announced hkind hn)))).trans (keeps_queue _ _)

/-- **No packet opens or closes a socket of a node.** -/
theorem busmgtInpacket_keeps (hwired : ∀ n, d.WiredAt n)
    (hfree : ∀ i, (d.slots i).free = true → (d.slots i).active = false)
    (h : busmgtInpacket d p connect = .ok d') : KeepsSockets (Reclasses d p) d d' := by
  unfold busmgtInpacket at h
  split_ifs at h with hD hI hV hA hB
  · exact busmgtDiscover_keeps hD hwired hfree h
  · exact busmgtIdentify_keeps h
  · exact busmgtVersion_keeps h
  · exact busmgtAlive_keeps h
  · exact busmgtBridge_keeps hB hwired hfree h
  · cases h
    exact .refl d

end Packets

/-! ### Connections -/

section Connections

variable {C : NodeId → (ClassId → UInt8) → Prop} {d d' : Daemon}

theorem setListeners_ports (x : Node) (classid : ClassId) (l : List Gpointer) :
    (x.setListeners classid l).ports = x.ports := by
  have hsame : ({ x.tcpsockets classid with listeners := l } : SocketData).socketservice
      = x.ports.tcp classid := rfl
  have hports := ports_setTcp x.toNodeNet classid { x.tcpsockets classid with listeners := l }
  rw [hsame, Ports.setTcp, Function.update_eq_self] at hports
  exact hports

theorem listenRegister_keeps (d : Daemon) (n : NodeId) (classid : ClassId) (out : Gpointer) :
    KeepsSockets C d (listenRegister d n classid out) :=
  keeps_setNode d n (setListeners_ports _ _ _) rfl (fun h => h) (.inl rfl)

theorem listenUnregister_keeps (d : Daemon) (n : NodeId) (classid : ClassId) (out : Gpointer) :
    KeepsSockets C d (listenUnregister d n classid out) :=
  keeps_setNode d n (setListeners_ports _ _ _) rfl (fun h => h) (.inl rfl)

/-- What is done to the connections themselves does not count. -/
theorem KeepsSockets.conns (h : KeepsSockets C d d') (cs : List Connection) :
    KeepsSockets C d { d' with conns := cs } :=
  h.trans (.of_same rfl fun _ => ⟨rfl, rfl, rfl, rfl⟩)

theorem tcpRequest_keeps {c : Connection} {r : Request} (h : tcpRequest c d r = .ok d') :
    KeepsSockets C d d' := by
  cases r with
  | command cmd =>
      obtain ⟨ms, rfl, -⟩ := tcpCallback_queues h
      exact keeps_queue d ms
  | listen =>
      cases h
      exact listenRegister_keeps d c.n c.classid c.out

/-- **No connection opens or closes a socket of a node.** -/
theorem Serves.keeps {e : MainEvent} (h : Serves d e d') : KeepsSockets C d d' := by
  cases h with
  | unknown nobody => exact .refl d
  | command listening => exact (listenRegister_keeps d _ _ _).conns _
  | management listening => exact (KeepsSockets.refl d).conns _
  | reads found reading run =>
      exact (tcpListenerRead_relation .refl (fun _ _ _ h h' => h.trans h')
        (fun _ _ _ hrequest => tcpRequest_keeps hrequest) run).conns _
  | deaf => exact .refl d
  | closes found reading => exact (listenUnregister_keeps d _ _ _).conns _
  | closed nobody => exact .refl d
  | fails found => exact (KeepsSockets.refl d).conns _
  | failed => exact .refl d

end Connections

/-! ## The tick -/

/-- Ubnetd tells the node that it has its address. -/
def Node.Answered (x : Node) (env : NetEnv) : Prop :=
  x.ubnetd ≠ none ∧ env.ubnetd = some 0x41 ∧ x.netadr ≠ none

/-- The network side of a node. -/
def Daemon.netAt (d : Daemon) (n : NodeId) : NetState :=
  ⟨(d.nodes n).toNodeNet, d.objects, d.dirclient⟩

/-- What a turn of the loops of `mgt.c` does: it works on its node alone, and only makes
sockets for a node that is connected to ubnetd. -/
structure NodeTurn (n : NodeId) (d d' : Daemon) : Prop where
  work : Objects.Work (· = n) d.objects d'.objects
  wired : ∀ m, d.WiredAt m → d'.WiredAt m
  others : ∀ m, m ≠ n → d'.nodes m = d.nodes m
  free : (d'.nodes n).free = (d.nodes n).free
  classes : (d'.nodes n).classes = (d.nodes n).classes
  source : ∀ h sd, d'.objects.kindAt h = some (.source sd) →
    d.objects.kindAt h = some (.source sd) ∨ (sd.node = n ∧ (d.nodes n).ubnetd ≠ none)

section Turns

variable {d d' : Daemon} {n : NodeId} {env : NodeId → NetEnv}

theorem onNet_net (d : Daemon) (n : NodeId) (f : NetState → NetState) :
    ((d.onNet n f).nodes n).toNodeNet = (f (d.netAt n)).net := by
  unfold Daemon.onNet
  simp only [setNode_self]
  rfl

theorem onNet_objects (d : Daemon) (n : NodeId) (f : NetState → NetState) :
    (d.onNet n f).objects = (f (d.netAt n)).objects := rfl

theorem onNet_wired (d : Daemon) (n : NodeId) {f : NetState → NetState} {P : NodeId → Prop}
    (hwork : Objects.Work P d.objects (f (d.netAt n)).objects)
    (hself : d.WiredAt n → (f (d.netAt n)).net.WiredTo (f (d.netAt n)).objects n) {m : NodeId}
    (hm : d.WiredAt m) : (d.onNet n f).WiredAt m := by
  unfold Daemon.WiredAt at hm ⊢
  by_cases hmn : m = n
  · subst hmn
    rw [onNet_net]
    exact hself hm
  · rw [onNet_of_ne d _ hmn]
    exact hm.work hwork

/-! ### The timeout -/

/-- **What a turn of `mgt_checkTimeout` does**: if the time of the node has run out, its
sockets are closed. -/
structure Checked (n : NodeId) (d d' : Daemon) : Prop where
  others : ∀ m, m ≠ n → d'.nodes m = d.nodes m
  net : (d'.nodes n).toNodeNet = (d.nodes n).toNodeNet
  free : (d'.nodes n).free = (d.nodes n).free
  classes : (d'.nodes n).classes = (d.nodes n).classes
  closed : (d.nodes n).TimesOut → d'.objects
    = ((d.nodes n).ports.handles (d.nodes n).classes).foldl Objects.drop d.objects
  kept : ¬ (d.nodes n).TimesOut → d'.objects = d.objects

theorem mgtCheckNode_checked (h : mgtCheckNode d n = .ok d') : Checked n d d' := by
  cases mgtCheckNode_checks h with
  | off off =>
      exact ⟨fun _ _ => rfl, rfl, rfl, rfl, fun hout => absurd hout.1 off, fun _ => rfl⟩
  | left onBus left =>
      refine ⟨fun m hm => setNode_of_ne d n _ hm, ?_, ?_, ?_, fun hout => absurd hout.2 left,
        fun _ => rfl⟩
      · rw [setNode_self]
      · rw [setNode_self]
      · rw [setNode_self]
  | out out =>
      unfold mgtRemoved
      dsimp only
      have hnet : ∀ (e : Daemon) (x : Node),
          ((e.onNet n (netRemoveSockets n x)).nodes n).toNodeNet = (e.nodes n).toNodeNet := by
        intro e x
        rw [onNet_net]
        exact (netRemoveSockets_keeps n x (e.netAt n)).1
      refine ⟨fun m hm => ?_, ?_, ?_, ?_, fun _ => ?_, fun hnot => absurd out hnot⟩
      · rw [setNode_of_ne _ n _ hm, setNode_of_ne _ n _ hm, onNet_of_ne _ _ hm,
          setNode_of_ne _ n _ hm]
      · rw [setNode_self, setNode_self]
        refine (hnet _ _).trans ?_
        rw [setNode_self]
      · rw [setNode_self, setNode_self]
        refine (onNet_free _ n _ n).trans ?_
        rw [setNode_self]
      · rw [setNode_self, setNode_self]
        refine (onNet_classes _ n _ n).trans ?_
        rw [setNode_self]
      · refine (netRemoveSockets_objects n _ _).trans ?_
        simp only [setNode_self]
        rfl

theorem Checked.objects_work (h : Checked n d d') (hwired : d.WiredAt n) :
    Objects.Work (· = n) d.objects d'.objects := by
  by_cases hout : (d.nodes n).TimesOut
  · rw [h.closed hout]
    exact hwired.ports.work_handles _
  · rw [h.kept hout]
    exact .refl _ _

theorem Checked.turn (h : Checked n d d') (hwired : d.WiredAt n) : NodeTurn n d d' where
  work := h.objects_work hwired
  wired := by
    intro m hm
    have hm' := hm.work (h.objects_work hwired)
    unfold Daemon.WiredAt at hm ⊢
    by_cases hmn : m = n
    · subst hmn
      rw [h.net]
      exact hm'
    · rw [h.others m hmn]
      exact hm'
  others := h.others
  free := h.free
  classes := h.classes
  source := by
    intro k sd hk
    by_cases hout : (d.nodes n).TimesOut
    · rw [h.closed hout, kindAt_drops] at hk
      exact .inl hk
    · rw [h.kept hout] at hk
      exact .inl hk

/-! ### The answer of ubnetd -/

theorem interfaceGetConfiguredAddress_snd (env : NetEnv) (s : NetState) :
    (interfaceGetConfiguredAddress env s).2 ≠ none
      ↔ s.net.ubnetd ≠ none ∧ env.ubnetd = some 0x41 ∧ s.net.netadr ≠ none := by
  unfold interfaceGetConfiguredAddress
  cases s.net.ubnetd with
  | none => simp
  | some h =>
      cases henv : env.ubnetd with
      | none => simp
      | some buf =>
          by_cases hbuf : buf = 0x41
          · simp [hbuf]
          · simp [hbuf]

/-- Reading the answer changes nothing but the connection to ubnetd. -/
theorem interfaceGetConfiguredAddress_net (env : NetEnv) (s : NetState) :
    (interfaceGetConfiguredAddress env s).1.net.ports = s.net.ports
      ∧ (interfaceGetConfiguredAddress env s).1.net.netup = s.net.netup := by
  unfold interfaceGetConfiguredAddress
  cases s.net.ubnetd with
  | none => exact ⟨rfl, rfl⟩
  | some h =>
      cases env.ubnetd with
      | none => exact ⟨rfl, rfl⟩
      | some buf => exact ⟨rfl, rfl⟩

/-- **What a turn of `mgt_tick` does**: it reads the answer of ubnetd, and makes the sockets
of the node if there is one. -/
theorem mgtConfigureNode_cases (h : mgtConfigureNode env d n = .ok d') :
    ((d.nodes n).Answered (env n)
        ∧ d' = d.onNet n fun s => netCreateSockets n (d.nodes n) (env n)
          (interfaceGetConfiguredAddress (env n) s).1)
      ∨ (¬ (d.nodes n).Answered (env n)
        ∧ d' = d.onNet n fun s => (interfaceGetConfiguredAddress (env n) s).1) := by
  have hiff := interfaceGetConfiguredAddress_snd (env n) (d.netAt n)
  have hrun : ∀ f g : NetState → NetState, f (d.netAt n) = g (d.netAt n) →
      d.onNet n f = d.onNet n g := by
    intro f g hfg
    unfold Daemon.netAt at hfg
    unfold Daemon.onNet
    rw [hfg]
  cases h
  cases hget : interfaceGetConfiguredAddress (env n) (d.netAt n) with
  | mk s₁ addr =>
      rw [hget] at hiff
      cases addr with
      | none =>
          refine .inr ⟨fun hans => hiff.mpr hans rfl, hrun _ _ ?_⟩
          simp only [hget]
      | some a =>
          refine .inl ⟨hiff.mp (by simp), hrun _ _ ?_⟩
          simp only [hget]

theorem mgtConfigureNode_turn (hwired : d.WiredAt n)
    (h : mgtConfigureNode env d n = .ok d') : NodeTurn n d d' := by
  obtain ⟨hget, hgetWired⟩ := interfaceGetConfiguredAddress_work (env n) (s := d.netAt n) hwired
  rcases mgtConfigureNode_cases h with ⟨hans, rfl⟩ | ⟨-, rfl⟩
  · have hmakes := netCreateSockets_makes n (d.nodes n) (env n)
      (interfaceGetConfiguredAddress (env n) (d.netAt n)).1
    have hwork := (hget.mono fun _ hF => hF.elim).trans hmakes.work
    refine ⟨hwork, fun m hm => onNet_wired d n hwork (fun _ => hmakes.wired hgetWired) hm,
      fun m hm => onNet_of_ne d _ hm, onNet_free d n _ n, onNet_classes d n _ n, fun k sd hk => ?_⟩
    rcases hwork.source k sd hk with hk | hnode
    · exact .inl hk
    · exact .inr ⟨hnode, hans.1⟩
  · refine ⟨hget.mono fun _ hF => hF.elim,
      fun m hm => onNet_wired d n hget (fun _ => hgetWired) hm,
      fun m hm => onNet_of_ne d _ hm, onNet_free d n _ n, onNet_classes d n _ n, fun k sd hk => ?_⟩
    rcases hget.source k sd hk with hk | hF
    · exact .inl hk
    · exact hF.elim

theorem NodeTurn.free_all (h : NodeTurn n d d') (i : NodeId) :
    (d'.nodes i).free = (d.nodes i).free := by
  by_cases hi : i = n
  · rw [hi]
    exact h.free
  · rw [h.others i hi]

end Turns

/-! ### The loops -/

/-- The slots that the loops of `mgt.c` visit. -/
def usedSlots (d : Daemon) : List NodeId := slots.filter fun i => !(d.nodes i).free

theorem mem_usedSlots {d : Daemon} {n : NodeId} :
    n ∈ usedSlots d ↔ (d.nodes n).free = false := by
  simp [usedSlots, mem_slots]

theorem nodup_usedSlots (d : Daemon) : (usedSlots d).Nodup :=
  (List.nodup_finRange maxNode).filter _

/-- Handles point where they should, and what is released is closed. -/
structure Plugged (d : Daemon) : Prop where
  wired : ∀ n, d.WiredAt n
  live : d.objects.Live

theorem Plugged.turn {d d' : Daemon} {n : NodeId} (h : Plugged d) (hturn : NodeTurn n d d') :
    Plugged d' :=
  ⟨fun m => hturn.wired m (h.wired m), hturn.work.live h.live⟩

theorem Plugged.keeps {C : NodeId → (ClassId → UInt8) → Prop} {d d' : Daemon} (h : Plugged d)
    (hkeeps : KeepsSockets C d d') : Plugged d' :=
  ⟨fun m => hkeeps.wired m (h.wired m), hkeeps.work.live h.live⟩

/-- A node and its objects are the same. -/
structure SameAt (n : NodeId) (d d' : Daemon) : Prop where
  node : d'.nodes n = d.nodes n
  owned : d'.objects.owned n = d.objects.owned n

theorem SameAt.refl (n : NodeId) (d : Daemon) : SameAt n d d := ⟨rfl, rfl⟩

theorem SameAt.trans {n : NodeId} {a b c : Daemon} (h : SameAt n a b) (h' : SameAt n b c) :
    SameAt n a c := ⟨h'.node.trans h.node, h'.owned.trans h.owned⟩

theorem NodeTurn.sameAt {d d' : Daemon} {m n : NodeId} (h : NodeTurn m d d') (hne : n ≠ m) :
    SameAt n d d' := ⟨h.others n hne, h.work.others n hne⟩

/-- The body of a loop works on its node alone. -/
def TurnBody (body : Daemon → NodeId → Except Fault Daemon) : Prop :=
  ∀ d n d', Plugged d → body d n = .ok d' → NodeTurn n d d'

theorem mgtCheckNode_turnBody : TurnBody mgtCheckNode := fun _ n _ h hrun =>
  (mgtCheckNode_checked hrun).turn (h.wired n)

theorem mgtConfigureNode_turnBody (env : NodeId → NetEnv) : TurnBody (mgtConfigureNode env) :=
  fun _ n _ h hrun => mgtConfigureNode_turn (h.wired n) hrun

section Loops

variable {body : Daemon → NodeId → Except Fault Daemon} {d d' : Daemon}

/-- **Who is visited**: no turn frees a slot, so `nodes_getNode(i)` is the same node all along,
and the loop goes through the slots in use. -/
theorem forEachNode_visits {I : Daemon → Prop} (hkeep : ∀ e n e', I e → body e n = .ok e' →
      I e' ∧ ∀ i, (e'.nodes i).free = (e.nodes i).free) (h : I d) :
    forEachNode body d = (usedSlots d).foldlM body d := by
  unfold forEachNode
  rw [nodesGetNodeCount_eq]
  refine Runs.foldlM_range (I := fun e => I e ∧ usedSlots e = usedSlots d)
    (fun e i n he hi => ?_) (fun e n e' he hrun => ?_) ⟨h, rfl⟩
  · have hget : nodesGetNode e i = some n := by
      rw [nodesGetNode_eq]
      show (usedSlots e)[i]? = some n
      rw [he.2]
      exact hi
    rw [hget]
  · obtain ⟨hI, hfree⟩ := hkeep e n e' he.1 hrun
    refine ⟨hI, Eq.trans ?_ he.2⟩
    unfold usedSlots
    simp only [hfree]

theorem forEachNode_eq (hbody : TurnBody body) (h : Plugged d) :
    forEachNode body d = (usedSlots d).foldlM body d :=
  forEachNode_visits (I := Plugged) (fun e n e' he hrun =>
    ⟨he.turn (hbody e n e' he hrun), (hbody e n e' he hrun).free_all⟩) h

theorem forEachNode_plugged (hbody : TurnBody body) (h : Plugged d)
    (hrun : forEachNode body d = .ok d') : Plugged d' :=
  forEachNode_invariant (fun e n e' he hturn => he.turn (hbody e n e' he hturn)) h hrun

/-- **The turn of a node** is all that a loop does to it. -/
theorem forEachNode_turn (hbody : TurnBody body) (h : Plugged d) {n : NodeId}
    (hn : (d.nodes n).free = false) (hrun : forEachNode body d = .ok d') :
    ∃ d₁ d₂, Plugged d₁ ∧ SameAt n d d₁ ∧ body d₁ n = .ok d₂ ∧ SameAt n d₂ d' := by
  rw [forEachNode_eq hbody h] at hrun
  exact Runs.foldlM_turn (I := Plugged) (R := SameAt n) (.refl n) (fun _ _ _ h h' => h.trans h')
    (fun e m e' he hturn => he.turn (hbody e m e' he hturn))
    (fun e m e' he hne hturn => (hbody e m e' he hturn).sameAt (Ne.symm hne))
    (nodup_usedSlots d) (mem_usedSlots.mpr hn) h hrun

/-- The turns of others. -/
theorem foldlM_sameAt (hbody : TurnBody body) (h : Plugged d) {n : NodeId} {l : List NodeId}
    (hn : n ∉ l) (hrun : l.foldlM body d = .ok d') : Plugged d' ∧ SameAt n d d' := by
  refine Runs.foldlM_invariant (I := fun e => Plugged e ∧ SameAt n d e)
    (fun m hm e e' he hturn => ?_) ⟨h, .refl n d⟩ hrun
  have hturn' := hbody e m e' he.1 hturn
  have hne : n ≠ m := by
    rintro rfl
    exact hn hm
  exact ⟨he.1.turn hturn', he.2.trans (hturn'.sameAt hne)⟩

/-- When a node has its turn, nothing has been done to it. -/
theorem turn_sameAt (hbody : TurnBody body) (h : Plugged d) {pre post : List NodeId} {n : NodeId}
    (hslots : usedSlots d = pre ++ n :: post) (hrun : pre.foldlM body d = .ok d') :
    Plugged d' ∧ SameAt n d d' := by
  have hnodup := nodup_usedSlots d
  rw [hslots] at hnodup
  exact foldlM_sameAt hbody h
    (fun hmem => (List.nodup_append.mp hnodup).2.2 n hmem n List.mem_cons_self rfl) hrun

/-- A free slot has no turn. -/
theorem forEachNode_free (hbody : TurnBody body) (h : Plugged d) {n : NodeId}
    (hn : (d.nodes n).free = true) (hrun : forEachNode body d = .ok d') : SameAt n d d' := by
  rw [forEachNode_eq hbody h] at hrun
  refine (foldlM_sameAt hbody h (fun hmem => ?_) hrun).2
  rw [mem_usedSlots.mp hmem] at hn
  cases hn

end Loops

/-- **What a tick does to a node**: both of its turns see it as it was before. -/
theorem mgtTick_turns {d d' : Daemon} {env : NodeId → NetEnv} {n : NodeId} (h : Plugged d)
    (hn : (d.nodes n).free = false) (hrun : mgtTick d env = .ok d') :
    ∃ d₁ d₂ d₃ d₄, (Plugged d₁ ∧ SameAt n d d₁ ∧ mgtCheckNode d₁ n = .ok d₂)
      ∧ (Plugged d₃ ∧ SameAt n d₂ d₃ ∧ mgtConfigureNode env d₃ n = .ok d₄) ∧ SameAt n d₄ d' := by
  obtain ⟨e, hcheck, hconfigure⟩ := bind_eq_ok.mp hrun
  obtain ⟨d₁, d₂, hd₁, hsame₁, hturn, hsame₂⟩ :=
    forEachNode_turn mgtCheckNode_turnBody h hn hcheck
  have hchecked := mgtCheckNode_checked hturn
  have he := forEachNode_plugged mgtCheckNode_turnBody h hcheck
  have hfree : (e.nodes n).free = false := by
    rw [hsame₂.node, hchecked.free, hsame₁.node]
    exact hn
  obtain ⟨d₃, d₄, hd₃, hsame₃, hturn', hsame₄⟩ :=
    forEachNode_turn (mgtConfigureNode_turnBody env) he hfree hconfigure
  exact ⟨d₁, d₂, d₃, d₄, ⟨hd₁, hsame₁, hturn⟩, ⟨hd₃, hsame₂.trans hsame₃, hturn'⟩, hsame₄⟩

/-! ## Over whole runs -/

/-- Sources are only made for nodes that have had an address. -/
def Sourced (d : Daemon) : Prop :=
  ∀ (h : Handle) (sd : SocketRef), d.objects.kindAt h = some (.source sd) →
    (d.nodes sd.node).busadr ≠ 0

theorem mgtTick_plugged {d d' : Daemon} {env : NodeId → NetEnv} (h : Plugged d)
    (hrun : mgtTick d env = .ok d') : Plugged d' :=
  mgtTick_invariant (fun e n e' he hturn => he.turn (mgtCheckNode_turnBody e n e' he hturn))
    (fun e n e' he hturn => he.turn (mgtConfigureNode_turnBody env e n e' he hturn)) h hrun

/-- A turn keeps it that who is connected to ubnetd has had an address. -/
theorem NodeTurn.sourced {d d' : Daemon} {n : NodeId} (hturn : NodeTurn n d d')
    (hquiet : Quiet d d') (hsourced : Sourced d)
    (htouched : ∀ i, d.Touched i → (d.nodes i).busadr ≠ 0) :
    Sourced d' ∧ ∀ i, d'.Touched i → (d'.nodes i).busadr ≠ 0 := by
  refine ⟨fun k sd hk => ?_, fun i hi => ?_⟩
  · rcases hturn.source k sd hk with hk | ⟨hnode, hub⟩
    · exact hquiet.assigned _ (hsourced k sd hk)
    · rw [hnode]
      exact hquiet.assigned n (htouched n (.inl hub))
  · rcases hquiet.touched i hi with hi | hi
    · exact hquiet.assigned i (htouched i hi)
    · exact hi

theorem mgtTick_sourced {d d' : Daemon} {env : NodeId → NetEnv} (h : Plugged d)
    (hsourced : Sourced d) (htouched : ∀ i, d.Touched i → (d.nodes i).busadr ≠ 0)
    (hrun : mgtTick d env = .ok d') : Sourced d' := by
  obtain ⟨e, hcheck, hconfigure⟩ := bind_eq_ok.mp hrun
  have hloop : ∀ {body : Daemon → NodeId → Except Fault Daemon} {a b : Daemon}, TurnBody body →
      (∀ e n e', body e n = .ok e' → Quiet e e') → Plugged a → Sourced a →
      (∀ i, a.Touched i → (a.nodes i).busadr ≠ 0) → forEachNode body a = .ok b →
      Sourced b ∧ ∀ i, b.Touched i → (b.nodes i).busadr ≠ 0 := by
    intro body a b hbody hquiet ha hsourced htouched hrun
    refine (forEachNode_invariant (I := fun e => Plugged e ∧ Sourced e
      ∧ ∀ i, e.Touched i → (e.nodes i).busadr ≠ 0) (fun e n e' he hturn => ?_)
      ⟨ha, hsourced, htouched⟩ hrun).2
    have hturn' := hbody e n e' he.1 hturn
    exact ⟨he.1.turn hturn', hturn'.sourced (hquiet e n e' hturn) he.2.1 he.2.2⟩
  obtain ⟨hs, ht⟩ := hloop mgtCheckNode_turnBody (fun _ _ _ hturn => (mgtCheckNode_change hturn).2)
    h hsourced htouched hcheck
  exact (hloop (mgtConfigureNode_turnBody env) (fun _ _ _ hturn => (quiet_configure env hturn).2)
    (forEachNode_plugged mgtCheckNode_turnBody h hcheck) hs ht hconfigure).1

/-- What an event that is no tick does to the sockets. -/
theorem daemonStep_keeps {d d' : Daemon} {e : DaemonEvent} (hwired : Wired d)
    (hplugged : Plugged d) (he : ∀ env, e ≠ .main (.tick env)) (h : daemonStep d e = .ok d') :
    KeepsSockets (fun n classes => ∃ p connect, e = .packet p connect
      ∧ Reclasses d p n classes) d d' := by
  cases e with
  | main e => exact (mainStep_serves h fun env heq => he env (congrArg DaemonEvent.main heq)).keeps
  | packet p connect =>
      exact (busmgtInpacket_keeps hplugged.wired hwired.assigned.free h).mono
        fun n classes hC => ⟨p, connect, rfl, hC⟩
  | take =>
      cases h
      exact .of_same rfl fun _ => ⟨rfl, rfl, rfl, rfl⟩

theorem Plugged.step {d d' : Daemon} {e : DaemonEvent} (h : Plugged d) (hwired : Wired d)
    (hstep : daemonStep d e = .ok d') : Plugged d' := by
  by_cases he : ∃ env, e = .main (.tick env)
  · obtain ⟨env, rfl⟩ := he
    exact mgtTick_plugged h hstep
  · exact h.keeps (daemonStep_keeps hwired h (fun env heq => he ⟨env, heq⟩) hstep)

/-- A node that has had an address keeps having one. -/
theorem daemonStep_assigned {d d' : Daemon} {e : DaemonEvent} (hwired : Wired d)
    (hstep : daemonStep d e = .ok d') {n : NodeId} (hn : (d.nodes n).busadr ≠ 0) :
    (d'.nodes n).busadr ≠ 0 := by
  cases e with
  | packet p connect => exact (busmgtInpacket_change hwired.assigned.free hstep).2.assigned n hn
  | take =>
      cases hstep
      exact hn
  | main e =>
      by_cases he : ∃ env, e = .tick env
      · obtain ⟨env, rfl⟩ := he
        exact (mgtTick_change hstep).2.assigned n hn
      · have hslots := (mainStep_traffic (fun env heq => he ⟨env, heq⟩) hstep).slots
        have hadr : (d'.nodes n).busadr = (d.nodes n).busadr :=
          congrArg Slot.busadr (congrFun hslots n)
        rw [hadr]
        exact hn

theorem Sourced.step {d d' : Daemon} {e : DaemonEvent} (h : Sourced d) (hplugged : Plugged d)
    (hwired : Wired d) (hstep : daemonStep d e = .ok d') : Sourced d' := by
  by_cases he : ∃ env, e = .main (.tick env)
  · obtain ⟨env, rfl⟩ := he
    exact mgtTick_sourced hplugged h hwired.touched hstep
  · intro k sd hk
    have hkeeps := daemonStep_keeps hwired hplugged (fun env heq => he ⟨env, heq⟩) hstep
    rcases hkeeps.work.source k sd hk with hk | hF
    · exact daemonStep_assigned hwired hstep (h k sd hk)
    · exact hF.elim

/-- There are no sockets in the beginning. -/
structure Socketless (d : Daemon) : Prop where
  objects : d.objects = Objects.empty
  ports : ∀ n, (d.nodes n).ports = NodeNet.zero.ports
  ubnetd : ∀ n, (d.nodes n).ubnetd = none
  netup : ∀ n, (d.nodes n).netup = false

theorem Socketless.setNode {d : Daemon} (h : Socketless d) (n : NodeId) {f : Node → Node}
    (hports : (f (d.nodes n)).ports = (d.nodes n).ports)
    (hubnetd : (f (d.nodes n)).ubnetd = (d.nodes n).ubnetd)
    (hnetup : (f (d.nodes n)).netup = (d.nodes n).netup) : Socketless (d.setNode n f) where
  objects := h.objects
  ports := by
    intro m
    by_cases hmn : m = n
    · subst hmn
      rw [setNode_self, hports]
      exact h.ports m
    · rw [setNode_of_ne d n f hmn]
      exact h.ports m
  ubnetd := by
    intro m
    by_cases hmn : m = n
    · subst hmn
      rw [setNode_self, hubnetd]
      exact h.ubnetd m
    · rw [setNode_of_ne d n f hmn]
      exact h.ubnetd m
  netup := by
    intro m
    by_cases hmn : m = n
    · subst hmn
      rw [setNode_self, hnetup]
      exact h.netup m
    · rw [setNode_of_ne d n f hmn]
      exact h.netup m

theorem configured_socketless {nodetimeout : Int} {cs : List NodeConfig} {d : Daemon}
    (h : configured nodetimeout cs = .ok d) : Socketless d := by
  refine configured_invariant (I := Socketless) h
    ⟨rfl, fun _ => rfl, fun _ => rfl, fun _ => rfl⟩ fun e n c he => ?_
  unfold Daemon.withConfigured nodesAddNode
  refine ((he.setNode n rfl rfl (he.netup n).symm).setNode n rfl rfl rfl).setNode n ?_ ?_ ?_
  · rw [nodesSetNameFromID_net]
  · rw [nodesSetNameFromID_net]
  · rw [nodesSetNameFromID_net]

theorem Socketless.plugged {d : Daemon} (h : Socketless d) : Plugged d ∧ Sourced d := by
  refine ⟨⟨fun n => ⟨?_, fun k hk => ?_⟩, ?_⟩, fun k sd hk => ?_⟩
  · rw [h.ports n]
    exact ⟨fun _ _ hk => (nomatch hk), fun _ _ hk => (nomatch hk), fun _ _ hk => (nomatch hk),
      fun _ hk => (nomatch hk)⟩
  · rw [h.ubnetd n] at hk
    cases hk
  · rw [h.objects]
    intro k x hx
    simp [Objects.empty] at hx
  · rw [h.objects] at hk
    simp [Objects.empty, Objects.kindAt] at hk

/-- **The invariants hold in every state.** -/
theorem reachable_plugged {nodetimeout : Int} {cs : List NodeConfig} {d₀ d : Daemon}
    {es : List DaemonEvent} (h₀ : configured nodetimeout cs = .ok d₀)
    (h : Run daemonStep (fun _ _ => True) d₀ es d) : Wired d ∧ Plugged d ∧ Sourced d := by
  refine h.invariant (I := fun s => Wired s ∧ Plugged s ∧ Sourced s)
    ⟨(configured_wired h₀).1, (configured_socketless h₀).plugged⟩ fun s e s' hs _ hstep => ?_
  obtain ⟨hwired, hplugged, hsourced⟩ := hs
  exact ⟨hwired.step hstep, hplugged.step hwired hstep, hsourced.step hplugged hwired hstep⟩

end Ubd
