import Ubd.Daemon.State

/-!
# Daemon.Net — `net.c`, `interface.c`, `address6.c` and `directory-client.c`

The network side of a node. The functions work on a `NetState`: the network
fields of one node, the GLib objects and the directory client. What the outside
answers (does a bind succeed, has ubnetd replied) is an argument.
-/

namespace Ubd

/-! ## `classes.c` -/

/-- `classes_getClassName` -/
def classesGetClassName (cls : UInt8) : String :=
  if cls = 10 then "hid"
  else if cls = 11 then "digitaloutput"
  else if cls = 12 then "digitalinput"
  else if cls = 23 then "moodlamp"
  else if cls = 42 then "switch"
  else "unknown class"

/-- `classes_getServicePort` -/
def classesGetServicePort (cls : UInt8) : Nat :=
  if cls = 10 then 2310
  else if cls = 11 then 2311
  else if cls = 12 then 2312
  else if cls = 23 then 2323
  else if cls = 42 then 2342
  else 2300

/-! ## The state of the network side -/

structure NetState where
  net : NodeNet
  objects : Objects
  dirclient : DirClient

/-- How an attempt to connect to ubnetd ends. -/
inductive UbnetdConnect where
  | socketFails
  | connectFails
  | connected
  deriving DecidableEq, Repr

/-- What a node meets outside during one tick. -/
structure NetEnv where
  /-- The byte received from ubnetd, once its socket is readable. -/
  ubnetd : Option UInt8
  udpBind : ClassId → Bool
  tcpListen : ClassId → Bool
  mgtListen : Bool

/-- The class slots in the order the loops visit them. -/
def classSlots : List ClassId := List.finRange maxClass

/-! ## `directory-client.c` -/

/-- `dirclient_addService` -/
def dirclientAddService (self : NodeId) (n : Node) (c : DirClient) (classid : ClassId) :
    DirClient :=
  let json := DirMessage.updateService (classesGetClassName (n.classes classid)) n.netadr n.id
    n.name (classesGetServicePort (n.classes classid))
  { sent := c.sent ++ [json]
    services := c.services.filter (·.1 ≠ (self, classid)) ++ [((self, classid), json)] }

/-- `dirclient_removeService` -/
def dirclientRemoveService (self : NodeId) (n : Node) (c : DirClient) (classid : ClassId) :
    DirClient :=
  { sent := c.sent ++ [.deleteService (classesGetClassName (n.classes classid)) n.id]
    services := c.services.filter (·.1 ≠ (self, classid)) }

/-- `dirclient_registerServices` -/
def dirclientRegisterServices (self : NodeId) (n : Node) (c : DirClient) : DirClient :=
  (classSlots.filter (n.classes · ≠ 0)).foldl (dirclientAddService self n) c

/-- `dirclient_removeServices` -/
def dirclientRemoveServices (self : NodeId) (n : Node) (c : DirClient) : DirClient :=
  (classSlots.filter (n.classes · ≠ 0)).foldl (dirclientRemoveService self n) c

/-! ## `interface.c` and `address6.c` -/

/-- `interface_createAddress`. When it fails, `n->ubnetd` keeps the old socket, which
has been closed and released. -/
def interfaceCreateAddress (connect : UbnetdConnect) (s : NetState) : NetState :=
  let objects := (s.objects.close s.net.ubnetd).unref s.net.ubnetd
  match connect with
  | .socketFails => { s with objects := objects }
  | .connectFails => { s with objects := (objects.create .socket).1 }
  | .connected =>
      { s with
        objects := (objects.create .socket).1
        net := { s.net with ubnetd := some (objects.create .socket).2 } }

/-- `interface_getConfiguredAddress` -/
def interfaceGetConfiguredAddress (env : NetEnv) (s : NetState) : NetState × Option NetAddr :=
  match s.net.ubnetd, env.ubnetd with
  | some h, some buf =>
      ({ s with
        objects := (s.objects.close (some h)).unref (some h)
        net := { s.net with ubnetd := none } },
        if buf = 0x41 then s.net.netadr else none)
  | _, _ => (s, none)

/-- `address6_createAddress`. The request to ubnetd to remove the address first leaves
nothing behind. -/
def address6CreateAddress (id : CString) (connect : UbnetdConnect) (s : NetState) : NetState :=
  let netadr := s.net.netadr.or (some (.freeAddr id))
  interfaceCreateAddress connect { s with net := { s.net with netadr := netadr } }

/-! ## `net.c` -/

/-- `net_createUDPSocket` -/
def netCreateUDPSocket (self : NodeId) (n : Node) (env : NetEnv) (classid : ClassId)
    (s : NetState) : NetState × Bool :=
  let sa : SocketAddress := ⟨s.net.netadr, 2300 + (n.classes classid).toNat⟩
  let sd := { s.net.udpsockets classid with n := some self }
  let (objects, socket) := s.objects.create .socket
  if env.udpBind classid then
    let (objects, source) := objects.create (.source (.udp self classid))
    let sd := { sd with
      socket := some socket
      source := some source
      socketaddress := some sa
      classid := classid.val }
    ({ s with
      objects := objects
      net := { s.net with udpsockets := Function.update s.net.udpsockets classid sd } }, true)
  else
    ({ s with
      objects := objects
      net := { s.net with udpsockets := Function.update s.net.udpsockets classid sd } }, false)

/-- `net_removeUDPSocket` -/
def netRemoveUDPSocket (classid : ClassId) (s : NetState) : NetState :=
  let sd := s.net.udpsockets classid
  let objects := (s.objects.close sd.source).unref sd.source
  { s with objects := (objects.close sd.socket).unref sd.socket }

/-- `net_createTCPSocket` -/
def netCreateTCPSocket (self : NodeId) (n : Node) (env : NetEnv) (classid : ClassId)
    (s : NetState) : NetState × Bool :=
  let sa : SocketAddress := ⟨s.net.netadr, 2300 + (n.classes classid).toNat⟩
  let (objects, gss) := s.objects.create (.service (.tcp self classid))
  if env.tcpListen classid then
    let sd := { s.net.tcpsockets classid with
      n := some self
      socketservice := some gss
      socketaddress := some sa
      classid := classid.val }
    ({ s with
      objects := objects
      net := { s.net with tcpsockets := Function.update s.net.tcpsockets classid sd } }, true)
  else
    ({ s with objects := objects.unref (some gss) }, false)

/-- `net_removeTCPSocketListener` -/
def netRemoveTCPSocketListener (classid : ClassId) (s : NetState) : NetState :=
  let sd := s.net.tcpsockets classid
  { s with objects := (s.objects.close sd.socketservice).unref sd.socketservice }

/-- The loop of `net_createSockets`, which returns at the first failure. -/
def netCreateClassSockets (self : NodeId) (n : Node) (env : NetEnv) :
    List ClassId → NetState → NetState × Bool
  | [], s => (s, true)
  | i :: is, s =>
      if n.classes i ≠ 0 then
        match netCreateUDPSocket self n env i s with
        | (s, false) => (s, false)
        | (s, true) =>
            match netCreateTCPSocket self n env i s with
            | (s, false) => (s, false)
            | (s, true) => netCreateClassSockets self n env is s
      else netCreateClassSockets self n env is s

/-- The rest of `net_createSockets`. -/
def netCreateMgtSocket (self : NodeId) (n : Node) (env : NetEnv) (s : NetState) : NetState :=
  let samgt : SocketAddress := ⟨s.net.netadr, 2324⟩
  let (objects, gss) := s.objects.create (.service (.mgt self))
  if env.mgtListen then
    let sd := { s.net.mgtsocket with
      n := some self
      socketservice := some gss
      socketaddress := some samgt }
    { objects := objects
      net := { s.net with mgtsocket := sd, netup := true }
      dirclient := dirclientRegisterServices self n s.dirclient }
  else
    { s with objects := objects.unref (some gss) }

/-- `net_createSockets` -/
def netCreateSockets (self : NodeId) (n : Node) (env : NetEnv) (s : NetState) : NetState :=
  match netCreateClassSockets self n env classSlots s with
  | (s, false) => s
  | (s, true) => netCreateMgtSocket self n env s

/-- `net_removeSockets` -/
def netRemoveSockets (self : NodeId) (n : Node) (s : NetState) : NetState :=
  let s := { s with dirclient := dirclientRemoveServices self n s.dirclient }
  let s := (classSlots.filter (n.classes · ≠ 0)).foldl
    (fun s i => netRemoveTCPSocketListener i (netRemoveUDPSocket i s)) s
  let gss := s.net.mgtsocket.socketservice
  { s with objects := (s.objects.close gss).unref gss }

/-! ## On the daemon -/

/-- Run a function of the network side on a node of the table. -/
def Daemon.onNet (d : Daemon) (n : NodeId) (f : NetState → NetState) : Daemon :=
  let s := f ⟨(d.nodes n).toNodeNet, d.objects, d.dirclient⟩
  { d.setNode n (fun x => { x with toNodeNet := s.net }) with
    objects := s.objects
    dirclient := s.dirclient }

/-- **The network side leaves the bus side alone.** -/
theorem onNet_bus (d : Daemon) (n : NodeId) (f : NetState → NetState) (m : NodeId) :
    ((d.onNet n f).nodes m).bus = (d.nodes m).bus := by
  by_cases h : m = n
  · subst h
    simp only [Daemon.onNet, setNode_self]
    rfl
  · simp only [Daemon.onNet, setNode_of_ne d n _ h]

@[simp] theorem onNet_packetOut (d : Daemon) (n : NodeId) (f : NetState → NetState) :
    (d.onNet n f).packetOut = d.packetOut := rfl

@[simp] theorem onNet_conns (d : Daemon) (n : NodeId) (f : NetState → NetState) :
    (d.onNet n f).conns = d.conns := rfl

@[simp] theorem onNet_nodetimeout (d : Daemon) (n : NodeId) (f : NetState → NetState) :
    (d.onNet n f).nodetimeout = d.nodetimeout := rfl

/-! ## Which nodes the network side has touched -/

/-- There is, or was, a service of this node. -/
def Objects.serves (o : Objects) (i : NodeId) : Prop :=
  ∃ x ∈ o.all, ∃ sd, x.kind = .service sd ∧ sd.node = i

/-- The node has a connection to ubnetd or a service. -/
def Daemon.Touched (d : Daemon) (i : NodeId) : Prop :=
  (d.nodes i).ubnetd ≠ none ∨ d.objects.serves i

theorem serves_use {o : Objects} {f : Object → Object} (hf : ∀ x, (f x).kind = x.kind)
    {h : Option Handle} {i : NodeId} (hs : (o.use f h).serves i) : o.serves i := by
  unfold Objects.use at hs
  split at hs
  · exact hs
  · split at hs
    · exact hs
    · rename_i h x hx
      split at hs
      · exact hs
      · obtain ⟨y, hy, sd, hkind, hnode⟩ := hs
        rcases List.mem_or_eq_of_mem_set hy with hy | rfl
        · exact ⟨y, hy, sd, hkind, hnode⟩
        · exact ⟨x, List.mem_of_getElem? hx, sd, (hf x).symm.trans hkind, hnode⟩

theorem serves_close {o : Objects} {h : Option Handle} {i : NodeId} (hs : (o.close h).serves i) :
    o.serves i :=
  serves_use (f := fun x => { x with isOpen := false }) (fun _ => rfl) hs

theorem serves_unref {o : Objects} {h : Option Handle} {i : NodeId} (hs : (o.unref h).serves i) :
    o.serves i :=
  serves_use (f := fun x => { x with isOpen := false, released := true }) (fun _ => rfl) hs

theorem serves_create {o : Objects} {kind : ObjectKind} {i : NodeId}
    (hs : (o.create kind).1.serves i) :
    o.serves i ∨ ∃ sd, kind = .service sd ∧ sd.node = i := by
  obtain ⟨x, hx, sd, hkind, hnode⟩ := hs
  rcases List.mem_append.mp hx with hx | hx
  · exact .inl ⟨x, hx, sd, hkind, hnode⟩
  · rw [List.mem_singleton] at hx
    subst hx
    exact .inr ⟨sd, hkind, hnode⟩

/-- A new service is that of its own node. -/
theorem serves_create_service {o : Objects} {sd : SocketRef} {i : NodeId}
    (hs : (o.create (.service sd)).1.serves i) : o.serves i ∨ i = sd.node := by
  rcases serves_create hs with hs | ⟨sd', hkind, hnode⟩
  · exact .inl hs
  · cases hkind
    exact .inr hnode.symm

theorem serves_create_socket {o : Objects} {i : NodeId}
    (hs : (o.create .socket).1.serves i) : o.serves i := by
  rcases serves_create hs with hs | ⟨sd, hkind, -⟩
  · exact hs
  · cases hkind

theorem address6CreateAddress_serves {id : CString} {connect : UbnetdConnect} {s : NetState}
    {i : NodeId} (hs : (address6CreateAddress id connect s).objects.serves i) :
    s.objects.serves i := by
  unfold address6CreateAddress interfaceCreateAddress at hs
  cases connect with
  | socketFails => exact serves_close (serves_unref hs)
  | connectFails => exact serves_close (serves_unref (serves_create_socket hs))
  | connected => exact serves_close (serves_unref (serves_create_socket hs))

theorem netRemoveSockets_keeps (self : NodeId) (n : Node) (s : NetState) :
    (netRemoveSockets self n s).net = s.net
      ∧ ∀ i, (netRemoveSockets self n s).objects.serves i → s.objects.serves i := by
  unfold netRemoveSockets
  have hloop : ∀ (l : List ClassId) (s : NetState),
      (l.foldl (fun s i => netRemoveTCPSocketListener i (netRemoveUDPSocket i s)) s).net = s.net
        ∧ ∀ i, (l.foldl (fun s i => netRemoveTCPSocketListener i
            (netRemoveUDPSocket i s)) s).objects.serves i → s.objects.serves i := by
    intro l
    induction l with
    | nil => exact fun s => ⟨rfl, fun _ h => h⟩
    | cons c l ih =>
        intro s
        obtain ⟨hnet, hserves⟩ := ih (netRemoveTCPSocketListener c (netRemoveUDPSocket c s))
        refine ⟨hnet.trans rfl, fun i hi => ?_⟩
        have h := serves_close (serves_unref (hserves i hi))
        exact serves_close (serves_unref (serves_close (serves_unref h)))
  obtain ⟨hnet, hserves⟩ := hloop (classSlots.filter (n.classes · ≠ 0))
    { s with dirclient := dirclientRemoveServices self n s.dirclient }
  exact ⟨hnet, fun i hi => hserves i (serves_close (serves_unref hi))⟩

/-- Making sockets leaves the connection to ubnetd alone and makes services of the node
itself only. -/
def MakesOwn (self : NodeId) (s s' : NetState) : Prop :=
  s'.net.ubnetd = s.net.ubnetd ∧ ∀ i, s'.objects.serves i → s.objects.serves i ∨ i = self

theorem MakesOwn.trans {self : NodeId} {a b c : NetState} (h : MakesOwn self a b)
    (h' : MakesOwn self b c) : MakesOwn self a c := by
  refine ⟨h'.1.trans h.1, fun i hi => ?_⟩
  rcases h'.2 i hi with hb | rfl
  · exact h.2 i hb
  · exact .inr rfl

theorem netCreateUDPSocket_own (self : NodeId) (n : Node) (env : NetEnv) (c : ClassId)
    (s : NetState) : MakesOwn self s (netCreateUDPSocket self n env c s).1 := by
  unfold netCreateUDPSocket
  dsimp only
  split
  · refine ⟨rfl, fun i hi => ?_⟩
    rcases serves_create hi with hi | ⟨sd, hkind, -⟩
    · exact .inl (serves_create_socket hi)
    · cases hkind
  · exact ⟨rfl, fun i hi => .inl (serves_create_socket hi)⟩

theorem netCreateTCPSocket_own (self : NodeId) (n : Node) (env : NetEnv) (c : ClassId)
    (s : NetState) : MakesOwn self s (netCreateTCPSocket self n env c s).1 := by
  unfold netCreateTCPSocket
  dsimp only
  split
  · exact ⟨rfl, fun i hi => serves_create_service hi⟩
  · exact ⟨rfl, fun i hi => serves_create_service (serves_unref hi)⟩

/-- **The rule for the sockets of classes**: what making any of them does, the loop does. -/
theorem netCreateClassSockets_relation {R : NetState → NetState → Prop} {self : NodeId} {n : Node}
    {env : NetEnv} (hrefl : ∀ s, R s s) (htrans : ∀ a b c, R a b → R b c → R a c)
    (hudp : ∀ c s, R s (netCreateUDPSocket self n env c s).1)
    (htcp : ∀ c s, R s (netCreateTCPSocket self n env c s).1) (l : List ClassId) (s : NetState) :
    R s (netCreateClassSockets self n env l s).1 := by
  induction l generalizing s with
  | nil => exact hrefl s
  | cons c l ih =>
      unfold netCreateClassSockets
      split
      · have hfirst := hudp c s
        cases hrun : netCreateUDPSocket self n env c s with
        | mk s₁ ok =>
            rw [hrun] at hfirst
            cases ok with
            | false => exact hfirst
            | true =>
                have hsecond := htcp c s₁
                cases hrun' : netCreateTCPSocket self n env c s₁ with
                | mk s₂ ok =>
                    rw [hrun'] at hsecond
                    have hboth := htrans _ _ _ hfirst hsecond
                    simp only [hrun']
                    cases ok with
                    | false => exact hboth
                    | true => exact htrans _ _ _ hboth (ih s₂)
      · exact ih s

/-- The rule for `net_createSockets`. -/
theorem netCreateSockets_relation {R : NetState → NetState → Prop} {self : NodeId} {n : Node}
    {env : NetEnv} (htrans : ∀ a b c, R a b → R b c → R a c)
    (hclasses : ∀ s, R s (netCreateClassSockets self n env classSlots s).1)
    (hmgt : ∀ s, R s (netCreateMgtSocket self n env s)) (s : NetState) :
    R s (netCreateSockets self n env s) := by
  have hfirst := hclasses s
  unfold netCreateSockets
  cases hrun : netCreateClassSockets self n env classSlots s with
  | mk s₁ ok =>
      rw [hrun] at hfirst
      cases ok with
      | false => exact hfirst
      | true => exact htrans _ _ _ hfirst (hmgt s₁)

theorem netCreateMgtSocket_own (self : NodeId) (n : Node) (env : NetEnv) (s : NetState) :
    MakesOwn self s (netCreateMgtSocket self n env s) := by
  unfold netCreateMgtSocket
  dsimp only
  split
  · exact ⟨rfl, fun i hi => serves_create_service hi⟩
  · exact ⟨rfl, fun i hi => serves_create_service (serves_unref hi)⟩

theorem netCreateSockets_own (self : NodeId) (n : Node) (env : NetEnv) (s : NetState) :
    MakesOwn self s (netCreateSockets self n env s) :=
  netCreateSockets_relation (fun _ _ _ h h' => h.trans h')
    (netCreateClassSockets_relation (fun _ => ⟨rfl, fun _ h => .inl h⟩)
      (fun _ _ _ h h' => h.trans h') (netCreateUDPSocket_own self n env)
      (netCreateTCPSocket_own self n env) classSlots)
    (netCreateMgtSocket_own self n env) s

theorem interfaceGetConfiguredAddress_keeps (env : NetEnv) (s : NetState) :
    ((interfaceGetConfiguredAddress env s).1.net.ubnetd ≠ none → s.net.ubnetd ≠ none)
      ∧ ((interfaceGetConfiguredAddress env s).2 ≠ none → s.net.ubnetd ≠ none)
      ∧ ∀ i, (interfaceGetConfiguredAddress env s).1.objects.serves i → s.objects.serves i := by
  unfold interfaceGetConfiguredAddress
  cases hub : s.net.ubnetd with
  | none => exact ⟨fun h => absurd hub h, fun h => absurd rfl h, fun _ h => h⟩
  | some h =>
      cases env.ubnetd with
      | none => exact ⟨fun _ => by simp, fun _ => by simp, fun _ h => h⟩
      | some buf =>
          exact ⟨fun _ => by simp, fun _ => by simp, fun i hi => serves_close (serves_unref hi)⟩

end Ubd
