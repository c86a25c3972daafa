import Ubd.Daemon.Objects
import Ubd.Daemon.Routing
import Mathlib.Data.List.Nodup

/-!
# Daemon.Wiring — which objects the nodes point to

The handles in a node only ever point to objects made for it, each to one of the kind of its
field. So what is done to the sockets of one node leaves those of all others alone, and the
connection to ubnetd is nobody's socket.
-/

namespace Ubd

/-! ## The handles of a node -/

/-- The handles that `net_createSockets` writes. -/
structure Ports where
  source : ClassId → Option Handle
  socket : ClassId → Option Handle
  tcp : ClassId → Option Handle
  mgt : Option Handle

def NodeNet.ports (net : NodeNet) : Ports where
  source := fun c => (net.udpsockets c).source
  socket := fun c => (net.udpsockets c).socket
  tcp := fun c => (net.tcpsockets c).socketservice
  mgt := net.mgtsocket.socketservice

/-- Writing the handles of a UDP socket. -/
def Ports.setUdp (ports : Ports) (c : ClassId) (source socket : Option Handle) : Ports :=
  { ports with
    source := Function.update ports.source c source
    socket := Function.update ports.socket c socket }

/-- Writing the handle of a TCP service. -/
def Ports.setTcp (ports : Ports) (c : ClassId) (service : Option Handle) : Ports :=
  { ports with tcp := Function.update ports.tcp c service }

theorem ports_setUdp (net : NodeNet) (c : ClassId) (sd : SocketData) :
    NodeNet.ports { net with udpsockets := Function.update net.udpsockets c sd }
      = net.ports.setUdp c sd.source sd.socket := by
  unfold NodeNet.ports Ports.setUdp
  congr 1
  · exact Function.comp_update SocketData.source net.udpsockets c sd
  · exact Function.comp_update SocketData.socket net.udpsockets c sd

theorem ports_setTcp (net : NodeNet) (c : ClassId) (sd : SocketData) :
    NodeNet.ports { net with tcpsockets := Function.update net.tcpsockets c sd }
      = net.ports.setTcp c sd.socketservice := by
  unfold NodeNet.ports Ports.setTcp
  congr 1
  exact Function.comp_update SocketData.socketservice net.tcpsockets c sd

@[simp] theorem Ports.setUdp_self (ports : Ports) (c : ClassId) :
    ports.setUdp c (ports.source c) (ports.socket c) = ports := by
  simp [Ports.setUdp]

/-- The handles of a class slot, in the order in which they are closed. -/
def Ports.slot (ports : Ports) (c : ClassId) : List (Option Handle) :=
  [ports.source c, ports.socket c, ports.tcp c]

/-- The handles that `net_removeSockets` closes. -/
def Ports.handles (ports : Ports) (classes : ClassId → UInt8) : List (Option Handle) :=
  (classSlots.filter (classes · ≠ 0)).flatMap ports.slot ++ [ports.mgt]

/-- What the handles of a node point to. -/
structure Ports.WiredTo (ports : Ports) (o : Objects) (n : NodeId) : Prop where
  source : ∀ c h, ports.source c = some h → o.kindAt h = some (.source (.udp n c))
  socket : ∀ c h, ports.socket c = some h →
    o.kindAt h = some .socket ∧ o.kindAt (h + 1) = some (.source (.udp n c))
  tcp : ∀ c h, ports.tcp c = some h → o.kindAt h = some (.service (.tcp n c))
  mgt : ∀ h, ports.mgt = some h → o.kindAt h = some (.service (.mgt n))

/-- The connection to ubnetd is a socket without a source. -/
structure NodeNet.WiredTo (net : NodeNet) (o : Objects) (n : NodeId) : Prop where
  ports : net.ports.WiredTo o n
  ubnetd : ∀ h, net.ubnetd = some h → o.kindAt h = some .socket ∧ o.ownerAt h = none

section WiredTo

variable {P : NodeId → Prop} {o o' : Objects} {n : NodeId}

theorem Ports.WiredTo.work {ports : Ports} (h : ports.WiredTo o n) (hwork : Objects.Work P o o') :
    ports.WiredTo o' n where
  source := fun c k hk => hwork.kind _ _ (h.source c k hk)
  socket := fun c k hk =>
    ⟨hwork.kind _ _ (h.socket c k hk).1, hwork.kind _ _ (h.socket c k hk).2⟩
  tcp := fun c k hk => hwork.kind _ _ (h.tcp c k hk)
  mgt := fun k hk => hwork.kind _ _ (h.mgt k hk)

theorem NodeNet.WiredTo.work {net : NodeNet} (h : net.WiredTo o n)
    (hwork : Objects.Work P o o') : net.WiredTo o' n where
  ports := h.ports.work hwork
  ubnetd := by
    intro k hk
    obtain ⟨hkind, hown⟩ := h.ubnetd k hk
    exact ⟨hwork.kind _ _ hkind, (hwork.owner _ _ hkind).trans hown⟩

theorem Ports.WiredTo.setUdp {ports : Ports} (h : ports.WiredTo o n) {c : ClassId} {k : Handle}
    (hsocket : o.kindAt k = some .socket)
    (hsource : o.kindAt (k + 1) = some (.source (.udp n c))) :
    (ports.setUdp c (some (k + 1)) (some k)).WiredTo o n where
  source := by
    intro c' k' hk
    change Function.update ports.source c (some (k + 1)) c' = some k' at hk
    by_cases hc : c' = c
    · subst hc
      rw [Function.update_self] at hk
      cases hk
      exact hsource
    · rw [Function.update_of_ne hc] at hk
      exact h.source c' k' hk
  socket := by
    intro c' k' hk
    change Function.update ports.socket c (some k) c' = some k' at hk
    by_cases hc : c' = c
    · subst hc
      rw [Function.update_self] at hk
      cases hk
      exact ⟨hsocket, hsource⟩
    · rw [Function.update_of_ne hc] at hk
      exact h.socket c' k' hk
  tcp := h.tcp
  mgt := h.mgt

theorem Ports.WiredTo.setTcp {ports : Ports} (h : ports.WiredTo o n) {c : ClassId} {k : Handle}
    (hservice : o.kindAt k = some (.service (.tcp n c))) :
    (ports.setTcp c (some k)).WiredTo o n where
  source := h.source
  socket := h.socket
  tcp := by
    intro c' k' hk
    change Function.update ports.tcp c (some k) c' = some k' at hk
    by_cases hc : c' = c
    · subst hc
      rw [Function.update_self] at hk
      cases hk
      exact hservice
    · rw [Function.update_of_ne hc] at hk
      exact h.tcp c' k' hk
  mgt := h.mgt

/-- The objects behind the handles of a class slot belong to the node. -/
theorem Ports.WiredTo.slot_owner {ports : Ports} (h : ports.WiredTo o n) {c : ClassId}
    {k : Handle} (hk : some k ∈ ports.slot c) : o.ownerAt k = some n := by
  simp only [Ports.slot, List.mem_cons, List.not_mem_nil, or_false] at hk
  rcases hk with hk | hk | hk
  · exact Objects.ownerAt_source (h.source c k hk.symm)
  · obtain ⟨hsocket, hsource⟩ := h.socket c k hk.symm
    exact Objects.ownerAt_socket hsocket hsource
  · exact Objects.ownerAt_service (h.tcp c k hk.symm)

theorem Ports.WiredTo.mgt_owner {ports : Ports} (h : ports.WiredTo o n) {k : Handle}
    (hk : ports.mgt = some k) : o.ownerAt k = some n :=
  Objects.ownerAt_service (h.mgt k hk)

theorem Ports.mem_handles {ports : Ports} {classes : ClassId → UInt8} {i : Option Handle} :
    i ∈ ports.handles classes
      ↔ (∃ c, classes c ≠ 0 ∧ i ∈ ports.slot c) ∨ i = ports.mgt := by
  simp [Ports.handles, classSlots]

theorem Ports.WiredTo.handles_owner {ports : Ports} (h : ports.WiredTo o n)
    {classes : ClassId → UInt8} {k : Handle} (hk : some k ∈ ports.handles classes) :
    o.ownerAt k = some n := by
  rcases Ports.mem_handles.mp hk with ⟨c, -, hk⟩ | hk
  · exact h.slot_owner hk
  · exact h.mgt_owner hk.symm

/-- The class slot a handle is for. -/
def classAt (o : Objects) (h : Handle) : Option ClassId :=
  match o.kindAt h, o.kindAt (h + 1) with
  | some (.source (.udp _ c)), _ => some c
  | some .socket, some (.source (.udp _ c)) => some c
  | some (.service (.tcp _ c)), _ => some c
  | _, _ => none

theorem Ports.WiredTo.slot_class {ports : Ports} (h : ports.WiredTo o n) {c : ClassId}
    {k : Handle} (hk : some k ∈ ports.slot c) : classAt o k = some c := by
  simp only [Ports.slot, List.mem_cons, List.not_mem_nil, or_false] at hk
  unfold classAt
  rcases hk with hk | hk | hk
  · simp only [h.source c k hk.symm]
  · obtain ⟨hsocket, hsource⟩ := h.socket c k hk.symm
    simp only [hsocket, hsource]
  · simp only [h.tcp c k hk.symm]

/-- No two handles of a node point to the same object. -/
theorem Ports.WiredTo.nodup_handles {ports : Ports} (h : ports.WiredTo o n)
    {classes : ClassId → UInt8} (hstored : none ∉ ports.handles classes) :
    (ports.handles classes).Nodup := by
  have hsome : ∀ i ∈ ports.handles classes, ∃ k, i = some k := fun i hi =>
    Option.ne_none_iff_exists'.mp fun hnone => hstored (hnone ▸ hi)
  have hslot : ∀ c ∈ classSlots.filter (classes · ≠ 0), ∀ i ∈ ports.slot c,
      i ∈ ports.handles classes := fun c hc i hi =>
    List.mem_append_left _ (List.mem_flatMap.mpr ⟨c, hc, hi⟩)
  rw [Ports.handles, List.nodup_append]
  refine ⟨List.nodup_flatMap.mpr ⟨fun c hc => ?_, ?_⟩, List.nodup_singleton _, ?_⟩
  · -- a source, a socket and a service
    obtain ⟨s, hs⟩ := hsome (ports.source c) (hslot c hc _ (by simp [Ports.slot]))
    obtain ⟨u, hu⟩ := hsome (ports.socket c) (hslot c hc _ (by simp [Ports.slot]))
    obtain ⟨t, ht⟩ := hsome (ports.tcp c) (hslot c hc _ (by simp [Ports.slot]))
    have hsk := h.source c s hs
    have huk := (h.socket c u hu).1
    have htk := h.tcp c t ht
    have hsu : s ≠ u := by
      rintro rfl
      simp [hsk] at huk
    have hst : s ≠ t := by
      rintro rfl
      simp [hsk] at htk
    have hut : u ≠ t := by
      rintro rfl
      simp [huk] at htk
    simp [Ports.slot, hs, hu, ht, hsu, hst, hut]
  · -- handles of two slots
    refine ((List.nodup_finRange maxClass).filter _).imp_of_mem fun {c c'} hc hc' hne i hi hi' => ?_
    obtain ⟨k, rfl⟩ := hsome i (hslot c hc i hi)
    exact hne (Option.some.inj ((h.slot_class hi).symm.trans (h.slot_class hi')))
  · -- the management service
    intro i hi j hj
    rw [List.mem_singleton] at hj
    subst hj
    rintro rfl
    obtain ⟨c, -, hi⟩ := List.mem_flatMap.mp hi
    obtain ⟨k, hk⟩ := hsome ports.mgt (by simp [Ports.handles])
    rw [hk] at hi
    have hclass := h.slot_class hi
    simp [classAt, h.mgt k hk] at hclass

end WiredTo

/-! ## The functions of `net.c` and `interface.c` -/

section NetFunctions

variable {self : NodeId} {n : Node} {env : NetEnv} {s : NetState}

theorem work_drops {P : NodeId → Prop} (l : List (Option Handle)) (o : Objects)
    (hP : ∀ h m, some h ∈ l → o.ownerAt h = some m → P m) :
    Objects.Work P o (l.foldl Objects.drop o) := by
  induction l generalizing o with
  | nil => exact .refl P o
  | cons i l ih =>
      have hfirst : Objects.Work P o (o.drop i) :=
        o.work_drop i fun h m hi => hP h m (by simp [hi])
      refine hfirst.trans (ih (o.drop i) fun h m hh hm => hP h m (List.mem_cons_of_mem i hh) ?_)
      rw [← hm]
      exact (o.ownerAt_drop i).symm

theorem kindAt_drops (l : List (Option Handle)) (o : Objects) (h : Handle) :
    (l.foldl Objects.drop o).kindAt h = o.kindAt h := by
  induction l generalizing o with
  | nil => rfl
  | cons i l ih => exact (ih (o.drop i)).trans (o.kindAt_drop i)

/-- `net_removeSockets` closes the handles of its node, one by one. -/
theorem netRemoveSockets_objects (self : NodeId) (n : Node) (s : NetState) :
    (netRemoveSockets self n s).objects
      = (s.net.ports.handles n.classes).foldl Objects.drop s.objects := by
  have hloop : ∀ (l : List ClassId) (s : NetState),
      (l.foldl (fun s i => netRemoveTCPSocketListener i (netRemoveUDPSocket i s)) s).objects
        = (l.flatMap s.net.ports.slot).foldl Objects.drop s.objects
      ∧ (l.foldl (fun s i => netRemoveTCPSocketListener i (netRemoveUDPSocket i s)) s).net
        = s.net := by
    intro l
    induction l with
    | nil => exact fun s => ⟨rfl, rfl⟩
    | cons c l ih =>
        intro s
        obtain ⟨hobjects, hnet⟩ := ih (netRemoveTCPSocketListener c (netRemoveUDPSocket c s))
        refine ⟨?_, hnet⟩
        rw [List.flatMap_cons, List.foldl_append, List.foldl_cons, hobjects]
        rfl
  obtain ⟨hobjects, hnet⟩ := hloop (classSlots.filter (n.classes · ≠ 0))
    { s with dirclient := dirclientRemoveServices self n s.dirclient }
  unfold netRemoveSockets
  dsimp only at hobjects hnet ⊢
  rw [Ports.handles, List.foldl_append, ← hobjects, hnet]
  rfl

/-- So it works on the objects of its node. -/
theorem Ports.WiredTo.work_handles {ports : Ports} {o : Objects} (h : ports.WiredTo o self)
    (classes : ClassId → UInt8) :
    Objects.Work (· = self) o ((ports.handles classes).foldl Objects.drop o) := by
  refine work_drops _ _ fun k m hk hm => ?_
  rw [h.handles_owner hk] at hm
  exact (Option.some.inj hm).symm

theorem interfaceCreateAddress_work (connect : UbnetdConnect) (h : s.net.WiredTo s.objects self) :
    Objects.Work (fun _ => False) s.objects (interfaceCreateAddress connect s).objects
      ∧ (interfaceCreateAddress connect s).net.WiredTo
        (interfaceCreateAddress connect s).objects self := by
  have hdrop : Objects.Work (fun _ => False) s.objects (s.objects.drop s.net.ubnetd) :=
    s.objects.work_drop _ fun k m hk hm => by
      rw [(h.ubnetd k hk).2] at hm
      cases hm
  have hnew := (s.objects.drop s.net.ubnetd).work_socket fun _ => False
  cases connect with
  | socketFails => exact ⟨hdrop, h.work hdrop⟩
  | connectFails => exact ⟨hdrop.trans hnew, h.work (hdrop.trans hnew)⟩
  | connected =>
      -- the new socket has no source behind it
      refine ⟨hdrop.trans hnew, h.ports.work (hdrop.trans hnew), fun k hk => ?_⟩
      have hk' : some (s.objects.drop s.net.ubnetd).all.length = some k := hk
      cases hk'
      exact Objects.create_socket (s.objects.drop s.net.ubnetd)

theorem address6CreateAddress_work (id : CString) (connect : UbnetdConnect)
    (h : s.net.WiredTo s.objects self) :
    Objects.Work (fun _ => False) s.objects (address6CreateAddress id connect s).objects
      ∧ (address6CreateAddress id connect s).net.WiredTo
        (address6CreateAddress id connect s).objects self :=
  interfaceCreateAddress_work connect (s := { s with
    net := { s.net with netadr := s.net.netadr.or (some (.freeAddr id)) } }) ⟨h.ports, h.ubnetd⟩

theorem interfaceGetConfiguredAddress_work (env : NetEnv) (h : s.net.WiredTo s.objects self) :
    Objects.Work (fun _ => False) s.objects (interfaceGetConfiguredAddress env s).1.objects
      ∧ (interfaceGetConfiguredAddress env s).1.net.WiredTo
        (interfaceGetConfiguredAddress env s).1.objects self := by
  unfold interfaceGetConfiguredAddress
  cases hub : s.net.ubnetd with
  | none => exact ⟨.refl _ _, h⟩
  | some k =>
      cases env.ubnetd with
      | none => exact ⟨.refl _ _, h⟩
      | some buf =>
          have hdrop : Objects.Work (fun _ => False) s.objects (s.objects.drop (some k)) :=
            s.objects.work_drop _ fun k' m hk hm => by
              cases hk
              rw [(h.ubnetd k hub).2] at hm
              cases hm
          exact ⟨hdrop, h.ports.work hdrop, fun k' hk => nomatch hk⟩

/-- What making sockets for a node does: it works on its objects, keeps it wired, and leaves
what was there. -/
structure Makes (i : NodeId) (s s' : NetState) : Prop where
  work : Objects.Work (· = i) s.objects s'.objects
  wired : s.net.WiredTo s.objects i → s'.net.WiredTo s'.objects i
  kept : ∀ h, h < s.objects.all.length → s'.objects.all[h]? = s.objects.all[h]?
  length : s.objects.all.length ≤ s'.objects.all.length

theorem Makes.refl (i : NodeId) (s : NetState) : Makes i s s :=
  ⟨.refl _ _, id, fun _ _ => rfl, le_rfl⟩

theorem Makes.trans {i : NodeId} {a b c : NetState} (h : Makes i a b) (h' : Makes i b c) :
    Makes i a c where
  work := h.work.trans h'.work
  wired := fun ha => h'.wired (h.wired ha)
  kept := fun k hk => (h'.kept k (lt_of_lt_of_le hk h.length)).trans (h.kept k hk)
  length := h.length.trans h'.length

/-- Adding objects of a node, and writing handles that point to them. -/
theorem Makes.add (kinds : List ObjectKind) {net : NodeNet} {dirclient : DirClient}
    (hhead : ∀ sd, kinds[0]? ≠ some (.source sd))
    (hown : ∀ sd, .source sd ∈ kinds ∨ .service sd ∈ kinds → sd.node = self)
    (hports : s.net.ports.WiredTo (s.objects.add kinds) self →
      net.ports.WiredTo (s.objects.add kinds) self)
    (hubnetd : net.ubnetd = s.net.ubnetd) :
    Makes self s ⟨net, s.objects.add kinds, dirclient⟩ where
  work := s.objects.work_add (P := (· = self)) hhead hown
  wired := by
    intro h
    have h' := h.work (s.objects.work_add (P := (· = self)) hhead hown)
    refine ⟨hports h'.ports, fun k hk => h'.ubnetd k ?_⟩
    rw [← hubnetd]
    exact hk
  kept := fun k hk => s.objects.all_add_left hk
  length := by
    show s.objects.all.length ≤ (s.objects.all ++ _).length
    rw [List.length_append]
    exact Nat.le_add_right _ _

section Service

variable {sd : SocketRef}

theorem service_own (hnode : sd.node = self) : ∀ sd', .source sd' ∈ [ObjectKind.service sd]
    ∨ .service sd' ∈ [ObjectKind.service sd] → sd'.node = self := by
  intro sd' hsd
  simp only [List.mem_singleton, reduceCtorEq, false_or, ObjectKind.service.injEq] at hsd
  rw [hsd]
  exact hnode

theorem service_kind (o : Objects) (sd : SocketRef) :
    (o.add [.service sd]).kindAt o.all.length = some (.service sd) := by
  rw [o.kindAt_add_right le_rfl]
  simp

/-- A service that cannot listen is released at once. -/
theorem Makes.failedService (hnode : sd.node = self) : Makes self s
    { s with objects := (s.objects.add [.service sd]).unref (some s.objects.all.length) } := by
  have hadd : Makes self s { s with objects := s.objects.add [.service sd] } :=
    .add _ (by simp) (service_own hnode) id rfl
  have hunref : Objects.Work (· = self) (s.objects.add [.service sd])
      ((s.objects.add [.service sd]).unref (some s.objects.all.length)) :=
    Objects.work_unref _ _ fun h m hh hm => by
      cases hh
      rw [Objects.ownerAt_service (service_kind s.objects sd), hnode] at hm
      exact (Option.some.inj hm).symm
  refine ⟨hadd.work.trans hunref, fun h => (hadd.wired h).work hunref, fun k hk => ?_, ?_⟩
  · exact (Objects.all_use_ne _ (Nat.ne_of_lt hk)).trans (hadd.kept k hk)
  · exact hadd.length.trans (Objects.length_use _ _).ge

end Service

theorem netCreateUDPSocket_makes (self : NodeId) (n : Node) (env : NetEnv) (c : ClassId)
    (s : NetState) : Makes self s (netCreateUDPSocket self n env c s).1 := by
  unfold netCreateUDPSocket
  dsimp only
  split
  · have hadd : ((s.objects.create .socket).1.create (.source (.udp self c))).1
        = s.objects.add [.socket, .source (.udp self c)] :=
      s.objects.add_add [.socket] [.source (.udp self c)]
    have hlast : ((s.objects.create .socket).1.create (.source (.udp self c))).2
        = s.objects.all.length + 1 := List.length_append
    rw [hadd, hlast]
    refine .add _ (by simp) (fun sd hsd => ?_) (fun h => ?_) rfl
    · simp only [List.mem_cons, List.not_mem_nil, or_false, reduceCtorEq, false_or,
        ObjectKind.source.injEq] at hsd
      rw [hsd]
      rfl
    · rw [ports_setUdp]
      refine h.setUdp ?_ ?_
      · rw [s.objects.kindAt_add_right le_rfl]
        simp
      · rw [s.objects.kindAt_add_right (Nat.le_add_right _ 1)]
        simp
  · refine .add [.socket] (by simp) (by simp) (fun h => ?_) rfl
    rw [ports_setUdp]
    exact (Ports.setUdp_self s.net.ports c).symm ▸ h

theorem netCreateTCPSocket_makes (self : NodeId) (n : Node) (env : NetEnv) (c : ClassId)
    (s : NetState) : Makes self s (netCreateTCPSocket self n env c s).1 := by
  unfold netCreateTCPSocket
  dsimp only
  split
  · refine .add [.service (.tcp self c)] (by simp) (service_own rfl) (fun h => ?_) rfl
    rw [ports_setTcp]
    exact h.setTcp (service_kind s.objects _)
  · exact .failedService rfl

theorem netCreateClassSockets_makes (self : NodeId) (n : Node) (env : NetEnv) (l : List ClassId)
    (s : NetState) : Makes self s (netCreateClassSockets self n env l s).1 :=
  netCreateClassSockets_relation (.refl self) (fun _ _ _ h h' => h.trans h')
    (netCreateUDPSocket_makes self n env) (netCreateTCPSocket_makes self n env) l s

theorem netCreateMgtSocket_makes (self : NodeId) (n : Node) (env : NetEnv) (s : NetState) :
    Makes self s (netCreateMgtSocket self n env s) := by
  unfold netCreateMgtSocket
  dsimp only
  split
  · refine .add [.service (.mgt self)] (by simp) (service_own rfl) (fun h => ?_) rfl
    refine ⟨h.source, h.socket, h.tcp, fun k hk => ?_⟩
    have hk' : some s.objects.all.length = some k := hk
    cases hk'
    exact service_kind s.objects _
  · exact .failedService rfl

theorem netCreateSockets_makes (self : NodeId) (n : Node) (env : NetEnv) (s : NetState) :
    Makes self s (netCreateSockets self n env s) :=
  netCreateSockets_relation (fun _ _ _ h h' => h.trans h')
    (netCreateClassSockets_makes self n env classSlots) (netCreateMgtSocket_makes self n env) s

end NetFunctions

end Ubd
