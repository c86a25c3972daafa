import Ubd.Daemon.Sockets

/-!
# Daemon.Pairing — sockets are created and removed in pairs

`net_createSockets` makes sockets for the slots that have a class, and `net_removeSockets`
closes those of the slots that have a class then. In between every `D` writes the classes.
`sockets_paired` says in which runs the two agree.
-/

namespace Ubd

open Runs

/-! ## Creating sockets -/

section Creating

variable {self : NodeId} {n : Node} {env : NetEnv} {s : NetState}

/-- The sockets of a class slot, once both are made. -/
theorem netCreateSlot_ok (self : NodeId) (n : Node) {env : NetEnv} {c : ClassId}
    (hudp : env.udpBind c = true) (htcp : env.tcpListen c = true) (s : NetState) :
    ∃ s₁ s₂, netCreateUDPSocket self n env c s = (s₁, true)
      ∧ netCreateTCPSocket self n env c s₁ = (s₂, true)
      ∧ s₂.objects = s.objects.add [.socket, .source (.udp self c), .service (.tcp self c)]
      ∧ s₂.net.ports = (s.net.ports.setUdp c (some (s.objects.all.length + 1))
          (some s.objects.all.length)).setTcp c (some (s.objects.all.length + 2)) := by
  have hfirst : (s.objects.create .socket).1.all.length = s.objects.all.length + 1 :=
    List.length_append
  have hsecond : ((s.objects.create .socket).1.create (.source (.udp self c))).1.all.length
      = s.objects.all.length + 2 := by
    show (_ ++ [_]).length = _
    rw [List.length_append, hfirst]
    rfl
  unfold netCreateUDPSocket netCreateTCPSocket
  simp only [hudp, htcp, if_true]
  refine ⟨_, _, rfl, rfl, ?_, ?_⟩
  · simp only [Objects.create_eq_add, Objects.add_add]
    rfl
  · rw [ports_setTcp, ports_setUdp]
    show (s.net.ports.setUdp c (some (s.objects.create .socket).1.all.length)
      (some s.objects.all.length)).setTcp c
      (some ((s.objects.create .socket).1.create (.source (.udp self c))).1.all.length) = _
    rw [hfirst, hsecond]

/-- The handles of a class slot, once they are written. -/
theorem slot_written (ports : Ports) (c : ClassId) (source socket service : Option Handle) :
    ((ports.setUdp c source socket).setTcp c service).slot c = [source, socket, service] := by
  simp [Ports.slot, Ports.setUdp, Ports.setTcp]

/-- The other slots keep theirs. -/
theorem slot_other (ports : Ports) {c c' : ClassId} (source socket service : Option Handle)
    (hne : c' ≠ c) :
    ((ports.setUdp c source socket).setTcp c service).slot c' = ports.slot c' := by
  simp [Ports.slot, Ports.setUdp, Ports.setTcp, Function.update_of_ne hne]

theorem three_after (b k : Nat) : b ≤ k ∧ k < b + 3 ↔ k = b ∨ k = b + 1 ∨ k = b + 2 := by
  omega

/-- What is made for a class slot is the node's, and open. -/
theorem slot_opens {o : Objects} {l : List (Option Handle)} (hopen : o.OpenExactly self l)
    (c : ClassId) :
    (o.add [.socket, .source (.udp self c), .service (.tcp self c)]).OpenExactly self
      (l ++ [some (o.all.length + 1), some o.all.length, some (o.all.length + 2)]) := by
  have hthree : ∀ k : Handle, o.all.length ≤ k ∧ k < o.all.length + 3
      ↔ k = o.all.length ∨ k = o.all.length + 1 ∨ k = o.all.length + 2 :=
    fun k => three_after o.all.length k
  have hsocket : (o.add [.socket, .source (.udp self c), .service (.tcp self c)]).kindAt
      o.all.length = some .socket := by
    rw [o.kindAt_add_right le_rfl]
    simp
  have hsource : (o.add [.socket, .source (.udp self c), .service (.tcp self c)]).kindAt
      (o.all.length + 1) = some (.source (.udp self c)) := by
    rw [o.kindAt_add_right (Nat.le_add_right _ 1)]
    simp
  have hservice : (o.add [.socket, .source (.udp self c), .service (.tcp self c)]).kindAt
      (o.all.length + 2) = some (.service (.tcp self c)) := by
    rw [o.kindAt_add_right (Nat.le_add_right _ 2)]
    simp
  refine hopen.add (by simp) (fun k hle hlt => ?_) (by simp) (fun k => ?_)
  · rcases (hthree k).mp ⟨hle, hlt⟩ with rfl | rfl | rfl
    · exact Objects.ownerAt_socket hsocket hsource
    · exact Objects.ownerAt_source hsource
    · exact Objects.ownerAt_service hservice
  · show _ ↔ o.all.length ≤ k ∧ k < o.all.length + 3
    rw [hthree k]
    simp only [List.mem_cons, Option.some.injEq, List.not_mem_nil, or_false]
    exact or_left_comm

/-- **The loop of `net_createSockets`**, when every socket can be made: the sockets of the
slots that have a class get to be open. `done` are the slots it has been through. -/
theorem netCreateClassSockets_opens (self : NodeId) (n : Node) {env : NetEnv} (l : List ClassId)
    (hok : ∀ c ∈ l, n.classes c ≠ 0 → env.udpBind c = true ∧ env.tcpListen c = true)
    (hnodup : l.Nodup) (done : List ClassId) (hdone : ∀ c ∈ l, c ∉ done) {s : NetState}
    (hopen : s.objects.OpenExactly self (done.flatMap s.net.ports.slot)) :
    (netCreateClassSockets self n env l s).1.objects.OpenExactly self
      ((done ++ l.filter (n.classes · ≠ 0)).flatMap
        (netCreateClassSockets self n env l s).1.net.ports.slot) := by
  induction l generalizing s done with
  | nil =>
      rw [List.filter_nil, List.append_nil]
      exact hopen
  | cons c l ih =>
      obtain ⟨hfresh, hrest⟩ := List.nodup_cons.mp hnodup
      rw [List.forall_mem_cons] at hok hdone
      unfold netCreateClassSockets
      by_cases hclass : n.classes c ≠ 0
      · obtain ⟨hudp, htcp⟩ := hok.1 hclass
        obtain ⟨s₁, s₂, hfirst, hsecond, hobjects, hports⟩ := netCreateSlot_ok self n hudp htcp s
        rw [if_pos hclass, hfirst]
        simp only [hsecond]
        -- the slots in `done` keep their handles, and `c` gets three new ones
        have hkept : done.flatMap s₂.net.ports.slot = done.flatMap s.net.ports.slot := by
          refine List.flatMap_congr fun c' hc' => ?_
          have hne : c' ≠ c := by
            rintro rfl
            exact hdone.1 hc'
          rw [hports, slot_other _ _ _ _ hne]
        have hopen' : s₂.objects.OpenExactly self ((done ++ [c]).flatMap s₂.net.ports.slot) := by
          have hslot : s₂.net.ports.slot c = [some (s.objects.all.length + 1),
              some s.objects.all.length, some (s.objects.all.length + 2)] := by
            rw [hports, slot_written]
          rw [List.flatMap_append, hkept, List.flatMap_singleton, hslot, hobjects]
          exact slot_opens hopen c
        have hnext := ih hok.2 hrest (done ++ [c]) (fun c' hc' hmem => ?_) hopen'
        · rw [List.filter_cons_of_pos (by simpa using hclass), List.append_cons]
          exact hnext
        · rcases List.mem_append.mp hmem with hmem | hmem
          · exact hdone.2 c' hc' hmem
          · rw [List.mem_singleton.mp hmem] at hc'
            exact hfresh hc'
      · rw [if_neg hclass, List.filter_cons_of_neg (by simpa using hclass)]
        exact ih hok.2 hrest done hdone.2 hopen

/-- The management socket, once it is made. -/
theorem mgt_opens {o : Objects} {l : List (Option Handle)} (hopen : o.OpenExactly self l) :
    (o.add [.service (.mgt self)]).OpenExactly self (l ++ [some o.all.length]) := by
  refine hopen.add (by simp) (fun k hle hlt => ?_) (by simp) (fun k => ?_)
  · obtain rfl : k = o.all.length := Nat.le_antisymm (Nat.le_of_lt_succ hlt) hle
    exact Objects.ownerAt_service (service_kind o (.mgt self))
  · rw [List.mem_singleton, Option.some.injEq]
    exact ⟨fun heq => heq ▸ ⟨le_rfl, Nat.lt_succ_self _⟩,
      fun hboth => Nat.le_antisymm (Nat.le_of_lt_succ hboth.2) hboth.1⟩

/-- Whatever `net_createSockets` starts to make can be made, to the end. Without a class
nothing but the management socket is made. -/
def Node.Completes (x : Node) (env : NetEnv) : Prop :=
  (∀ c, x.classes c ≠ 0 → env.udpBind c = true ∧ env.tcpListen c = true)
    ∧ (env.mgtListen = true ∨ ∀ c, x.classes c = 0)

/-- **What `net_createSockets` makes**: nothing, or a socket for each of the handles that
`net_removeSockets` would close now. -/
theorem netCreateSockets_opens (self : NodeId) (n : Node) {env : NetEnv} (hcomp : n.Completes env)
    {s : NetState} (hlive : s.objects.Live) (hclosed : ∀ h, ¬ s.objects.OpenAt self h) :
    (∀ h, ¬ (netCreateSockets self n env s).objects.OpenAt self h)
      ∨ (netCreateSockets self n env s).objects.OpenExactly self
        ((netCreateSockets self n env s).net.ports.handles n.classes) := by
  have hmakes := netCreateClassSockets_makes self n env classSlots s
  have hopens := netCreateClassSockets_opens self n classSlots (fun c _ => hcomp.1 c)
    (List.nodup_finRange maxClass) [] (fun _ _ => List.not_mem_nil)
    (Objects.openExactly_nil.mpr hclosed)
  rw [netCreateSockets_classes self hcomp.1]
  generalize (netCreateClassSockets self n env classSlots s).1 = s₁ at hmakes hopens
  have hadd : (s₁.objects.add [.service (.mgt self)]).OpenExactly self
      ((classSlots.filter (n.classes · ≠ 0)).flatMap s₁.net.ports.slot
        ++ [some s₁.objects.all.length]) := mgt_opens hopens
  unfold netCreateMgtSocket
  dsimp only
  cases hlisten : env.mgtListen with
  | true => exact .inr hadd
  | false =>
      -- without a class, the service that was tried is the only object
      refine .inl fun k hk => ?_
      have hnone : ∀ c, n.classes c = 0 := hcomp.2.resolve_left (by simp [hlisten])
      have hlive' : (s₁.objects.add [.service (.mgt self)]).Live :=
        (Objects.work_add (P := (· = self)) s₁.objects (by simp)
          (service_own rfl)).live (hmakes.work.live hlive)
      obtain ⟨hold, hne⟩ := (Objects.openAt_unref hlive' _).mp hk
      have hmem := (hadd.mem k).mp hold
      simp only [hnone, ne_eq, not_true_eq_false, decide_false, List.filter_false,
        List.flatMap_nil, List.nil_append, List.mem_singleton] at hmem
      exact hne hmem

end Creating

/-! ## Pairs -/

/-- No socket of the node is open. -/
def Closed (d : Daemon) (n : NodeId) : Prop := ∀ h, ¬ d.objects.OpenAt n h

/-- The sockets that `net_removeSockets` closes are open: those of the slots that have a class,
and the management socket. No others of the node are. -/
def ExactlyOpen (d : Daemon) (n : NodeId) : Prop :=
  d.objects.OpenExactly n ((d.nodes n).ports.handles (d.nodes n).classes)

/-- If `net_removeSockets` is run in the turn of the node, then on open sockets, and after it
none is left open. -/
def RemovalPaired (d : Daemon) (n : NodeId) : Prop :=
  (d.nodes n).TimesOut → ExactlyOpen d n
    ∧ ∀ d', mgtCheckNode d n = .ok d' → Closed d' n ∧ d'.objects.misused = d.objects.misused

/-- If `net_createSockets` is run in the turn of the node, then with no socket open. -/
def CreationPaired (env : NodeId → NetEnv) (d : Daemon) (n : NodeId) : Prop :=
  (d.nodes n).Answered (env n) → Closed d n

/-- All sockets that are created and removed, are in pairs. Only the two loops of a tick do
so. -/
def Paired (d : Daemon) : DaemonEvent → Prop
  | .main (.tick env) => EveryTurn mgtCheckNode RemovalPaired d (usedSlots d)
      ∧ ∀ d₁, mgtCheckTimeout d = .ok d₁ →
        EveryTurn (mgtConfigureNode env) (CreationPaired env) d₁ (usedSlots d₁)
  | _ => True

/-- Before a tick, a node that times out has those sockets open that its classes ask for, and a
node that ubnetd answers has none open, or times out itself. -/
def OpenInPairs (d : Daemon) : DaemonEvent → Prop
  | .main (.tick env) => ∀ n, (d.nodes n).free = false →
      ((d.nodes n).TimesOut → ExactlyOpen d n)
        ∧ ((d.nodes n).Answered (env n) → Closed d n ∨ (d.nodes n).TimesOut)
  | _ => True

/-- The same slots have a class. -/
def SameSlots (classes classes' : ClassId → UInt8) : Prop := ∀ c, classes' c ≠ 0 ↔ classes c ≠ 0

/-- While the sockets of a node are open, packets leave the slots that have a class. A node
only times out while its sockets are open, and gets its address while they are not, or times
out in the same tick; and nothing fails when they are created. -/
def PairKept (d : Daemon) : DaemonEvent → Prop
  | .packet p _ => ∀ n, SocketsUp d n →
      (p.kind = 0x44 → p.len.toNat ≤ maxId → d.slots.target (packetId p 7) = some n →
        SameSlots (d.nodes n).classes (discoveredClasses p))
      ∧ (p.kind = 0x42 → (d.slots.bridged p).byAdr p.src.toNat = some n →
        SameSlots (d.nodes n).classes (announcedClasses p))
  | .main (.tick env) => ∀ n, ((d.nodes n).TimesOut → SocketsUp d n)
      ∧ ((d.nodes n).Answered (env n) → (SocketsUp d n → (d.nodes n).TimesOut)
        ∧ (d.nodes n).Completes (env n))
  | _ => True

/-! ## What is up -/

section Pairs

variable {d d' : Daemon} {n : NodeId}

theorem ExactlyOpen.up (h : ExactlyOpen d n) : SocketsUp d n := by
  have hlast : (d.nodes n).ports.mgt ∈ (d.nodes n).ports.handles (d.nodes n).classes :=
    Ports.mem_handles.mpr (.inr rfl)
  obtain ⟨k, hk⟩ := Option.ne_none_iff_exists'.mp fun hnone => h.stored (hnone ▸ hlast)
  rw [hk] at hlast
  obtain ⟨-, x, hx, hopen⟩ := Objects.openAt_iff.mp ((h.mem k).mpr hlast)
  exact ⟨k, x, hk, hx, hopen⟩

theorem Closed.not_up (h : Closed d n) (hd : Plugged d) : ¬ SocketsUp d n := by
  rintro ⟨k, x, hk, hx, hopen⟩
  exact h k (Objects.openAt_iff.mpr ⟨(hd.wired n).ports.mgt_owner hk, x, hx, hopen⟩)

/-- A slot that is free has no sockets. -/
theorem not_up_of_free (hwired : Wired d) (hd : Plugged d) (hfree : (d.nodes n).free = true) :
    ¬ SocketsUp d n := by
  rintro ⟨k, x, hk, hx, -⟩
  have hkind : x.kind = .service (.mgt n) := by
    obtain ⟨y, hy, hkind⟩ := Objects.kindAt_eq_some.mp ((hd.wired n).ports.mgt k hk)
    rw [hx] at hy
    cases hy
    exact hkind
  have htouched : d.Touched n := .inr ⟨x, List.mem_of_getElem? hx, .mgt n, hkind, rfl⟩
  have hused := (byId_eq_some.mp (hwired.assigned.canonical n (hwired.touched n htouched))).1.1
  change (d.nodes n).free = false at hused
  rw [hfree] at hused
  cases hused

theorem SameAt.closed (h : SameAt n d d') : Closed d' n ↔ Closed d n := by
  unfold Closed
  rw [Objects.openAt_congr h.owned]

theorem SameAt.exactlyOpen (h : SameAt n d d') : ExactlyOpen d' n ↔ ExactlyOpen d n := by
  unfold ExactlyOpen
  rw [h.node]
  exact ⟨fun hopen => Objects.OpenExactly.congr hopen h.owned.symm,
    fun hopen => Objects.OpenExactly.congr hopen h.owned⟩

theorem SameAt.paired (h : SameAt n d d') (hpair : Closed d n ∨ ExactlyOpen d n) :
    Closed d' n ∨ ExactlyOpen d' n :=
  hpair.imp h.closed.mpr h.exactlyOpen.mpr

/-- The handles only depend on which slots have a class. -/
theorem handles_congr {ports : Ports} {classes classes' : ClassId → UInt8}
    (h : SameSlots classes classes') : ports.handles classes' = ports.handles classes := by
  unfold Ports.handles
  rw [List.filter_congr fun c _ => decide_eq_decide.mpr (h c)]

/-! ## One event -/

/-- An event that is no tick. -/
theorem keeps_paired {C : NodeId → (ClassId → UInt8) → Prop} (h : KeepsSockets C d d')
    (hC : ∀ classes, C n classes → SocketsUp d n → SameSlots (d.nodes n).classes classes)
    (hpair : Closed d n ∨ ExactlyOpen d n) : Closed d' n ∨ ExactlyOpen d' n := by
  have howned : d'.objects.owned n = d.objects.owned n := h.work.others n id
  refine hpair.imp (fun hclosed => ?_) fun hopen => ?_
  · unfold Closed
    rw [Objects.openAt_congr howned]
    exact hclosed
  · have hslots : SameSlots (d.nodes n).classes (d'.nodes n).classes := by
      rcases h.classes n with hsame | hclasses
      · rw [hsame]
        exact fun _ => Iff.rfl
      · exact hC _ hclasses hopen.up
    unfold ExactlyOpen
    rw [h.ports n, handles_congr hslots]
    exact Objects.OpenExactly.congr hopen howned

/-- **`net_removeSockets`** closes all that is open, once. -/
theorem Checked.removes (h : Checked n d d') (hd : Plugged d) (hopen : ExactlyOpen d n)
    (hout : (d.nodes n).TimesOut) :
    Closed d' n ∧ d'.objects.misused = d.objects.misused := by
  unfold Closed
  rw [h.closed hout]
  constructor
  · intro k hk
    obtain ⟨hbefore, hout⟩ := (Objects.openAt_drops hd.live _).mp hk
    exact hout ((hopen.mem k).mp hbefore)
  · refine Objects.misused_drops hd.live ((hd.wired n).ports.nodup_handles hopen.stored)
      fun i hi => ?_
    obtain ⟨k, rfl⟩ := Option.ne_none_iff_exists'.mp fun hnone => hopen.stored (hnone ▸ hi)
    obtain ⟨-, x, hx, hxopen⟩ := Objects.openAt_iff.mp ((hopen.mem k).mpr hi)
    exact ⟨k, x, rfl, hx, hxopen⟩

/-- What a turn of `mgt_checkTimeout` has to find. -/
theorem removalPaired_iff (hd : Plugged d) :
    RemovalPaired d n ↔ ((d.nodes n).TimesOut → ExactlyOpen d n) :=
  ⟨fun h hout => (h hout).1, fun hopen hout =>
    ⟨hopen hout, fun _ hturn => (mgtCheckNode_checked hturn).removes hd (hopen hout) hout⟩⟩

/-- **The turn of a node in `mgt_tick`** opens all that the next removal closes. -/
theorem mgtConfigureNode_paired {env : NodeId → NetEnv} (hd : Plugged d)
    (hpair : Closed d n ∨ ExactlyOpen d n)
    (hans : (d.nodes n).Answered (env n) → Closed d n ∧ (d.nodes n).Completes (env n))
    (h : mgtConfigureNode env d n = .ok d') : Closed d' n ∨ ExactlyOpen d' n := by
  obtain ⟨hget, -⟩ := interfaceGetConfiguredAddress_work (env n) (s := d.netAt n) (hd.wired n)
  obtain ⟨hports, -⟩ := interfaceGetConfiguredAddress_net (env n) (d.netAt n)
  have howned := hget.others n id
  rcases mgtConfigureNode_cases h with ⟨hanswered, rfl⟩ | ⟨-, rfl⟩
  · obtain ⟨hclosed, hcomp⟩ := hans hanswered
    have hclosed' : ∀ k, ¬ (interfaceGetConfiguredAddress (env n) (d.netAt n)).1.objects.OpenAt
        n k := by
      rw [Objects.openAt_congr howned]
      exact hclosed
    have hopens := netCreateSockets_opens n (d.nodes n) hcomp (hget.live hd.live) hclosed'
    unfold Closed ExactlyOpen
    rw [onNet_net, onNet_classes, onNet_objects]
    exact hopens
  · unfold Closed ExactlyOpen
    rw [onNet_net, onNet_classes, onNet_objects, hports]
    refine hpair.imp (fun hclosed => ?_) fun hopen => Objects.OpenExactly.congr hopen howned
    rw [Objects.openAt_congr howned]
    exact hclosed

end Pairs

/-! ## One tick -/

section Tick

variable {d d₁ d' : Daemon} {env : NodeId → NetEnv}

/-- Every node has no sockets open, or exactly those that `net_removeSockets` closes. -/
def Daemon.AllPaired (d : Daemon) : Prop := ∀ n, Closed d n ∨ ExactlyOpen d n

/-- A node whose sockets are up has those open that `net_removeSockets` closes. -/
theorem Daemon.AllPaired.exactlyOpen (h : d.AllPaired) (hd : Plugged d) {n : NodeId}
    (hup : SocketsUp d n) : ExactlyOpen d n :=
  (h n).resolve_left fun hclosed => hclosed.not_up hd hup

/-- **The turns of a loop** find their nodes as they are before it. -/
theorem everyTurn_iff {body : Daemon → NodeId → Except Fault Daemon} {C : Daemon → NodeId → Prop}
    {P : NodeId → Prop} (hbody : TurnBody body) (hd : Plugged d)
    (hrun : forEachNode body d = .ok d')
    (hC : ∀ c n, Plugged c → SameAt n d c → (C c n ↔ P n)) :
    EveryTurn body C d (usedSlots d) ↔ ∀ n, (d.nodes n).free = false → P n := by
  constructor
  · intro hturns n hused
    obtain ⟨pre, post, hslots⟩ := List.append_of_mem (mem_usedSlots.mpr hused)
    rw [forEachNode_eq hbody hd, hslots, List.foldlM_append] at hrun
    obtain ⟨c, hpre, -⟩ := bind_eq_ok.mp hrun
    obtain ⟨hc, hsame⟩ := turn_sameAt hbody hd hslots hpre
    exact (hC c n hc hsame).mp (hturns pre n post c hslots hpre)
  · intro hall pre n post c hslots hpre
    obtain ⟨hc, hsame⟩ := turn_sameAt hbody hd hslots hpre
    have hused : (d.nodes n).free = false := mem_usedSlots.mp (by rw [hslots]; simp)
    exact (hC c n hc hsame).mpr (hall n hused)

/-- The turns of `mgt_checkTimeout`. -/
theorem removals_paired_iff (hd : Plugged d) (hrun : mgtCheckTimeout d = .ok d₁) :
    EveryTurn mgtCheckNode RemovalPaired d (usedSlots d)
      ↔ ∀ n, (d.nodes n).free = false → (d.nodes n).TimesOut → ExactlyOpen d n := by
  refine everyTurn_iff mgtCheckNode_turnBody hd hrun fun c n hc hsame => ?_
  rw [removalPaired_iff hc, hsame.exactlyOpen, hsame.node]

/-- The turns of the loop of `mgt_tick`. -/
theorem creations_paired_iff (hd : Plugged d)
    (hrun : forEachNode (mgtConfigureNode env) d = .ok d') :
    EveryTurn (mgtConfigureNode env) (CreationPaired env) d (usedSlots d)
      ↔ ∀ n, (d.nodes n).free = false → (d.nodes n).Answered (env n) → Closed d n := by
  refine everyTurn_iff (mgtConfigureNode_turnBody env) hd hrun fun c n _ hsame => ?_
  unfold CreationPaired
  rw [hsame.closed, hsame.node]

/-- What `mgt_checkTimeout` leaves of a node that is in use. -/
structure TimeoutChecked (n : NodeId) (d d₁ : Daemon) : Prop where
  net : (d₁.nodes n).toNodeNet = (d.nodes n).toNodeNet
  classes : (d₁.nodes n).classes = (d.nodes n).classes
  free : (d₁.nodes n).free = false
  removed : (d.nodes n).TimesOut → ExactlyOpen d n → Closed d₁ n
  kept : ¬ (d.nodes n).TimesOut → d₁.objects.owned n = d.objects.owned n

theorem mgtCheckTimeout_checked (hd : Plugged d) (hrun : mgtCheckTimeout d = .ok d₁) {n : NodeId}
    (hused : (d.nodes n).free = false) : TimeoutChecked n d d₁ := by
  obtain ⟨a, b, ha, hsame₁, hturn, hsame₂⟩ := forEachNode_turn mgtCheckNode_turnBody hd hused hrun
  have hchecked := mgtCheckNode_checked hturn
  refine ⟨?_, ?_, ?_, fun hout hopen => ?_, fun hout => ?_⟩
  · rw [hsame₂.node, hchecked.net, hsame₁.node]
  · rw [hsame₂.node, hchecked.classes, hsame₁.node]
  · rw [hsame₂.node, hchecked.free, hsame₁.node]
    exact hused
  · rw [← hsame₁.node] at hout
    exact hsame₂.closed.mpr (hchecked.removes ha (hsame₁.exactlyOpen.mpr hopen) hout).1
  · rw [← hsame₁.node] at hout
    rw [hsame₂.owned, hchecked.kept hout, hsame₁.owned]

/-- What is closed before it is closed after it. -/
theorem TimeoutChecked.closed {n : NodeId} (h : TimeoutChecked n d d₁)
    (hout : ¬ (d.nodes n).TimesOut) : Closed d₁ n ↔ Closed d n := by
  unfold Closed
  rw [Objects.openAt_congr (h.kept hout)]

theorem TimeoutChecked.paired {n : NodeId} (h : TimeoutChecked n d d₁)
    (hopen : (d.nodes n).TimesOut → ExactlyOpen d n) (hpair : Closed d n ∨ ExactlyOpen d n) :
    Closed d₁ n ∨ ExactlyOpen d₁ n := by
  by_cases hout : (d.nodes n).TimesOut
  · exact .inl (h.removed hout (hopen hout))
  · refine hpair.imp (h.closed hout).mpr fun hexactly => ?_
    have hports : (d₁.nodes n).ports = (d.nodes n).ports := congrArg NodeNet.ports h.net
    unfold ExactlyOpen
    rw [hports, h.classes]
    exact Objects.OpenExactly.congr hexactly (h.kept hout)

/-- If the removals are paired, the sockets of these nodes are closed in the second loop. -/
theorem TimeoutChecked.closed_iff {n : NodeId} (h : TimeoutChecked n d d₁)
    (hopen : (d.nodes n).TimesOut → ExactlyOpen d n) :
    Closed d₁ n ↔ Closed d n ∨ (d.nodes n).TimesOut := by
  by_cases hout : (d.nodes n).TimesOut
  · exact ⟨fun _ => .inr hout, fun _ => h.removed hout (hopen hout)⟩
  · rw [h.closed hout]
    exact ⟨.inl, fun hor => hor.resolve_right hout⟩

/-- **One tick** is paired if and only if its nodes are. -/
theorem mgtTick_paired_iff (hd : Plugged d) :
    Paired d (.main (.tick env)) ↔ OpenInPairs d (.main (.tick env)) := by
  obtain ⟨d', hrun⟩ := mgtTick_ok d env
  obtain ⟨d₁, hcheck, hconfigure⟩ := bind_eq_ok.mp hrun
  have hd₁ := forEachNode_plugged mgtCheckNode_turnBody hd hcheck
  have hremovals := removals_paired_iff hd hcheck
  have hcreations := creations_paired_iff hd₁ hconfigure
  have hchecked := fun n => mgtCheckTimeout_checked (n := n) hd hcheck
  have hans : ∀ {n}, (d.nodes n).free = false →
      ((d₁.nodes n).Answered (env n) ↔ (d.nodes n).Answered (env n)) := by
    intro n hused
    unfold Node.Answered
    rw [(hchecked n hused).net]
  constructor
  · rintro ⟨hfirst, hsecond⟩ n hused
    have hopen := hremovals.mp hfirst n hused
    refine ⟨hopen, fun hanswered => ((hchecked n hused).closed_iff hopen).mp ?_⟩
    exact hcreations.mp (hsecond d₁ hcheck) n (hchecked n hused).free ((hans hused).mpr hanswered)
  · intro hopen
    refine ⟨hremovals.mpr fun n hused => (hopen n hused).1, fun d₂ hcheck' => ?_⟩
    obtain rfl : d₁ = d₂ := Except.ok.inj (hcheck.symm.trans hcheck')
    refine hcreations.mpr fun n hused₁ hanswered => ?_
    cases hused : (d.nodes n).free with
    | true =>
        have hsame := forEachNode_free mgtCheckNode_turnBody hd hused hcheck
        rw [hsame.node, hused] at hused₁
        cases hused₁
    | false =>
        obtain ⟨hexactly, hdown⟩ := hopen n hused
        exact ((hchecked n hused).closed_iff hexactly).mpr (hdown ((hans hused).mp hanswered))

theorem paired_iff {e : DaemonEvent} (hd : Plugged d) : Paired d e ↔ OpenInPairs d e := by
  cases e with
  | main e =>
      cases e with
      | tick env => exact mgtTick_paired_iff hd
      | _ => exact Iff.rfl
  | _ => exact Iff.rfl

/-- **Nodes that are paired** are so in the tick. -/
theorem PairKept.openInPairs {e : DaemonEvent} (hkept : PairKept d e) (hd : Plugged d)
    (hpairs : d.AllPaired) : OpenInPairs d e := by
  cases e with
  | main e =>
      cases e with
      | tick env =>
          refine fun n _ => ⟨fun hout => hpairs.exactlyOpen hd ((hkept n).1 hout),
            fun hanswered => (hpairs n).imp_right fun hopen => ?_⟩
          exact ((hkept n).2 hanswered).1 hopen.up
      | _ => trivial
  | _ => trivial

/-- **One tick** that meets the condition leaves pairs. -/
theorem mgtTick_paired (hd : Plugged d) (hpairs : d.AllPaired)
    (hkept : PairKept d (.main (.tick env))) (hrun : mgtTick d env = .ok d') : d'.AllPaired := by
  obtain ⟨d₁, hcheck, hconfigure⟩ := bind_eq_ok.mp hrun
  have hopen := hkept.openInPairs hd hpairs
  have hd₁ := forEachNode_plugged mgtCheckNode_turnBody hd hcheck
  intro n
  cases hused : (d.nodes n).free with
  | true =>
      have hsame := forEachNode_free mgtCheckNode_turnBody hd hused hcheck
      have hused₁ : (d₁.nodes n).free = true := by
        rw [hsame.node]
        exact hused
      exact (forEachNode_free (mgtConfigureNode_turnBody env) hd₁ hused₁ hconfigure).paired
        (hsame.paired (hpairs n))
  | false =>
      obtain ⟨hexactly, hdown⟩ := hopen n hused
      have hchecked := mgtCheckTimeout_checked hd hcheck hused
      obtain ⟨a, b, ha, hsame₁, hturn, hsame₂⟩ :=
        forEachNode_turn (mgtConfigureNode_turnBody env) hd₁ hchecked.free hconfigure
      have hpair := hchecked.paired hexactly (hpairs n)
      refine hsame₂.paired (mgtConfigureNode_paired ha (hsame₁.paired hpair) ?_ hturn)
      -- who is answered in the second loop has no sockets left after the first one
      rw [hsame₁.node, hsame₁.closed, hchecked.closed_iff hexactly]
      unfold Node.Answered Node.Completes
      rw [hchecked.net, hchecked.classes]
      exact fun hanswered => ⟨hdown hanswered, ((hkept n).2 hanswered).2⟩

end Tick

/-! ## Over whole runs -/

/-- **One step** that meets the condition leaves pairs. -/
theorem paired_step {d d' : Daemon} {e : DaemonEvent} (hwired : Wired d) (hd : Plugged d)
    (hpairs : d.AllPaired) (hkept : PairKept d e) (hstep : daemonStep d e = .ok d') :
    d'.AllPaired := by
  by_cases he : ∃ env, e = .main (.tick env)
  · obtain ⟨env, rfl⟩ := he
    exact mgtTick_paired hd hpairs hkept hstep
  · have hkeeps := daemonStep_keeps hwired hd (fun env heq => he ⟨env, heq⟩) hstep
    refine fun n => keeps_paired hkeeps (fun classes hC hup => ?_) (hpairs n)
    -- only packets write classes, and a slot that was free has nothing open
    obtain ⟨p, connect, rfl, hC⟩ := hC
    cases hC with
    | fresh hfree => exact absurd hup (not_up_of_free hwired hd hfree)
    | discovered hkind hlen hslot => exact (hkept n hup).1 hkind hlen hslot
    | announced hkind hfound => exact (hkept n hup).2 hkind hfound

theorem Socketless.allPaired {d : Daemon} (h : Socketless d) : d.AllPaired := by
  refine fun n => .inl fun k hk => ?_
  have hlt := hk.lt
  rw [h.objects] at hlt
  exact Nat.not_lt_zero k hlt

/-- **Runs** that meet the condition lead to pairs. -/
theorem allPaired_of_kept {nodetimeout : Int} {cs : List NodeConfig} {d₀ d : Daemon}
    {es : List DaemonEvent} (h₀ : configured nodetimeout cs = .ok d₀)
    (h : Run daemonStep (fun _ _ => True) d₀ es d)
    (hkept : EveryStep daemonStep (fun _ _ => True) d₀ PairKept es) : d.AllPaired := by
  induction h with
  | nil => exact (configured_socketless h₀).allPaired
  | @snoc es s s' e hrun _ hstep ih =>
      obtain ⟨hwired, hd, -⟩ := reachable_plugged h₀ hrun
      exact paired_step hwired hd (ih hkept.prefix) (hkept es e [] s rfl hrun) hstep

/-- **When sockets are created and removed in pairs**: in every run, exactly if before each tick
the nodes that time out have the sockets open that their classes ask for, and those that are
answered have none open. They do so if packets leave the slots with a class while the sockets of
their node are open, nodes only time out while their sockets are open, and only get an address
while they are not. -/
theorem sockets_paired (nodetimeout : Int) (cs : List NodeConfig) (d₀ : Daemon)
    (es : List DaemonEvent) (h₀ : configured nodetimeout cs = .ok d₀) :
    (EveryStep daemonStep (fun _ _ => True) d₀ Paired es
        ↔ EveryStep daemonStep (fun _ _ => True) d₀ OpenInPairs es)
      ∧ (EveryStep daemonStep (fun _ _ => True) d₀ PairKept es →
        EveryStep daemonStep (fun _ _ => True) d₀ Paired es) := by
  have hplugged : ∀ pre t, Run daemonStep (fun _ _ => True) d₀ pre t → Plugged t :=
    fun _ _ ht => (reachable_plugged h₀ ht).2.1
  refine ⟨⟨fun hpaired => ?_, fun hopen => ?_⟩, fun hkept => ?_⟩
  · intro pre e post t hes ht
    exact (paired_iff (hplugged pre t ht)).mp (hpaired pre e post t hes ht)
  · intro pre e post t hes ht
    exact (paired_iff (hplugged pre t ht)).mpr (hopen pre e post t hes ht)
  · intro pre e post t hes ht
    have hpairs : t.AllPaired := by
      rw [hes] at hkept
      exact allPaired_of_kept h₀ ht hkept.prefix
    have hd := hplugged pre t ht
    exact (paired_iff hd).mpr ((hkept pre e post t hes ht).openInPairs hd hpairs)

/-- A node is discovered, comes up and times out. -/
def lifetime : List DaemonEvent := discoverOnce ++ [.main (.tick fun _ => deadEnv)]

theorem lifetime_kept :
    EveryStep daemonStep (fun _ _ => True) (nodesInit 1) PairKept lifetime := by
  obtain ⟨a, ha, hawake, hbare⟩ : ∃ d, Run daemonStep (fun _ _ => True) (nodesInit 1)
      [.packet (discoverPacket [0x61]) .connected] d
      ∧ (∀ n, ¬ (d.nodes n).TimesOut) ∧ ∀ n, (d.nodes n).ports.mgt = none := by
    apply Run.exists_of_eval Fault.assertion
    decide +kernel
  obtain ⟨b, hb, hone, hmgt, hopen⟩ : ∃ d, Run daemonStep (fun _ _ => True) (nodesInit 1)
      discoverOnce d ∧ (∀ n, (d.nodes n).TimesOut → n = ⟨0, by decide⟩)
      ∧ (d.nodes ⟨0, by decide⟩).ports.mgt = some 4
      ∧ (d.objects.all[4]?).map Object.isOpen = some true := by
    apply Run.exists_of_eval Fault.assertion
    decide +kernel
  have hnone : ∀ {d : Daemon}, (∀ n, (d.nodes n).ports.mgt = none) → ∀ n, ¬ SocketsUp d n := by
    rintro d hbare n ⟨k, x, hk, -⟩
    rw [hbare n] at hk
    cases hk
  -- nothing is up before the first tick, and the node is up before the second one
  show EveryStep daemonStep (fun _ _ => True) (nodesInit 1) PairKept
    ([] ++ [DaemonEvent.packet (discoverPacket [0x61]) .connected]
      ++ [.main (.tick fun _ => liveEnv)] ++ [.main (.tick fun _ => deadEnv)])
  refine ((everyStep_nil.snoc fun t ht => ?_).snoc fun t ht => ?_).snoc fun t ht => ?_
  · rw [ht.nil_inv]
    exact fun n hup => absurd hup (hnone (fun _ => rfl) n)
  · rw [ht.unique ha]
    refine fun n => ⟨fun hout => absurd hout (hawake n), fun _ =>
      ⟨fun hup => absurd hup (hnone hbare n), fun _ _ => ⟨rfl, rfl⟩, .inl rfl⟩⟩
  · rw [ht.unique hb]
    refine fun n => ⟨fun hout => ?_, fun hans => nomatch hans.2.1⟩
    rw [hone n hout]
    obtain ⟨x, hx, hxopen⟩ := Option.map_eq_some_iff.mp hopen
    exact ⟨4, x, hmgt, hx, hxopen⟩

/-- So in that run the sockets are paired. -/
theorem sockets_paired_lifetime : configured 1 [] = .ok (nodesInit 1)
    ∧ EveryStep daemonStep (fun _ _ => True) (nodesInit 1) PairKept lifetime
    ∧ EveryStep daemonStep (fun _ _ => True) (nodesInit 1) OpenInPairs lifetime
    ∧ EveryStep daemonStep (fun _ _ => True) (nodesInit 1) Paired lifetime := by
  obtain ⟨hiff, hkept⟩ := sockets_paired 1 [] (nodesInit 1) lifetime rfl
  exact ⟨rfl, lifetime_kept, hiff.mp (hkept lifetime_kept), hkept lifetime_kept⟩

/-- A `D` packet of the same node with its class in the second slot. -/
def movedPacket : UbPacket where
  src := 0
  dest := 1
  flags := ubPacketMgt
  cls := 0
  len := 8
  data := Vector.ofFn fun i => ([0x44, 0, 1, 0, 23, 0, 0, 0x61] : List UInt8).getD i.val 0

/-- While its sockets are open, a node is discovered with its class in another slot. -/
def moved : List DaemonEvent :=
  discoverOnce ++ [.packet movedPacket .connected, .main (.tick fun _ => deadEnv)]

/-- Its time has run out, its service is open, and that is not among what will be closed. -/
theorem moved_state : ∃ d, Run daemonStep (fun _ _ => True) (nodesInit 1) moved d
    ∧ usedSlots d = [⟨0, by decide⟩]
    ∧ (d.nodes ⟨0, by decide⟩).TimesOut
    ∧ (d.nodes ⟨0, by decide⟩).ports.handles (d.nodes ⟨0, by decide⟩).classes
      = [none, none, none, some 4]
    ∧ d.objects.ownerAt 3 = some ⟨0, by decide⟩
    ∧ (d.objects.all[3]?).map Object.isOpen = some true := by
  apply Run.exists_of_eval Fault.assertion
  decide +kernel

/-- **A service is left open, and sockets that were never opened are closed.** -/
theorem moved_unpaired : configured 1 [] = .ok (nodesInit 1)
    ∧ ∃ d, Run daemonStep (fun _ _ => True) (nodesInit 1)
        (moved ++ [.main (.tick fun _ => deadEnv)]) d
      ∧ ¬ EveryStep daemonStep (fun _ _ => True) (nodesInit 1) Paired
        (moved ++ [.main (.tick fun _ => deadEnv)]) := by
  obtain ⟨d, hd, hused, hout, hhandles, howner, hopen⟩ := moved_state
  obtain ⟨d', hstep⟩ := mgtTick_ok d fun _ => deadEnv
  refine ⟨rfl, d', .snoc hd trivial hstep, fun hpaired => ?_⟩
  obtain ⟨hremovals, -⟩ := hpaired moved _ [] d rfl hd
  rw [hused] at hremovals
  -- the service of the slot that has no class any more is open
  obtain ⟨hexactly, -⟩ := hremovals [] ⟨0, by decide⟩ [] d rfl rfl hout
  obtain ⟨x, hx, hxopen⟩ := Option.map_eq_some_iff.mp hopen
  have hmem := (hexactly.mem 3).mp (Objects.openAt_iff.mpr ⟨howner, x, hx, hxopen⟩)
  rw [hhandles] at hmem
  revert hmem
  decide

end Ubd
