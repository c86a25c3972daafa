import Ubd.Daemon.Sockets
import Ubd.Directory.Client

/-!
# Daemon.Endpoints — where services are announced to be

`net.c` binds the sockets of a slot to port 2300 plus the class of the slot. What
`dirclient_addService` announces is the port that `classes.c` has for the class.
`announced_endpoints_iff` says for which classes the two are the same.
-/

namespace Ubd

open Runs

/-- `classes_exists` -/
def classesExists (cls : UInt8) : Bool :=
  cls = 0 || cls = 10 || cls = 11 || cls = 12 || cls = 23 || cls = 42

/-- The port of the table is the one that is bound, if the class is in the table. -/
theorem servicePort_eq_iff {cls : UInt8} (h : cls ≠ 0) :
    classesGetServicePort cls = 2300 + cls.toNat ↔ classesExists cls = true := by
  have hother : cls ≠ 10 → cls ≠ 11 → cls ≠ 12 → cls ≠ 23 → cls ≠ 42 →
      (2300 = 2300 + cls.toNat ↔ classesExists cls = true) := by
    intro h10 h11 h12 h23 h42
    have hpos : cls.toNat ≠ 0 := fun heq => h (UInt8.toNat_inj.mp heq)
    refine iff_of_false (by omega) ?_
    simp [classesExists, h, h10, h11, h12, h23, h42]
  unfold classesGetServicePort
  split_ifs with h10 h11 h12 h23 h42
  · rw [h10]
    decide
  · rw [h11]
    decide
  · rw [h12]
    decide
  · rw [h23]
    decide
  · rw [h42]
    decide
  · exact hother h10 h11 h12 h23 h42

/-! ## Where sockets are -/

/-- The object is there, and open. -/
def Objects.IsOpen (o : Objects) (h : Option Handle) : Prop :=
  ∃ k x, h = some k ∧ o.all[k]? = some x ∧ x.isOpen = true

/-- Both sockets of the slot are open at this address. -/
structure BoundTo (s : NetState) (i : ClassId) (sa : SocketAddress) : Prop where
  udpAddress : (s.net.udpsockets i).socketaddress = some sa
  udpSocket : s.objects.IsOpen (s.net.udpsockets i).socket
  tcpAddress : (s.net.tcpsockets i).socketaddress = some sa
  tcpService : s.objects.IsOpen (s.net.tcpsockets i).socketservice

/-- The address that `net_createUDPSocket` and `net_createTCPSocket` bind. -/
def slotAddress (n : Node) (s : NetState) (i : ClassId) : SocketAddress :=
  ⟨s.net.netadr, 2300 + (n.classes i).toNat⟩

/-- Making sockets for these slots. -/
structure Binds (n : Node) (l : List ClassId) (s s' : NetState) : Prop where
  bound : ∀ i ∈ l, n.classes i ≠ 0 → BoundTo s' i (slotAddress n s i)
  others : ∀ i ∉ l, s'.net.udpsockets i = s.net.udpsockets i
    ∧ s'.net.tcpsockets i = s.net.tcpsockets i
  netadr : s'.net.netadr = s.net.netadr
  dirclient : s'.dirclient = s.dirclient
  kept : ∀ k, k < s.objects.all.length → s'.objects.all[k]? = s.objects.all[k]?

section Binding

variable {self : NodeId} {n : Node} {env : NetEnv} {s s' : NetState} {i : ClassId}

theorem Objects.IsOpen.kept {o o' : Objects} {h : Option Handle} (hopen : o.IsOpen h)
    (hkept : ∀ k, k < o.all.length → o'.all[k]? = o.all[k]?) : o'.IsOpen h := by
  obtain ⟨k, x, hk, hx, hisOpen⟩ := hopen
  refine ⟨k, x, hk, ?_, hisOpen⟩
  rw [hkept k (List.getElem?_eq_some_iff.mp hx).1]
  exact hx

/-- What is bound stays so while only other slots are written and objects are added. -/
theorem BoundTo.kept {sa : SocketAddress} (h : BoundTo s i sa)
    (hudp : s'.net.udpsockets i = s.net.udpsockets i)
    (htcp : s'.net.tcpsockets i = s.net.tcpsockets i)
    (hkept : ∀ k, k < s.objects.all.length → s'.objects.all[k]? = s.objects.all[k]?) :
    BoundTo s' i sa where
  udpAddress := by
    rw [hudp]
    exact h.udpAddress
  udpSocket := by
    rw [hudp]
    exact h.udpSocket.kept hkept
  tcpAddress := by
    rw [htcp]
    exact h.tcpAddress
  tcpService := by
    rw [htcp]
    exact h.tcpService.kept hkept

theorem Binds.refl (n : Node) (s : NetState) : Binds n [] s s :=
  ⟨fun _ hi => (nomatch hi), fun _ _ => ⟨rfl, rfl⟩, rfl, rfl, fun _ _ => rfl⟩

/-- One slot after the other. -/
theorem Binds.cons {l : List ClassId} {s₁ : NetState} (hfresh : i ∉ l) (h : Binds n [i] s s₁)
    (h' : Binds n l s₁ s') (hlength : s.objects.all.length ≤ s₁.objects.all.length) :
    Binds n (i :: l) s s' where
  bound := by
    intro j hj hclass
    rcases List.mem_cons.mp hj with rfl | hj
    · obtain ⟨hudp, htcp⟩ := h'.others j hfresh
      exact (h.bound j (List.mem_singleton.mpr rfl) hclass).kept hudp htcp h'.kept
    · have hbound := h'.bound j hj hclass
      rw [slotAddress, h.netadr] at hbound
      exact hbound
  others := by
    intro j hj
    rw [List.mem_cons, not_or] at hj
    obtain ⟨hudp, htcp⟩ := h'.others j hj.2
    obtain ⟨hudp₁, htcp₁⟩ := h.others j fun hmem => hj.1 (List.mem_singleton.mp hmem)
    exact ⟨hudp.trans hudp₁, htcp.trans htcp₁⟩
  netadr := h'.netadr.trans h.netadr
  dirclient := h'.dirclient.trans h.dirclient
  kept := fun k hk => (h'.kept k (lt_of_lt_of_le hk hlength)).trans (h.kept k hk)

/-- The two sockets of a slot. -/
theorem netCreateSlot_binds (self : NodeId) (n : Node) (hudp : env.udpBind i = true)
    (htcp : env.tcpListen i = true) (s : NetState) :
    ∃ s₁ s₂, netCreateUDPSocket self n env i s = (s₁, true)
      ∧ netCreateTCPSocket self n env i s₁ = (s₂, true)
      ∧ Binds n [i] s s₂ ∧ s.objects.all.length ≤ s₂.objects.all.length := by
  unfold netCreateUDPSocket netCreateTCPSocket
  simp only [hudp, htcp, if_true]
  refine ⟨_, _, rfl, rfl, ⟨fun j hj _ => ?_, fun j hj => ?_, rfl, rfl, fun k hk => ?_⟩, ?_⟩
  · obtain rfl := List.mem_singleton.mp hj
    refine ⟨?_, ⟨s.objects.all.length, ⟨.socket, true, false⟩, ?_, ?_, rfl⟩, ?_,
      ⟨s.objects.all.length + 2, ⟨.service (.tcp self j), true, false⟩, ?_, ?_, rfl⟩⟩
    all_goals simp [Objects.create, slotAddress]
  · have hne : j ≠ i := fun heq => hj (List.mem_singleton.mpr heq)
    exact ⟨Function.update_of_ne hne _ _, Function.update_of_ne hne _ _⟩
  · simp only [Objects.create, List.append_assoc]
    rw [List.getElem?_append_left hk]
  · simp only [Objects.create, List.length_append, List.length_singleton]
    omega

/-- **The loop of `net_createSockets`.** -/
theorem netCreateClassSockets_binds (self : NodeId) (n : Node) (l : List ClassId)
    (hok : ∀ c ∈ l, n.classes c ≠ 0 → env.udpBind c = true ∧ env.tcpListen c = true)
    (hnodup : l.Nodup) (s : NetState) :
    Binds n l s (netCreateClassSockets self n env l s).1 := by
  induction l generalizing s with
  | nil => exact .refl n s
  | cons c l ih =>
      obtain ⟨hfresh, hrest⟩ := List.nodup_cons.mp hnodup
      rw [List.forall_mem_cons] at hok
      unfold netCreateClassSockets
      by_cases hclass : n.classes c ≠ 0
      · obtain ⟨hudp, htcp⟩ := hok.1 hclass
        obtain ⟨s₁, s₂, hfirst, hsecond, hbinds, hlength⟩ := netCreateSlot_binds self n hudp htcp s
        rw [if_pos hclass, hfirst]
        simp only [hsecond]
        exact .cons hfresh hbinds (ih hok.2 hrest s₂) hlength
      · rw [if_neg hclass]
        have hskip : Binds n [c] s s := by
          refine ⟨fun j hj hc => ?_, fun _ _ => ⟨rfl, rfl⟩, rfl, rfl, fun _ _ => rfl⟩
          rw [List.mem_singleton.mp hj] at hc
          exact absurd hc hclass
        exact .cons hfresh hskip (ih hok.2 hrest s) le_rfl

/-- **A successful `net_createSockets`** opens the sockets of every slot that has a class, and
announces these slots. -/
theorem netCreateSockets_binds (self : NodeId) (n : Node) (h : n.CanCreate env) (s : NetState) :
    (∀ i, n.classes i ≠ 0 → BoundTo (netCreateSockets self n env s) i (slotAddress n s i))
      ∧ (netCreateSockets self n env s).dirclient
        = dirclientRegisterServices self n s.dirclient := by
  have hbinds := netCreateClassSockets_binds self n classSlots (fun c _ => h.1 c)
    (List.nodup_finRange maxClass) s
  rw [netCreateSockets_classes self h.1]
  generalize (netCreateClassSockets self n env classSlots s).1 = s₁ at hbinds
  unfold netCreateMgtSocket
  dsimp only
  rw [if_pos h.2]
  refine ⟨fun i hi => ?_, ?_⟩
  · refine (hbinds.bound i (List.mem_finRange i) hi).kept rfl rfl fun k hk => ?_
    exact List.getElem?_append_left hk
  · show dirclientRegisterServices self n s₁.dirclient = _
    rw [hbinds.dirclient]

end Binding

/-! ## Runs -/

inductive EndpointEvent where
  /-- `net_createSockets` -/
  | create (n : NodeId) (env : NetEnv)
  /-- A node gets other classes and another address in between. -/
  | rewrite (n : NodeId) (classes : ClassId → UInt8) (netadr : Option NetAddr)

def endpointStep (d : Daemon) : EndpointEvent → Except Fault Daemon
  | .create n env => .ok (d.onNet n (netCreateSockets n (d.nodes n) env))
  | .rewrite n classes netadr =>
      .ok (d.setNode n fun x => { x with classes := classes, netadr := netadr })

/-- `net_createSockets` gets to its end. -/
def Succeeds (d : Daemon) : EndpointEvent → Prop
  | .create n env => (d.nodes n).CanCreate env
  | .rewrite _ _ _ => True

/-- The address and the port an announcement names. -/
def DirMessage.endpoint : DirMessage → Option SocketAddress
  | .updateService _ url _ _ port => some ⟨url, port⟩
  | .deleteService _ _ => none

/-- What is announced of the node, slot for slot, is where the sockets of the slot are. -/
def Truthful (d : Daemon) (e : EndpointEvent) : Prop :=
  ∀ n env d', e = .create n env → endpointStep d e = .ok d' →
    d'.dirclient.sent
        = d.dirclient.sent ++ (d.nodes n).classids.map (updateMessage (d.nodes n))
      ∧ ∀ i, (d.nodes n).classes i ≠ 0 → ∃ sa,
        (updateMessage (d.nodes n) i).endpoint = some sa ∧ BoundTo (d'.netAt n) i sa

/-- All classes of the node are in the table. -/
def KnownClasses (d : Daemon) (e : EndpointEvent) : Prop :=
  ∀ n env, e = .create n env → ∀ i, (d.nodes n).classes i ≠ 0 →
    classesExists ((d.nodes n).classes i) = true

theorem netAt_onNet (d : Daemon) (n : NodeId) (f : NetState → NetState) :
    (d.onNet n f).netAt n = f (d.netAt n) := by
  unfold Daemon.netAt
  rw [onNet_net]
  rfl

/-- A successful call announces the truth if and only if it knows the classes. -/
theorem truthful_iff {d : Daemon} {e : EndpointEvent} (hguard : Succeeds d e) :
    Truthful d e ↔ KnownClasses d e := by
  cases e with
  | rewrite n classes netadr =>
      exact iff_of_true (fun _ _ _ heq => nomatch heq) (fun _ _ heq => nomatch heq)
  | create n env =>
      obtain ⟨hbound, hdirclient⟩ := netCreateSockets_binds n (d.nodes n) hguard (d.netAt n)
      have hstep : endpointStep d (.create n env)
          = .ok (d.onNet n (netCreateSockets n (d.nodes n) env)) := rfl
      rw [← netAt_onNet d n (netCreateSockets n (d.nodes n) env)] at hbound
      constructor
      · intro htruth m env' heq i hi
        cases heq
        obtain ⟨sa, hsa, hat⟩ := (htruth n env _ rfl hstep).2 i hi
        have hsame := Option.some.inj (hat.tcpAddress.symm.trans (hbound i hi).tcpAddress)
        rw [hsame] at hsa
        exact (servicePort_eq_iff hi).mp (congrArg SocketAddress.port (Option.some.inj hsa))
      · intro hknown m env' d' heq hrun
        cases heq
        cases hrun
        refine ⟨?_, fun i hi => ⟨_, rfl, ?_⟩⟩
        · exact (congrArg DirClient.sent hdirclient).trans (registerServices_sent n (d.nodes n) _)
        · have hat := hbound i hi
          rw [slotAddress, ← (servicePort_eq_iff hi).mpr (hknown n env rfl i hi)] at hat
          exact hat

/-- **Announced endpoints exist**, in every run of successful calls, if and only if every class
of the nodes they are for is in the table of `classes.c`. -/
theorem announced_endpoints_iff (d₀ d : Daemon) (es : List EndpointEvent)
    (h : Run endpointStep Succeeds d₀ es d) :
    EveryStep endpointStep Succeeds d₀ Truthful es
      ↔ EveryStep endpointStep Succeeds d₀ KnownClasses es := by
  have hiff : ∀ pre e post t, es = pre ++ e :: post → Run endpointStep Succeeds d₀ pre t →
      (Truthful t e ↔ KnownClasses t e) := by
    intro pre e post t hes ht
    rw [hes] at h
    obtain ⟨-, -, hguard, -⟩ := h.step_at ht
    exact truthful_iff hguard
  constructor
  · intro htruth pre e post t hes ht
    exact (hiff pre e post t hes ht).mp (htruth pre e post t hes ht)
  · intro hknown pre e post t hes ht
    exact (hiff pre e post t hes ht).mpr (hknown pre e post t hes ht)

/-- Everything works outside. -/
def openEnv : NetEnv := ⟨none, fun _ => true, fun _ => true, true⟩

/-- A node with a single class, in a daemon that has seen nothing else. -/
def oneClass (cls : UInt8) : Daemon :=
  (nodesInit 30).setNode ⟨0, Nat.succ_pos _⟩ fun x =>
    { x with
      netadr := some (.freeAddr x.id)
      classes := fun i => if i.val = 0 then cls else 0 }

theorem oneClass_run (cls : UInt8) : ∃ d, Run endpointStep Succeeds (oneClass cls)
    [.create ⟨0, by decide⟩ openEnv] d :=
  ⟨_, .snoc .nil ⟨fun _ _ => ⟨rfl, rfl⟩, rfl⟩ rfl⟩

/-- A lamp is where it is announced to be. -/
theorem announced_endpoints_iff_lamp : (∃ d, Run endpointStep Succeeds (oneClass 23)
      [.create ⟨0, by decide⟩ openEnv] d)
    ∧ EveryStep endpointStep Succeeds (oneClass 23) Truthful [.create ⟨0, by decide⟩ openEnv] := by
  obtain ⟨d, hd⟩ := oneClass_run 23
  refine ⟨⟨d, hd⟩, (announced_endpoints_iff (oneClass 23) d _ hd).mpr ?_⟩
  intro pre e post t hes ht n env he i hi
  obtain ⟨rfl, -, rfl⟩ : pre = [] ∧ post = [] ∧ e = .create ⟨0, by decide⟩ openEnv := by
    rcases pre with _ | ⟨x, pre⟩
    · obtain ⟨heq, hpost⟩ := List.cons.inj hes
      exact ⟨rfl, hpost.symm, heq.symm⟩
    · simp at hes
  obtain rfl := ht.unique .nil
  cases he
  revert i
  decide

/-- **A node of class 99 is announced at port 2300**, and bound to port 2399. -/
theorem unknown_class_elsewhere : (∃ d, Run endpointStep Succeeds (oneClass 99)
      [.create ⟨0, by decide⟩ openEnv] d)
    ∧ ¬ EveryStep endpointStep Succeeds (oneClass 99) Truthful
      [.create ⟨0, by decide⟩ openEnv] := by
  refine ⟨oneClass_run 99, fun htruth => ?_⟩
  have hclass : ((oneClass 99).nodes ⟨0, by decide⟩).classes .first = 99 := by decide
  have hstep := htruth [] _ [] (oneClass 99) rfl .nil ⟨0, by decide⟩ openEnv _ rfl rfl
  obtain ⟨sa, hsa, hat⟩ := hstep.2 .first (by rw [hclass]; decide)
  have hcreate : ((oneClass 99).nodes ⟨0, by decide⟩).CanCreate openEnv :=
    ⟨fun _ _ => ⟨rfl, rfl⟩, rfl⟩
  have hbound := (netCreateSockets_binds ⟨0, by decide⟩ _ hcreate
    ((oneClass 99).netAt ⟨0, by decide⟩)).1 .first (by rw [hclass]; decide)
  rw [netAt_onNet] at hat
  have hsame := Option.some.inj (hat.tcpAddress.symm.trans hbound.tcpAddress)
  rw [hsame] at hsa
  have hport := congrArg SocketAddress.port (Option.some.inj hsa)
  change classesGetServicePort (((oneClass 99).nodes ⟨0, by decide⟩).classes .first)
    = 2300 + (((oneClass 99).nodes ⟨0, by decide⟩).classes .first).toNat at hport
  rw [hclass] at hport
  revert hport
  decide

end Ubd
