import Ubd.Daemon.Plugged

/-!
# Daemon.Sockets — `netup` and the sockets

`net_createSockets` sets `netup` when it is through, and `busmgt_inpacket` only confirms a
node that has it. But `net_removeSockets` leaves it set: only a slot that has never been
used has it cleared. `told_ok_iff` says in which runs this makes no difference.
-/

namespace Ubd

open Runs

/-! ## What is up -/

/-- The management service is open. -/
def MgtOpen (ports : Ports) (o : Objects) : Prop :=
  ∃ (h : Handle) (x : Object), ports.mgt = some h ∧ o.all[h]? = some x ∧ x.isOpen = true

/-- The sockets of the node are open: the last one that `net_createSockets` makes and
`net_removeSockets` closes, the management socket, is. `socketsUp_tick` says when it gets to
be open, and until when it is. -/
def SocketsUp (d : Daemon) (n : NodeId) : Prop := MgtOpen (d.nodes n).ports d.objects

/-- `net_createSockets` gets to its end. -/
def Node.CanCreate (x : Node) (env : NetEnv) : Prop :=
  (∀ c, x.classes c ≠ 0 → env.udpBind c = true ∧ env.tcpListen c = true) ∧ env.mgtListen = true

/-- The node is told its address, and its sockets are created. -/
def Node.ComesUp (x : Node) (env : NetEnv) : Prop := x.Answered env ∧ x.CanCreate env

/-- **`netup` says the truth.** -/
def NetupSound (d : Daemon) : Prop := ∀ n, (d.nodes n).netup = true → SocketsUp d n

/-- If an `I` packet moves a node to `NODE_NORMAL`, with an OK, its sockets are open. -/
def ToldOK (d : Daemon) (e : DaemonEvent) : Prop :=
  ∀ p connect d' n, e = .packet p connect → p.kind = 0x49 → busmgtInpacket d p connect = .ok d' →
    (d.nodes n).state ≠ .normal → (d'.nodes n).state = .normal → SocketsUp d n

/-- A node whose time runs out while `netup` is set comes up again in the same tick. -/
def NetupKept (d : Daemon) : DaemonEvent → Prop
  | .main (.tick env) => ∀ n, (d.nodes n).TimesOut → (d.nodes n).netup = true →
      (d.nodes n).ComesUp (env n)
  | _ => True

/-! ## The management service -/

section MgtOpen

variable {ports ports' : Ports} {o o' : Objects} {n : NodeId}

/-- It is one of the objects of the node. -/
theorem mgtOpen_owned (hwired : ports.WiredTo o n) :
    MgtOpen ports o
      ↔ ∃ h x, ports.mgt = some h ∧ o.owned n h = some x ∧ x.isOpen = true := by
  unfold MgtOpen
  refine exists_congr fun h => exists_congr fun x => and_congr_right fun hmgt => ?_
  rw [Objects.owned_of_owner (hwired.mgt_owner hmgt)]

theorem mgtOpen_same (hwired : ports.WiredTo o n) (hwired' : ports'.WiredTo o' n)
    (hports : ports' = ports) (howned : o'.owned n = o.owned n) :
    MgtOpen ports' o' ↔ MgtOpen ports o := by
  rw [mgtOpen_owned hwired, mgtOpen_owned hwired', hports, howned]

theorem SameAt.socketsUp {d d' : Daemon} (h : SameAt n d d') (hd : Plugged d) (hd' : Plugged d') :
    SocketsUp d' n ↔ SocketsUp d n :=
  mgtOpen_same (hd.wired n).ports (hd'.wired n).ports (by rw [h.node]) h.owned

theorem KeepsSockets.socketsUp {C : NodeId → (ClassId → UInt8) → Prop} {d d' : Daemon}
    (h : KeepsSockets C d d') (hd : Plugged d) (n : NodeId) : SocketsUp d' n ↔ SocketsUp d n :=
  mgtOpen_same (hd.wired n).ports ((hd.keeps h).wired n).ports (h.ports n)
    (h.work.others n id)

/-- `net_removeSockets` closes it. -/
theorem not_mgtOpen_drops (hlive : o.Live) (classes : ClassId → UInt8) :
    ¬ MgtOpen ports ((ports.handles classes).foldl Objects.drop o) := by
  rintro ⟨h, x, hmgt, hx, hopen⟩
  rw [Ports.handles, List.foldl_append, hmgt] at hx
  have hlive' := (work_drops (P := fun _ => True)
    ((classSlots.filter (classes · ≠ 0)).flatMap ports.slot) o fun _ _ _ _ => trivial).live hlive
  rw [Objects.drop_closed _ hlive' hx] at hopen
  cases hopen

end MgtOpen

/-! ## Creating sockets -/

section Creating

variable {self : NodeId} {n : Node} {env : NetEnv} {s : NetState}

theorem netCreateUDPSocket_snd (self : NodeId) (n : Node) (env : NetEnv) (c : ClassId)
    (s : NetState) : (netCreateUDPSocket self n env c s).2 = env.udpBind c := by
  unfold netCreateUDPSocket
  dsimp only
  split
  · rename_i hbind
    exact hbind.symm
  · rename_i hbind
    exact (Bool.eq_false_iff.mpr hbind).symm

theorem netCreateTCPSocket_snd (self : NodeId) (n : Node) (env : NetEnv) (c : ClassId)
    (s : NetState) : (netCreateTCPSocket self n env c s).2 = env.tcpListen c := by
  unfold netCreateTCPSocket
  dsimp only
  split
  · rename_i hlisten
    exact hlisten.symm
  · rename_i hlisten
    exact (Bool.eq_false_iff.mpr hlisten).symm

/-- The loop of `net_createSockets` gets to its end if every socket can be made. -/
theorem netCreateClassSockets_snd (self : NodeId) (n : Node) (env : NetEnv) (l : List ClassId)
    (s : NetState) : (netCreateClassSockets self n env l s).2 = true
      ↔ ∀ c ∈ l, n.classes c ≠ 0 → env.udpBind c = true ∧ env.tcpListen c = true := by
  induction l generalizing s with
  | nil => simp [netCreateClassSockets]
  | cons c l ih =>
      unfold netCreateClassSockets
      rw [List.forall_mem_cons]
      split
      · rename_i hclass
        have hudp := netCreateUDPSocket_snd self n env c s
        cases hrun : netCreateUDPSocket self n env c s with
        | mk s₁ ok =>
            rw [hrun] at hudp
            dsimp only at hudp
            cases ok with
            | false => simp [hclass, ← hudp]
            | true =>
                have htcp := netCreateTCPSocket_snd self n env c s₁
                cases hrun' : netCreateTCPSocket self n env c s₁ with
                | mk s₂ ok =>
                    rw [hrun'] at htcp
                    dsimp only at htcp
                    simp only [hrun']
                    cases ok with
                    | false => simp [hclass, ← htcp]
                    | true =>
                        dsimp only
                        rw [ih s₂]
                        simp [hclass, ← hudp, ← htcp]
      · rename_i hclass
        rw [ih s]
        simp [hclass]

/-- The sockets of classes are neither the management socket nor `netup`. -/
theorem netCreateClassSockets_net (self : NodeId) (n : Node) (env : NetEnv) (l : List ClassId)
    (s : NetState) : (netCreateClassSockets self n env l s).1.net.ports.mgt = s.net.ports.mgt
      ∧ (netCreateClassSockets self n env l s).1.net.netup = s.net.netup := by
  refine netCreateClassSockets_relation
    (R := fun a b => b.net.ports.mgt = a.net.ports.mgt ∧ b.net.netup = a.net.netup)
    (fun _ => ⟨rfl, rfl⟩) (fun a b c h h' => ⟨h'.1.trans h.1, h'.2.trans h.2⟩) (fun c s => ?_)
    (fun c s => ?_) l s
  · unfold netCreateUDPSocket
    dsimp only
    split <;> exact ⟨rfl, rfl⟩
  · unfold netCreateTCPSocket
    dsimp only
    split <;> exact ⟨rfl, rfl⟩

theorem netCreateClassSockets_dirclient (self : NodeId) (n : Node) (env : NetEnv)
    (l : List ClassId) (s : NetState) :
    (netCreateClassSockets self n env l s).1.dirclient = s.dirclient := by
  refine netCreateClassSockets_relation (R := fun a b => b.dirclient = a.dirclient)
    (fun _ => rfl) (fun _ _ _ h h' => h'.trans h) (fun c s => ?_) (fun c s => ?_) l s
  · unfold netCreateUDPSocket
    dsimp only
    split <;> rfl
  · unfold netCreateTCPSocket
    dsimp only
    split <;> rfl

/-- After the sockets of all classes, the management socket is next. -/
theorem netCreateSockets_classes (self : NodeId)
    (h : ∀ c, n.classes c ≠ 0 → env.udpBind c = true ∧ env.tcpListen c = true) (s : NetState) :
    netCreateSockets self n env s
      = netCreateMgtSocket self n env (netCreateClassSockets self n env classSlots s).1 := by
  have hsnd := (netCreateClassSockets_snd self n env classSlots s).mpr fun c _ => h c
  unfold netCreateSockets
  cases hrun : netCreateClassSockets self n env classSlots s with
  | mk s₁ ok =>
      rw [hrun] at hsnd
      dsimp only at hsnd
      subst hsnd
      rfl

/-- **A `net_createSockets` that fails** leaves the management socket, `netup` and the directory
client alone. -/
theorem netCreateSockets_fails (self : NodeId) (hcan : ¬ n.CanCreate env) (s : NetState) :
    (netCreateSockets self n env s).net.ports.mgt = s.net.ports.mgt
      ∧ (netCreateSockets self n env s).net.netup = s.net.netup
      ∧ (netCreateSockets self n env s).dirclient = s.dirclient := by
  obtain ⟨hmgt, hnetup⟩ := netCreateClassSockets_net self n env classSlots s
  have hdirclient := netCreateClassSockets_dirclient self n env classSlots s
  by_cases hclasses : ∀ c, n.classes c ≠ 0 → env.udpBind c = true ∧ env.tcpListen c = true
  · have hlisten : ¬ env.mgtListen = true := fun hlisten => hcan ⟨hclasses, hlisten⟩
    rw [netCreateSockets_classes self hclasses]
    unfold netCreateMgtSocket
    dsimp only
    rw [if_neg hlisten]
    exact ⟨hmgt, hnetup, hdirclient⟩
  · have hsnd := netCreateClassSockets_snd self n env classSlots s
    unfold netCreateSockets
    cases hrun : netCreateClassSockets self n env classSlots s with
    | mk s₁ ok =>
        rw [hrun] at hmgt hnetup hdirclient hsnd
        cases ok with
        | false => exact ⟨hmgt, hnetup, hdirclient⟩
        | true => exact absurd (fun c => hsnd.mp rfl c (List.mem_finRange c)) hclasses

theorem Makes.mgtOpen {s s' : NetState} (h : Makes self s s')
    (hwired : s.net.WiredTo s.objects self) (hmgt : s'.net.ports.mgt = s.net.ports.mgt) :
    MgtOpen s'.net.ports s'.objects ↔ MgtOpen s.net.ports s.objects := by
  unfold MgtOpen
  rw [hmgt]
  refine exists_congr fun k => exists_congr fun x => and_congr_right fun hk => ?_
  rw [h.kept k (Objects.lt_of_kindAt (hwired.ports.mgt k hk))]

/-- **When `net_createSockets` is through**, the sockets are open and `netup` is set. If it is
not, neither changes. -/
theorem netCreateSockets_up (self : NodeId) (n : Node) (env : NetEnv) {s : NetState}
    (hwired : s.net.WiredTo s.objects self) :
    (MgtOpen (netCreateSockets self n env s).net.ports (netCreateSockets self n env s).objects
        ↔ n.CanCreate env ∨ MgtOpen s.net.ports s.objects)
      ∧ ((netCreateSockets self n env s).net.netup = true
        ↔ n.CanCreate env ∨ s.net.netup = true) := by
  by_cases hcan : n.CanCreate env
  · rw [netCreateSockets_classes self hcan.1]
    unfold netCreateMgtSocket
    dsimp only
    rw [if_pos hcan.2]
    refine ⟨iff_of_true ?_ (.inl hcan), iff_of_true rfl (.inl hcan)⟩
    exact ⟨_, ⟨.service (.mgt self), true, false⟩, rfl, List.getElem?_concat_length, rfl⟩
  · obtain ⟨hmgt, hnetup, -⟩ := netCreateSockets_fails self hcan s
    have hopen := (netCreateSockets_makes self n env s).mgtOpen hwired hmgt
    rw [or_iff_right hcan, or_iff_right hcan, hnetup]
    exact ⟨hopen, Iff.rfl⟩

end Creating

/-! ## One tick -/

section Turns

variable {d d' : Daemon} {n : NodeId} {env : NodeId → NetEnv}

/-- The turn of a node in `mgt_checkTimeout`. -/
theorem Checked.up (h : Checked n d d') (hd : Plugged d) :
    (SocketsUp d' n ↔ SocketsUp d n ∧ ¬ (d.nodes n).TimesOut)
      ∧ (d'.nodes n).netup = (d.nodes n).netup := by
  refine ⟨?_, by rw [h.net]⟩
  unfold SocketsUp
  rw [h.net]
  by_cases hout : (d.nodes n).TimesOut
  · rw [h.closed hout]
    exact iff_of_false (not_mgtOpen_drops hd.live _) fun hboth => hboth.2 hout
  · rw [h.kept hout]
    exact (and_iff_left hout).symm

/-- The turn of a node in `mgt_tick`. -/
theorem mgtConfigureNode_up (hd : Plugged d) (h : mgtConfigureNode env d n = .ok d') :
    (SocketsUp d' n ↔ (d.nodes n).ComesUp (env n) ∨ SocketsUp d n)
      ∧ ((d'.nodes n).netup = true
        ↔ (d.nodes n).ComesUp (env n) ∨ (d.nodes n).netup = true) := by
  obtain ⟨hget, hgetWired⟩ := interfaceGetConfiguredAddress_work (env n) (s := d.netAt n)
    (hd.wired n)
  obtain ⟨hports, hnetup⟩ := interfaceGetConfiguredAddress_net (env n) (d.netAt n)
  have hsame := mgtOpen_same (hd.wired n).ports hgetWired.ports hports (hget.others n id)
  unfold SocketsUp
  rcases mgtConfigureNode_cases h with ⟨hans, rfl⟩ | ⟨hnot, rfl⟩
  · rw [onNet_net, onNet_objects]
    obtain ⟨hopen, hup⟩ := netCreateSockets_up n (d.nodes n) (env n) hgetWired
    have hcan : (d.nodes n).ComesUp (env n) ↔ (d.nodes n).CanCreate (env n) := and_iff_right hans
    rw [hsame] at hopen
    rw [hnetup] at hup
    rw [hcan]
    exact ⟨hopen, hup⟩
  · have hdown : ¬ (d.nodes n).ComesUp (env n) := fun hup => hnot hup.1
    rw [onNet_net, onNet_objects, or_iff_right hdown, or_iff_right hdown, hnetup]
    exact ⟨hsame, Iff.rfl⟩

theorem comesUp_congr {x y : Node} (hnet : y.toNodeNet = x.toNodeNet)
    (hclasses : y.classes = x.classes) (env : NetEnv) : y.ComesUp env ↔ x.ComesUp env := by
  unfold Node.ComesUp Node.Answered Node.CanCreate
  rw [hnet, hclasses]

/-- **What a tick does**: the sockets of a node are open after it if it comes up, or if they
were open before and its time has not run out. `netup` does not look at the time. -/
theorem socketsUp_tick (hd : Plugged d) (hused : (d.nodes n).free = false)
    (h : mgtTick d env = .ok d') :
    (SocketsUp d' n
        ↔ (d.nodes n).ComesUp (env n) ∨ (SocketsUp d n ∧ ¬ (d.nodes n).TimesOut))
      ∧ ((d'.nodes n).netup = true
        ↔ (d.nodes n).ComesUp (env n) ∨ (d.nodes n).netup = true) := by
  obtain ⟨d₁, d₂, d₃, d₄, ⟨hd₁, hsame₁, hcheck⟩, ⟨hd₃, hsame₂, hconfigure⟩, hsame₃⟩ :=
    mgtTick_turns hd hused h
  have hchecked := mgtCheckNode_checked hcheck
  have hd₂ := hd₁.turn (hchecked.turn (hd₁.wired n))
  have hd₄ := hd₃.turn (mgtConfigureNode_turn (hd₃.wired n) hconfigure)
  -- the first loop closes on a timeout, the second one opens on an answer
  obtain ⟨hcheckUp, hcheckNetup⟩ := hchecked.up hd₁
  obtain ⟨hconfUp, hconfNetup⟩ := mgtConfigureNode_up hd₃ hconfigure
  have hcomes : (d₃.nodes n).ComesUp (env n) ↔ (d.nodes n).ComesUp (env n) := by
    refine comesUp_congr ?_ ?_ (env n)
    · rw [hsame₂.node, hchecked.net, hsame₁.node]
    · rw [hsame₂.node, hchecked.classes, hsame₁.node]
  constructor
  · rw [hsame₃.socketsUp hd₄ (mgtTick_plugged hd h), hconfUp, hcomes, hsame₂.socketsUp hd₂ hd₃,
      hcheckUp, hsame₁.socketsUp hd hd₁, hsame₁.node]
  · rw [hsame₃.node, hconfNetup, hcomes, hsame₂.node, hcheckNetup, hsame₁.node]

end Turns

/-! ## Over whole runs -/

/-- **One step** keeps `netup` sound exactly when it meets the condition. -/
theorem netupSound_step {d d' : Daemon} {e : DaemonEvent} (hwired : Wired d) (hd : Plugged d)
    (hsound : NetupSound d) (hstep : daemonStep d e = .ok d') :
    NetupSound d' ↔ NetupKept d e := by
  by_cases he : ∃ env, e = .main (.tick env)
  · obtain ⟨env, rfl⟩ := he
    have hrun : mgtTick d env = .ok d' := hstep
    have hfree : ∀ n, (d.nodes n).TimesOut → (d.nodes n).free = false := fun n hout =>
      hwired.assigned.used (hwired.assigned.onBus n hout.1)
    constructor
    · intro hsound' n hout hnetup
      obtain ⟨hup, hnetup'⟩ := socketsUp_tick hd (hfree n hout) hrun
      rcases hup.mp (hsound' n (hnetup'.mpr (.inr hnetup))) with hcomes | ⟨-, hnot⟩
      · exact hcomes
      · exact absurd hout hnot
    · intro hkept n hnetup'
      cases hused : (d.nodes n).free with
      | true =>
          -- a free slot has no turn
          obtain ⟨e, hcheck, hconfigure⟩ := bind_eq_ok.mp hrun
          have he := forEachNode_plugged mgtCheckNode_turnBody hd hcheck
          have hsame₁ := forEachNode_free mgtCheckNode_turnBody hd hused hcheck
          have hsame₂ := forEachNode_free (mgtConfigureNode_turnBody env) he
            (by rw [hsame₁.node]; exact hused) hconfigure
          have hsame := hsame₁.trans hsame₂
          rw [hsame.node] at hnetup'
          exact (hsame.socketsUp hd (mgtTick_plugged hd hrun)).mpr (hsound n hnetup')
      | false =>
          obtain ⟨hup, hnetup⟩ := socketsUp_tick hd hused hrun
          rw [hup]
          rcases hnetup.mp hnetup' with hcomes | hbefore
          · exact .inl hcomes
          · -- `netup` was set before, and so its sockets were open
            by_cases hout : (d.nodes n).TimesOut
            · exact .inl (hkept n hout hbefore)
            · exact .inr ⟨hsound n hbefore, hout⟩
  · have hnot : ∀ env, e ≠ .main (.tick env) := fun env heq => he ⟨env, heq⟩
    have hkeeps := daemonStep_keeps hwired hd hnot hstep
    refine iff_of_true (fun n hnetup => ?_) ?_
    · exact (hkeeps.socketsUp hd n).mpr (hsound n (hkeeps.netup n hnetup))
    · cases e with
      | main e =>
          cases e with
          | tick env => exact absurd rfl (hnot env)
          | _ => trivial
      | _ => trivial

/-- Only a node with `netup` is told OK. -/
theorem busmgtIdentify_netup {d d' : Daemon} {p : UbPacket} {n : NodeId}
    (h : busmgtIdentify d p = .ok d') (hbefore : (d.nodes n).state ≠ .normal)
    (hafter : (d'.nodes n).state = .normal) : (d.nodes n).netup = true := by
  rcases busmgtIdentify_writes h with ⟨x, haccepts, rfl⟩ | rfl | rfl
  · by_cases hnx : n = x
    · rw [hnx]
      exact haccepts.netup
    · rw [queue_nodes, setNode_of_ne d x _ hnx] at hafter
      exact absurd hafter hbefore
  · exact absurd hafter hbefore
  · exact absurd hafter hbefore

theorem NetupSound.toldOK {d : Daemon} (h : NetupSound d) (e : DaemonEvent) : ToldOK d e := by
  intro p connect d' n _ hkind hrun hbefore hafter
  have hidentify : busmgtInpacket d p connect = busmgtIdentify d p := by
    rw [busmgtInpacket, hkind, if_neg (by decide), if_pos rfl]
  rw [hidentify] at hrun
  exact h n (busmgtIdentify_netup hrun hbefore hafter)

/-- **Who is told OK**: in every run, `netup` is only set while the sockets of its node are
open, and nodes are only told OK then, exactly when no node times out with `netup` set
without coming up again in the same tick. -/
theorem told_ok_iff (nodetimeout : Int) (cs : List NodeConfig) (d₀ d : Daemon)
    (es : List DaemonEvent) (h₀ : configured nodetimeout cs = .ok d₀)
    (h : Run daemonStep (fun _ _ => True) d₀ es d) :
    (Always daemonStep (fun _ _ => True) d₀ NetupSound es
        ∧ EveryStep daemonStep (fun _ _ => True) d₀ ToldOK es)
      ↔ EveryStep daemonStep (fun _ _ => True) d₀ NetupKept es := by
  have hfirst : NetupSound d₀ := fun n hn => by
    rw [(configured_socketless h₀).netup n] at hn
    cases hn
  have hiff := h.always_iff (I := fun s => (Wired s ∧ Plugged s) ∧ NetupSound s)
    (P := NetupSound) (C := NetupKept)
    ⟨⟨(configured_wired h₀).1, (configured_socketless h₀).plugged.1⟩, hfirst⟩ (fun s hs => hs.2)
    (fun s e s' hs _ hstep hkept => ⟨⟨hs.1.1.step hstep, hs.1.2.step hs.1.1 hstep⟩,
      (netupSound_step hs.1.1 hs.1.2 hs.2 hstep).mpr hkept⟩)
    (fun s e s' hs _ hstep hsound => (netupSound_step hs.1.1 hs.1.2 hs.2 hstep).mp hsound)
  constructor
  · rintro ⟨hall, -⟩
    exact hiff.mp hall
  · intro hkept
    have hall := hiff.mpr hkept
    exact ⟨hall, fun pre e post t hes ht => (hall pre (e :: post) t hes ht).toldOK e⟩

/-- A node is discovered and comes up. -/
def discoverOnce : List DaemonEvent :=
  [.packet (discoverPacket [0x61]) .connected, .main (.tick fun _ => liveEnv)]

/-- The node confirms its address. -/
def identifyPacket : UbPacket where
  src := 3
  dest := 1
  flags := ubPacketMgt
  cls := 0
  len := 2
  data := Vector.ofFn fun i => ([0x49, 0x61] : List UInt8).getD i.val 0

/-- In that run all is well. -/
theorem told_ok_iff_first :
    ∃ d, Run daemonStep (fun _ _ => True) (nodesInit 1)
        (discoverOnce ++ [.packet identifyPacket .connected]) d
      ∧ (d.nodes ⟨0, by decide⟩).state = .normal
      ∧ Always daemonStep (fun _ _ => True) (nodesInit 1) NetupSound
        (discoverOnce ++ [.packet identifyPacket .connected])
      ∧ EveryStep daemonStep (fun _ _ => True) (nodesInit 1) ToldOK
        (discoverOnce ++ [.packet identifyPacket .connected]) := by
  obtain ⟨a, ha, hawake⟩ : ∃ d, Run daemonStep (fun _ _ => True) (nodesInit 1)
      [.packet (discoverPacket [0x61]) .connected] d ∧ ∀ n, ¬ (d.nodes n).TimesOut := by
    apply Run.exists_of_eval Fault.assertion
    decide +kernel
  obtain ⟨d, hd, hnormal⟩ : ∃ d, Run daemonStep (fun _ _ => True) (nodesInit 1)
      (discoverOnce ++ [.packet identifyPacket .connected]) d
        ∧ (d.nodes ⟨0, by decide⟩).state = .normal := by
    apply Run.exists_of_eval Fault.assertion
    decide +kernel
  -- nobody times out in the only tick
  have hkept : EveryStep daemonStep (fun _ _ => True) (nodesInit 1) NetupKept
      ([] ++ [DaemonEvent.packet (discoverPacket [0x61]) .connected]
        ++ [.main (.tick fun _ => liveEnv)] ++ [.packet identifyPacket .connected]) := by
    refine ((everyStep_nil.snoc fun _ _ => trivial).snoc fun t ht n hout => ?_).snoc
      fun _ _ => trivial
    rw [ht.unique ha] at hout
    exact absurd hout (hawake n)
  obtain ⟨hsound, htold⟩ := (told_ok_iff 1 [] (nodesInit 1) d _ rfl hd).mpr hkept
  exact ⟨d, hd, hnormal, hsound, htold⟩

/-- It times out and is discovered again, but ubnetd has not answered yet. -/
def discoverTwice : List DaemonEvent :=
  discoverOnce ++ [.main (.tick fun _ => deadEnv), .packet (discoverPacket [0x61]) .connected]

/-- The node waits, its management service is closed, and its `I` moves it on. -/
theorem discoverTwice_state : ∃ d,
    Run daemonStep (fun _ _ => True) (nodesInit 1) discoverTwice d
      ∧ (d.nodes ⟨0, by decide⟩).state = .identify
      ∧ (d.nodes ⟨0, by decide⟩).ports.mgt = some 4
      ∧ (d.objects.all[4]?).map Object.isOpen = some false
      ∧ (busmgtInpacket d identifyPacket .connected).toOption.map
          (fun d' => (d'.nodes ⟨0, by decide⟩).state) = some .normal := by
  apply Run.exists_of_eval Fault.assertion
  decide +kernel

/-- **A node is told OK after its sockets have been removed.** -/
theorem told_ok_without_sockets : configured 1 [] = .ok (nodesInit 1)
    ∧ ∃ d, Run daemonStep (fun _ _ => True) (nodesInit 1)
        (discoverTwice ++ [.packet identifyPacket .connected]) d
      ∧ ¬ EveryStep daemonStep (fun _ _ => True) (nodesInit 1) ToldOK
        (discoverTwice ++ [.packet identifyPacket .connected]) := by
  obtain ⟨d, hd, hstate, hmgt, hclosed, hmoves⟩ := discoverTwice_state
  obtain ⟨d', hrun, hnormal⟩ := Option.map_eq_some_iff.mp hmoves
  have hstep : busmgtInpacket d identifyPacket .connected = .ok d' := by
    cases hin : busmgtInpacket d identifyPacket .connected with
    | error e =>
        rw [hin] at hrun
        cases hrun
    | ok e =>
        rw [hin] at hrun
        cases hrun
        rfl
  refine ⟨rfl, d', .snoc hd trivial hstep, fun htold => ?_⟩
  obtain ⟨h, x, hport, hx, hopen⟩ := htold discoverTwice _ [] d rfl hd identifyPacket .connected d'
    ⟨0, by decide⟩ rfl (by decide) hstep (by rw [hstate]; decide) hnormal
  rw [hmgt] at hport
  cases hport
  rw [hx, Option.map_some, hopen] at hclosed
  cases hclosed

end Ubd
