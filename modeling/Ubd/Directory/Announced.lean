import Ubd.Daemon.Endpoints
import Ubd.Daemon.Identity
import Ubd.Daemon.Managed
import Ubd.Lib.Lifetimes

/-!
# Directory.Announced — what is announced of a node

`Announcements` is what the directory client keeps sending of a node, and what was last sent
about its services. Registering and removing are functions of it and of the classes the node
has at that time; of a whole tick only the two turns of the node count.
-/

namespace Ubd

open Runs Lifetimes

/-! ## What has been announced -/

/-- The message announces this service. -/
def DirMessage.Announces (type : String) (id : CString) : DirMessage → Prop
  | .updateService serviceType _ sid _ _ => serviceType = type ∧ sid = id
  | .deleteService _ _ => False

/-- The message announces this service or withdraws it. -/
def DirMessage.Concerns (type : String) (id : CString) (m : DirMessage) : Prop :=
  m.Announces type id ∨ m = .deleteService type id

/-- The last that was sent about this service is an announcement. -/
def Outstanding (sent : List DirMessage) (type : String) (id : CString) : Prop :=
  ∃ m post, LastWith (DirMessage.Concerns type id) sent m post ∧ m.Announces type id

/-- One of the classes is that of this service. -/
def Offers (classes : ClassId → UInt8) (type : String) : Prop :=
  ∃ i, classes i ≠ 0 ∧ classesGetClassName (classes i) = type

section Messages

variable {sent ms : List DirMessage} {m : DirMessage} {type : String} {id : CString}

theorem not_outstanding_nil : ¬ Outstanding [] type id := by
  rintro ⟨m, post, hlast, -⟩
  exact not_lastWith_nil hlast

theorem outstanding_snoc : Outstanding (sent ++ [m]) type id
    ↔ m.Announces type id ∨ (Outstanding sent type id ∧ m ≠ .deleteService type id) := by
  unfold Outstanding
  simp only [lastWith_snoc_iff]
  constructor
  · rintro ⟨x, post, ⟨-, rfl, -⟩ | ⟨hother, post', -, hlast⟩, hannounces⟩
    · exact .inl hannounces
    · exact .inr ⟨⟨x, post', hlast, hannounces⟩, fun heq => hother (.inr heq)⟩
  · rintro (hannounces | ⟨⟨x, post, hlast, hannounces⟩, hne⟩)
    · exact ⟨m, [], .inl ⟨.inl hannounces, rfl, rfl⟩, hannounces⟩
    · by_cases hm : m.Announces type id
      · exact ⟨m, [], .inl ⟨.inl hm, rfl, rfl⟩, hm⟩
      · exact ⟨x, post ++ [m], .inr ⟨fun hconcerns => hconcerns.elim hm hne, post, rfl, hlast⟩,
          hannounces⟩

/-- Announcements add to what is outstanding. -/
theorem outstanding_updates (hms : ∀ m ∈ ms, ∃ type id, m.Announces type id) :
    Outstanding (sent ++ ms) type id
      ↔ Outstanding sent type id ∨ ∃ m ∈ ms, m.Announces type id := by
  induction ms using List.reverseRecOn with
  | nil => simp
  | append_singleton ms m ih =>
      have hm : m ≠ .deleteService type id := by
        obtain ⟨type', id', hannounces⟩ := hms m (by simp)
        rintro rfl
        exact hannounces
      rw [← List.append_assoc, outstanding_snoc,
        ih fun x hx => hms x (List.mem_append_left _ hx)]
      constructor
      · rintro (hannounces | ⟨hold | ⟨x, hx, hannounces⟩, -⟩)
        · exact .inr ⟨m, by simp, hannounces⟩
        · exact .inl hold
        · exact .inr ⟨x, List.mem_append_left _ hx, hannounces⟩
      · rintro (hold | ⟨x, hx, hannounces⟩)
        · exact .inr ⟨.inl hold, hm⟩
        · rcases List.mem_append.mp hx with hx | hx
          · exact .inr ⟨.inr ⟨x, hx, hannounces⟩, hm⟩
          · rw [List.mem_singleton.mp hx] at hannounces
            exact .inl hannounces

/-- Withdrawals take away from it. -/
theorem outstanding_deletes (hms : ∀ m ∈ ms, ∀ type id, ¬ m.Announces type id) :
    Outstanding (sent ++ ms) type id ↔ Outstanding sent type id ∧ .deleteService type id ∉ ms := by
  induction ms using List.reverseRecOn with
  | nil => simp
  | append_singleton ms m ih =>
      rw [← List.append_assoc, outstanding_snoc,
        ih fun x hx => hms x (List.mem_append_left _ hx), List.mem_append, List.mem_singleton,
        not_or, and_assoc]
      constructor
      · rintro (hannounces | ⟨hold, hms, hne⟩)
        · exact absurd hannounces (hms m (by simp) type id)
        · exact ⟨hold, hms, fun heq => hne heq.symm⟩
      · rintro ⟨hold, hms, hne⟩
        exact .inr ⟨hold, hms, fun heq => hne heq.symm⟩

end Messages

/-! ## The client -/

section Client

variable {self : NodeId} {n : Node} {c : DirClient} {k : NodeId × ClassId} {m : DirMessage}
  {type : String} {id : CString}

theorem mem_removeServices : (k, m) ∈ (dirclientRemoveServices self n c).services
    ↔ (k, m) ∈ c.services ∧ ∀ i, n.classes i ≠ 0 → k ≠ (self, i) := by
  have hfold : ∀ is : List ClassId, (k, m) ∈ (is.foldl (dirclientRemoveService self n) c).services
      ↔ (k, m) ∈ c.services ∧ ∀ i ∈ is, k ≠ (self, i) := by
    intro is
    induction is generalizing c with
    | nil => simp
    | cons i is ih =>
        rw [List.foldl_cons, ih, List.forall_mem_cons, ← and_assoc]
        refine and_congr_left fun _ => ?_
        show (k, m) ∈ c.services.filter _ ↔ _
        rw [List.mem_filter]
        simp
  unfold dirclientRemoveServices
  rw [hfold]
  refine and_congr_right fun _ => forall_congr' fun i => ?_
  rw [← mem_classids]
  rfl

/-- A registration announces what the node offers. -/
theorem registerServices_outstanding :
    Outstanding (dirclientRegisterServices self n c).sent type id
      ↔ Outstanding c.sent type id ∨ (n.id = id ∧ Offers n.classes type) := by
  rw [registerServices_sent, outstanding_updates]
  · refine or_congr_right ⟨?_, ?_⟩
    · rintro ⟨m, hm, hannounces⟩
      obtain ⟨i, hi, rfl⟩ := List.mem_map.mp hm
      exact ⟨hannounces.2, i, mem_classids.mp hi, hannounces.1⟩
    · rintro ⟨hid, i, hi, hname⟩
      exact ⟨_, List.mem_map_of_mem (mem_classids.mpr hi), hname, hid⟩
  · intro m hm
    obtain ⟨i, -, rfl⟩ := List.mem_map.mp hm
    exact ⟨_, _, rfl, rfl⟩

/-- A removal withdraws what the node offers. -/
theorem removeServices_outstanding :
    Outstanding (dirclientRemoveServices self n c).sent type id
      ↔ Outstanding c.sent type id ∧ ¬ (n.id = id ∧ Offers n.classes type) := by
  rw [removeServices_sent, outstanding_deletes]
  · refine and_congr_right fun _ => not_congr ⟨?_, ?_⟩
    · intro hm
      obtain ⟨i, hi, heq⟩ := List.mem_map.mp hm
      cases heq
      exact ⟨rfl, i, mem_classids.mp hi, rfl⟩
    · rintro ⟨rfl, i, hi, rfl⟩
      exact List.mem_map_of_mem (mem_classids.mpr hi)
  · intro m hm type' id' hannounces
    obtain ⟨i, -, rfl⟩ := List.mem_map.mp hm
    exact hannounces

/-- The entries a registration leaves. -/
theorem registerServices_entries {i : ClassId} :
    ((self, i), m) ∈ (dirclientRegisterServices self n c).services
      ↔ if n.classes i ≠ 0 then m = updateMessage n i else ((self, i), m) ∈ c.services := by
  have hfold : ∀ is : List ClassId,
      ((self, i), m) ∈ (is.foldl (dirclientAddService self n) c).services
        ↔ if i ∈ is then m = updateMessage n i else ((self, i), m) ∈ c.services := by
    intro is
    induction is generalizing c with
    | nil => simp
    | cons j is ih =>
        rw [List.foldl_cons, ih]
        by_cases hi : i ∈ is
        · rw [if_pos hi, if_pos (List.mem_cons_of_mem j hi)]
        · rw [if_neg hi]
          show ((self, i), m) ∈ c.services.filter _ ++ [((self, j), updateMessage n j)] ↔ _
          by_cases hij : i = j
          · subst hij
            simp
          · simp [hij, hi]
  have hmem : i ∈ classSlots.filter (n.classes · ≠ 0) ↔ n.classes i ≠ 0 := mem_classids
  unfold dirclientRegisterServices
  rw [hfold]
  simp only [hmem]

/-- The entries of other nodes stay. -/
theorem registerServices_others (hk : k.1 ≠ self) :
    (k, m) ∈ (dirclientRegisterServices self n c).services ↔ (k, m) ∈ c.services := by
  unfold dirclientRegisterServices
  generalize classSlots.filter (n.classes · ≠ 0) = is
  induction is generalizing c with
  | nil => rfl
  | cons i is ih =>
      rw [List.foldl_cons, ih]
      show (k, m) ∈ c.services.filter _ ++ [((self, i), _)] ↔ _
      have hne : k ≠ (self, i) := fun heq => hk (congrArg Prod.fst heq)
      simp [hne]

end Client

/-! ## Who deals with it -/

section Frames

variable {d d' : Daemon}

theorem tcpRequest_dirclient {c : Connection} {r : Request} (h : tcpRequest c d r = .ok d') :
    d'.dirclient = d.dirclient := by
  cases r with
  | command cmd =>
      obtain ⟨ms, rfl, -⟩ := tcpCallback_queues h
      rfl
  | listen =>
      cases h
      rfl

theorem Serves.dirclient {e : MainEvent} (h : Serves d e d') : d'.dirclient = d.dirclient := by
  cases h with
  | reads found reading run =>
      have hread := tcpListenerRead_relation (R := fun a b => b.dirclient = a.dirclient)
        (fun _ => rfl) (fun _ _ _ h h' => h'.trans h)
        (fun _ _ _ hrequest => tcpRequest_dirclient hrequest) run
      exact hread
  | unknown nobody => rfl
  | command listening => rfl
  | management listening => rfl
  | deaf => rfl
  | closes found reading => rfl
  | closed nobody => rfl
  | fails found => rfl
  | failed => rfl

/-- **Only the tick deals with the directory client.** -/
theorem daemonStep_dirclient {e : DaemonEvent} (he : ∀ env, e ≠ .main (.tick env))
    (h : daemonStep d e = .ok d') : d'.dirclient = d.dirclient := by
  cases e with
  | main e =>
      exact (mainStep_serves h fun env heq => he env (congrArg DaemonEvent.main heq)).dirclient
  | packet p connect => exact (busmgtInpacket_managed h).dirclient
  | take =>
      cases h
      rfl

end Frames

/-! ## What is announced of a node -/

/-- What is announced of a node: the entries of its slots in the services table, and the
services that are outstanding. -/
structure Announcements where
  entries : ClassId → DirMessage → Prop
  types : String → Prop

namespace Announcements

/-- Nothing is announced. -/
def Silent (a : Announcements) : Prop := (∀ i m, ¬ a.entries i m) ∧ ∀ type, ¬ a.types type

/-- All that is announced is there with these classes. -/
def OfferedBy (a : Announcements) (classes : ClassId → UInt8) : Prop :=
  (∀ i m, a.entries i m → classes i ≠ 0) ∧ ∀ type, a.types type → Offers classes type

/-- `dirclient_removeServices` -/
def withdraw (a : Announcements) (classes : ClassId → UInt8) : Announcements where
  entries := fun i m => a.entries i m ∧ classes i = 0
  types := fun type => a.types type ∧ ¬ Offers classes type

/-- `dirclient_registerServices` -/
def announce (a : Announcements) (n : Node) : Announcements where
  entries := fun i m => if n.classes i ≠ 0 then m = updateMessage n i else a.entries i m
  types := fun type => a.types type ∨ Offers n.classes type

/-- What is in the table has been announced. -/
def Backed (a : Announcements) (id : CString) : Prop :=
  ∀ i m type, a.entries i m → m.Announces type id → a.types type

variable {a : Announcements} {classes : ClassId → UInt8} {n : Node} {id : CString}

/-- **A removal withdraws all** exactly if all is still there. -/
theorem withdraw_silent_iff : (a.withdraw classes).Silent ↔ a.OfferedBy classes := by
  unfold Silent OfferedBy withdraw
  refine and_congr (forall_congr' fun i => forall_congr' fun m => not_and)
    (forall_congr' fun type => ?_)
  exact not_and_not_right

theorem Silent.withdraw (h : a.Silent) (classes : ClassId → UInt8) :
    (a.withdraw classes).Silent :=
  ⟨fun i m hm => h.1 i m hm.1, fun type ht => h.2 type ht.1⟩

theorem Silent.offeredBy (h : a.Silent) (classes : ClassId → UInt8) : a.OfferedBy classes :=
  ⟨fun i m hm => absurd hm (h.1 i m), fun type ht => absurd ht (h.2 type)⟩

theorem Silent.backed (h : a.Silent) (id : CString) : a.Backed id :=
  fun i m _ hm _ => absurd hm (h.1 i m)

theorem OfferedBy.announce (h : a.OfferedBy n.classes) :
    (a.announce n).OfferedBy n.classes := by
  refine ⟨fun i m hm => ?_, fun type ht => ht.elim (h.2 type) id⟩
  by_contra hclass
  change (if n.classes i ≠ 0 then m = updateMessage n i else a.entries i m) at hm
  rw [if_neg (not_not.mpr hclass)] at hm
  exact h.1 i m hm hclass

theorem Backed.announce (h : a.Backed id) : (a.announce n).Backed id := by
  intro i m type hm hannounces
  change (if n.classes i ≠ 0 then m = updateMessage n i else a.entries i m) at hm
  split_ifs at hm with hclass
  · rw [hm] at hannounces
    exact .inr ⟨i, hclass, hannounces.1⟩
  · exact .inl (h i m type hm hannounces)

end Announcements

/-- What is announced of a node. -/
def Daemon.announced (d : Daemon) (n : NodeId) : Announcements where
  entries := fun i m => ((n, i), m) ∈ d.dirclient.services
  types := fun type => Outstanding d.dirclient.sent type (d.nodes n).id

/-! ## Addresses -/

/-- Who is on the bus has had an address. -/
def SlotTable.Placed (t : SlotTable) : Prop := ∀ i, (t i).active = true → (t i).busadr ≠ 0

section Placed

variable {t t' : SlotTable}

theorem SlotTable.Placed.packet {p : UbPacket} (h : t.Placed) (hassigned : t.Assigned)
    (hchange : PacketChange p t t') : t'.Placed :=
  hassigned.forall_slot (Q := fun s => s.active = true → s.busadr ≠ 0) hchange h
    (fun _ _ _ _ => freeAdr_ne_zero t) (fun _ _ => two_ne_zero) fun _ hactive hs _ => hs hactive

theorem SlotTable.Placed.expired (h : t.Placed) (hexp : Expired t t') : t'.Placed :=
  hexp.forall_slot (Q := fun s => s.active = true → s.busadr ≠ 0) h
    fun _ _ hactive => nomatch hactive

end Placed

/-- What the turns of a tick rely on. -/
structure Settled (d : Daemon) : Prop where
  wired : Wired d
  plugged : Plugged d
  placed : d.slots.Placed

section Settled

variable {d d' : Daemon} {n x : NodeId}

theorem Settled.timesOut (h : Settled d) (hout : (d.nodes n).TimesOut) :
    (d.nodes n).busadr ≠ 0 :=
  h.placed n (h.wired.assigned.onBus n hout.1)

/-- Nodes that have had an address have ids of their own. -/
theorem Settled.id_ne (h : Settled d) (hn : (d.nodes n).busadr ≠ 0)
    (hx : (d.nodes x).busadr ≠ 0) (hne : x ≠ n) : (d.nodes x).id ≠ (d.nodes n).id := by
  intro hid
  have hcanonical := h.wired.assigned.canonical n hn
  have hother := h.wired.assigned.canonical x hx
  change d.slots.byId (d.nodes n).id = some n at hcanonical
  change d.slots.byId (d.nodes x).id = some x at hother
  rw [hid, hcanonical] at hother
  exact hne (Option.some.inj hother).symm

theorem Settled.used (h : Settled d) (hn : (d.nodes n).busadr ≠ 0) : (d.nodes n).free = false :=
  (byId_eq_some.mp (h.wired.assigned.canonical n hn)).1.1

theorem Settled.expired (h : Settled d) (hplugged : Plugged d') (hexp : Expired d.slots d'.slots)
    (hquiet : Quiet d d') : Settled d' :=
  ⟨h.wired.quiet (h.wired.assigned.expired hexp) hquiet, hplugged, h.placed.expired hexp⟩

theorem mgtCheckNode_expired (h : mgtCheckNode d x = .ok d') :
    Expired d.slots d'.slots ∧ Quiet d d' := by
  obtain ⟨hchange, hquiet⟩ := mgtCheckNode_change h
  refine ⟨?_, hquiet⟩
  rcases hchange with hsame | ⟨honBus, hexp⟩
  · rw [hsame]
    exact .refl
  · rw [hexp]
    exact .step .refl honBus

theorem mgtConfigureNode_expired {env : NodeId → NetEnv} (h : mgtConfigureNode env d x = .ok d') :
    Expired d.slots d'.slots ∧ Quiet d d' := by
  obtain ⟨hslots, hquiet⟩ := quiet_configure env h
  rw [hslots]
  exact ⟨.refl, hquiet⟩

theorem Expired.busadr {t t' : SlotTable} (h : Expired t t') (i : NodeId) :
    (t' i).busadr = (t i).busadr := by
  induction h with
  | refl => rfl
  | @step t' n _ _ ih =>
      unfold SlotTable.expire
      by_cases hin : i = n
      · subst hin
        rw [Function.update_self]
        exact ih
      · rw [Function.update_of_ne hin]
        exact ih

end Settled

/-! ## The turns of a tick -/

section Turns

variable {d d' : Daemon} {n x : NodeId}

theorem announced_removed (hid : (d'.nodes n).id = (d.nodes n).id)
    (hclient : d'.dirclient = dirclientRemoveServices n (d.nodes n) d.dirclient) :
    d'.announced n = (d.announced n).withdraw (d.nodes n).classes := by
  unfold Daemon.announced Announcements.withdraw
  rw [hclient, hid]
  congr 1
  · funext i m
    simp only [mem_removeServices, eq_iff_iff]
    refine and_congr_right fun _ => ⟨fun hkept => ?_, fun hclass j hj heq => hj ?_⟩
    · by_contra hclass
      exact hkept i hclass rfl
    · cases heq
      exact hclass
  · funext type
    simp only [removeServices_outstanding, true_and]

theorem announced_registered (hid : (d'.nodes n).id = (d.nodes n).id)
    (hclient : d'.dirclient = dirclientRegisterServices n (d.nodes n) d.dirclient) :
    d'.announced n = (d.announced n).announce (d.nodes n) := by
  unfold Daemon.announced Announcements.announce
  rw [hclient, hid]
  congr 1
  · funext i m
    simp only [registerServices_entries]
  · funext type
    simp only [registerServices_outstanding, true_and]

theorem announced_same (hid : (d'.nodes n).id = (d.nodes n).id)
    (hclient : d'.dirclient = d.dirclient) : d'.announced n = d.announced n := by
  unfold Daemon.announced
  rw [hclient, hid]

/-- What is done for a node with another id. -/
theorem announced_removed_other (hid : (d'.nodes n).id = (d.nodes n).id) (hne : x ≠ n)
    (hother : (d.nodes x).id ≠ (d.nodes n).id)
    (hclient : d'.dirclient = dirclientRemoveServices x (d.nodes x) d.dirclient) :
    d'.announced n = d.announced n := by
  unfold Daemon.announced
  rw [hclient, hid]
  congr 1
  · funext i m
    have hkeys : ∀ j, ((n, i) : NodeId × ClassId) ≠ (x, j) := fun j heq =>
      hne (congrArg Prod.fst heq).symm
    simp [mem_removeServices, hkeys]
  · funext type
    simp [removeServices_outstanding, hother]

theorem announced_registered_other (hid : (d'.nodes n).id = (d.nodes n).id) (hne : x ≠ n)
    (hother : (d.nodes x).id ≠ (d.nodes n).id)
    (hclient : d'.dirclient = dirclientRegisterServices x (d.nodes x) d.dirclient) :
    d'.announced n = d.announced n := by
  unfold Daemon.announced
  rw [hclient, hid]
  congr 1
  · funext i m
    exact propext (registerServices_others (Ne.symm hne))
  · funext type
    simp [registerServices_outstanding, hother]

theorem netRemoveSockets_dirclient (self : NodeId) (y : Node) (s : NetState) :
    (netRemoveSockets self y s).dirclient = dirclientRemoveServices self y s.dirclient := by
  have hloop : ∀ (l : List ClassId) (s : NetState),
      (l.foldl (fun s i => netRemoveTCPSocketListener i (netRemoveUDPSocket i s)) s).dirclient
        = s.dirclient := by
    intro l
    induction l with
    | nil => exact fun _ => rfl
    | cons c l ih => exact fun s => (ih _).trans rfl
  unfold netRemoveSockets
  exact hloop _ _

/-- A turn of `mgt_checkTimeout` withdraws the services of a node that times out. -/
theorem mgtCheckNode_dirclient (h : mgtCheckNode d x = .ok d') :
    ((d.nodes x).TimesOut
        ∧ d'.dirclient = dirclientRemoveServices x (d.nodes x) d.dirclient)
      ∨ (¬ (d.nodes x).TimesOut ∧ d'.dirclient = d.dirclient) := by
  cases mgtCheckNode_checks h with
  | off off => exact .inr ⟨fun hout => off hout.1, rfl⟩
  | left onBus left => exact .inr ⟨fun hout => left hout.2, rfl⟩
  | out out =>
      refine .inl ⟨out, ?_⟩
      refine (netRemoveSockets_dirclient x _ _).trans ?_
      rw [setNode_self]
      rfl

/-- `net_createSockets` registers the services at its end. -/
theorem netCreateSockets_dirclient (self : NodeId) (y : Node) (env : NetEnv) (s : NetState) :
    (y.CanCreate env
        ∧ (netCreateSockets self y env s).dirclient = dirclientRegisterServices self y s.dirclient)
      ∨ (¬ y.CanCreate env ∧ (netCreateSockets self y env s).dirclient = s.dirclient) := by
  by_cases hcan : y.CanCreate env
  · refine .inl ⟨hcan, ?_⟩
    rw [netCreateSockets_classes self hcan.1]
    unfold netCreateMgtSocket
    dsimp only
    rw [if_pos hcan.2, netCreateClassSockets_dirclient]
  · exact .inr ⟨hcan, (netCreateSockets_fails self hcan s).2.2⟩

theorem interfaceGetConfiguredAddress_dirclient (env : NetEnv) (s : NetState) :
    (interfaceGetConfiguredAddress env s).1.dirclient = s.dirclient := by
  unfold interfaceGetConfiguredAddress
  split <;> rfl

/-- A turn of `mgt_tick` registers the services of a node that comes up. -/
theorem mgtConfigureNode_dirclient {env : NodeId → NetEnv}
    (h : mgtConfigureNode env d x = .ok d') :
    ((d.nodes x).ComesUp (env x)
        ∧ d'.dirclient = dirclientRegisterServices x (d.nodes x) d.dirclient)
      ∨ (¬ (d.nodes x).ComesUp (env x) ∧ d'.dirclient = d.dirclient) := by
  have hget := interfaceGetConfiguredAddress_dirclient (env x) (d.netAt x)
  rcases mgtConfigureNode_cases h with ⟨hans, rfl⟩ | ⟨hnot, rfl⟩
  · rcases netCreateSockets_dirclient x (d.nodes x) (env x)
      (interfaceGetConfiguredAddress (env x) (d.netAt x)).1 with ⟨hcan, hreg⟩ | ⟨hcan, hsame⟩
    · rw [hget] at hreg
      exact .inl ⟨⟨hans, hcan⟩, hreg⟩
    · exact .inr ⟨fun hup => hcan hup.2, hsame.trans hget⟩
  · exact .inr ⟨fun hup => hnot hup.1, hget⟩

end Turns

/-- A node and what is announced of it are the same. -/
def SameAnnounced (n : NodeId) (d d' : Daemon) : Prop :=
  d'.nodes n = d.nodes n ∧ d'.announced n = d.announced n

/-- The body of a loop that announces and withdraws for its node alone. -/
structure AnnounceBody (body : Daemon → NodeId → Except Fault Daemon) : Prop where
  turn : TurnBody body
  expired : ∀ d x d', body d x = .ok d' → Expired d.slots d'.slots ∧ Quiet d d'
  others : ∀ d x n d', Settled d → (d.nodes n).busadr ≠ 0 → x ≠ n → body d x = .ok d' →
    d'.announced n = d.announced n

section Tick

variable {d d' : Daemon} {n : NodeId} {env : NodeId → NetEnv}
  {body : Daemon → NodeId → Except Fault Daemon}

theorem AnnounceBody.ids (hbody : AnnounceBody body) {x : NodeId} (h : body d x = .ok d')
    (i : NodeId) : (d'.nodes i).id = (d.nodes i).id :=
  ((hbody.expired d x d' h).1.sameIds i).2

theorem AnnounceBody.settled (hbody : AnnounceBody body) {x : NodeId} (hd : Settled d)
    (h : body d x = .ok d') : Settled d' := by
  obtain ⟨hexp, hquiet⟩ := hbody.expired d x d' h
  exact hd.expired (hd.plugged.turn (hbody.turn d x d' hd.plugged h)) hexp hquiet

theorem mgtCheckNode_body : AnnounceBody mgtCheckNode where
  turn := mgtCheckNode_turnBody
  expired := fun _ _ _ => mgtCheckNode_expired
  others := by
    intro d x n d' hd hn hne h
    have hid : (d'.nodes n).id = (d.nodes n).id := ((mgtCheckNode_expired h).1.sameIds n).2
    rcases mgtCheckNode_dirclient h with ⟨hout, hremoved⟩ | ⟨-, hsame⟩
    · exact announced_removed_other hid hne (hd.id_ne hn (hd.timesOut hout) hne) hremoved
    · exact announced_same hid hsame

theorem mgtConfigureNode_body (env : NodeId → NetEnv) : AnnounceBody (mgtConfigureNode env) where
  turn := mgtConfigureNode_turnBody env
  expired := fun _ _ _ => mgtConfigureNode_expired
  others := by
    intro d x n d' hd hn hne h
    have hid : (d'.nodes n).id = (d.nodes n).id := ((mgtConfigureNode_expired h).1.sameIds n).2
    rcases mgtConfigureNode_dirclient h with ⟨hup, hregistered⟩ | ⟨-, hsame⟩
    · -- who is connected to ubnetd has had an address
      have hx := hd.wired.touched x (.inl hup.1.1)
      exact announced_registered_other hid hne (hd.id_ne hn hx hne) hregistered
    · exact announced_same hid hsame

/-- **The turn of a node** is all that a loop does to what is announced of it. -/
theorem forEachNode_announced (hbody : AnnounceBody body) (h : Settled d)
    (hn : (d.nodes n).busadr ≠ 0) (hrun : forEachNode body d = .ok d') :
    ∃ a b, SameAnnounced n d a ∧ body a n = .ok b ∧ SameAnnounced n b d' := by
  rw [forEachNode_eq hbody.turn h.plugged] at hrun
  obtain ⟨a, b, -, hsame, hturn, hsame'⟩ :=
    foldlM_turn (I := fun e => Settled e ∧ (e.nodes n).busadr ≠ 0) (R := SameAnnounced n)
    (fun _ => ⟨rfl, rfl⟩) (fun _ _ _ h h' => ⟨h'.1.trans h.1, h'.2.trans h.2⟩)
    (fun e x e' he hturn => ⟨hbody.settled he.1 hturn,
      (hbody.expired e x e' hturn).2.assigned n he.2⟩)
    (fun e x e' he hne hturn =>
      ⟨(hbody.turn e x e' he.1.plugged hturn).others n (Ne.symm hne),
        hbody.others e x n e' he.1 he.2 hne hturn⟩)
    (nodup_usedSlots d) (mem_usedSlots.mpr (h.used hn)) ⟨h, hn⟩ hrun
  exact ⟨a, b, hsame, hturn, hsame'⟩

theorem forEachNode_settled (hbody : AnnounceBody body) (h : Settled d)
    (hrun : forEachNode body d = .ok d') : Settled d' ∧ Quiet d d' :=
  forEachNode_invariant (I := fun e => Settled e ∧ Quiet d e)
    (fun e x e' he hturn => ⟨hbody.settled he.1 hturn,
      he.2.trans (hbody.expired e x e' hturn).2⟩) ⟨h, .refl d⟩ hrun

/-- **What `mgt_checkTimeout` does to what is announced.** -/
theorem mgtCheckTimeout_announced (h : Settled d) (hn : (d.nodes n).busadr ≠ 0)
    (hrun : mgtCheckTimeout d = .ok d') :
    ((d.nodes n).TimesOut → d'.announced n = (d.announced n).withdraw (d.nodes n).classes)
      ∧ (¬ (d.nodes n).TimesOut → d'.announced n = d.announced n)
      ∧ (d'.nodes n).toNodeNet = (d.nodes n).toNodeNet
      ∧ (d'.nodes n).classes = (d.nodes n).classes
      ∧ (d'.nodes n).id = (d.nodes n).id := by
  obtain ⟨a, b, hsame, hturn, hsame'⟩ := forEachNode_announced mgtCheckNode_body h hn hrun
  have hid := mgtCheckNode_body.ids hturn n
  have hchecked := mgtCheckNode_checked hturn
  refine ⟨fun hout => ?_, fun hout => ?_, ?_, ?_, ?_⟩
  · rw [← hsame.1] at hout
    rcases mgtCheckNode_dirclient hturn with ⟨-, hremoved⟩ | ⟨hnot, -⟩
    · rw [hsame'.2, announced_removed hid hremoved, hsame.2, hsame.1]
    · exact absurd hout hnot
  · rw [← hsame.1] at hout
    rcases mgtCheckNode_dirclient hturn with ⟨hout', -⟩ | ⟨-, hkept⟩
    · exact absurd hout' hout
    · rw [hsame'.2, announced_same hid hkept, hsame.2]
  · rw [hsame'.1, hchecked.net, hsame.1]
  · rw [hsame'.1, hchecked.classes, hsame.1]
  · rw [hsame'.1, hid, hsame.1]

/-- **What the rest of the tick does to it.** -/
theorem mgtConfigure_announced (h : Settled d) (hn : (d.nodes n).busadr ≠ 0)
    (hrun : forEachNode (mgtConfigureNode env) d = .ok d') :
    ((d.nodes n).ComesUp (env n) →
        d'.announced n = (d.announced n).announce (d.nodes n))
      ∧ (¬ (d.nodes n).ComesUp (env n) → d'.announced n = d.announced n)
      ∧ (d'.nodes n).classes = (d.nodes n).classes
      ∧ (d'.nodes n).id = (d.nodes n).id := by
  obtain ⟨a, b, hsame, hturn, hsame'⟩ :=
    forEachNode_announced (mgtConfigureNode_body env) h hn hrun
  have hid := (mgtConfigureNode_body env).ids hturn n
  have hclasses : (b.nodes n).classes = (a.nodes n).classes := by
    cases hturn
    exact onNet_classes a n _ n
  refine ⟨fun hup => ?_, fun hup => ?_, ?_, ?_⟩
  · rw [← hsame.1] at hup
    rcases mgtConfigureNode_dirclient hturn with ⟨-, hregistered⟩ | ⟨hnot, -⟩
    · rw [hsame'.2, announced_registered hid hregistered, hsame.2, hsame.1]
    · exact absurd hup hnot
  · rw [← hsame.1] at hup
    rcases mgtConfigureNode_dirclient hturn with ⟨hup', -⟩ | ⟨-, hkept⟩
    · exact absurd hup' hup
    · rw [hsame'.2, announced_same hid hkept, hsame.2]
  · rw [hsame'.1, hclasses, hsame.1]
  · rw [hsame'.1, hid, hsame.1]

end Tick

end Ubd
