import Ubd.Daemon.Senders
import Ubd.Daemon.Sockets

/-!
# Daemon.Identity — ids identify nodes

Sockets and connections point to slots of the node table, and `bus.c` looks a node up
again by the id in its slot. The search finds the slot itself: no two slots in use have one
id, and a slot that is in use keeps its id.
-/

namespace Ubd

open Runs

/-! ## The table -/

/-- Every slot in use is the one its id is looked up to. -/
def SlotTable.Identified (t : SlotTable) : Prop :=
  ∀ i, (t i).free = false → t.byId (t i).id = some i

/-- The slots in use stay in use, under their ids. -/
def SlotTable.Stays (t t' : SlotTable) : Prop :=
  ∀ i, (t i).free = false → (t' i).free = false ∧ (t' i).id = (t i).id

section Tables

variable {t t' t'' : SlotTable} {x : NodeId} {id : CString} {s : Slot}

theorem SlotTable.Stays.refl (t : SlotTable) : t.Stays t := fun _ hi => ⟨hi, rfl⟩

theorem SlotTable.Stays.trans (h : t.Stays t') (h' : t'.Stays t'') : t.Stays t'' := by
  intro i hi
  obtain ⟨hfree, hid⟩ := h i hi
  obtain ⟨hfree', hid'⟩ := h' i hfree
  exact ⟨hfree', hid'.trans hid⟩

/-- Two slots in use with one id are one slot. -/
theorem SlotTable.Identified.eq (h : t.Identified) {i j : NodeId} (hi : (t i).free = false)
    (hj : (t j).free = false) (hid : (t i).id = (t j).id) : i = j := by
  have hfirst := h i hi
  rw [hid, h j hj] at hfirst
  exact (Option.some.inj hfirst).symm

/-- Writing the slot of an id. -/
theorem SlotTable.Identified.update (h : t.Identified) (htarget : t.target id = some x)
    (hid : s.id = id) (hfree : s.free = false) :
    SlotTable.Identified (Function.update t x s) := by
  intro i hi
  rw [byId_update htarget hid hfree]
  by_cases hix : i = x
  · subst hix
    rw [Function.update_self, if_pos hid]
  · rw [Function.update_of_ne hix] at hi ⊢
    split_ifs with hown
    · -- then `i` was the slot of this id
      have hby := h i hi
      rw [hown] at hby
      rcases target_some htarget with hx | ⟨hnone, -⟩
      · exact hx.symm.trans hby
      · rw [hnone] at hby
        cases hby
    · exact h i hi

theorem stays_update (htarget : t.target id = some x) (hid : s.id = id) (hfree : s.free = false) :
    t.Stays (Function.update t x s) := by
  intro i hi
  by_cases hix : i = x
  · subst hix
    rw [Function.update_self]
    rcases target_some htarget with hby | ⟨-, hfree'⟩
    · exact ⟨hfree, hid.trans (byId_eq_some.mp hby).1.2.symm⟩
    · rw [hi] at hfree'
      cases hfree'
  · rw [Function.update_of_ne hix]
    exact ⟨hi, rfl⟩

/-- Ids and free slots are the same. -/
def SlotTable.SameIds (t t' : SlotTable) : Prop :=
  ∀ i, (t' i).free = (t i).free ∧ (t' i).id = (t i).id

theorem SlotTable.SameIds.stays (h : t.SameIds t') : t.Stays t' :=
  fun i hi => ⟨(h i).1.trans hi, (h i).2⟩

theorem SlotTable.SameIds.identified (h : t.SameIds t') (ht : t.Identified) : t'.Identified := by
  intro i hi
  rw [byId_congr h, (h i).2]
  exact ht i ((h i).1.symm.trans hi)

theorem sameIds_update (hid : s.id = (t x).id) (hfree : s.free = (t x).free) :
    t.SameIds (Function.update t x s) := by
  intro i
  by_cases hix : i = x
  · subst hix
    rw [Function.update_self]
    exact ⟨hfree, hid⟩
  · rw [Function.update_of_ne hix]
    exact ⟨rfl, rfl⟩

theorem sameIds_confirm (t : SlotTable) (n : NodeId) : t.SameIds (t.confirm n) :=
  sameIds_update rfl rfl

/-- **A packet** keeps what ids mean. -/
theorem PacketChange.identified {p : UbPacket} (hchange : PacketChange p t t')
    (h : t.Identified) : t'.Identified := by
  cases hchange with
  | same => exact h
  | discover _ _ slot => exact h.update slot rfl rfl
  | identify => exact (sameIds_confirm t _).identified h
  | @bridge x n t₁ _ slot registered =>
      have hfirst : t₁.Identified := by
        rw [registered]
        exact h.update slot rfl rfl
      exact (sameIds_confirm t₁ n).identified hfirst
  | bridgeFull => exact (sameIds_confirm t _).identified h

/-- It frees no slot and renames none. -/
theorem PacketChange.stays {p : UbPacket} (hchange : PacketChange p t t') : t.Stays t' := by
  cases hchange with
  | same => exact .refl t
  | discover _ _ slot => exact stays_update slot rfl rfl
  | identify => exact (sameIds_confirm t _).stays
  | @bridge x n t₁ _ slot registered =>
      have hfirst : t.Stays t₁ := by
        rw [registered]
        exact stays_update slot rfl rfl
      exact hfirst.trans (sameIds_confirm t₁ n).stays
  | bridgeFull => exact (sameIds_confirm t _).stays

theorem Expired.sameIds (hexp : Expired t t') : t.SameIds t' := by
  induction hexp with
  | refl => exact fun _ => ⟨rfl, rfl⟩
  | @step t' n _ _ ih =>
      intro i
      have hlast := sameIds_update (t := t') (x := n)
        (s := { t' n with active := false, state := .timeout }) rfl rfl i
      exact ⟨hlast.1.trans (ih i).1, hlast.2.trans (ih i).2⟩

end Tables

/-! ## The configuration -/

/-- The id of a configured node, as `xml_parseNode` copies it. -/
def NodeConfig.storedId (c : NodeConfig) : CString := c.id.take (maxId - 1)

/-- One more configured node, under an id that is new. -/
theorem xmlParseNode_identified {d d' : Daemon} {c : NodeConfig} (h : d.slots.Identified)
    (hnew : ∀ i, (d.slots i).free = false → (d.slots i).id ≠ c.storedId)
    (hparse : xmlParseNode d c = .ok d') : d'.slots.Identified
      ∧ ∀ i, (d'.slots i).free = false →
        (d.slots i).free = false ∧ (d'.slots i).id = (d.slots i).id
          ∨ (d'.slots i).id = c.storedId := by
  obtain ⟨n, hslot, rfl⟩ := xmlParseNode_ok hparse
  -- the slot is the first free one, and gets the id
  have htarget : d.slots.target c.storedId = some n := by
    rw [SlotTable.target, byId_eq_none.mpr hnew, Option.none_or]
    exact hslot
  unfold Daemon.withConfigured nodesAddNode
  simp only [setNode_slots, setNode_self, Function.update_idem]
  rw [nodesSetNameFromID_slot]
  refine ⟨h.update htarget rfl rfl, fun i hi => ?_⟩
  by_cases hin : i = n
  · subst hin
    refine .inr ?_
    rw [Function.update_self]
    rfl
  · rw [Function.update_of_ne hin] at hi ⊢
    exact .inl ⟨hi, rfl⟩

/-- Configured nodes have the ids they are configured with, each its own. -/
theorem foldlM_identified {cs : List NodeConfig} {d d' : Daemon} (h : d.slots.Identified)
    (hnodup : (cs.map NodeConfig.storedId).Nodup)
    (hnew : ∀ i, (d.slots i).free = false → (d.slots i).id ∉ cs.map NodeConfig.storedId)
    (hrun : cs.foldlM xmlParseNode d = .ok d') : d'.slots.Identified := by
  induction cs generalizing d with
  | nil =>
      cases hrun
      exact h
  | cons c cs ih =>
      obtain ⟨e, hparse, hrest⟩ := foldlM_cons_ok.mp hrun
      rw [List.map_cons, List.nodup_cons] at hnodup
      simp only [List.map_cons, List.mem_cons, not_or] at hnew
      obtain ⟨he, hids⟩ := xmlParseNode_identified h (fun i hi => (hnew i hi).1) hparse
      refine ih he hnodup.2 (fun i hi => ?_) hrest
      rcases hids i hi with ⟨hused, hid⟩ | hid
      · rw [hid]
        exact (hnew i hused).2
      · rw [hid]
        exact hnodup.1

theorem configured_identified {nodetimeout : Int} {cs : List NodeConfig} {d : Daemon}
    (h : configured nodetimeout cs = .ok d) (hnodup : (cs.map NodeConfig.storedId).Nodup) :
    d.slots.Identified :=
  foldlM_identified (fun _ hi => by cases hi) hnodup (fun _ hi => by cases hi) h

/-! ## The daemon -/

/-- What any event does to the slots. -/
theorem daemonStep_slots {d d' : Daemon} {e : DaemonEvent} (h : Wired d)
    (hstep : daemonStep d e = .ok d') :
    (∃ p, PacketChange p d.slots d'.slots) ∨ Expired d.slots d'.slots := by
  cases e with
  | packet p connect => exact .inl ⟨p, (busmgtInpacket_change h.assigned.free hstep).1⟩
  | take =>
      cases hstep
      exact .inr .refl
  | main e =>
      by_cases he : ∃ env, e = .tick env
      · obtain ⟨env, rfl⟩ := he
        exact .inr (mgtTick_change hstep).1
      · rw [(mainStep_traffic (fun env heq => he ⟨env, heq⟩) hstep).slots]
        exact .inr .refl

theorem daemonStep_identified {d d' : Daemon} {e : DaemonEvent} (h : Wired d)
    (hids : d.slots.Identified) (hstep : daemonStep d e = .ok d') : d'.slots.Identified := by
  rcases daemonStep_slots h hstep with ⟨p, hchange⟩ | hexp
  · exact hchange.identified hids
  · exact hexp.sameIds.identified hids

theorem daemonStep_stays {d d' : Daemon} {e : DaemonEvent} (h : Wired d)
    (hstep : daemonStep d e = .ok d') : d.slots.Stays d'.slots := by
  rcases daemonStep_slots h hstep with ⟨p, hchange⟩ | hexp
  · exact hchange.stays
  · exact hexp.sameIds.stays

/-- A connection, or the source or the service of a socket, points to the node. -/
def Daemon.PointsTo (d : Daemon) (n : NodeId) : Prop :=
  (∃ c ∈ d.conns, c.n = n) ∨ ∃ x ∈ d.objects.all, ∃ sd : SocketRef,
    (x.kind = .source sd ∨ x.kind = .service sd) ∧ sd.node = n

/-- Who is pointed to has had an address. -/
theorem Daemon.PointsTo.assigned {d : Daemon} {n : NodeId} (h : d.PointsTo n) (hwired : Wired d)
    (hsourced : Sourced d) : (d.nodes n).busadr ≠ 0 := by
  rcases h with ⟨c, hc, rfl⟩ | ⟨x, hx, sd, hkind, rfl⟩
  · exact hwired.conns c hc
  · rcases hkind with hsource | hservice
    · obtain ⟨k, hk, rfl⟩ := List.mem_iff_getElem.mp hx
      exact hsourced k sd (Objects.kindAt_eq_some.mpr ⟨_, List.getElem?_eq_getElem hk, hsource⟩)
    · exact hwired.touched _ (.inr ⟨x, hx, sd, hservice, rfl⟩)

/-- So its slot is in use. -/
theorem Daemon.PointsTo.used {d : Daemon} {n : NodeId} (h : d.PointsTo n) (hwired : Wired d)
    (hsourced : Sourced d) : (d.nodes n).free = false :=
  (byId_eq_some.mp (hwired.assigned.canonical n (h.assigned hwired hsourced))).1.1

/-- The senders of `bus.c` find the node itself, and build their packets from it. -/
structure SendsFromOwn (d : Daemon) (n : NodeId) : Prop where
  lookup : nodesGetNodeById d (d.nodes n).id = some n
  sendToID : ∀ buf classid reply, busSendToID d (d.nodes n).id buf classid reply
    = busSend d none (UInt8.ofInt (d.nodes n).busadr) ((d.nodes n).classes classid)
        (if reply then 0 else ubPacketNoack) buf none 0
  streamToID : ∀ buf classid callback data,
    busStreamToID d (d.nodes n).id buf classid callback data
      = busSend d (some n) (UInt8.ofInt (d.nodes n).busadr) ((d.nodes n).classes classid) 0 buf
          callback data

theorem sendsFromOwn_of_lookup {d : Daemon} {n : NodeId}
    (h : nodesGetNodeById d (d.nodes n).id = some n) : SendsFromOwn d n where
  lookup := h
  sendToID := by
    intro buf classid reply
    unfold busSendToID
    simp only [h]
  streamToID := fun buf classid callback data => busStreamToID_eq d h buf classid callback data

/-- What is reached from the configuration. -/
theorem reachable_identified {nodetimeout : Int} {cs : List NodeConfig} {d₀ d : Daemon}
    {es : List DaemonEvent} (h₀ : configured nodetimeout cs = .ok d₀)
    (hnodup : (cs.map NodeConfig.storedId).Nodup)
    (h : Run daemonStep (fun _ _ => True) d₀ es d) : d.slots.Identified := by
  refine (h.invariant (I := fun s => Wired s ∧ s.slots.Identified)
    ⟨(configured_wired h₀).1, configured_identified h₀ hnodup⟩ fun s e s' hs _ hstep => ?_).2
  exact ⟨hs.1.step hstep, daemonStep_identified hs.1 hs.2 hstep⟩

/-- **Ids identify nodes for ever**, if the configured ids differ: no two slots in use have one
id, a slot in use keeps its id, and whoever a connection or a socket points to is found by its
id ever after. -/
theorem ids_identify (nodetimeout : Int) (cs : List NodeConfig) (d₀ d d' : Daemon)
    (es fs : List DaemonEvent) (h₀ : configured nodetimeout cs = .ok d₀)
    (hnodup : (cs.map NodeConfig.storedId).Nodup)
    (h : Run daemonStep (fun _ _ => True) d₀ es d)
    (h' : Run daemonStep (fun _ _ => True) d₀ (es ++ fs) d') :
    (∀ i j, (d.nodes i).free = false → (d.nodes j).free = false →
        (d.nodes i).id = (d.nodes j).id → i = j)
      ∧ (∀ i, (d.nodes i).free = false →
        (d'.nodes i).free = false ∧ (d'.nodes i).id = (d.nodes i).id)
      ∧ ∀ n, d.PointsTo n → (d'.nodes n).id = (d.nodes n).id ∧ SendsFromOwn d' n := by
  have hids := reachable_identified h₀ hnodup h
  have hids' := reachable_identified h₀ hnodup h'
  obtain ⟨hwired, -, hsourced⟩ := reachable_plugged h₀ h
  have hstays : d.slots.Stays d'.slots := Run.relation (R := fun a b => a.slots.Stays b.slots)
    (fun s => .refl s.slots) (fun _ _ _ hab hbc => hab.trans hbc)
    (fun _ _ _ _ hrun _ hstep => daemonStep_stays (reachable_plugged h₀ hrun).1 hstep) h h'
  refine ⟨fun i j hi hj hid => hids.eq hi hj hid, hstays, fun n hn => ?_⟩
  obtain ⟨hfree, hid⟩ := hstays n (hn.used hwired hsourced)
  exact ⟨hid, sendsFromOwn_of_lookup (hids' n hfree)⟩

/-- The sockets of a node that has come up point to it, also after it has confirmed. -/
theorem ids_identify_first : configured 30 [] = .ok (nodesInit 30)
    ∧ ∃ d d', Run daemonStep (fun _ _ => True) (nodesInit 30) discoverOnce d
      ∧ Run daemonStep (fun _ _ => True) (nodesInit 30)
        (discoverOnce ++ [.packet identifyPacket .connected]) d'
      ∧ d.PointsTo ⟨0, by decide⟩ ∧ SendsFromOwn d' ⟨0, by decide⟩ := by
  obtain ⟨d, hd, hkind⟩ : ∃ d, Run daemonStep (fun _ _ => True) (nodesInit 30) discoverOnce d
      ∧ (d.objects.all[4]?).map Object.kind = some (.service (.mgt ⟨0, by decide⟩)) := by
    apply Run.exists_of_eval Fault.assertion
    decide +kernel
  obtain ⟨d', hd', -⟩ : ∃ d', Run daemonStep (fun _ _ => True) (nodesInit 30)
      (discoverOnce ++ [.packet identifyPacket .connected]) d'
      ∧ (d'.nodes ⟨0, by decide⟩).state = .normal := by
    apply Run.exists_of_eval Fault.assertion
    decide +kernel
  obtain ⟨x, hx, hkind⟩ := Option.map_eq_some_iff.mp hkind
  have hpoints : d.PointsTo ⟨0, by decide⟩ :=
    .inr ⟨x, List.mem_of_getElem? hx, .mgt ⟨0, by decide⟩, .inr hkind, rfl⟩
  have hids := ids_identify 30 [] (nodesInit 30) d d' discoverOnce _ rfl (by simp) hd hd'
  exact ⟨rfl, d, d', hd, hd', hpoints, (hids.2.2 _ hpoints).2⟩

end Ubd
