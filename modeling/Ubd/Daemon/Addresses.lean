import Ubd.Daemon.Changes
import Ubd.Lib.Leases

/-!
# Daemon.Addresses — bus addresses are unique

The holder of an address is an active node. `Addressed` is what every well-formed
packet and every tick keep, as long as there is one bridge and the addresses do not
run out.
-/

namespace Ubd

open Leases

/-- The address a slot holds. -/
def SlotTable.holder (t : SlotTable) (i : NodeId) : Option Int :=
  if (t i).active then some (t i).busadr else none

theorem holder_eq_some {t : SlotTable} {i : NodeId} {a : Int} :
    t.holder i = some a ↔ (t i).active = true ∧ (t i).busadr = a := by
  unfold SlotTable.holder
  split <;> simp_all

theorem holder_register (t : SlotTable) (x : NodeId) (id : CString) (adr : Int)
    (state : NodeState) :
    (t.register x id adr state).holder = Function.update t.holder x (some adr) := by
  funext i
  by_cases hi : i = x
  · subst hi
    simp [SlotTable.holder, SlotTable.register]
  · simp [SlotTable.holder, SlotTable.register, hi]

/-- Only the fields `active` and `busadr` count. -/
theorem holder_update (t : SlotTable) {x : NodeId} {s : Slot} (ha : s.active = (t x).active)
    (hb : s.busadr = (t x).busadr) : SlotTable.holder (Function.update t x s) = t.holder := by
  funext i
  by_cases hi : i = x
  · subst hi
    simp [SlotTable.holder, ha, hb]
  · simp [SlotTable.holder, hi]

/-- The invariant of the node table under a single bridge with id `bid`. -/
structure Addressed (bid : CString) (t : SlotTable) : Prop where
  /-- Free slots are off the bus. -/
  free : ∀ i, (t i).free = true → (t i).active = false
  /-- The flag and the state agree. -/
  active : ∀ i, (t i).active = true ↔ (t i).state.onBus
  /-- No two active nodes have one address. -/
  exclusive : Exclusive t.holder
  range : ∀ i, (t i).active = true → (t i).busadr = 2 ∨ (3 ≤ (t i).busadr ∧ (t i).busadr ≤ 254)
  bridge : ∀ i, (t i).busadr = 2 → (t i).id = bid
  /-- An active node is the one its id is looked up to. -/
  canonical : ∀ i, (t i).active = true → t.byId (t i).id = some i

theorem Addressed.used {bid : CString} {t : SlotTable} (h : Addressed bid t) {i : NodeId}
    (hi : (t i).active = true) : (t i).free = false := by
  cases hf : (t i).free with
  | false => rfl
  | true =>
      rw [h.free i hf] at hi
      cases hi

/-- Two active nodes with one id are one node. -/
theorem Addressed.eq_target {bid : CString} {t : SlotTable} (h : Addressed bid t) {id : CString}
    {x j : NodeId} (htarget : t.target id = some x) (hj : (t j).active = true)
    (hid : (t j).id = id) : j = x := by
  have hcan := h.canonical j hj
  rw [hid] at hcan
  rcases target_some htarget with hby | ⟨hnone, -⟩
  · rw [hcan] at hby
    exact Option.some.inj hby
  · rw [hcan] at hnone
    cases hnone

/-- Registration under an address that nobody else holds. -/
theorem Addressed.register {bid : CString} {t : SlotTable} (h : Addressed bid t) {id : CString}
    {x : NodeId} {adr : Int} {state : NodeState} (htarget : t.target id = some x)
    (hnew : ∀ j, j ≠ x → t.holder j ≠ some adr) (hrange : adr = 2 ∨ (3 ≤ adr ∧ adr ≤ 254))
    (hbridge : adr = 2 → id = bid) (hstate : state.onBus) :
    Addressed bid (t.register x id adr state) := by
  constructor
  · exact SlotTable.forall_register (Q := fun s => s.free = true → s.active = false) h.free
      fun hfree => nomatch hfree
  · exact SlotTable.forall_register (Q := fun s => s.active = true ↔ s.state.onBus) h.active
      (iff_of_true rfl hstate)
  · rw [holder_register]
    exact h.exclusive.grant hnew
  · exact SlotTable.forall_register (Q := fun s => s.active = true →
      s.busadr = 2 ∨ (3 ≤ s.busadr ∧ s.busadr ≤ 254)) h.range fun _ => hrange
  · exact SlotTable.forall_register (Q := fun s => s.busadr = 2 → s.id = bid) h.bridge hbridge
  · intro i hactive
    rw [SlotTable.register, byId_update htarget rfl rfl]
    by_cases hi : i = x
    · subst hi
      simp
    · rw [SlotTable.register, Function.update_of_ne hi] at hactive
      rw [Function.update_of_ne hi]
      have hne : (t i).id ≠ id := fun hid => hi (h.eq_target htarget hactive hid)
      rw [if_neg hne]
      exact h.canonical i hactive

/-- Nodes change their states and may leave the bus. -/
theorem Addressed.restate {bid : CString} {t t' : SlotTable} (h : Addressed bid t)
    (hsame : ∀ i, (t' i).free = (t i).free ∧ (t' i).id = (t i).id ∧ (t' i).busadr = (t i).busadr)
    (hactive : ∀ i, (t' i).active = true ↔ (t' i).state.onBus)
    (hle : ∀ i, (t' i).active = true → (t i).active = true) : Addressed bid t' where
  free := by
    intro i hfree
    rw [(hsame i).1] at hfree
    have hoff := h.free i hfree
    by_contra hon
    rw [hle i (by simpa using hon)] at hoff
    cases hoff
  active := hactive
  exclusive := by
    refine h.exclusive.shrink fun i a hi => ?_
    obtain ⟨hact, hadr⟩ := holder_eq_some.mp hi
    rw [(hsame i).2.2] at hadr
    exact holder_eq_some.mpr ⟨hle i hact, hadr⟩
  range := by
    intro i hi
    rw [(hsame i).2.2]
    exact h.range i (hle i hi)
  bridge := by
    intro i h2
    rw [(hsame i).2.2] at h2
    rw [(hsame i).2.1]
    exact h.bridge i h2
  canonical := by
    intro i hi
    rw [byId_congr fun j => ⟨(hsame j).1, (hsame j).2.1⟩, (hsame i).2.1]
    exact h.canonical i (hle i hi)

/-- A node on the bus is confirmed. -/
theorem Addressed.confirm {bid : CString} {t : SlotTable} (h : Addressed bid t) {x : NodeId}
    (hx : (t x).active = true) : Addressed bid (t.confirm x) := by
  refine h.restate (fun i => ?_) (SlotTable.forall_confirm
    (Q := fun s => s.active = true ↔ s.state.onBus) h.active (iff_of_true rfl (.inr rfl)))
    fun i hi => ?_
  · by_cases hix : i = x
    · subst hix
      simp [SlotTable.confirm]
    · simp [SlotTable.confirm, hix]
  · by_cases hix : i = x
    · rw [hix]
      exact hx
    · rw [SlotTable.confirm, Function.update_of_ne hix] at hi
      exact hi

theorem Addressed.expire {bid : CString} {t : SlotTable} (h : Addressed bid t) (n : NodeId) :
    Addressed bid (t.expire n) := by
  refine h.restate (fun i => ?_) (SlotTable.forall_expire
    (Q := fun s => s.active = true ↔ s.state.onBus) h.active ?_) fun i hi => ?_
  · by_cases hin : i = n
    · subst hin
      simp [SlotTable.expire]
    · simp [SlotTable.expire, hin]
  · simp [NodeState.onBus]
  · by_cases hin : i = n
    · subst hin
      simp [SlotTable.expire] at hi
    · rw [SlotTable.expire, Function.update_of_ne hin] at hi
      exact hi

/-! ## Runs of the bus -/

inductive BusEvent where
  /-- `busmgt_inpacket`, and how it gets through to ubnetd -/
  | packet (p : UbPacket) (connect : UbnetdConnect)
  /-- `mgt_tick` -/
  | tick (env : NodeId → NetEnv)

def busStep (d : Daemon) : BusEvent → Except Fault Daemon
  | .packet p connect => busmgtInpacket d p connect
  | .tick env => mgtTick d env

/-- The id is known, or there is room for it. -/
def Registrable (d : Daemon) (id : CString) : Prop :=
  ∃ i, (d.nodes i).free = true ∨ (d.nodes i).id = id

/-- A packet a node or the bridge would send, while there is room for the node and an
address for it, and a single bridge with id `bid`. -/
def AdmissiblePacket (bid : CString) (d : Daemon) (p : UbPacket) : Prop :=
  let len := p.len.toNat
  (p.kind = 0x44 → 7 ≤ len ∧ len ≤ 45 ∧ Registrable d (packetId p 7)
      ∧ ∃ a : Int, 3 ≤ a ∧ a ≤ 254 ∧ ∀ i, (d.nodes i).active = true → (d.nodes i).busadr ≠ a)
    ∧ (p.kind = 0x49 → 1 ≤ len ∧ len ≤ 45)
    ∧ (p.kind = 0x56 → 2 ≤ len ∧ len ≤ 45
      ∧ ∃ i, (d.nodes i).active = true ∧ (d.nodes i).busadr = p.src.toNat)
    ∧ (p.kind = 0x42 → 5 ≤ len ∧ len ≤ 45 ∧ p.src = 2 ∧ packetId p 5 = bid
      ∧ Registrable d bid)

def Admissible (bid : CString) (d : Daemon) : BusEvent → Prop
  | .packet p _ => AdmissiblePacket bid d p
  | .tick _ => True

theorem target_of_registrable {d : Daemon} {id : CString} (h : Registrable d id) :
    ∃ x, d.slots.target id = some x := by
  unfold SlotTable.target
  cases hby : d.slots.byId id with
  | some x => exact ⟨x, rfl⟩
  | none =>
      obtain ⟨i, hi⟩ := h
      have hfree : (d.slots i).free = true := by
        by_contra hused
        exact byId_eq_none.mp hby i (by simpa using hused)
          (hi.resolve_left hused)
      have hsome : (slots.find? fun i => (d.slots i).free).isSome = true := by
        rw [List.find?_isSome]
        exact ⟨i, mem_slots i, hfree⟩
      obtain ⟨x, hx⟩ := Option.isSome_iff_exists.mp hsome
      exact ⟨x, hx⟩

/-- While an address is left, `busmgt_getFreeBusAdr` finds one that nobody holds. -/
theorem freeAdr_fresh {bid : CString} {t : SlotTable} (h : Addressed bid t)
    (hleft : ∃ a : Int, 3 ≤ a ∧ a ≤ 254 ∧ ∀ i, (t i).active = true → (t i).busadr ≠ a) :
    3 ≤ t.freeAdr ∧ t.freeAdr ≤ 254 ∧ ∀ j, t.holder j ≠ some t.freeAdr := by
  rcases freeAdr_spec t with ⟨hlo, hhi, hnone⟩ | ⟨-, hall⟩
  · refine ⟨hlo, hhi, fun j hj => ?_⟩
    obtain ⟨hactive, hadr⟩ := holder_eq_some.mp hj
    exact byAdr_eq_none.mp hnone j (h.used hactive) hactive hadr
  · obtain ⟨a, hlo, hhi, ha⟩ := hleft
    exact absurd (byAdr_eq_none.mpr fun j _ hactive => ha j hactive) (hall a hlo hhi)

/-- Nobody but the bridge holds address 2. -/
theorem Addressed.two_fresh {bid : CString} {t : SlotTable} (h : Addressed bid t) {x : NodeId}
    (htarget : t.target bid = some x) : ∀ j, j ≠ x → t.holder j ≠ some 2 := by
  intro j hj hholds
  obtain ⟨hactive, hadr⟩ := holder_eq_some.mp hholds
  exact hj (h.eq_target htarget hactive (h.bridge j hadr))

/-- Once the bridge is registered, the node found at address 2 is the bridge itself. -/
theorem Addressed.bridge_found {bid : CString} {t : SlotTable} (h : Addressed bid t)
    {x n : NodeId} {state : NodeState} (htarget : t.target bid = some x)
    (hfound : (t.register x bid 2 state).byAdr 2 = some n) : n = x := by
  obtain ⟨-, hactive, hadr⟩ := byAdr_eq_some hfound
  by_contra hne
  rw [SlotTable.register, Function.update_of_ne hne] at hactive hadr
  exact h.two_fresh htarget n hne (holder_eq_some.mpr ⟨hactive, hadr⟩)

theorem Addressed.bridged {bid : CString} {t : SlotTable} (h : Addressed bid t) {x n : NodeId}
    {state : NodeState} (htarget : t.target bid = some x)
    (hfound : (t.register x bid 2 state).byAdr 2 = some n) :
    Addressed bid ((t.register x bid 2 state).confirm n) := by
  have hn := h.bridge_found htarget hfound
  subst hn
  have hstate : (t.register n bid 2 state).confirm n = t.register n bid 2 .normal := by
    simp [SlotTable.confirm, SlotTable.register]
  rw [hstate]
  exact h.register htarget (h.two_fresh htarget) (.inl rfl) (fun _ => rfl) (.inr rfl)

/-- **A packet keeps the invariant.** -/
theorem Addressed.packet {bid : CString} {d : Daemon} {p : UbPacket} {t' : SlotTable}
    (h : Addressed bid d.slots) (hadm : AdmissiblePacket bid d p)
    (hchange : PacketChange p d.slots t') : Addressed bid t' := by
  obtain ⟨hD, -, -, hB⟩ := hadm
  cases hchange with
  | same => exact h
  | discover kind _ slot =>
      obtain ⟨-, -, -, hleft⟩ := hD kind
      obtain ⟨hlo, hhi, hfresh⟩ := freeAdr_fresh h hleft
      exact h.register slot (fun j _ => hfresh j) (.inr ⟨hlo, hhi⟩) (fun h2 => by omega) (.inl rfl)
  | identify _ slot waiting => exact h.confirm ((h.active _).mpr (.inl waiting))
  | @bridge x n t₁ kind slot registered found =>
      obtain ⟨-, -, hsrc, hid, -⟩ := hB kind
      rw [hid] at slot registered
      rw [hsrc, registered] at found
      rw [registered]
      exact h.bridged slot found
  | bridgeFull kind slot found =>
      obtain ⟨-, -, -, hid, hroom⟩ := hB kind
      obtain ⟨x, hx⟩ := target_of_registrable hroom
      rw [hid, hx] at slot
      cases slot

theorem Addressed.expired {bid : CString} {t t' : SlotTable} (h : Addressed bid t)
    (hexp : Expired t t') : Addressed bid t' := by
  induction hexp with
  | refl => exact h
  | step _ _ ih => exact ih.expire _

/-- **One step.** -/
theorem Addressed.step {bid : CString} {d d' : Daemon} {e : BusEvent}
    (h : Addressed bid d.slots) (hadm : Admissible bid d e) (hstep : busStep d e = .ok d') :
    Addressed bid d'.slots := by
  cases e with
  | packet p connect => exact h.packet hadm (busmgtInpacket_change h.free hstep).1
  | tick env => exact h.expired (mgtTick_change hstep).1

/-! ## Progress -/

theorem copyData_total {p : UbPacket} {off : Nat} (hlo : off ≤ p.len.toNat)
    (hhi : p.len.toNat ≤ 45) : ∃ bs, copyData p off (p.len.toNat - off) = .ok bs
      ∧ cstr bs = packetId p off ∧ bs.length ≤ ubPacketData := by
  have hfits : (0 : Int) ≤ p.len.toNat - off
      ∧ (off : Int) + (p.len.toNat - off) ≤ ubPacketData := by
    have : ubPacketData = 45 := by decide
    omega
  refine ⟨_, if_pos hfits, (copyData_ok (if_pos hfits)).1, ?_⟩
  have hdata : p.data.toList.length = ubPacketData := Vector.length_toList
  rw [List.length_take, List.length_drop, hdata]
  omega

section Progress

variable {d : Daemon} {p : UbPacket} {connect : UbnetdConnect}

theorem busmgtDiscover_ok (hfree : ∀ i, (d.slots i).free = true → (d.slots i).active = false)
    (hlo : 7 ≤ p.len.toNat) (hhi : p.len.toNat ≤ 45) :
    ∃ d', busmgtDiscover d p connect = .ok d' := by
  obtain ⟨bs, hbs, hid, -⟩ := copyData_total hlo hhi
  have hclasses : ∃ classes, copyData p 3 4 = .ok classes := ⟨_, if_pos (by decide)⟩
  obtain ⟨classes, hclasses⟩ := hclasses
  have hlen : ¬ p.len.toNat > maxId := by
    simp only [maxId]
    omega
  unfold busmgtDiscover
  simp only [Nat.cast_ofNat] at hbs
  simp only [if_neg hlen, hclasses, hbs, ok_bind, hid]
  unfold mgtCreateNode
  rcases mgtRegisterNode_spec d (packetId_length p 7) hfree .node 0 connect with
    ⟨-, hreg⟩ | ⟨d₁, y, -, hreg, hslots, -⟩
  · simp only [hreg, ok_bind]
    exact ⟨d, rfl⟩
  · have hadr : (d₁.nodes y).busadr = d.slots.freeAdr := by
      have hy := congrFun hslots y
      rw [SlotTable.register, Function.update_self] at hy
      exact congrArg Slot.busadr hy
    have hne : (d₁.nodes y).busadr ≠ 0 := by
      rw [hadr]
      exact freeAdr_ne_zero d.slots
    have hshort : (UInt8.ofInt (d₁.nodes y).busadr :: packetId p 7 ++ [0]).length < 45 := by
      simpa using packetId_fits p ⟨hlo, hhi⟩
    simp only [hreg, ok_bind, if_neg hne, busmgtSetQueryInterval, busmgtSetAddress]
    rw [busmgtSendCmdData_eq _ (by simp), ok_bind, busmgtSendCmdData_eq _ hshort]
    exact ⟨_, rfl⟩

theorem busmgtIdentify_ok (hlo : 1 ≤ p.len.toNat) (hhi : p.len.toNat ≤ 45) :
    ∃ d', busmgtIdentify d p = .ok d' := by
  obtain ⟨bs, hbs, hid, -⟩ := copyData_total hlo hhi
  have hlen : ¬ p.len.toNat > maxId := by
    simp only [maxId]
    omega
  unfold busmgtIdentify
  simp only [if_neg hlen, Nat.cast_one] at hbs ⊢
  simp only [hbs, ok_bind, hid, nodesGetNodeById_slots]
  cases hby : d.slots.byId (packetId p 1) with
  | none => exact ⟨_, busmgtSendReset_eq d p.src⟩
  | some x =>
      have hused : (d.nodes x).free = false := (byId_eq_some.mp hby).1.1
      dsimp only
      split
      · exact ⟨_, busmgtSendReset_eq d p.src⟩
      · split
        · simp only [busmgtSendMulticastGroups_eq, busmgtSendOK_eq, ok_bind, nodesActivateNode,
            setNode_self, hused]
          exact ⟨_, rfl⟩
        · exact ⟨d, rfl⟩

theorem busmgtVersion_ok (hlo : 2 ≤ p.len.toNat) (hhi : p.len.toNat ≤ 45)
    (hfound : ∃ n, d.slots.byAdr p.src.toNat = some n) : ∃ d', busmgtVersion d p = .ok d' := by
  obtain ⟨n, hn⟩ := hfound
  obtain ⟨bs, hbs, -, hlen⟩ := copyData_total hlo hhi
  have hroom : bs.length ≤ maxId := le_trans hlen (by decide)
  obtain ⟨v, hv, -⟩ := memcpy_ok (d.nodes n).version hroom (le_refl bs.length)
  unfold busmgtVersion
  rw [nodesGetNodeByBusAdr_slots, hn]
  simp only [Nat.cast_ofNat] at hbs
  simp only [hbs, hv, ok_bind]
  exact ⟨_, rfl⟩

theorem busmgtAlive_ok : ∃ d', busmgtAlive d p = .ok d' := by
  unfold busmgtAlive
  split
  · exact ⟨_, busmgtSendReset_eq d p.src⟩
  · exact ⟨_, rfl⟩

theorem busmgtBridge_ok (hfree : ∀ i, (d.slots i).free = true → (d.slots i).active = false)
    (hlo : 5 ≤ p.len.toNat) (hhi : p.len.toNat ≤ 45)
    (hfound : ∃ n, (d.slots.bridged p).byAdr p.src.toNat = some n) :
    ∃ d', busmgtBridge d p connect = .ok d' := by
  obtain ⟨bs, hbs, hcstr, -⟩ := copyData_total hlo hhi
  have hclasses : ∃ classes, copyData p 1 4 = .ok classes := ⟨_, if_pos (by decide)⟩
  obtain ⟨classes, hclasses⟩ := hclasses
  obtain ⟨n, hn⟩ := hfound
  have hend : ∀ e o, mgtCreateBridge d (packetId p 5) connect = .ok (e, o) →
      e.slots = d.slots.bridged p → ∃ d', busmgtBridge d p connect = .ok d' := by
    intro e o hcreate hslots
    rw [← hslots] at hn
    unfold busmgtBridge
    simp only [Nat.cast_ofNat] at hbs
    simp only [hclasses, hbs, ok_bind, hcstr, hcreate, nodesGetNodeByBusAdr_slots, hn,
      busmgtSendMulticastGroups_eq, busmgtSendOK_eq]
    exact ⟨_, rfl⟩
  unfold mgtCreateBridge at hend
  rcases mgtRegisterNode_spec d (packetId_length p 5) hfree .bridge 2 connect with
    ⟨htarget, hreg⟩ | ⟨d₁, y, htarget, hreg, hslots, -⟩
  · exact hend d none hreg (bridged_none htarget).symm
  · exact hend d₁ (some y) hreg (hslots.trans (bridged_some htarget).symm)

end Progress

/-- The bridge is found at address 2 once it is registered. -/
theorem bridge_found {bid : CString} {d : Daemon} {p : UbPacket} (hsrc : p.src = 2)
    (hid : packetId p 5 = bid) (hroom : Registrable d bid) :
    ∃ n, (d.slots.bridged p).byAdr p.src.toNat = some n := by
  obtain ⟨x, hx⟩ := target_of_registrable hroom
  subst hid
  rw [bridged_some hx, hsrc, ← Option.ne_none_iff_exists', ne_eq, byAdr_eq_none]
  intro hnone
  have hself := hnone x
  rw [SlotTable.register, Function.update_self] at hself
  exact hself rfl rfl rfl

/-- **No admissible step fails.** -/
theorem busStep_ok {bid : CString} {d : Daemon} {e : BusEvent} (h : Addressed bid d.slots)
    (hadm : Admissible bid d e) : ∃ d', busStep d e = .ok d' := by
  cases e with
  | tick env => exact mgtTick_ok d env
  | packet p connect =>
      obtain ⟨hD, hI, hV, hB⟩ := hadm
      show ∃ d', busmgtInpacket d p connect = .ok d'
      unfold busmgtInpacket
      split_ifs with kD kI kV kA kB
      · obtain ⟨hlo, hhi, -⟩ := hD kD
        exact busmgtDiscover_ok h.free hlo hhi
      · obtain ⟨hlo, hhi⟩ := hI kI
        exact busmgtIdentify_ok hlo hhi
      · obtain ⟨hlo, hhi, i, hactive, hadr⟩ := hV kV
        refine busmgtVersion_ok hlo hhi (Option.ne_none_iff_exists'.mp fun hnone => ?_)
        exact byAdr_eq_none.mp hnone i (h.used hactive) hactive hadr
      · exact busmgtAlive_ok
      · obtain ⟨hlo, hhi, hsrc, hid, hroom⟩ := hB kB
        exact busmgtBridge_ok h.free hlo hhi (bridge_found hsrc hid hroom)
      · exact ⟨d, rfl⟩

/-! ## From the configuration on -/

/-- Nobody is on the bus yet. -/
def SlotTable.Silent (t : SlotTable) : Prop :=
  ∀ i, (t i).active = false ∧ (t i).state = .timeout ∧ (t i).busadr = 0

theorem SlotTable.Silent.addressed {t : SlotTable} (h : t.Silent) (bid : CString) :
    Addressed bid t where
  free := fun i _ => (h i).1
  active := by
    intro i
    obtain ⟨hoff, hstate, -⟩ := h i
    simp [hoff, hstate, NodeState.onBus]
  exclusive := by
    intro i j a hi
    have := (holder_eq_some.mp hi).1
    rw [(h i).1] at this
    cases this
  range := by
    intro i hi
    rw [(h i).1] at hi
    cases hi
  bridge := by
    intro i h2
    rw [(h i).2.2] at h2
    cases h2
  canonical := by
    intro i hi
    rw [(h i).1] at hi
    cases hi

theorem silent_setNode {d : Daemon} (h : d.slots.Silent) (n : NodeId) {f : Node → Node}
    (hf : ∃ id free, (f (d.nodes n)).slot = { d.slots n with id := id, free := free }) :
    (d.setNode n f).slots.Silent := by
  intro i
  rw [setNode_slots]
  by_cases hi : i = n
  · subst hi
    obtain ⟨id, free, hslot⟩ := hf
    rw [Function.update_self, hslot]
    exact h i
  · rw [Function.update_of_ne hi]
    exact h i

theorem configured_silent {nodetimeout : Int} {cs : List NodeConfig} {d : Daemon}
    (h : configured nodetimeout cs = .ok d) : d.slots.Silent := by
  refine configured_invariant (I := fun e => e.slots.Silent) h (fun i => ⟨rfl, rfl, rfl⟩)
    fun e n c he => ?_
  unfold Daemon.withConfigured nodesAddNode
  exact silent_setNode (silent_setNode (silent_setNode he n ⟨_, _, rfl⟩) n ⟨_, _, rfl⟩) n
    ⟨_, _, nodesSetNameFromID_slot _⟩

theorem run_addressed {bid : CString} {nodetimeout : Int} {cs : List NodeConfig} {d₀ d : Daemon}
    {es : List BusEvent} (h₀ : configured nodetimeout cs = .ok d₀)
    (h : Runs.Run busStep (Admissible bid) d₀ es d) : Addressed bid d.slots :=
  h.invariant (I := fun e => Addressed bid e.slots) ((configured_silent h₀).addressed bid)
    fun _ _ _ hs hadm hstep => Addressed.step hs hadm hstep

/-- **Bus addresses are unique**, in every state of every admissible run, and no such
run gets stuck. -/
theorem busAddresses_unique (bid : CString) (nodetimeout : Int) (cs : List NodeConfig)
    (d₀ d : Daemon) (es : List BusEvent) (h₀ : configured nodetimeout cs = .ok d₀)
    (h : Runs.Run busStep (Admissible bid) d₀ es d) :
    (∀ i j, i ≠ j → (d.nodes i).active = true → (d.nodes j).active = true →
        (d.nodes i).busadr ≠ (d.nodes j).busadr)
      ∧ (∀ i, (d.nodes i).active = true → (d.nodes i).busadr = 2
          ∨ (3 ≤ (d.nodes i).busadr ∧ (d.nodes i).busadr ≤ 254))
      ∧ (∀ i, (d.nodes i).busadr = 2 → (d.nodes i).id = bid)
      ∧ ∀ e, Admissible bid d e → ∃ d', busStep d e = .ok d' := by
  have hinv := run_addressed h₀ h
  refine ⟨fun i j hne hi hj heq => ?_, hinv.range, hinv.bridge, fun e hadm => busStep_ok hinv hadm⟩
  exact hne (hinv.exclusive i j _ (holder_eq_some.mpr ⟨hi, rfl⟩)
    (holder_eq_some.mpr ⟨hj, heq.symm⟩))

/-- A `D` packet from a node with this id. -/
def discoverPacket (id : CString) : UbPacket where
  src := 0
  dest := 1
  flags := ubPacketMgt
  cls := 0
  len := UInt8.ofNat (7 + id.length)
  data := Vector.ofFn fun i => ([0x44, 0, 1, 23, 0, 0, 0] ++ id).getD i.val 0

/-- Nothing works outside. -/
def deadEnv : NetEnv := ⟨none, fun _ => false, fun _ => false, false⟩

theorem admissible_discover {bid : CString} {d : Daemon} {p : UbPacket} {connect : UbnetdConnect}
    {a : Int} (hkind : p.kind = 0x44) (hlo : 7 ≤ p.len.toNat) (hhi : p.len.toNat ≤ 45)
    (hroom : Registrable d (packetId p 7)) (ha : 3 ≤ a ∧ a ≤ 254)
    (hfree : ∀ i, (d.nodes i).active = true → (d.nodes i).busadr ≠ a) :
    Admissible bid d (.packet p connect) := by
  refine ⟨fun _ => ⟨hlo, hhi, hroom, a, ha.1, ha.2, hfree⟩, ?_, ?_, ?_⟩
  · exact fun h => absurd (hkind.symm.trans h) (by decide)
  · exact fun h => absurd (hkind.symm.trans h) (by decide)
  · exact fun h => absurd (hkind.symm.trans h) (by decide)

/-- Two nodes are discovered and a second passes. -/
def discoverBoth : List BusEvent :=
  [.packet (discoverPacket [0x61]) .connected, .packet (discoverPacket [0x62]) .connected,
    .tick fun _ => deadEnv]

/-- They get different addresses. -/
theorem busAddresses_unique_discover :
    ∃ d, Runs.Run busStep (Admissible [0x63]) (nodesInit 30) discoverBoth d
      ∧ (d.nodes ⟨0, by decide⟩).active = true ∧ (d.nodes ⟨1, by decide⟩).active = true
      ∧ (d.nodes ⟨0, by decide⟩).busadr ≠ (d.nodes ⟨1, by decide⟩).busadr := by
  obtain ⟨a, ha, hfree, hadr⟩ : ∃ d, Runs.Run busStep (fun _ _ => True) (nodesInit 30)
      (discoverBoth.take 1) d ∧ (d.nodes ⟨1, by decide⟩).free = true
        ∧ ∀ i, (d.nodes i).active = true → (d.nodes i).busadr ≠ 9 := by
    apply Runs.Run.exists_of_eval Fault.assertion
    decide +kernel
  obtain ⟨d, hd, hfirst, hsecond⟩ : ∃ d, Runs.Run busStep (fun _ _ => True) (nodesInit 30)
      discoverBoth d ∧ (d.nodes ⟨0, by decide⟩).active = true
        ∧ (d.nodes ⟨1, by decide⟩).active = true := by
    apply Runs.Run.exists_of_eval Fault.assertion
    decide +kernel
  have hadmissible : Runs.EveryStep busStep (fun _ _ => True) (nodesInit 30)
      (Admissible [0x63]) ([] ++ [.packet (discoverPacket [0x61]) .connected]
        ++ [.packet (discoverPacket [0x62]) .connected] ++ [.tick fun _ => deadEnv]) := by
    refine ((Runs.everyStep_nil.snoc fun t ht => ?_).snoc fun t ht => ?_).snoc
      fun _ _ => trivial
    · rw [ht.nil_inv]
      exact admissible_discover (a := 9) (by decide) (by decide) (by decide)
        ⟨⟨0, by decide⟩, .inl rfl⟩ (by decide) fun i hi => nomatch hi
    · rw [ht.unique ha]
      exact admissible_discover (a := 9) (by decide) (by decide) (by decide)
        ⟨⟨1, by decide⟩, .inl hfree⟩ (by decide) hadr
  have hrun : Runs.Run busStep (Admissible [0x63]) (nodesInit 30) discoverBoth d :=
    (hd.everyStep_iff.mp hadmissible).weaken fun _ _ h => h.2
  exact ⟨d, hrun, hfirst, hsecond, (busAddresses_unique [0x63] 30 [] _ d _ rfl hrun).1 _ _
    (by decide) hfirst hsecond⟩

end Ubd
