import Ubd.Daemon.Busmgt
import Ubd.Lib.Runs

/-!
# Daemon.Slots — the addresses in the node table

Of a node, the addressing of the bus only depends on five fields. `Slot` collects
them, the lookups of `nodes.c` are functions of the table of slots, and `Quiet` says
what all management leaves alone.
-/

namespace Ubd

structure Slot where
  id : CString
  free : Bool
  active : Bool
  state : NodeState
  busadr : Int
  deriving DecidableEq

def Node.slot (n : Node) : Slot := ⟨n.id, n.free, n.active, n.state, n.busadr⟩

abbrev SlotTable := NodeId → Slot

def Daemon.slots (d : Daemon) : SlotTable := fun i => (d.nodes i).slot

@[simp] theorem slot_nodes (d : Daemon) (i : NodeId) : (d.nodes i).slot = d.slots i := rfl

@[simp] theorem setNode_slots (d : Daemon) (n : NodeId) (f : Node → Node) :
    (d.setNode n f).slots = Function.update d.slots n (f (d.nodes n)).slot := by
  funext i
  by_cases h : i = n
  · subst h
    rw [Function.update_self]
    exact congrArg Node.slot (setNode_self d i f)
  · rw [Function.update_of_ne h]
    exact congrArg Node.slot (setNode_of_ne d n f h)

/-- Writing fields that are not in the slot. -/
theorem setNode_slots_same (d : Daemon) (n : NodeId) {f : Node → Node}
    (h : (f (d.nodes n)).slot = (d.nodes n).slot) : (d.setNode n f).slots = d.slots := by
  rw [setNode_slots, h]
  exact Function.update_eq_self n d.slots

@[simp] theorem onNet_slots (d : Daemon) (n : NodeId) (f : NetState → NetState) :
    (d.onNet n f).slots = d.slots := by
  funext i
  have h := congrArg Node.slot (onNet_bus d n f i)
  exact h

@[simp] theorem onNet_busadr (d : Daemon) (n : NodeId) (f : NetState → NetState) (i : NodeId) :
    ((d.onNet n f).nodes i).busadr = (d.nodes i).busadr := by
  have h := congrArg Node.busadr (onNet_bus d n f i)
  exact h

theorem onNet_touched (d : Daemon) (n : NodeId) (f : NetState → NetState) (i : NodeId) :
    (d.onNet n f).Touched i ↔
      (if i = n then (f ⟨(d.nodes n).toNodeNet, d.objects, d.dirclient⟩).net.ubnetd ≠ none
        else (d.nodes i).ubnetd ≠ none)
      ∨ (f ⟨(d.nodes n).toNodeNet, d.objects, d.dirclient⟩).objects.serves i := by
  unfold Daemon.Touched Daemon.onNet
  dsimp only
  by_cases hi : i = n
  · subst hi
    rw [setNode_self, if_pos rfl]
  · rw [setNode_of_ne d n _ hi, if_neg hi]

@[simp] theorem nodesSetNameFromID_slot (n : Node) : (nodesSetNameFromID n).slot = n.slot := by
  unfold nodesSetNameFromID
  split <;> rfl

/-! ## Looking up -/

/-- The first slot in use with this id. -/
def SlotTable.byId (t : SlotTable) (id : CString) : Option NodeId :=
  slots.find? fun i => !(t i).free && (t i).id = id

/-- The slot is active at this address. -/
def Slot.holds (s : Slot) (adr : Int) : Bool := !s.free && s.active && s.busadr = adr

/-- The first slot that is active at this address. -/
def SlotTable.byAdr (t : SlotTable) (adr : Int) : Option NodeId :=
  slots.find? fun i => (t i).holds adr

/-- The first address from 3 to 254 that is not taken. -/
def SlotTable.freeAdr (t : SlotTable) : Int :=
  match (List.range' 3 252).find? fun i : Nat => (t.byAdr i).isNone with
  | some i => i
  | none => -1

theorem nodesGetNodeById_slots (d : Daemon) (id : CString) :
    nodesGetNodeById d id = d.slots.byId id := rfl

theorem nodesGetNodeByBusAdr_slots (d : Daemon) (adr : Int) :
    nodesGetNodeByBusAdr d adr = d.slots.byAdr adr := rfl

theorem busmgtGetFreeBusAdr_slots (d : Daemon) : busmgtGetFreeBusAdr d = d.slots.freeAdr := rfl

theorem find?_slots_eq_some {p : NodeId → Bool} {i : NodeId} :
    slots.find? p = some i ↔ p i = true ∧ ∀ j < i, p j = false := by
  rw [List.find?_eq_some_iff_getElem]
  constructor
  · rintro ⟨hp, k, hk, hi, hlt⟩
    have hki : k = i.val := by
      rw [← hi]
      simp [slots]
    refine ⟨hp, fun j hj => ?_⟩
    have := hlt j.val (by simpa [hki] using hj)
    simpa [slots] using this
  · rintro ⟨hp, hlt⟩
    refine ⟨hp, i.val, by simp [slots], by simp [slots], fun j hj => ?_⟩
    have := hlt ⟨j, by omega⟩ (by exact hj)
    simpa [slots] using this

theorem byId_eq_some {t : SlotTable} {id : CString} {i : NodeId} :
    t.byId id = some i ↔
      ((t i).free = false ∧ (t i).id = id) ∧ ∀ j < i, (t j).free = false → (t j).id ≠ id := by
  rw [SlotTable.byId, find?_slots_eq_some]
  simp

theorem byId_eq_none {t : SlotTable} {id : CString} :
    t.byId id = none ↔ ∀ j, (t j).free = false → (t j).id ≠ id := by
  rw [SlotTable.byId, List.find?_eq_none]
  constructor
  · intro h j hj
    simpa [hj] using h j (mem_slots j)
  · intro h j _
    simpa using h j

/-- Ids are looked up by the ids and the slots in use. -/
theorem byId_congr {t t' : SlotTable} (h : ∀ i, (t' i).free = (t i).free ∧ (t' i).id = (t i).id)
    (id : CString) : t'.byId id = t.byId id := by
  unfold SlotTable.byId
  simp only [(h _).1, (h _).2]

theorem byAdr_eq_some {t : SlotTable} {adr : Int} {i : NodeId} (h : t.byAdr adr = some i) :
    (t i).free = false ∧ (t i).active = true ∧ (t i).busadr = adr := by
  have := (find?_slots_eq_some.mp h).1
  simpa [Slot.holds, and_assoc] using this

theorem byAdr_eq_none {t : SlotTable} {adr : Int} :
    t.byAdr adr = none ↔
      ∀ j, (t j).free = false → (t j).active = true → (t j).busadr ≠ adr := by
  rw [SlotTable.byAdr, List.find?_eq_none]
  constructor
  · intro h j hfree hactive
    simpa [Slot.holds, hfree, hactive] using h j (mem_slots j)
  · intro h j _
    simpa [Slot.holds] using h j

/-- What `busmgt_getFreeBusAdr` returns. -/
theorem freeAdr_spec (t : SlotTable) :
    (3 ≤ t.freeAdr ∧ t.freeAdr ≤ 254 ∧ t.byAdr t.freeAdr = none)
      ∨ (t.freeAdr = -1 ∧ ∀ a : Int, 3 ≤ a → a ≤ 254 → t.byAdr a ≠ none) := by
  cases hf : (List.range' 3 252).find? fun i : Nat => (t.byAdr i).isNone with
  | some i =>
      have hadr : t.freeAdr = i := by simp only [SlotTable.freeAdr, hf]
      have hmem := List.mem_of_find?_eq_some hf
      have hnone := List.find?_some hf
      rw [List.mem_range'_1] at hmem
      refine .inl ⟨by omega, by omega, ?_⟩
      rw [hadr]
      simpa using hnone
  | none =>
      refine .inr ⟨by simp only [SlotTable.freeAdr, hf], fun a hlo hhi hnone => ?_⟩
      have := List.find?_eq_none.mp hf a.toNat (by rw [List.mem_range'_1]; omega)
      rw [Int.toNat_of_nonneg (by omega), hnone] at this
      simp at this

/-- The 0 of nodes without an address is never given to one. -/
theorem freeAdr_ne_zero (t : SlotTable) : t.freeAdr ≠ 0 := by
  rcases freeAdr_spec t with ⟨hlo, -, -⟩ | ⟨hnone, -⟩ <;> omega

/-! ## What handlers leave alone -/

/-- The fields of a node that the two threads of `packet.c` share. -/
structure Stream where
  currentcallback : Option Callback
  currentdata : Gpointer
  nextcallback : Option Callback
  nextdata : Gpointer
  deriving DecidableEq

def Node.stream (n : Node) : Stream :=
  ⟨n.currentcallback, n.currentdata, n.nextcallback, n.nextdata⟩

def Daemon.streams (d : Daemon) : NodeId → Stream := fun i => (d.nodes i).stream

@[simp] theorem nodesSetNameFromID_stream (n : Node) :
    (nodesSetNameFromID n).stream = n.stream := by
  unfold nodesSetNameFromID
  split <;> rfl

@[simp] theorem nodesSetNameFromID_ubnetd (n : Node) :
    (nodesSetNameFromID n).ubnetd = n.ubnetd := by
  unfold nodesSetNameFromID
  split <;> rfl

@[simp] theorem nodesSetNameFromID_busadr (n : Node) :
    (nodesSetNameFromID n).busadr = n.busadr :=
  congrArg Slot.busadr (nodesSetNameFromID_slot n)

theorem setNode_streams_same (d : Daemon) (n : NodeId) {f : Node → Node}
    (h : (f (d.nodes n)).stream = (d.nodes n).stream) : (d.setNode n f).streams = d.streams := by
  funext i
  by_cases hi : i = n
  · subst hi
    simpa [Daemon.streams] using h
  · simp [Daemon.streams, setNode_of_ne d n f hi]

@[simp] theorem onNet_streams (d : Daemon) (n : NodeId) (f : NetState → NetState) :
    (d.onNet n f).streams = d.streams := by
  funext i
  have h := congrArg Node.stream (onNet_bus d n f i)
  exact h

/-- Management only queues packets that belong to no node, and touches neither the
connections nor the fields of the packet threads. A node it gives an address keeps having
one, and the network side only deals with such nodes. -/
structure Quiet (d d' : Daemon) : Prop where
  queued : ∃ ms, d'.packetOut = d.packetOut ++ ms ∧ ∀ m ∈ ms, m.n = none
  conns : d'.conns = d.conns
  written : d'.written = d.written
  nodetimeout : d'.nodetimeout = d.nodetimeout
  streams : d'.streams = d.streams
  assigned : ∀ i, (d.nodes i).busadr ≠ 0 → (d'.nodes i).busadr ≠ 0
  touched : ∀ i, d'.Touched i → d.Touched i ∨ (d'.nodes i).busadr ≠ 0

theorem Quiet.refl (d : Daemon) : Quiet d d where
  queued := ⟨[], by simp, by simp⟩
  conns := rfl
  written := rfl
  nodetimeout := rfl
  streams := rfl
  assigned := fun _ h => h
  touched := fun _ h => .inl h

theorem Quiet.trans {a b c : Daemon} (h : Quiet a b) (h' : Quiet b c) : Quiet a c where
  queued := by
    obtain ⟨ms, hms, hn⟩ := h.queued
    obtain ⟨ms', hms', hn'⟩ := h'.queued
    refine ⟨ms ++ ms', by rw [hms', hms, List.append_assoc], fun m hm => ?_⟩
    rcases List.mem_append.mp hm with hm | hm
    · exact hn m hm
    · exact hn' m hm
  conns := h'.conns.trans h.conns
  written := h'.written.trans h.written
  nodetimeout := h'.nodetimeout.trans h.nodetimeout
  streams := h'.streams.trans h.streams
  assigned := fun i hi => h'.assigned i (h.assigned i hi)
  touched := by
    intro i hi
    rcases h'.touched i hi with hb | hc
    · rcases h.touched i hb with ha | hb
      · exact .inl ha
      · exact .inr (h'.assigned i hb)
    · exact .inr hc

/-- Writing to a node what is neither shared with the packet threads nor about ubnetd. -/
theorem quiet_setNode (d : Daemon) (n : NodeId) {f : Node → Node}
    (hstream : (f (d.nodes n)).stream = (d.nodes n).stream)
    (hubnetd : (f (d.nodes n)).ubnetd = (d.nodes n).ubnetd)
    (hbusadr : (f (d.nodes n)).busadr = (d.nodes n).busadr ∨ (f (d.nodes n)).busadr ≠ 0) :
    Quiet d (d.setNode n f) :=
  { Quiet.refl d with
    streams := setNode_streams_same d n hstream
    assigned := by
      intro i hi
      by_cases hin : i = n
      · subst hin
        rw [setNode_self]
        rcases hbusadr with hsame | hne
        · rw [hsame]
          exact hi
        · exact hne
      · rw [setNode_of_ne d n f hin]
        exact hi
    touched := by
      intro i hi
      refine .inl (hi.imp_left fun hub => ?_)
      by_cases hin : i = n
      · subst hin
        rw [setNode_self, hubnetd] at hub
        exact hub
      · rw [setNode_of_ne d n f hin] at hub
        exact hub }

/-- Running the network side of a node. -/
theorem quiet_onNet (d : Daemon) (n : NodeId) {f : NetState → NetState}
    (htouched : ∀ i, (d.onNet n f).Touched i → d.Touched i ∨ (d.nodes i).busadr ≠ 0) :
    Quiet d (d.onNet n f) :=
  { Quiet.refl d with
    streams := onNet_streams d n f
    assigned := fun i hi => by
      rw [onNet_busadr]
      exact hi
    touched := fun i hi => by
      rw [onNet_busadr]
      exact htouched i hi }

/-! ## The configuration -/

/-- What a slot gets from the configuration. -/
def NodeConfig.fill (c : NodeConfig) (x : Node) : Node :=
  { x with
    id := c.id.take (maxId - 1)
    name := if c.hostname = [] then x.name else c.hostname.take (maxId - 1)
    netadr := if c.address ≠ [] ∧ c.parses then some (.fromString c.address) else none
    groups := fun i => c.groups.getD i.val (x.groups i) }

/-- The daemon with one more configured node. -/
def Daemon.withConfigured (d : Daemon) (n : NodeId) (c : NodeConfig) : Daemon :=
  nodesAddNode ((d.setNode n Node.reset).setNode n c.fill) n

theorem xmlParseNode_ok {d d' : Daemon} {c : NodeConfig} (h : xmlParseNode d c = .ok d') :
    ∃ n, slots.find? (fun i => (d.slots i).free) = some n ∧ d' = d.withConfigured n c := by
  unfold xmlParseNode nodesGetFreeNode at h
  cases hfree : slots.find? (fun i => (d.nodes i).free) with
  | none =>
      rw [hfree] at h
      cases h
  | some n =>
      rw [hfree] at h
      dsimp only [Option.map_some] at h
      split at h
      · cases h
        exact ⟨n, hfree, rfl⟩
      · cases h

/-- **The rule for configurations.** -/
theorem configured_invariant {I : Daemon → Prop} {nodetimeout : Int} {cs : List NodeConfig}
    {d : Daemon} (h : configured nodetimeout cs = .ok d) (h₀ : I (nodesInit nodetimeout))
    (hadd : ∀ d n c, I d → I (d.withConfigured n c)) : I d := by
  refine Runs.foldlM_invariant (I := I) (fun c _ e e' he hparse => ?_) h₀ h
  obtain ⟨n, -, rfl⟩ := xmlParseNode_ok hparse
  exact hadd e n c he

end Ubd
