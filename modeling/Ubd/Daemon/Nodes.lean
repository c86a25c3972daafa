import Ubd.Daemon.State

/-!
# Daemon.Nodes — `nodes.c`

The node table is searched from its first slot on. A slot that is not free is
never freed again; whether it is in use on the bus is its flag `active`.
-/

namespace Ubd

/-- The slots in the order the loops of `nodes.c` visit them. -/
def slots : List NodeId := List.finRange maxNode

theorem mem_slots (n : NodeId) : n ∈ slots := List.mem_finRange n

/-- `nodes_init` on the zeroed table -/
def nodesInit (nodetimeout : Int) : Daemon where
  nodes := fun _ => { Node.zero with free := true }
  objects := Objects.empty
  dirclient := ⟨[], []⟩
  packetOut := []
  conns := []
  written := []
  nodetimeout := nodetimeout

/-- What `nodes_getFreeNode` resets. -/
def Node.reset (n : Node) : Node :=
  { n with
    netup := false
    groups := fun _ => -1
    classes := fun _ => 0
    netadr := none
    tcpsockets := fun i => { n.tcpsockets i with listeners := [] } }

/-- `nodes_getFreeNode` -/
def nodesGetFreeNode (d : Daemon) : Option (Daemon × NodeId) :=
  (slots.find? fun i => (d.nodes i).free).map fun i => (d.setNode i Node.reset, i)

/-- `nodes_setNameFromID` -/
def nodesSetNameFromID (n : Node) : Node :=
  if n.name = [] then { n with name := n.id.takeWhile (· ≠ 0x2C) } else n

/-- `nodes_addNode` -/
def nodesAddNode (d : Daemon) (newnode : NodeId) : Daemon :=
  d.setNode newnode fun n => nodesSetNameFromID { n with free := false }

/-- `nodes_getNodeCount` -/
def nodesGetNodeCount (d : Daemon) : Nat := slots.countP fun i => !(d.nodes i).free

/-- The loop of `nodes_getNode`. -/
def nodesGetNodeFrom (d : Daemon) : List NodeId → Int → Option NodeId
  | [], _ => none
  | i :: is, node =>
      if (d.nodes i).free = false then
        if node = 0 then some i else nodesGetNodeFrom d is (node - 1)
      else nodesGetNodeFrom d is node

/-- `nodes_getNode` -/
def nodesGetNode (d : Daemon) (node : Int) : Option NodeId := nodesGetNodeFrom d slots node

/-- `nodes_getNodeById` -/
def nodesGetNodeById (d : Daemon) (id : CString) : Option NodeId :=
  slots.find? fun i => !(d.nodes i).free && (d.nodes i).id = id

/-- `nodes_getNodeByBusAdr` -/
def nodesGetNodeByBusAdr (d : Daemon) (adr : Int) : Option NodeId :=
  slots.find? fun i => !(d.nodes i).free && (d.nodes i).active && (d.nodes i).busadr = adr

/-- `nodes_activateNode` -/
def nodesActivateNode (d : Daemon) (node : NodeId) : Except Fault Daemon :=
  if (d.nodes node).free then .error .assertion
  else .ok (d.setNode node fun n => { n with active := true })

/-- `nodes_deactivateNode` -/
def nodesDeactivateNode (d : Daemon) (node : NodeId) : Except Fault Daemon :=
  if (d.nodes node).free then .error .assertion
  else .ok (d.setNode node fun n => { n with active := false })

/-! ## Searching -/

theorem nodesGetFreeNode_some {d d' : Daemon} {i : NodeId}
    (h : nodesGetFreeNode d = some (d', i)) :
    (d.nodes i).free = true ∧ d' = d.setNode i Node.reset := by
  rw [nodesGetFreeNode, Option.map_eq_some_iff] at h
  obtain ⟨j, hj, heq⟩ := h
  cases heq
  exact ⟨by simpa using List.find?_some hj, rfl⟩

theorem nodesActivateNode_eq {d d' : Daemon} {n : NodeId} (h : nodesActivateNode d n = .ok d') :
    d' = d.setNode n fun x => { x with active := true } := by
  unfold nodesActivateNode at h
  split at h
  · cases h
  · cases h
    rfl

/-! ## Counted iteration -/

theorem nodesGetNodeFrom_eq (d : Daemon) (l : List NodeId) (k : Nat) :
    nodesGetNodeFrom d l k = (l.filter fun i => !(d.nodes i).free)[k]? := by
  induction l generalizing k with
  | nil => rfl
  | cons i l ih =>
      cases hfree : (d.nodes i).free with
      | true => simp [nodesGetNodeFrom, hfree, ih]
      | false =>
          cases k with
          | zero => simp [nodesGetNodeFrom, hfree]
          | succ k =>
              have hne : ((k + 1 : Nat) : Int) ≠ 0 := by omega
              have hpred : ((k + 1 : Nat) : Int) - 1 = k := by omega
              rw [nodesGetNodeFrom, if_pos hfree, if_neg hne, hpred, ih]
              simp [hfree]

/-- Counted iteration visits the slots in use, in their order. -/
theorem nodesGetNode_eq (d : Daemon) (k : Nat) :
    nodesGetNode d k = (slots.filter fun i => !(d.nodes i).free)[k]? :=
  nodesGetNodeFrom_eq d slots k

theorem nodesGetNodeCount_eq (d : Daemon) :
    nodesGetNodeCount d = (slots.filter fun i => !(d.nodes i).free).length :=
  List.countP_eq_length_filter

theorem nodesGetNode_lt {d : Daemon} {k : Nat} (h : k < nodesGetNodeCount d) :
    ∃ i, nodesGetNode d k = some i ∧ (d.nodes i).free = false := by
  rw [nodesGetNodeCount_eq] at h
  refine ⟨_, (nodesGetNode_eq d k).trans (List.getElem?_eq_getElem h), ?_⟩
  have := (List.mem_filter.mp (List.getElem_mem h)).2
  simpa using this

/-- The count depends on the `free` flags alone. -/
theorem nodesGetNodeCount_congr {d d' : Daemon} (h : ∀ i, (d'.nodes i).free = (d.nodes i).free) :
    nodesGetNodeCount d' = nodesGetNodeCount d := by
  simp only [nodesGetNodeCount_eq, h]

end Ubd
