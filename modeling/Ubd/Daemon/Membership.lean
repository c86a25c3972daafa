import Ubd.Daemon.GroupTable
import Ubd.Daemon.Managed

/-!
# Daemon.Membership — the groups of a configured node

A `<node>` of the configuration names its groups. `xml_parseNode` stores their addresses in an
array of 32 entries, and whenever the node is confirmed `busmgt_sendMulticastGroups` sends what
is in the array. Nothing checks that the groups fit: `membership_reaches_iff`.
-/

namespace Ubd

open Filled Runs

/-! ## `xml_parsegroupsandnodes` -/

/-- A `<node>`, with the `name` of each `<group>` below it. An empty string stands for an
attribute that is missing, and `parses` is that of `NodeConfig`. -/
structure NodeElement where
  id : CString
  hostname : CString
  address : CString
  parses : Bool
  groups : List CString

/-- The addresses `xml_parseNode` gets for the groups of a node. -/
def NodeElement.resolved (t : GroupTable) (e : NodeElement) : Except Fault NodeConfig := do
  let groups ← e.groups.mapM t.getBusAddress
  return ⟨e.id, e.hostname, e.address, e.parses, groups⟩

/-- `xml_parsegroupsandnodes`, after `groups_init` and `nodes_init` -/
def xmlParsegroupsandnodes (nodetimeout : Int) (gs : List GroupConfig) (es : List NodeElement) :
    Except Fault (GroupTable × Daemon) := do
  let t ← GroupTable.parsed gs
  let d ← es.foldlM (fun d e => do xmlParseNode d (← e.resolved t)) (nodesInit nodetimeout)
  return (t, d)

/-! ## The groups that are defined -/

/-- The groups of a configuration that get into the table: those with a socket, a name that is
new, and a place. -/
def definedGroups (gs : List GroupConfig) : List GroupConfig :=
  gs.foldl (fun acc c =>
    if c.socket = true ∧ c.name ∉ acc.map GroupConfig.name ∧ acc.length < maxGroups
    then acc ++ [c] else acc) []

/-- The address of the group that a name stands for. -/
def definedAddress (gs : List GroupConfig) (name : CString) : Option Int :=
  let g := (definedGroups gs).findIdx? fun c => decide (c.name = name)
  g.map fun g : Nat => 0x80 + (g : Int)

theorem definedGroups_append (gs : List GroupConfig) (c : GroupConfig) :
    definedGroups (gs ++ [c])
      = if c.socket = true ∧ c.name ∉ (definedGroups gs).map GroupConfig.name
            ∧ (definedGroups gs).length < maxGroups
        then definedGroups gs ++ [c] else definedGroups gs := by
  simp [definedGroups, List.foldl_append]

/-- The table of these groups. -/
def numberedGroups (cs : List GroupConfig) : List MulticastGroup :=
  cs.mapIdx fun g c => c.group g

theorem numberedGroups_append (cs : List GroupConfig) (c : GroupConfig) :
    numberedGroups (cs ++ [c]) = numberedGroups cs ++ [c.group cs.length] := by
  simp [numberedGroups, List.mapIdx_append]

theorem numberedGroups_names (cs : List GroupConfig) :
    (numberedGroups cs).map MulticastGroup.name = cs.map GroupConfig.name := by
  apply List.ext_getElem?
  intro i
  simp only [numberedGroups, List.getElem?_map, List.getElem?_mapIdx, Option.map_map]
  rfl

theorem numberedGroups_length (cs : List GroupConfig) :
    (numberedGroups cs).length = cs.length := by
  simp [numberedGroups]

theorem isSome_groupsGetGroupByName {groups : List MulticastGroup} {name : CString} :
    (groupsGetGroupByName groups name).isSome = true
      ↔ name ∈ groups.map MulticastGroup.name := by
  simp [groupsGetGroupByName, List.isSome_find?]

/-- What the table refuses is not defined. -/
theorem GroupTable.Stands.refuses_defined_iff {t : GroupTable} {cs : List GroupConfig}
    (h : t.Stands (numberedGroups cs)) (c : GroupConfig) : ¬ t.Refuses c
      ↔ c.socket = true ∧ c.name ∉ cs.map GroupConfig.name ∧ cs.length < maxGroups := by
  rw [h.refuses_iff, isSome_groupsGetGroupByName, numberedGroups_names, numberedGroups_length]
  simp only [not_or, not_not, Bool.not_eq_false]
  exact ⟨fun ⟨hname, hroom, hsocket⟩ => ⟨hsocket, hname, hroom⟩,
    fun ⟨hsocket, hname, hroom⟩ => ⟨hname, hroom, hsocket⟩⟩

/-- The host names of the groups that get into the table fit there. -/
def HostnamesFit (gs : List GroupConfig) : Prop :=
  ∀ c ∈ definedGroups gs, c.hostname.length < 100

theorem HostnamesFit.init {gs : List GroupConfig} {c : GroupConfig}
    (h : HostnamesFit (gs ++ [c])) : HostnamesFit gs := by
  intro x hx
  refine h x ?_
  rw [definedGroups_append]
  split
  · exact List.mem_append_left _ hx
  · exact hx

/-- **The table of a configuration.** -/
theorem parsed_defined {gs : List GroupConfig} (h : HostnamesFit gs) :
    ∃ t, GroupTable.parsed gs = .ok t ∧ t.Stands (numberedGroups (definedGroups gs)) := by
  induction gs using List.reverseRecOn with
  | nil => exact ⟨groupsInit, rfl, groupsInit_stands⟩
  | append_singleton gs c ih =>
      obtain ⟨t, hrun, hstands⟩ := ih h.init
      have hlast : GroupTable.parsed (gs ++ [c]) = t.addGroup c := by
        unfold GroupTable.parsed at hrun ⊢
        rw [List.foldlM_append, hrun, ok_bind, List.foldlM_cons]
        exact bind_ok _
      rw [hlast, definedGroups_append]
      split
      · rename_i hdefined
        have haccepted := (hstands.refuses_defined_iff c).mpr hdefined
        have hfits : c.hostname.length < 100 := by
          refine h c ?_
          rw [definedGroups_append, if_pos hdefined]
          exact List.mem_append_right _ (List.mem_singleton_self c)
        have hadd := (addGroup_accepted hstands haccepted).1
        rw [if_pos hfits] at hadd
        refine ⟨_, hadd, ?_⟩
        rw [numberedGroups_append, ← numberedGroups_length (definedGroups gs)]
        exact hstands.append haccepted hfits
      · rename_i hdefined
        have hrefused := not_not.mp (mt (hstands.refuses_defined_iff c).mp hdefined)
        exact ⟨t, (addGroup_refused hstands hrefused).1, hstands⟩

/-- A host name that does not fit ends it. -/
theorem parsed_ok_iff (gs : List GroupConfig) :
    (∃ t, GroupTable.parsed gs = .ok t) ↔ HostnamesFit gs := by
  refine ⟨fun hrun => ?_, fun h => ?_⟩
  · induction gs using List.reverseRecOn with
    | nil => exact fun c hc => nomatch hc
    | append_singleton gs c ih =>
        obtain ⟨t', hrun⟩ := hrun
        obtain ⟨t, hinit, hlast⟩ := foldlM_append_ok.mp hrun
        obtain ⟨t₁, hadd, -⟩ := foldlM_cons_ok.mp hlast
        have hfit := ih ⟨t, hinit⟩
        obtain ⟨t₂, hrun₂, hstands⟩ := parsed_defined hfit
        have hsame : t = t₂ := Except.ok.inj (hinit.symm.trans hrun₂)
        subst hsame
        intro x hx
        rw [definedGroups_append] at hx
        split at hx
        · rename_i hdefined
          rcases List.mem_append.mp hx with hx | hx
          · exact hfit x hx
          · rw [List.mem_singleton.mp hx]
            have haccepted := (hstands.refuses_defined_iff c).mpr hdefined
            rw [(addGroup_accepted hstands haccepted).1] at hadd
            split at hadd
            · assumption
            · cases hadd
        · exact hfit x hx
  · obtain ⟨t, hrun, -⟩ := parsed_defined h
    exact ⟨t, hrun⟩

/-- What `groups_getBusAddress` answers. -/
theorem getBusAddress_eq {t : GroupTable} {gs : List GroupConfig}
    (h : t.Stands (numberedGroups (definedGroups gs))) (name : CString) :
    t.getBusAddress name = .ok ((definedAddress gs name).getD (-1)) := by
  have hfind : ((numberedGroups (definedGroups gs)).findIdx? fun g => decide (g.name = name))
      = (definedGroups gs).findIdx? fun c => decide (c.name = name) := by
    have hnames : ∀ (groups : List MulticastGroup),
        groups.findIdx? (fun g => decide (g.name = name))
          = (groups.map MulticastGroup.name).findIdx? fun n => decide (n = name) := by
      intro groups
      rw [List.findIdx?_map]
      rfl
    rw [hnames, numberedGroups_names, List.findIdx?_map]
    rfl
  unfold GroupTable.getBusAddress definedAddress
  rw [getGroupByName_eq h, hfind, ok_bind]
  cases hi : (definedGroups gs).findIdx? fun c => decide (c.name = name) with
  | none => rfl
  | some g =>
      obtain ⟨hg, -⟩ := List.findIdx?_eq_some_iff_getElem.mp hi
      have hat : (numberedGroups (definedGroups gs))[g]?
          = some (((definedGroups gs)[g]).group g) := by
        simp [numberedGroups, hg]
      have hentry := (h.entry_iff (by rw [h.count, numberedGroups_length]; exact hg)).mpr
        ⟨_, hat, rfl⟩
      dsimp only
      rw [hentry]
      show Except.ok ((g : Int) + groupsStartaddress) = .ok (0x80 + (g : Int))
      rw [Int.add_comm]
      rfl

/-- The addresses a node gets: those of its groups, and -1 for a name that is none. -/
def NodeElement.config (gs : List GroupConfig) (e : NodeElement) : NodeConfig :=
  ⟨e.id, e.hostname, e.address, e.parses,
    e.groups.map fun name => (definedAddress gs name).getD (-1)⟩

theorem resolved_eq {t : GroupTable} {gs : List GroupConfig}
    (h : t.Stands (numberedGroups (definedGroups gs))) (e : NodeElement) :
    e.resolved t = .ok (e.config gs) := by
  have hmap : ∀ l : List CString, l.mapM t.getBusAddress
      = .ok (l.map fun name => (definedAddress gs name).getD (-1)) := by
    intro l
    induction l with
    | nil => rfl
    | cons name l ih => rw [List.mapM_cons, getBusAddress_eq h, ok_bind, ih, ok_bind]; rfl
  unfold NodeElement.resolved
  rw [hmap, ok_bind]
  rfl

/-- Groups and nodes are loaded one after the other. -/
theorem xmlParsegroupsandnodes_eq {t : GroupTable} {gs : List GroupConfig}
    (hrun : GroupTable.parsed gs = .ok t)
    (h : t.Stands (numberedGroups (definedGroups gs))) (nodetimeout : Int)
    (es : List NodeElement) : xmlParsegroupsandnodes nodetimeout gs es
      = configured nodetimeout (es.map (NodeElement.config gs)) >>= fun d => .ok (t, d) := by
  have hbody : (fun d e => do xmlParseNode d (← NodeElement.resolved t e))
      = fun d e => xmlParseNode d (e.config gs) := by
    funext d e
    rw [resolved_eq h, ok_bind]
  unfold xmlParsegroupsandnodes configured
  rw [hrun, ok_bind, hbody, List.foldlM_map]
  rfl

/-! ## Loading the nodes -/

/-- A slot that was never used. -/
def Node.unused : Node := { Node.zero with free := true }

/-- A slot that was configured. -/
def NodeConfig.loaded (c : NodeConfig) : Node :=
  nodesSetNameFromID { c.fill Node.unused.reset with free := false }

/-- The daemon with these nodes configured, from slot 0 on. -/
def loadedDaemon (nodetimeout : Int) (cs : List NodeConfig) : Daemon :=
  { nodesInit nodetimeout with nodes := fun i => (cs[i.val]?).elim Node.unused NodeConfig.loaded }

theorem loaded_free (c : NodeConfig) : c.loaded.free = false :=
  congrArg Slot.free (nodesSetNameFromID_slot _)

theorem loaded_groups (c : NodeConfig) :
    c.loaded.groups = fun i => c.groups.getD i.val (-1) := by
  unfold NodeConfig.loaded nodesSetNameFromID
  split <;> rfl

section Loading

variable {nodetimeout : Int} {cs : List NodeConfig} {c : NodeConfig} {d : Daemon}

theorem loadedDaemon_nodes {i : NodeId} (hi : cs[i.val]? = some c) :
    (loadedDaemon nodetimeout cs).nodes i = c.loaded := by
  simp only [loadedDaemon, hi, Option.elim_some]

theorem loadedDaemon_unused {i : NodeId} (hi : cs.length ≤ i.val) :
    (loadedDaemon nodetimeout cs).nodes i = Node.unused := by
  simp only [loadedDaemon, List.getElem?_eq_none hi, Option.elim_none]

/-- The first slot that is free. -/
theorem loadedDaemon_find (hroom : cs.length < maxNode) :
    slots.find? (fun i => ((loadedDaemon nodetimeout cs).slots i).free)
      = some ⟨cs.length, hroom⟩ := by
  refine find?_slots_eq_some.mpr ⟨?_, fun j hj => ?_⟩
  · rw [← slot_nodes, loadedDaemon_unused (Nat.le_refl _)]
    rfl
  · have hlt : j.val < cs.length := hj
    rw [← slot_nodes, loadedDaemon_nodes (List.getElem?_eq_getElem hlt)]
    exact loaded_free _

theorem loadedDaemon_full (hfull : maxNode ≤ cs.length) :
    slots.find? (fun i => ((loadedDaemon nodetimeout cs).slots i).free) = none := by
  rw [List.find?_eq_none]
  intro i _
  have hlt : i.val < cs.length := Nat.lt_of_lt_of_le i.isLt hfull
  rw [← slot_nodes, loadedDaemon_nodes (List.getElem?_eq_getElem hlt)]
  simp [Node.slot, loaded_free]

/-- One more. -/
theorem loadedDaemon_withConfigured (hroom : cs.length < maxNode) :
    (loadedDaemon nodetimeout cs).withConfigured ⟨cs.length, hroom⟩ c
      = loadedDaemon nodetimeout (cs ++ [c]) := by
  have hwrites : (loadedDaemon nodetimeout cs).withConfigured ⟨cs.length, hroom⟩ c
      = { loadedDaemon nodetimeout cs with
          nodes := Function.update (loadedDaemon nodetimeout cs).nodes ⟨cs.length, hroom⟩
            c.loaded } := by
    unfold Daemon.withConfigured nodesAddNode Daemon.setNode
    simp only [Function.update_idem, Function.update_self]
    rw [loadedDaemon_unused (Nat.le_refl _)]
    rfl
  rw [hwrites]
  unfold loadedDaemon
  refine congrArg (fun nodes => { nodesInit nodetimeout with nodes := nodes }) (funext fun i => ?_)
  by_cases hi : i = ⟨cs.length, hroom⟩
  · subst hi
    rw [Function.update_self]
    simp
  · rw [Function.update_of_ne hi]
    have hne : i.val ≠ cs.length := fun heq => hi (Fin.ext heq)
    show (cs[i.val]?).elim Node.unused NodeConfig.loaded
      = ((cs ++ [c])[i.val]?).elim Node.unused NodeConfig.loaded
    rcases Nat.lt_or_gt_of_ne hne with hlt | hgt
    · rw [List.getElem?_append_left hlt]
    · have hlen : (cs ++ [c]).length ≤ i.val := by
        rw [List.length_append, List.length_singleton]
        omega
      rw [List.getElem?_eq_none (Nat.le_of_lt hgt), List.getElem?_eq_none hlen]

theorem xmlParseNode_loaded : xmlParseNode (loadedDaemon nodetimeout cs) c
    = if cs.length < maxNode then
        if c.groups.length ≤ maxClass then .ok (loadedDaemon nodetimeout (cs ++ [c]))
        else .error .outOfBounds
      else .error .nullPointer := by
  by_cases hroom : cs.length < maxNode
  · have hfree : slots.find? (fun i => ((loadedDaemon nodetimeout cs).nodes i).free)
        = some ⟨cs.length, hroom⟩ := loadedDaemon_find hroom
    rw [if_pos hroom, ← loadedDaemon_withConfigured hroom]
    unfold xmlParseNode nodesGetFreeNode
    rw [hfree]
    rfl
  · have hfree : slots.find? (fun i => ((loadedDaemon nodetimeout cs).nodes i).free) = none :=
      loadedDaemon_full (Nat.le_of_not_lt hroom)
    rw [if_neg hroom]
    unfold xmlParseNode nodesGetFreeNode
    rw [hfree]
    rfl

/-- **What is loaded**, and when loading comes to its end. -/
theorem configured_ok_iff : configured nodetimeout cs = .ok d
    ↔ d = loadedDaemon nodetimeout cs ∧ cs.length ≤ maxNode
      ∧ ∀ c ∈ cs, c.groups.length ≤ maxClass := by
  induction cs using List.reverseRecOn generalizing d with
  | nil =>
      constructor
      · intro h
        cases h
        exact ⟨rfl, Nat.zero_le _, fun c hc => nomatch hc⟩
      · rintro ⟨rfl, -, -⟩
        rfl
  | append_singleton cs c ih =>
      have hsplit : configured nodetimeout (cs ++ [c]) = .ok d
          ↔ ∃ e, configured nodetimeout cs = .ok e ∧ xmlParseNode e c = .ok d := by
        unfold configured
        rw [foldlM_append_ok]
        refine exists_congr fun e => and_congr_right fun _ => ?_
        rw [foldlM_cons_ok]
        constructor
        · rintro ⟨b, hb, hnil⟩
          cases hnil
          exact hb
        · exact fun hb => ⟨d, hb, rfl⟩
      rw [hsplit]
      constructor
      · rintro ⟨e, hinit, hparse⟩
        obtain ⟨rfl, -, hgroups⟩ := ih.mp hinit
        rw [xmlParseNode_loaded] at hparse
        split_ifs at hparse with hroom hfits
        cases hparse
        refine ⟨rfl, ?_, fun x hx => ?_⟩
        · rw [List.length_append, List.length_singleton]
          exact hroom
        rcases List.mem_append.mp hx with hx | hx
        · exact hgroups x hx
        · rw [List.mem_singleton.mp hx]
          exact hfits
      · rintro ⟨rfl, hlen, hgroups⟩
        rw [List.length_append, List.length_singleton] at hlen
        refine ⟨_, ih.mpr ⟨rfl, by omega, fun x hx => hgroups x (List.mem_append_left _ hx)⟩, ?_⟩
        rw [xmlParseNode_loaded, if_pos (by omega),
          if_pos (hgroups c (List.mem_append_right _ (List.mem_singleton_self c)))]

end Loading

/-! ## Groups stay as they are -/

/-- Slots in use stay in use, with their groups. -/
def SameGroups (d d' : Daemon) : Prop :=
  ∀ i, (d.nodes i).free = false →
    (d'.nodes i).free = false ∧ (d'.nodes i).groups = (d.nodes i).groups

section SameGroups

variable {d d' d'' : Daemon} {p : UbPacket} {connect : UbnetdConnect}

theorem SameGroups.refl (d : Daemon) : SameGroups d d := fun _ hi => ⟨hi, rfl⟩

theorem SameGroups.trans (h : SameGroups d d') (h' : SameGroups d' d'') : SameGroups d d'' := by
  intro i hi
  obtain ⟨hfree, hgroups⟩ := h i hi
  obtain ⟨hfree', hgroups'⟩ := h' i hfree
  exact ⟨hfree', hgroups'.trans hgroups⟩

/-- Writing to a node, if it is in use, other fields. -/
theorem sameGroups_setNode (d : Daemon) (n : NodeId) {f : Node → Node}
    (h : (d.nodes n).free = false →
      (f (d.nodes n)).free = false ∧ (f (d.nodes n)).groups = (d.nodes n).groups) :
    SameGroups d (d.setNode n f) := by
  intro i hi
  by_cases hin : i = n
  · subst hin
    rw [setNode_self]
    exact h hi
  · rw [setNode_of_ne d n f hin]
    exact ⟨hi, rfl⟩

theorem sameGroups_queue (d : Daemon) (ms : List MessageStream) : SameGroups d (d.queue ms) :=
  fun _ hi => ⟨hi, rfl⟩

theorem UsedKept.sameGroups (h : UsedKept d d') : SameGroups d d' := by
  intro i hi
  obtain ⟨hused, hgroups, -⟩ := h i hi
  exact ⟨hused, hgroups⟩

theorem listenRegister_sameGroups (d : Daemon) (n : NodeId) (classid : ClassId)
    (out : Gpointer) : SameGroups d (listenRegister d n classid out) :=
  sameGroups_setNode d n fun hx => ⟨hx, rfl⟩

theorem listenUnregister_sameGroups (d : Daemon) (n : NodeId) (classid : ClassId)
    (out : Gpointer) : SameGroups d (listenUnregister d n classid out) :=
  sameGroups_setNode d n fun hx => ⟨hx, rfl⟩

theorem mainStep_sameGroups {e : MainEvent} (h : mainStep d e = .ok d') : SameGroups d d' := by
  by_cases htick : ∃ env, e = .tick env
  · obtain ⟨env, rfl⟩ := htick
    exact (mgtTick_usedKept h).sameGroups
  · cases mainStep_serves h fun env heq => htick ⟨env, heq⟩ with
    | unknown | deaf | closed | failed | management | fails => exact .refl d
    | @command service n classid listening =>
        exact fun i hi => listenRegister_sameGroups d n classid _ i hi
    | @reads k buf c nb d₁ found reading run =>
        have hread : SameGroups d d₁ := by
          refine tcpListenerRead_relation (R := SameGroups) SameGroups.refl
            (fun _ _ _ h h' => h.trans h') (fun e r e' hrequest => ?_) run
          cases r with
          | command cmd =>
              obtain ⟨ms, rfl, -⟩ := tcpCallback_queues hrequest
              exact sameGroups_queue e ms
          | listen =>
              cases hrequest
              exact listenRegister_sameGroups e c.n c.classid c.out
        exact fun i hi => hread i hi
    | @closes k c found reading =>
        exact fun i hi => listenUnregister_sameGroups d c.n c.classid c.out i hi

/-- **No step changes the groups of a node.** -/
theorem daemonStep_sameGroups {e : DaemonEvent} (h : daemonStep d e = .ok d') :
    SameGroups d d' := by
  cases e with
  | main e => exact mainStep_sameGroups h
  | packet p connect => exact (busmgtInpacket_usedKept h).sameGroups
  | take =>
      cases h
      exact .refl d

theorem run_sameGroups {es : List DaemonEvent} (h : Run daemonStep (fun _ _ => True) d es d') :
    SameGroups d d' :=
  h.invariant (I := fun e => SameGroups d e) (.refl d) fun _ _ _ hs _ hstep =>
    hs.trans (daemonStep_sameGroups hstep)

end SameGroups

/-! ## What a node is sent -/

/-- The `A` commands of the groups in an array. -/
def joinMessages (busadr : Int) (adrs : List Int) : List MessageStream :=
  adrs.map fun adr => mgtMessage (UInt8.ofInt busadr) 0x41 [UInt8.ofInt adr]

/-- The array of a node holds a list of addresses, with -1 behind them. -/
theorem groups_listed {l : List Int} (hlen : l.length ≤ maxClass) :
    classSlots.map (fun i => l.getD i.val (-1))
      = l ++ List.replicate (maxClass - l.length) (-1) := by
  apply List.ext_getElem?
  intro k
  by_cases hk : k < maxClass
  · have hslot : classSlots[k]? = some ⟨k, hk⟩ := by simp [classSlots, hk]
    rw [List.getElem?_map, hslot, Option.map_some, List.getD_eq_getElem?_getD]
    by_cases hl : k < l.length
    · rw [List.getElem?_append_left hl, List.getElem?_eq_getElem hl]
      rfl
    · have hge : l.length ≤ k := Nat.le_of_not_lt hl
      rw [List.getElem?_append_right hge, List.getElem?_eq_none hge,
        List.getElem?_replicate_of_lt (by omega)]
      rfl
  · have hmap : (classSlots.map fun i : ClassId => l.getD i.val (-1)).length = maxClass := by
      simp [classSlots]
    rw [List.getElem?_eq_none (by omega), List.getElem?_eq_none]
    rw [List.length_append, List.length_replicate]
    omega

theorem groupMessages_listed (x : Node) {l : List Int} (hlen : l.length ≤ maxClass)
    (h : x.groups = fun i => l.getD i.val (-1)) :
    groupMessages x = joinMessages x.busadr (l.filter (· ≠ -1)) := by
  have hmessages : groupMessages x
      = joinMessages x.busadr ((classSlots.map x.groups).filter (· ≠ -1)) := by
    rw [groupMessages, joinMessages, List.filter_map, List.map_map]
    rfl
  have hrest : ∀ n, (List.replicate n (-1 : Int)).filter (· ≠ -1) = [] := by
    intro n
    simp
  rw [hmessages, h, groups_listed hlen, List.filter_append, hrest, List.append_nil]

/-- Unknown names leave nothing to be sent. -/
theorem config_groups_filter (gs : List GroupConfig) (names : List CString) :
    (names.map fun name => (definedAddress gs name).getD (-1)).filter (· ≠ -1)
      = names.filterMap (definedAddress gs) := by
  induction names with
  | nil => rfl
  | cons name names ih =>
      rw [List.map_cons, List.filterMap_cons, List.filter_cons]
      cases hadr : definedAddress gs name with
      | none => exact ih
      | some adr =>
          have hne : adr ≠ -1 := by
            obtain ⟨g, -, hg⟩ := Option.map_eq_some_iff.mp hadr
            omega
          rw [Option.getD_some, if_pos (decide_eq_true hne), ih]

/-- What a node is to be sent: an `A` for each child that names a defined group. -/
def membershipMessages (gs : List GroupConfig) (e : NodeElement) (busadr : Int) :
    List MessageStream :=
  joinMessages busadr (e.groups.filterMap (definedAddress gs))

theorem groupMessages_config {gs : List GroupConfig} {e : NodeElement} (x : Node)
    (hlen : e.groups.length ≤ maxClass) (h : x.groups = (e.config gs).loaded.groups) :
    groupMessages x = membershipMessages gs e x.busadr := by
  rw [loaded_groups] at h
  have hconfig : (e.config gs).groups.length ≤ maxClass := by
    rw [NodeElement.config, List.length_map]
    exact hlen
  rw [groupMessages_listed x hconfig h, membershipMessages, NodeElement.config,
    config_groups_filter]

/-! ## What the configuration asks for -/

/-- A packet on which node `i` is confirmed. -/
inductive SendsOK (d : Daemon) (p : UbPacket) (connect : UbnetdConnect) (i : NodeId) : Prop
  | identified (kind : p.kind = 0x49) (short : p.len.toNat ≤ maxId) (accepts : Accepts d p i)
  | announced {d₁ : Daemon} {o : Option NodeId} (kind : p.kind = 0x42)
      (created : mgtCreateBridge d (packetId p 5) connect = .ok (d₁, o))
      (named : d₁.slots.byAdr p.src.toNat = some i)

/-- Loading writes the id, the name, the address, the groups and the `free` flag of the
configured slots. -/
structure LoadsOnly (nodetimeout : Int) (es : List NodeElement) (d : Daemon) : Prop where
  configured : ∀ (i : NodeId) (e : NodeElement), es[i.val]? = some e →
    ∃ id name netadr groups, d.nodes i = { (nodesInit nodetimeout).nodes i with
      id := id, name := name, netadr := netadr, groups := groups, free := false }
  unused : ∀ i : NodeId, es.length ≤ i.val → d.nodes i = (nodesInit nodetimeout).nodes i
  rest : { d with nodes := (nodesInit nodetimeout).nodes } = nodesInit nodetimeout

/-- In every run after loading, a configured node that is confirmed is sent the groups it was
configured for, and nothing else. -/
def MembershipReaches (nodetimeout : Int) (gs : List GroupConfig) (es : List NodeElement) :
    Prop :=
  ∃ t d₀, xmlParsegroupsandnodes nodetimeout gs es = .ok (t, d₀) ∧ LoadsOnly nodetimeout es d₀
    ∧ ∀ events d, Run daemonStep (fun _ _ => True) d₀ events d →
      ∀ (i : NodeId) (e : NodeElement), es[i.val]? = some e →
        busmgtSendMulticastGroups d i
            = .ok (d.queue (membershipMessages gs e (d.nodes i).busadr))
          ∧ ∀ p connect d', SendsOK d p connect i → busmgtInpacket d p connect = .ok d' →
            d'.packetOut = d.packetOut
              ++ membershipMessages gs e (d'.nodes i).busadr ++ okMessages p.src

/-- Every node has at most 32 groups. -/
def GroupsFit (es : List NodeElement) : Prop := ∀ e ∈ es, e.groups.length ≤ 32

/-- When loading comes to its end. -/
theorem loads_iff {nodetimeout : Int} {gs : List GroupConfig} {es : List NodeElement}
    (hlen : es.length ≤ 256) :
    (∃ t d₀, xmlParsegroupsandnodes nodetimeout gs es = .ok (t, d₀))
      ↔ HostnamesFit gs ∧ GroupsFit es := by
  constructor
  · rintro ⟨t, d₀, hrun⟩
    obtain ⟨t', hparsed, -⟩ := bind_eq_ok.mp hrun
    have hfit := (parsed_ok_iff gs).mp ⟨t', hparsed⟩
    obtain ⟨t₁, hparsed₁, hstands⟩ := parsed_defined hfit
    rw [xmlParsegroupsandnodes_eq hparsed₁ hstands] at hrun
    obtain ⟨d, hconfigured, -⟩ := bind_eq_ok.mp hrun
    obtain ⟨-, -, hgroups⟩ := configured_ok_iff.mp hconfigured
    refine ⟨hfit, fun e he => ?_⟩
    have := hgroups _ (List.mem_map_of_mem he)
    rw [NodeElement.config, List.length_map] at this
    exact this
  · rintro ⟨hfit, hgroups⟩
    obtain ⟨t, hparsed, hstands⟩ := parsed_defined hfit
    refine ⟨t, loadedDaemon nodetimeout (es.map (NodeElement.config gs)), ?_⟩
    rw [xmlParsegroupsandnodes_eq hparsed hstands, configured_ok_iff.mpr ⟨rfl, ?_, ?_⟩, ok_bind]
    · rw [List.length_map]
      exact hlen
    · intro c hc
      obtain ⟨e, he, rfl⟩ := List.mem_map.mp hc
      rw [NodeElement.config, List.length_map]
      exact hgroups e he

theorem loads_eq {nodetimeout : Int} {gs : List GroupConfig} {es : List NodeElement}
    {t : GroupTable} {d₀ : Daemon}
    (h : xmlParsegroupsandnodes nodetimeout gs es = .ok (t, d₀)) :
    d₀ = loadedDaemon nodetimeout (es.map (NodeElement.config gs)) := by
  obtain ⟨t', hparsed, -⟩ := bind_eq_ok.mp h
  obtain ⟨t₁, hparsed₁, hstands⟩ := parsed_defined ((parsed_ok_iff gs).mp ⟨t', hparsed⟩)
  rw [xmlParsegroupsandnodes_eq hparsed₁ hstands] at h
  obtain ⟨d, hconfigured, heq⟩ := bind_eq_ok.mp h
  cases heq
  exact (configured_ok_iff.mp hconfigured).1

theorem loadedDaemon_loadsOnly (nodetimeout : Int) (gs : List GroupConfig)
    (es : List NodeElement) :
    LoadsOnly nodetimeout es (loadedDaemon nodetimeout (es.map (NodeElement.config gs))) where
  configured := by
    intro i e he
    have hat : (es.map (NodeElement.config gs))[i.val]? = some (e.config gs) := by
      rw [List.getElem?_map, he, Option.map_some]
    rw [loadedDaemon_nodes hat]
    unfold NodeConfig.loaded nodesSetNameFromID
    split
    · exact ⟨_, _, _, _, rfl⟩
    · exact ⟨_, _, _, _, rfl⟩
  unused := by
    intro i hi
    exact loadedDaemon_unused (by rw [List.length_map]; exact hi)
  rest := rfl

/-- **A confirmation** sends the groups of the node, whatever they are. -/
theorem sendsOK_groups {d d' : Daemon} {p : UbPacket} {connect : UbnetdConnect} {i : NodeId}
    (hok : SendsOK d p connect i) (hused : (d.nodes i).free = false)
    (h : busmgtInpacket d p connect = .ok d') :
    ∃ x : Node, x.groups = (d.nodes i).groups ∧ x.busadr = (d'.nodes i).busadr
      ∧ d'.packetOut = d.packetOut ++ groupMessages x ++ okMessages p.src := by
  unfold busmgtInpacket at h
  cases hok with
  | identified kind short accepts =>
      rw [kind, if_neg (by decide), if_pos rfl] at h
      cases busmgtIdentify_identifies h with
      | @accepted x accepts' =>
          obtain rfl := accepts.unique accepts'
          refine ⟨d.nodes i, rfl, ?_, rfl⟩
          show _ = (Function.update d.nodes i _ i).busadr
          rw [Function.update_self]
          rfl
      | refused stranger => exact absurd accepts.waiting (stranger i accepts.named)
      | ignored stopped =>
          rcases stopped with hlong | ⟨x, hx, -, hdown⟩
          · omega
          · obtain rfl : i = x := Option.some.inj (accepts.named.symm.trans hx)
            rw [accepts.netup] at hdown
            cases hdown
  | @announced d₁ o kind created named =>
      rw [kind, if_neg (by decide), if_neg (by decide), if_neg (by decide), if_neg (by decide),
        if_pos rfl] at h
      obtain ⟨d₂, o₂, n, -, hcreate, hn, rfl⟩ := busmgtBridge_writes h
      rw [hcreate] at created
      cases created
      obtain rfl : n = i := Option.some.inj (hn.symm.trans named)
      refine ⟨d₁.nodes n, (mgtRegisterNode_usedKept hcreate n hused).2.1, ?_, ?_⟩
      · rw [queue_nodes, setNode_self]
        rfl
      · show d₁.packetOut ++ _ = _
        rw [mgtRegisterNode_packetOut hcreate, List.append_assoc]

/-- **Configured memberships reach the bus** exactly when the group names of every node fit
into its array, and the host names of the groups into theirs. -/
theorem membership_reaches_iff (nodetimeout : Int) (gs : List GroupConfig)
    (es : List NodeElement) (hlen : es.length ≤ 256) :
    MembershipReaches nodetimeout gs es ↔ HostnamesFit gs ∧ GroupsFit es := by
  constructor
  · rintro ⟨t, d₀, hrun, -⟩
    exact (loads_iff hlen).mp ⟨t, d₀, hrun⟩
  · intro hfit
    obtain ⟨t, d₀, hload⟩ := (loads_iff hlen).mpr hfit
    have hd₀ := loads_eq hload
    subst hd₀
    refine ⟨t, _, hload, loadedDaemon_loadsOnly nodetimeout gs es,
      fun events d hrun i e he => ?_⟩
    -- the slot still has the groups it was loaded with
    have hat : (es.map (NodeElement.config gs))[i.val]? = some (e.config gs) := by
      rw [List.getElem?_map, he, Option.map_some]
    have hloaded : (loadedDaemon nodetimeout (es.map (NodeElement.config gs))).nodes i
        = (e.config gs).loaded := loadedDaemon_nodes hat
    have hfree₀ : ((loadedDaemon nodetimeout (es.map (NodeElement.config gs))).nodes i).free
        = false := by
      rw [hloaded]
      exact loaded_free _
    obtain ⟨hfree, hgroups⟩ := run_sameGroups hrun i hfree₀
    rw [hloaded] at hgroups
    have hfits : e.groups.length ≤ maxClass := hfit.2 e (List.mem_of_getElem? he)
    refine ⟨?_, fun p connect d' hok hpacket => ?_⟩
    · rw [busmgtSendMulticastGroups_eq, groupMessages_config _ hfits hgroups]
      rfl
    · obtain ⟨x, hx, hadr, hqueue⟩ := sendsOK_groups hok hfree hpacket
      rw [hqueue, groupMessages_config x hfits (hx.trans hgroups), hadr]

/-- A node with a group in each entry of its array, and one more. -/
def crowdedNode : NodeElement := ⟨[0x61], [], [], false, List.replicate 33 [0x6C]⟩

/-- **33 groups do not fit.** -/
theorem membership_overruns : ¬ MembershipReaches 30 [lampGroup] [crowdedNode] := by
  rintro ⟨t, d₀, hrun, -⟩
  have hfit := ((loads_iff (by decide)).mp ⟨t, d₀, hrun⟩).2 crowdedNode
    (List.mem_singleton_self _)
  exact absurd hfit (by decide)

/-- A node in a group that is defined, and in one that is not. -/
def memberNode : NodeElement := ⟨[0x61], [], [], false, [[0x6C], [0x6D]]⟩

theorem membership_reaches_iff_lamp : [memberNode].length ≤ 256
    ∧ (MembershipReaches 30 [lampGroup] [memberNode]
      ↔ HostnamesFit [lampGroup] ∧ GroupsFit [memberNode]) :=
  ⟨by decide, membership_reaches_iff 30 [lampGroup] [memberNode] (by decide)⟩

end Ubd
