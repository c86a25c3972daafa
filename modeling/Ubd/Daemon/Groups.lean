import Ubd.Daemon.Exhaustion

/-!
# Daemon.Groups — `groups.c`

Multicast groups get the bus addresses from 0x80 on, in the order they are configured, and
nodes the first free address from 3 on. Both live in one address space of 8 bits, and only
a comment says where it is split: `unicast_disjoint_iff` says when nodes stay below.
-/

namespace Ubd

open Runs

/-- `MAX_GROUPS` -/
def maxGroups : Nat := 0xFF - 0x80

/-- `GROUPS_STARTADDRESS` -/
def groupsStartaddress : Int := 0x80

/-- `classes_getClassByName`, of which only the class is needed. -/
def classesGetClassByName (name : String) : UInt8 :=
  if name = "hid" then 10
  else if name = "digitaloutput" then 11
  else if name = "digitalinput" then 12
  else if name = "moodlamp" then 23
  else if name = "switch" then 42
  else 0

/-- `struct multicastgroup`, without its socket. -/
structure MulticastGroup where
  name : CString
  hostname : CString
  cls : UInt8
  busadr : Int
  deriving DecidableEq

/-- `groups_getGroupByName` -/
def groupsGetGroupByName (groups : List MulticastGroup) (name : CString) :
    Option MulticastGroup :=
  groups.find? fun g => g.name = name

/-- `groups_getGroupByBusAddress` -/
def groupsGetGroupByBusAddress (groups : List MulticastGroup) (busadr : Int) :
    Option MulticastGroup :=
  groups.find? fun g => g.busadr = busadr

/-- A `<group>` of the configuration, and whether `multicast_createSocket` works for it. -/
structure GroupConfig where
  name : CString
  hostname : CString
  classname : String
  socket : Bool

/-- `groups_addGroup` on the first `groupcount` entries of `groups`. The new group is also
announced to the directory. -/
def groupsAddGroup (groups : List MulticastGroup) (c : GroupConfig) :
    Except Fault (List MulticastGroup) :=
  if (groupsGetGroupByName groups c.name).isSome then .ok groups
  else if groups.length < maxGroups then
    if c.socket then
      -- `strcpy(groups[g].hostname, hostname)`
      if c.hostname.length < 100 then
        .ok (groups ++ [⟨c.name, c.hostname, classesGetClassByName c.classname,
          groups.length + groupsStartaddress⟩])
      else .error .outOfBounds
    else .ok groups
  else .ok groups

/-- The groups after `groups_init` and the configured groups. -/
def configuredGroups (cs : List GroupConfig) : Except Fault (List MulticastGroup) :=
  cs.foldlM groupsAddGroup []

/-! ## The addresses of groups -/

/-- The groups are numbered from the start address on. -/
structure Numbered (groups : List MulticastGroup) : Prop where
  length : groups.length ≤ maxGroups
  busadr : ∀ (k : Nat) (g : MulticastGroup), groups[k]? = some g →
    g.busadr = k + groupsStartaddress

theorem Numbered.add {groups groups' : List MulticastGroup} {c : GroupConfig}
    (h : Numbered groups) (hadd : groupsAddGroup groups c = .ok groups') : Numbered groups' := by
  unfold groupsAddGroup at hadd
  split_ifs at hadd with hknown hroom hsocket hname <;> cases hadd
  · exact h
  · constructor
    · rw [List.length_append]
      exact hroom
    · intro k g hg
      -- the groups before keep their numbers, and the new one has the next
      by_cases hk : k < groups.length
      · rw [List.getElem?_append_left hk] at hg
        exact h.busadr k g hg
      · rw [List.getElem?_append_right (Nat.le_of_not_lt hk)] at hg
        obtain ⟨hlt, rfl⟩ := List.getElem?_eq_some_iff.mp hg
        have hlen : k = groups.length := by
          simp only [List.length_singleton] at hlt
          omega
        simp [hlen]
  · exact h
  · exact h

theorem configuredGroups_numbered {cs : List GroupConfig} {groups : List MulticastGroup}
    (h : configuredGroups cs = .ok groups) : Numbered groups :=
  Runs.foldlM_invariant (fun _ _ _ _ hb hadd => hb.add hadd)
    ⟨by decide, fun k g hg => by simp at hg⟩ h

/-- Groups have multicast addresses. -/
theorem Numbered.range {groups : List MulticastGroup} (h : Numbered groups) {g : MulticastGroup}
    (hg : g ∈ groups) : 0x80 ≤ g.busadr ∧ g.busadr ≤ 0xFE := by
  obtain ⟨k, hk, rfl⟩ := List.mem_iff_getElem.mp hg
  have hadr := h.busadr k _ (List.getElem?_eq_getElem hk)
  have hlen := h.length
  simp only [groupsStartaddress, maxGroups] at hadr hlen
  omega

/-! ## Nodes among the groups -/

/-- No active node has a multicast address, no group is found at the address of one, and no
packet for a group goes to one. -/
def UnicastDisjoint (groups : List MulticastGroup) (d : Daemon) : Prop :=
  ∀ i, (d.nodes i).active = true →
    ¬ (0x80 ≤ (d.nodes i).busadr ∧ (d.nodes i).busadr ≤ 0xFE)
      ∧ groupsGetGroupByBusAddress groups (d.nodes i).busadr = none
      ∧ ∀ g ∈ groups, ((UInt8.ofInt g.busadr).toNat : Int) ≠ (d.nodes i).busadr

theorem unicastDisjoint_iff {groups : List MulticastGroup} (h : Numbered groups) (d : Daemon) :
    UnicastDisjoint groups d ↔ ∀ i, (d.nodes i).active = true →
      ¬ (0x80 ≤ (d.nodes i).busadr ∧ (d.nodes i).busadr ≤ 0xFE) := by
  constructor
  · exact fun hdisjoint i hi => (hdisjoint i hi).1
  · intro hrange i hi
    have hne : ∀ g ∈ groups, g.busadr ≠ (d.nodes i).busadr := by
      intro g hg heq
      have hg' := h.range hg
      rw [heq] at hg'
      exact hrange i hi hg'
    refine ⟨hrange i hi, ?_, fun g hg => ?_⟩
    · rw [groupsGetGroupByBusAddress, List.find?_eq_none]
      intro g hg
      simpa using hne g hg
    · have hg' := h.range hg
      rw [ofInt_toNat (by omega) (by omega)]
      exact hne g hg

/-- Where a `D` packet registers its node, an address below the groups is left, or none at
all. -/
def UnicastLeft (d : Daemon) (e : DaemonEvent) : Prop :=
  ∀ p connect, e = .packet p connect → Registers d p →
    (∃ a : Int, 3 ≤ a ∧ a ≤ 0x7F ∧ ¬ d.Held a) ∨ d.Exhausted

/-- Which address is given next. -/
theorem freeAdr_unicast_iff {d : Daemon} (h : d.slots.Assigned) :
    ¬ (0x80 ≤ d.slots.freeAdr ∧ d.slots.freeAdr ≤ 0xFE) ↔
      (∃ a : Int, 3 ≤ a ∧ a ≤ 0x7F ∧ ¬ d.Held a) ∨ d.Exhausted := by
  constructor
  · intro hlow
    rcases freeAdr_spec d.slots with ⟨hlo, hhi, hnone⟩ | ⟨hneg, -⟩
    · exact .inl ⟨d.slots.freeAdr, hlo, by omega, (byAdr_eq_none_iff h _).mp hnone⟩
    · exact .inr ((freeAdr_eq_neg_iff h).mp hneg)
  · rintro (⟨a, hlo, hhi, hfree⟩ | hfull)
    · have := freeAdr_le hlo (by omega) ((byAdr_eq_none_iff h a).mpr hfree)
      omega
    · have := (freeAdr_eq_neg_iff h).mpr hfull
      omega

/-- **One step.** -/
theorem unicastDisjoint_step {groups : List MulticastGroup} (hgroups : Numbered groups)
    {d d' : Daemon} {e : DaemonEvent} (h : Wired d) (hdisjoint : UnicastDisjoint groups d)
    (hstep : daemonStep d e = .ok d') : UnicastDisjoint groups d' ↔ UnicastLeft d e := by
  rw [unicastDisjoint_iff hgroups] at hdisjoint ⊢
  constructor
  · rintro hrange p connect rfl ⟨hkind, hfits, hslot⟩
    obtain ⟨x, hx⟩ := Option.ne_none_iff_exists'.mp hslot
    obtain ⟨hchange, -⟩ := busmgtInpacket_change h.assigned.free hstep
    obtain ⟨hactive, hadr⟩ := discover_active hkind hfits hx hchange
    -- the node has just got the address that was next
    rw [← freeAdr_unicast_iff h.assigned, ← hadr]
    exact hrange x hactive
  · intro hleft
    refine activeAdr_step (Q := fun a => ¬ (0x80 ≤ a ∧ a ≤ 0xFE)) h hdisjoint (by decide)
      (fun p connect he hregisters => ?_) hstep
    exact (freeAdr_unicast_iff h.assigned).mpr (hleft p connect he hregisters)

/-- **Nodes and groups have different addresses** in every state of a run exactly when no
node is discovered while all addresses below the groups are held and one of theirs is not. -/
theorem unicast_disjoint_iff (gs : List GroupConfig) (groups : List MulticastGroup)
    (nodetimeout : Int) (cs : List NodeConfig) (d₀ d : Daemon) (es : List DaemonEvent)
    (hgroups : configuredGroups gs = .ok groups) (h₀ : configured nodetimeout cs = .ok d₀)
    (h : Run daemonStep (fun _ _ => True) d₀ es d) :
    Always daemonStep (fun _ _ => True) d₀ (UnicastDisjoint groups) es
      ↔ EveryStep daemonStep (fun _ _ => True) d₀ UnicastLeft es := by
  have hnumbered := configuredGroups_numbered hgroups
  have hfirst : UnicastDisjoint groups d₀ := by
    rw [unicastDisjoint_iff hnumbered]
    intro i hi
    have hoff : (d₀.nodes i).active = false := (configured_silent h₀ i).1
    rw [hoff] at hi
    cases hi
  refine h.always_iff (I := fun s => Wired s ∧ UnicastDisjoint groups s)
    ⟨(configured_wired h₀).1, hfirst⟩ (fun s hs => hs.2)
    (fun s e s' hs _ hstep hleft => ?_) (fun s e s' hs _ hstep hdisjoint => ?_)
  · exact ⟨hs.1.step hstep, (unicastDisjoint_step hnumbered hs.1 hs.2 hstep).mpr hleft⟩
  · exact (unicastDisjoint_step hnumbered hs.1 hs.2 hstep).mp hdisjoint

/-- One group, of lamps. -/
def lampGroup : GroupConfig := ⟨[0x6C], [], "moodlamp", true⟩

def lampGroups : List MulticastGroup := [⟨[0x6C], [], 23, 0x80⟩]

/-- **126 nodes reach the groups**: the last of them gets the address of the group. -/
theorem crowd_meets_group :
    configuredGroups [lampGroup] = .ok lampGroups ∧ configured 30 [] = .ok (nodesInit 30)
      ∧ ∃ d, Run daemonStep (fun _ _ => True) (nodesInit 30) (crowd 126) d
        ∧ ¬ UnicastDisjoint lampGroups d := by
  obtain ⟨d, hrun, hwired, hd⟩ := crowd_run (show 126 ≤ 252 by decide)
  refine ⟨rfl, rfl, d, hrun, fun hdisjoint => ?_⟩
  obtain ⟨i, hactive, hadr⟩ := (held_filled (by decide) hwired.assigned hd 0x80).mpr (by decide)
  have hlow := (hdisjoint i hactive).1
  rw [hadr] at hlow
  exact hlow (by decide)

/-- Five nodes and a group. -/
theorem unicast_disjoint_iff_crowd :
    Always daemonStep (fun _ _ => True) (nodesInit 30) (UnicastDisjoint lampGroups) (crowd 5)
      ↔ EveryStep daemonStep (fun _ _ => True) (nodesInit 30) UnicastLeft (crowd 5) := by
  obtain ⟨d, hrun, -, -⟩ := crowd_run (show 5 ≤ 252 by decide)
  exact unicast_disjoint_iff [lampGroup] lampGroups 30 [] (nodesInit 30) d (crowd 5) rfl rfl hrun

end Ubd
