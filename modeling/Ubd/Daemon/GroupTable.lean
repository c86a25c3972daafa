import Ubd.Lib.Filled
import Ubd.Daemon.Groups

/-!
# Daemon.GroupTable — the array behind the groups

`groups.c` keeps its groups in an array with a counter, which is incremented last. Here are
that array and the functions on it, and what they mean for the list of groups that the other
modules use: `Stands`. `group_table_kept` says what always holds of the table.
-/

namespace Ubd

open Filled

/-- `struct multicastgroup`, without its socket. In an entry that was never used the name is
`NULL`. -/
structure GroupEntry where
  name : Option CString
  hostname : CString
  cls : UInt8
  busadr : Int
  deriving DecidableEq

/-- `groups` and `groupcount` -/
abbrev GroupTable := Table GroupEntry maxGroups

/-- `groups_init` on the zeroed array -/
def groupsInit : GroupTable := ⟨Vector.replicate maxGroups ⟨none, [], 0, 0⟩, 0⟩

/-- `strcmp(group->name, name) == 0` -/
def GroupEntry.isNamed (name : CString) (g : GroupEntry) : Except Fault Bool :=
  match g.name with
  | none => .error .nullPointer
  | some s => .ok (decide (s = name))

/-- `groups_getGroupByName`, with the index of the group for its address -/
def GroupTable.getGroupByName (t : GroupTable) (name : CString) : Except Fault (Option Nat) :=
  t.search .outOfBounds (GroupEntry.isNamed name)

/-- `groups_getGroupByBusAddress` -/
def GroupTable.getGroupByBusAddress (t : GroupTable) (busadr : Int) :
    Except Fault (Option Nat) :=
  t.search .outOfBounds fun g => .ok (decide (g.busadr = busadr))

/-- `groups_getBusAddress` -/
def GroupTable.getBusAddress (t : GroupTable) (name : CString) : Except Fault Int := do
  match ← t.getGroupByName name with
  | none => return -1
  | some g =>
      match t.entries[g]? with
      | none => .error .outOfBounds
      | some x => return x.busadr

/-- What `groups_addGroup` writes to `groups[g]`. -/
def GroupConfig.entry (c : GroupConfig) (g : Nat) : GroupEntry where
  name := some c.name
  hostname := c.hostname
  cls := classesGetClassByName c.classname
  busadr := g + groupsStartaddress

/-- `groups_addGroup` -/
def GroupTable.addGroup (t : GroupTable) (c : GroupConfig) : Except Fault GroupTable := do
  if (← t.getGroupByName c.name).isSome then return t
  else if t.count < maxGroups then
    if c.socket then
      -- `strcpy(groups[g].hostname, hostname)`
      if c.hostname.length < 100 then return t.append (c.entry t.count)
      else .error .outOfBounds
    else return t
  else return t

/-- `xml_parseGroups`, from the start on -/
def GroupTable.parsed (cs : List GroupConfig) : Except Fault GroupTable :=
  cs.foldlM GroupTable.addGroup groupsInit

/-! ## The list a table stands for -/

/-- A group as an entry of the array. -/
def MulticastGroup.entry (g : MulticastGroup) : GroupEntry :=
  ⟨some g.name, g.hostname, g.cls, g.busadr⟩

/-- The entries in use are these groups, numbered, with different names. -/
structure GroupTable.Stands (t : GroupTable) (groups : List MulticastGroup) : Prop where
  used : t.used = groups.map MulticastGroup.entry
  count : t.count = groups.length
  numbered : Numbered groups
  names : (groups.map MulticastGroup.name).Nodup

section Stands

variable {t t' : GroupTable} {groups groups' : List MulticastGroup} {c : GroupConfig}

theorem groupsInit_stands : groupsInit.Stands [] where
  used := rfl
  count := rfl
  numbered := ⟨by decide, fun k g hg => by simp at hg⟩
  names := List.nodup_nil

theorem GroupTable.Stands.inBounds (h : t.Stands groups) : t.count ≤ maxGroups := by
  rw [h.count]
  exact h.numbered.length

theorem GroupTable.Stands.entry_iff (h : t.Stands groups) {i : Nat} {x : GroupEntry}
    (hi : i < t.count) :
    t.entries[i]? = some x ↔ ∃ g, groups[i]? = some g ∧ g.entry = x := by
  rw [← getElem?_used hi, h.used, List.getElem?_map, Option.map_eq_some_iff]

/-- The search for a name. -/
theorem getGroupByName_eq (h : t.Stands groups) (name : CString) :
    t.getGroupByName name = .ok (groups.findIdx? fun g => decide (g.name = name)) := by
  have hsearch := search_eq h.inBounds Fault.outOfBounds (GroupEntry.isNamed name)
    (fun x => decide (x.name = some name)) <| by
    intro x hx
    rw [h.used] at hx
    obtain ⟨g, -, rfl⟩ := List.mem_map.mp hx
    simp [GroupEntry.isNamed, MulticastGroup.entry]
  rw [GroupTable.getGroupByName, hsearch, h.used, List.findIdx?_map]
  simp [Function.comp_def, MulticastGroup.entry]

/-- The search for an address. -/
theorem getGroupByBusAddress_eq (h : t.Stands groups) (busadr : Int) :
    t.getGroupByBusAddress busadr
      = .ok (groups.findIdx? fun g => decide (g.busadr = busadr)) := by
  rw [GroupTable.getGroupByBusAddress, search_eq h.inBounds _ _ _ fun _ _ => rfl, h.used,
    List.findIdx?_map]
  rfl

/-- A name is found exactly where it stands. -/
theorem getGroupByName_iff (h : t.Stands groups) (name : CString) (i : Nat) :
    t.getGroupByName name = .ok (some i)
      ↔ ∃ g, groups[i]? = some g ∧ g.name = name := by
  rw [getGroupByName_eq h, Except.ok.injEq, findIdx?_key_iff h.names]

theorem Numbered.addresses (h : Numbered groups) :
    (groups.map MulticastGroup.busadr).Nodup := by
  rw [List.nodup_iff_injective_getElem]
  intro i j hij
  have hadr : ∀ k : Fin (groups.map MulticastGroup.busadr).length,
      (groups.map MulticastGroup.busadr)[k.val] = k + groupsStartaddress := by
    intro k
    have hk : k.val < groups.length := by simpa using k.isLt
    rw [List.getElem_map]
    exact h.busadr k _ (List.getElem?_eq_getElem hk)
  dsimp only at hij
  rw [hadr i, hadr j] at hij
  exact Fin.ext (by omega)

theorem getGroupByBusAddress_iff (h : t.Stands groups) (busadr : Int) (i : Nat) :
    t.getGroupByBusAddress busadr = .ok (some i)
      ↔ ∃ g, groups[i]? = some g ∧ g.busadr = busadr := by
  rw [getGroupByBusAddress_eq h, Except.ok.injEq, findIdx?_key_iff h.numbered.addresses]

/-- A search of the groups ends in an entry of the table, or finds none. -/
theorem GroupTable.Stands.found (h : t.Stands groups) (p : MulticastGroup → Bool) :
    groups.findIdx? p = none ∨ ∃ g x, groups.findIdx? p = some g ∧ g < t.count
      ∧ t.entries[g]? = some x.entry ∧ p x = true := by
  cases hfind : groups.findIdx? p with
  | none => exact .inl rfl
  | some g =>
      obtain ⟨hlt, hx, -⟩ := List.findIdx?_eq_some_iff_getElem.mp hfind
      have hg : g < t.count := by
        rw [h.count]
        exact hlt
      exact .inr ⟨g, groups[g], rfl, hg,
        (h.entry_iff hg).mpr ⟨_, List.getElem?_eq_getElem hlt, rfl⟩, hx⟩

/-- The list looks a name up as the table does. -/
theorem isSome_getGroupByName (groups : List MulticastGroup) (name : CString) :
    (groups.findIdx? fun g => decide (g.name = name)).isSome
      = (groupsGetGroupByName groups name).isSome := by
  rw [groupsGetGroupByName, List.findIdx?_isSome, List.isSome_find?]

/-! ## Adding a group -/

/-- The group that is made of a configured one. -/
def GroupConfig.group (c : GroupConfig) (g : Nat) : MulticastGroup :=
  ⟨c.name, c.hostname, classesGetClassByName c.classname, g + groupsStartaddress⟩

/-- A call that adds nothing: the name is taken, the table is full, or there is no socket. -/
def GroupTable.Refuses (t : GroupTable) (c : GroupConfig) : Prop :=
  t.getGroupByName c.name ≠ .ok none ∨ t.count = 127 ∨ c.socket = false

theorem GroupTable.Stands.refuses_iff (h : t.Stands groups) : t.Refuses c
    ↔ (groupsGetGroupByName groups c.name).isSome = true ∨ ¬ groups.length < maxGroups
      ∨ c.socket = false := by
  have hknown : t.getGroupByName c.name ≠ .ok none
      ↔ (groupsGetGroupByName groups c.name).isSome = true := by
    rw [← isSome_getGroupByName, getGroupByName_eq h, ne_eq, Except.ok.injEq,
      Option.isSome_iff_ne_none]
  have hfull : t.count = 127 ↔ ¬ groups.length < maxGroups := by
    have hlen := h.numbered.length
    rw [h.count]
    simp only [maxGroups] at hlen ⊢
    omega
  rw [GroupTable.Refuses, hknown, hfull]

/-- A refused call changes neither the table nor the list. -/
theorem addGroup_refused (h : t.Stands groups) (hrefused : t.Refuses c) :
    t.addGroup c = .ok t ∧ groupsAddGroup groups c = .ok groups := by
  have hlist := h.refuses_iff.mp hrefused
  unfold GroupTable.addGroup groupsAddGroup
  rw [getGroupByName_eq h, ok_bind, isSome_getGroupByName, h.count]
  by_cases hknown : (groupsGetGroupByName groups c.name).isSome = true
  · rw [if_pos hknown, if_pos hknown]
    exact ⟨rfl, rfl⟩
  · rw [if_neg hknown, if_neg hknown]
    by_cases hroom : groups.length < maxGroups
    · have hsocket : ¬ c.socket = true := by simpa [hknown, hroom] using hlist
      rw [if_pos hroom, if_pos hroom, if_neg hsocket, if_neg hsocket]
      exact ⟨rfl, rfl⟩
    · rw [if_neg hroom, if_neg hroom]
      exact ⟨rfl, rfl⟩

/-- Any other call appends its group, if the host name fits. -/
theorem addGroup_accepted (h : t.Stands groups) (haccepted : ¬ t.Refuses c) :
    (t.addGroup c = if c.hostname.length < 100 then .ok (t.append (c.entry t.count))
        else .error .outOfBounds)
      ∧ groupsAddGroup groups c = if c.hostname.length < 100
          then .ok (groups ++ [c.group groups.length]) else .error .outOfBounds := by
  rw [h.refuses_iff, not_or, not_or, not_not] at haccepted
  obtain ⟨hknown, hroom, hsocket⟩ := haccepted
  have hmade : c.socket = true := by simpa using hsocket
  unfold GroupTable.addGroup groupsAddGroup
  rw [getGroupByName_eq h, ok_bind, isSome_getGroupByName, h.count, if_neg hknown, if_neg hknown,
    if_pos hroom, if_pos hroom, if_pos hmade, if_pos hmade]
  exact ⟨rfl, rfl⟩

theorem GroupTable.Stands.append (h : t.Stands groups) (haccepted : ¬ t.Refuses c)
    (hfits : c.hostname.length < 100) :
    GroupTable.Stands (t.append (c.entry t.count)) (groups ++ [c.group groups.length]) := by
  have hlist := h.refuses_iff.not.mp haccepted
  rw [not_or, not_or, not_not] at hlist
  obtain ⟨hknown, hroom, -⟩ := hlist
  have hadd := (addGroup_accepted h haccepted).2
  rw [if_pos hfits] at hadd
  constructor
  · rw [append_used (by rw [h.count]; exact hroom), h.used, List.map_append, h.count]
    rfl
  · rw [List.length_append, ← h.count]
    rfl
  · exact h.numbered.add hadd
  · have hnew : ∀ g ∈ groups, g.name ≠ c.name := by
      rw [Option.isSome_iff_ne_none, not_not, groupsGetGroupByName, List.find?_eq_none] at hknown
      simpa using hknown
    rw [List.map_append, List.nodup_append]
    refine ⟨h.names, List.nodup_singleton _, ?_⟩
    intro a ha b hb heq
    obtain ⟨g, hg, rfl⟩ := List.mem_map.mp ha
    rw [List.map_singleton, List.mem_singleton] at hb
    exact hnew g hg (heq.trans hb)

/-- **One call**: it fails, and nothing changes, or a group is appended. -/
theorem addGroup_step (h : t.Stands groups) (hfits : c.hostname.length < 100) :
    ∃ t' groups', t.addGroup c = .ok t' ∧ t'.Stands groups'
      ∧ (t.Refuses c → t' = t)
      ∧ (¬ t.Refuses c → t' = t.append (c.entry t.count)) := by
  by_cases hrefused : t.Refuses c
  · exact ⟨t, groups, (addGroup_refused h hrefused).1, h, fun _ => rfl,
      fun hnot => absurd hrefused hnot⟩
  · have hadd := (addGroup_accepted h hrefused).1
    rw [if_pos hfits] at hadd
    exact ⟨_, _, hadd, h.append hrefused hfits, fun hyes => absurd hyes hrefused, fun _ => rfl⟩

end Stands

/-- **All calls.** -/
theorem parsed_stands {cs : List GroupConfig} (hfits : ∀ c ∈ cs, c.hostname.length < 100) :
    ∃ t groups, GroupTable.parsed cs = .ok t ∧ t.Stands groups := by
  obtain ⟨t, hrun, groups, h⟩ := Runs.foldlM_total
    (I := fun t : GroupTable => ∃ groups, t.Stands groups)
    (fun c hc t ⟨groups, h⟩ => by
      obtain ⟨t', groups', hadd, h', -⟩ := addGroup_step h (hfits c hc)
      exact ⟨t', hadd, groups', h'⟩) ⟨[], groupsInit_stands⟩
  exact ⟨t, groups, hrun, h⟩

/-! ## What always holds of the table -/

/-- The invariant of the table, in its own terms. -/
structure GroupTable.Kept (t : GroupTable) : Prop where
  count : t.count ≤ 127
  entry : ∀ g < t.count, ∃ x name, t.entries[g]? = some x ∧ x.name = some name
    ∧ x.busadr = 0x80 + g ∧ x.busadr ≠ 0xFF
    -- the lookups are inverse to each other
    ∧ t.getGroupByName name = .ok (some g) ∧ t.getGroupByBusAddress x.busadr = .ok (some g)
  distinct : ∀ g h x y, g < t.count → h < t.count → t.entries[g]? = some x →
    t.entries[h]? = some y → x.name = y.name → g = h
  byName : ∀ name, t.getGroupByName name = .ok none
    ∨ ∃ g x, t.getGroupByName name = .ok (some g) ∧ g < t.count ∧ t.entries[g]? = some x
      ∧ x.name = some name
  byBusAddress : ∀ busadr, t.getGroupByBusAddress busadr = .ok none
    ∨ ∃ g x, t.getGroupByBusAddress busadr = .ok (some g) ∧ g < t.count
      ∧ t.entries[g]? = some x ∧ x.busadr = busadr

theorem GroupTable.Stands.kept {t : GroupTable} {groups : List MulticastGroup}
    (h : t.Stands groups) : t.Kept := by
  have hat : ∀ g < t.count, ∃ x, groups[g]? = some x ∧ t.entries[g]? = some x.entry := by
    intro g hg
    rw [h.count] at hg
    refine ⟨groups[g], List.getElem?_eq_getElem hg, ?_⟩
    exact (h.entry_iff (by rw [h.count]; exact hg)).mpr ⟨_, List.getElem?_eq_getElem hg, rfl⟩
  refine ⟨h.inBounds, fun g hg => ?_, ?_, fun name => ?_, fun busadr => ?_⟩
  · obtain ⟨x, hx, hentry⟩ := hat g hg
    have hadr := h.numbered.busadr g x hx
    have hrange := h.numbered.range (List.mem_of_getElem? hx)
    refine ⟨x.entry, x.name, hentry, rfl, ?_, ?_, ?_, ?_⟩
    · show x.busadr = 0x80 + g
      rw [hadr, Int.add_comm]
      rfl
    · show x.busadr ≠ 0xFF
      omega
    · exact (getGroupByName_iff h _ _).mpr ⟨x, hx, rfl⟩
    · exact (getGroupByBusAddress_iff h _ _).mpr ⟨x, hx, rfl⟩
  · intro g g' x y hg hg' hx hy hname
    obtain ⟨a, ha, hentry⟩ := hat g hg
    obtain ⟨b, hb, hentry'⟩ := hat g' hg'
    rw [hentry] at hx
    rw [hentry'] at hy
    cases hx
    cases hy
    have hfirst := (getGroupByName_iff h a.name g).mpr ⟨a, ha, rfl⟩
    have hsecond := (getGroupByName_iff h a.name g').mpr ⟨b, hb, (Option.some.inj hname).symm⟩
    rw [hfirst] at hsecond
    simpa using hsecond
  · rw [getGroupByName_eq h]
    rcases h.found fun g => decide (g.name = name) with hnone | ⟨g, x, hfind, hg, hentry, hname⟩
    · exact .inl (by rw [hnone])
    · exact .inr ⟨g, x.entry, by rw [hfind], hg, hentry, congrArg some (of_decide_eq_true hname)⟩
  · rw [getGroupByBusAddress_eq h]
    rcases h.found fun g => decide (g.busadr = busadr) with hnone | ⟨g, x, hfind, hg, hentry, hadr⟩
    · exact .inl (by rw [hnone])
    · exact .inr ⟨g, x.entry, by rw [hfind], hg, hentry, of_decide_eq_true hadr⟩

/-- **The group table keeps its invariant**, whatever groups are added and whichever sockets
can be made. A call that fails changes nothing; the others add one entry and leave those before
it as they are. -/
theorem group_table_kept (cs : List GroupConfig) (hfits : ∀ c ∈ cs, c.hostname.length < 100) :
    ∃ t, GroupTable.parsed cs = .ok t ∧ t.Kept
      ∧ ∀ c : GroupConfig, c.hostname.length < 100 →
        ∃ t', t.addGroup c = .ok t' ∧ t'.Kept
          ∧ (t.Refuses c → t' = t)
          ∧ (¬ t.Refuses c → t'.count = t.count + 1
            ∧ t'.entries[t.count]? = some (c.entry t.count))
          ∧ ∀ g < t.count, t'.entries[g]? = t.entries[g]? := by
  obtain ⟨t, groups, hrun, h⟩ := parsed_stands hfits
  refine ⟨t, hrun, h.kept, fun c hc => ?_⟩
  obtain ⟨t', groups', hadd, h', hsame, hmore⟩ := addGroup_step h hc
  refine ⟨t', hadd, h'.kept, hsame, fun haccepted => ?_, fun g hg => ?_⟩
  · have hroom : t.count < maxGroups := by
      have hfull := (h.refuses_iff.not.mp haccepted)
      rw [not_or, not_or, not_not] at hfull
      rw [h.count]
      exact hfull.2.1
    rw [hmore haccepted]
    exact ⟨rfl, append_entry hroom _⟩
  · by_cases hrefused : t.Refuses c
    · rw [hsame hrefused]
    · rw [hmore hrefused]
      exact append_entries t _ hg

/-- Another group, of switches. -/
def switchGroup : GroupConfig := ⟨[0x73], [0x68], "switch", true⟩

/-- Two groups, and one with the name of the first. Without a socket there is no third. -/
theorem group_table_kept_twice :
    (∀ c ∈ [lampGroup, switchGroup, lampGroup], c.hostname.length < 100)
      ∧ ∃ t, GroupTable.parsed [lampGroup, switchGroup, lampGroup] = .ok t ∧ t.Kept ∧ t.count = 2
        ∧ t.addGroup { switchGroup with name := [0x74], socket := false } = .ok t := by
  have hfits : ∀ c ∈ [lampGroup, switchGroup, lampGroup], c.hostname.length < 100 := by decide
  obtain ⟨t, hrun, hkept, hadds⟩ := group_table_kept [lampGroup, switchGroup, lampGroup] hfits
  obtain ⟨t', hadd, -, hsame, -⟩ :=
    hadds { switchGroup with name := [0x74], socket := false } (by decide)
  rw [hsame (.inr (.inr rfl))] at hadd
  have hcount : (GroupTable.parsed [lampGroup, switchGroup, lampGroup]).toOption.map
      (fun t => t.count) = some 2 := by
    decide +kernel
  rw [hrun] at hcount
  exact ⟨hfits, t, hrun, hkept, Option.some.inj hcount, hadd⟩

end Ubd
