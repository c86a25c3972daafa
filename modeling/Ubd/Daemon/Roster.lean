import Mathlib.Algebra.Group.Action.Defs
import Mathlib.Algebra.Order.BigOperators.Group.List
import Mathlib.Algebra.Order.Group.Nat
import Ubd.Daemon.Listing
import Ubd.Daemon.Versions

/-!
# Daemon.Roster — who is listed, over whole runs

The ids of active nodes and the versions come in packets of 45 bytes, and the other texts from
the configuration. So a line of the listing never takes all of its 300 bytes, and what is left
of one is enough for the header: `listing_fits_iff` says that the listing fits when there is a
node at all.
-/

namespace Ubd

open Runs

/-! ## What is in the table -/

/-- A C string of up to 99 characters. -/
def Listed (t : CString) : Prop := (0 : UInt8) ∉ t ∧ t.length < maxId

/-- The ids are such strings, and those of active nodes have come in a packet. -/
def SlotTable.Rostered (t : SlotTable) : Prop :=
  ∀ i, Listed (t i).id ∧ ((t i).active = true → (t i).id.length ≤ 40)

structure Rostered (d : Daemon) : Prop where
  slots : d.slots.Rostered
  name : ∀ i, Listed (d.nodes i).name
  version : ∀ i, (d.nodes i).version.toList.drop 43 = List.replicate 57 0

section Rosters

variable {t t' : SlotTable} {p : UbPacket} {d d' : Daemon} {n : NodeId}

theorem FromPacket.listed {text : CString} (h : FromPacket text) : Listed text :=
  ⟨h.plain, lt_of_le_of_lt h.short (by decide)⟩

/-- Ids only change to those in packets, and nobody gets on the bus without one. -/
theorem SlotTable.Rostered.packet (h : t.Rostered) (hassigned : t.Assigned)
    (hchange : PacketChange p t t') : t'.Rostered := by
  have hpacket : ∀ off, 5 ≤ off → Listed (packetId p off)
      ∧ (true = true → (packetId p off).length ≤ 40) := by
    intro off hoff
    have hid := packetId_fromPacket p hoff
    exact ⟨hid.listed, fun _ => hid.short⟩
  exact hassigned.forall_slot (Q := fun s => Listed s.id ∧ (s.active = true → s.id.length ≤ 40))
    hchange h (fun _ _ _ => hpacket 7 (by decide)) (fun _ => hpacket 5 (le_refl 5))
    fun _ hactive hs => ⟨hs.1, fun _ => hs.2 hactive⟩

theorem SlotTable.Rostered.expired (h : t.Rostered) (hexpired : Expired t t') : t'.Rostered :=
  hexpired.forall_slot (Q := fun s => Listed s.id ∧ (s.active = true → s.id.length ≤ 40)) h
    fun _ hs => ⟨hs.1, fun hactive => nomatch hactive⟩

theorem Rostered.step (h : Rostered d) (hwired : Wired d) {e : DaemonEvent}
    (hstep : daemonStep d e = .ok d') : Rostered d' where
  slots := by
    cases e with
    | packet p connect =>
        exact h.slots.packet hwired.assigned (busmgtInpacket_change hwired.assigned.free hstep).1
    | take =>
        cases hstep
        exact h.slots
    | main e =>
        by_cases htick : ∃ env, e = .tick env
        · obtain ⟨env, rfl⟩ := htick
          exact h.slots.expired (mgtTick_change hstep).1
        · rw [(mainStep_traffic (fun env heq => htick ⟨env, heq⟩) hstep).slots]
          exact h.slots
  name := by
    intro i
    rcases daemonStep_name hstep i with hsame | hpacket
    · rw [hsame]
      exact h.name i
    · exact hpacket.listed
  version := by
    intro i
    rw [daemonStep_version hstep i]
    cases hreport : e.report i d with
    | none => exact h.version i
    | some text =>
        -- what is written ends before the part that is dropped
        have hlen := report_length hreport
        show (text ++ (d.nodes i).version.toList.drop text.length).drop 43 = _
        rw [List.drop_append, List.drop_eq_nil_of_le hlen, List.nil_append, List.drop_drop,
          Nat.add_sub_of_le hlen]
        exact h.version i

/-- `strncpy` and the NUL behind it leave up to 99 characters. -/
theorem listed_take {text : CString} (h : (0 : UInt8) ∉ text) : Listed (text.take (maxId - 1)) :=
  ⟨fun hmem => h (List.mem_of_mem_take hmem),
    lt_of_le_of_lt (List.length_take_le _ _) (by decide)⟩

/-- The name is the configured one, or what the id begins with. -/
theorem listed_named {x : Node} (hid : Listed x.id) (hname : Listed x.name) :
    Listed (nodesSetNameFromID x).name := by
  unfold nodesSetNameFromID
  split
  · have hpart := List.takeWhile_sublist (· ≠ (0x2C : UInt8)) (l := x.id)
    exact ⟨fun hmem => hid.1 (hpart.subset hmem), lt_of_le_of_lt hpart.length_le hid.2⟩
  · exact hname

/-- A configured node has strings that `strncpy` has cut. -/
theorem withConfigured_listed {c : NodeConfig} (hc : (0 : UInt8) ∉ c.id ∧ (0 : UInt8) ∉ c.hostname)
    (h : ∀ i, Listed (d.nodes i).id ∧ Listed (d.nodes i).name) (i : NodeId) :
    Listed ((d.withConfigured n c).nodes i).id ∧ Listed ((d.withConfigured n c).nodes i).name := by
  unfold Daemon.withConfigured nodesAddNode
  by_cases hi : i = n
  · subst hi
    rw [setNode_self, setNode_self, setNode_self]
    have hid : Listed (c.fill (d.nodes i).reset).id := listed_take hc.1
    have hname : Listed (c.fill (d.nodes i).reset).name := by
      show Listed (if c.hostname = [] then (d.nodes i).name else c.hostname.take (maxId - 1))
      split
      · exact (h i).2
      · exact listed_take hc.2
    refine ⟨?_, listed_named hid hname⟩
    have hsame := congrArg Slot.id (nodesSetNameFromID_slot { c.fill (d.nodes i).reset with
      free := false })
    change (nodesSetNameFromID { c.fill (d.nodes i).reset with free := false }).id
      = (c.fill (d.nodes i).reset).id at hsame
    rw [hsame]
    exact hid
  · rw [setNode_of_ne _ n _ hi, setNode_of_ne _ n _ hi, setNode_of_ne _ n _ hi]
    exact h i

/-- The configuration has no active nodes. -/
theorem configured_rostered {nodetimeout : Int} {cs : List NodeConfig}
    (hcs : ∀ c ∈ cs, (0 : UInt8) ∉ c.id ∧ (0 : UInt8) ∉ c.hostname)
    (h : configured nodetimeout cs = .ok d) : Rostered d := by
  have hlisted : ∀ i, Listed (d.nodes i).id ∧ Listed (d.nodes i).name := by
    refine foldlM_invariant (I := fun e => ∀ i, Listed (e.nodes i).id ∧ Listed (e.nodes i).name)
      (fun c hc e e' he hparse => ?_) (fun i => ?_) h
    · obtain ⟨n, -, rfl⟩ := xmlParseNode_ok hparse
      exact withConfigured_listed (hcs c hc) he
    · have hblank : Listed [] := ⟨List.not_mem_nil, by decide⟩
      exact ⟨hblank, hblank⟩
  have hsilent := configured_silent h
  refine ⟨fun i => ⟨(hlisted i).1, fun hactive => ?_⟩, fun i => (hlisted i).2, fun i => ?_⟩
  · rw [(hsilent i).1] at hactive
    cases hactive
  · rw [configured_version h i]
    rfl

/-! ## How long the lines are -/

/-- Addresses and counts have up to three characters. -/
theorem decimal_length {a : Int} (hlo : -1 ≤ a) (hhi : a ≤ 256) : (decimal a).length ≤ 3 := by
  have hall : ∀ k : Fin 258, (decimal ((k.val : Int) - 1)).length ≤ 3 := by decide +kernel
  have hk := hall ⟨(a + 1).toNat, by omega⟩
  have heq : (((a + 1).toNat : Nat) : Int) - 1 = a := by omega
  rw [← heq]
  exact hk

theorem Rostered.version_short (h : Rostered d) (n : NodeId) :
    (0 : UInt8) ∈ (d.nodes n).version.toList
      ∧ (cstr (d.nodes n).version.toList).length ≤ 43 := by
  have hsplit := List.take_append_drop 43 (d.nodes n).version.toList
  rw [h.version n] at hsplit
  refine ⟨?_, ?_⟩
  · rw [← hsplit, List.mem_append]
    exact .inr (by decide)
  · have hfront : (cstr ((d.nodes n).version.toList.take 43 ++ List.replicate 57 0)).length
        ≤ ((d.nodes n).version.toList.take 43).length := by
      rw [cstr, List.takeWhile_append]
      split
      · exact le_of_eq (congrArg List.length (List.append_nil _))
      · exact (List.takeWhile_sublist _).length_le
    rw [hsplit] at hfront
    exact le_trans hfront (List.length_take_le _ _)

theorem Rostered.listable (h : Rostered d) : Listable d :=
  ⟨fun n _ => (h.slots n).1, fun n _ => h.name n, fun n _ => (h.version_short n).1⟩

/-- A line takes up to 218 bytes. -/
theorem Rostered.lineWidth (h : Rostered d) (hassigned : d.slots.Assigned)
    (hactive : (d.nodes n).active = true) : (d.nodes n).lineWidth ≤ 218 := by
  have hid : (d.nodes n).id.length ≤ 40 := (h.slots n).2 hactive
  have hname : (d.nodes n).name.length < 100 := (h.name n).2
  have hversion := (h.version_short n).2
  obtain ⟨hlo, hhi⟩ := hassigned.range n
  have hbusadr : (decimal (d.nodes n).busadr).length ≤ 3 :=
    decimal_length hlo (le_trans hhi (by decide))
  unfold Node.lineWidth
  omega

/-- With the header, the prompt and a NUL, that is less than 300 for each node. -/
theorem Rostered.listWidth_le_iff (h : Rostered d) (hassigned : d.slots.Assigned) :
    listWidth d ≤ 300 * nodesGetNodeCount d ↔ nodesGetNodeCount d ≠ 0 := by
  have hcount : nodesGetNodeCount d ≤ maxNode := by
    rw [← List.length_finRange (n := maxNode)]
    exact List.countP_le_length
  have hdigits : (decimal (nodesGetNodeCount d)).length ≤ 3 := by
    refine decimal_length (by omega) ?_
    have hmax : maxNode = 256 := rfl
    omega
  have hlines : (((usedSlots d).filter fun n => (d.nodes n).active).map
      fun n => (d.nodes n).lineWidth).sum ≤ 218 * nodesGetNodeCount d := by
    have hsum := List.sum_le_card_nsmul (((usedSlots d).filter fun n => (d.nodes n).active).map
      fun n => (d.nodes n).lineWidth) 218 fun w hw => by
        obtain ⟨n, hn, rfl⟩ := List.mem_map.mp hw
        exact h.lineWidth hassigned (List.mem_filter.mp hn).2
    rw [List.length_map, smul_eq_mul, Nat.mul_comm] at hsum
    rw [nodesGetNodeCount_eq]
    exact le_trans hsum (Nat.mul_le_mul_left 218 (List.length_filter_le _ _))
  unfold listWidth
  omega

end Rosters

/-- **When the node listing fits its memory.** In every state that is reached, it does if there
is a node at all. In any table with strings of up to 99 characters, it does if the header, the
prompt and the lines of the active nodes need no more than 300 bytes for each node. -/
theorem listing_fits_iff {nodetimeout : Int} {cs : List NodeConfig} {d₀ d : Daemon}
    {es : List DaemonEvent} (hcs : ∀ c ∈ cs, (0 : UInt8) ∉ c.id ∧ (0 : UInt8) ∉ c.hostname)
    (hconfigured : configured nodetimeout cs = .ok d₀)
    (hrun : Run daemonStep (fun _ _ => True) d₀ es d) :
    (∀ mem, mem.length = 300 * nodesGetNodeCount d →
        ((∃ result, cmdparserListNodes mem d = .ok result) ↔ nodesGetNodeCount d ≠ 0))
      ∧ ∀ t, Listable t → ∀ mem, mem.length = 300 * nodesGetNodeCount t →
        ((∃ result, cmdparserListNodes mem t = .ok result)
          ↔ listWidth t ≤ 300 * nodesGetNodeCount t) := by
  have hrostered : Wired d ∧ Rostered d := hrun.invariant (I := fun e => Wired e ∧ Rostered e)
    ⟨(configured_wired hconfigured).1, configured_rostered hcs hconfigured⟩
    fun _ _ _ hs _ hstep => ⟨hs.1.step hstep, hs.2.step hs.1 hstep⟩
  refine ⟨fun mem hmem => ?_, fun t ht mem hmem => cmdparserListNodes_fits ht hmem⟩
  rw [cmdparserListNodes_fits hrostered.2.listable hmem]
  exact hrostered.2.listWidth_le_iff hrostered.1.assigned

/-- The listing of a node that has just been discovered fits. -/
theorem listing_fits_iff_one : configured 30 [] = .ok (nodesInit 30)
    ∧ ∃ d, Run daemonStep (fun _ _ => True) (nodesInit 30) [.packet (newcomer 0) .connected] d
      ∧ nodesGetNodeCount d = 1
      ∧ ∃ result, cmdparserListNodes (List.replicate 300 0) d = .ok result := by
  obtain ⟨d, hrun, hcount⟩ : ∃ d, Run daemonStep (fun _ _ => True) (nodesInit 30)
      [.packet (newcomer 0) .connected] d ∧ nodesGetNodeCount d = 1 := by
    apply Run.exists_of_eval Fault.assertion
    decide +kernel
  have hfits := (@listing_fits_iff 30 [] (nodesInit 30) d _ (fun c hc => nomatch hc) rfl hrun).1
    (List.replicate 300 0)
  rw [hcount] at hfits
  exact ⟨rfl, d, hrun, hcount, (hfits List.length_replicate).mpr Nat.one_ne_zero⟩

/-- **Without nodes, nothing is allocated** for the header. -/
theorem empty_listing_overruns : configured 30 [] = .ok (nodesInit 30)
    ∧ Run daemonStep (fun _ _ => True) (nodesInit 30) [] (nodesInit 30)
    ∧ Listable (nodesInit 30)
    ∧ ([] : List UInt8).length = 300 * nodesGetNodeCount (nodesInit 30)
    ∧ ¬ ∃ result, cmdparserListNodes [] (nodesInit 30) = .ok result := by
  have hunused : ∀ n, ((nodesInit 30).nodes n).free ≠ false := by
    intro n hn
    cases hn
  have hlist : Listable (nodesInit 30) := ⟨fun n hn => absurd hn (hunused n),
    fun n hn => absurd hn (hunused n), fun n hn => absurd hn (hunused n)⟩
  have hcount : ([] : List UInt8).length = 300 * nodesGetNodeCount (nodesInit 30) := by
    decide +kernel
  refine ⟨rfl, .nil, hlist, hcount, ?_⟩
  rw [cmdparserListNodes_fits hlist hcount, ← hcount, List.length_nil, listWidth]
  omega

end Ubd
