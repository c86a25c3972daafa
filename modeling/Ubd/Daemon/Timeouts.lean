import Ubd.Daemon.Identity
import Ubd.Daemon.Lifecycle
import Ubd.Lib.Lifetimes

/-!
# Daemon.Timeouts — when a node times out

Four packets set `n->timeout`, two of them for the node with an id and two for the node at an
address, and `mgt_checkTimeout` counts it down. `timeouts_exact` says at which tick a node is
taken off the bus: the one that is exactly one more than `config.nodetimeout` after the node
was last heard.
-/

namespace Ubd

open Runs Lifetimes

/-! ## What refreshes a timeout -/

/-- The node whose timeout a packet sets. -/
def refreshed (d : Daemon) (p : UbPacket) : Option NodeId :=
  if p.kind = 0x44 then if p.len.toNat ≤ maxId then d.slots.target (packetId p 7) else none
  else if p.kind = 0x49 then
    if p.len.toNat ≤ maxId then
      (d.slots.byId (packetId p 1)).filter fun x =>
        (d.nodes x).state = .identify ∧ (d.nodes x).netup = true
    else none
  else if p.kind = 0x41 then d.slots.byAdr p.src.toNat
  else if p.kind = 0x42 then (d.slots.bridged p).byAdr p.src.toNat
  else none

/-- The timeout of one node has been set, or of none. -/
def Refreshes (d d' : Daemon) (o : Option NodeId) : Prop :=
  ∀ i, (d'.nodes i).timeout = if o = some i then d.nodetimeout else (d.nodes i).timeout

section Packets

variable {d d' : Daemon} {p : UbPacket} {connect : UbnetdConnect}

theorem refreshes_none (h : ∀ i, (d'.nodes i).timeout = (d.nodes i).timeout) :
    Refreshes d d' none := by
  intro i
  rw [if_neg (by simp)]
  exact h i

theorem refreshes_some {x : NodeId} (hx : (d'.nodes x).timeout = d.nodetimeout)
    (h : ∀ i, i ≠ x → (d'.nodes i).timeout = (d.nodes i).timeout) : Refreshes d d' (some x) := by
  intro i
  split_ifs with hi
  · cases hi
    exact hx
  · exact h i fun heq => hi (congrArg some heq.symm)

theorem busmgtDiscover_refreshes
    (hfree : ∀ i, (d.slots i).free = true → (d.slots i).active = false)
    (h : busmgtDiscover d p connect = .ok d') : Refreshes d d'
      (if p.len.toNat ≤ maxId then d.slots.target (packetId p 7) else none) := by
  cases busmgtDiscover_discovers h with
  | ignored long =>
      rw [if_neg (by omega)]
      exact refreshes_none fun _ => rfl
  | full fits created =>
      rw [if_pos (le_trans fits.2 (by decide)), mgtCreateNode_target hfree created]
      exact refreshes_none fun _ => rfl
  | @discovered d₁ x fits created address =>
      rw [if_pos (le_trans fits.2 (by decide)), mgtCreateNode_target hfree created]
      obtain ⟨hothers, -, -, hconfig⟩ := mgtRegisterNode_nodes created
      refine refreshes_some ?_ fun i hi => ?_
      · rw [queue_nodes, setNode_self]
        exact hconfig
      · rw [queue_nodes, setNode_of_ne d₁ x _ hi, hothers i hi]

theorem busmgtIdentify_refreshes (h : busmgtIdentify d p = .ok d') : Refreshes d d'
      (if p.len.toNat ≤ maxId then (d.slots.byId (packetId p 1)).filter fun x =>
        (d.nodes x).state = .identify ∧ (d.nodes x).netup = true else none) := by
  have hshort : ∀ x, d.slots.byId (packetId p 1) = some x →
      ((d.slots.byId (packetId p 1)).filter fun x =>
        (d.nodes x).state = .identify ∧ (d.nodes x).netup = true)
      = if (d.nodes x).state = .identify ∧ (d.nodes x).netup = true then some x else none := by
    intro x hx
    rw [hx]
    by_cases hboth : (d.nodes x).state = .identify ∧ (d.nodes x).netup = true
    · rw [if_pos hboth, Option.filter_some, if_pos (by simpa using hboth)]
    · rw [if_neg hboth, Option.filter_some, if_neg (by simpa using hboth)]
  split_ifs with hlen
  · cases busmgtIdentify_identifies h with
    | @accepted x accepts =>
        rw [hshort x accepts.named, if_pos ⟨accepts.waiting, accepts.netup⟩]
        refine refreshes_some ?_ fun i hi => ?_
        · exact congrArg Node.timeout (Function.update_self _ _ d.nodes)
        · exact congrArg Node.timeout (Function.update_of_ne hi _ d.nodes)
    | refused stranger =>
        cases hby : d.slots.byId (packetId p 1) with
        | none => exact refreshes_none fun _ => rfl
        | some x =>
            rw [← hby, hshort x hby, if_neg fun hboth => stranger x hby hboth.1]
            exact refreshes_none fun _ => rfl
    | ignored stopped =>
        rcases stopped with hlong | ⟨x, hby, -, hdown⟩
        · omega
        · rw [hshort x hby, if_neg fun hboth => by rw [hdown] at hboth; cases hboth.2]
          exact refreshes_none fun _ => rfl
  · rcases busmgtIdentify_length h with ⟨-, rfl⟩ | ⟨-, hhi⟩
    · exact refreshes_none fun _ => rfl
    · have hdata : ubPacketData = 45 := rfl
      simp only [maxId] at hlen
      omega

theorem busmgtVersion_refreshes (h : busmgtVersion d p = .ok d') : Refreshes d d' none := by
  obtain ⟨n, version, -, -, rfl⟩ := busmgtVersion_sets h
  refine refreshes_none fun i => ?_
  by_cases hi : i = n
  · rw [hi, setNode_self]
  · rw [setNode_of_ne d n _ hi]

theorem busmgtAlive_refreshes (h : busmgtAlive d p = .ok d') :
    Refreshes d d' (d.slots.byAdr p.src.toNat) := by
  rcases busmgtAlive_cases h with ⟨hby, rfl⟩ | ⟨n, hby, rfl⟩
  · rw [hby]
    exact refreshes_none fun _ => rfl
  · rw [hby]
    refine refreshes_some ?_ fun i hi => ?_
    · rw [setNode_self]
    · rw [setNode_of_ne d n _ hi]

theorem busmgtBridge_refreshes {x : NodeId} (h : d.slots.Assigned)
    (htarget : d.slots.target (packetId p 5) = some x)
    (hrun : busmgtBridge d p connect = .ok d') :
    Refreshes d d' ((d.slots.bridged p).byAdr p.src.toNat) := by
  obtain ⟨d₁, n, hbridging⟩ := busmgtBridge_nodes h htarget hrun
  rw [hbridging.found]
  refine refreshes_some ?_ fun i hi => ?_
  · rw [hbridging.at_found]
    rfl
  · rw [hbridging.at_other hi]
    by_cases hix : i = x
    · rw [hix]
      exact hbridging.timeout
    · rw [hbridging.others i hix]

/-- **Which timeout a packet sets**, if there is a slot for the bridge. -/
theorem busmgtInpacket_refreshes (h : d.slots.Assigned)
    (hroom : p.kind = 0x42 → d.slots.target (packetId p 5) ≠ none)
    (hrun : busmgtInpacket d p connect = .ok d') : Refreshes d d' (refreshed d p) := by
  unfold busmgtInpacket at hrun
  unfold refreshed
  by_cases hD : p.kind = 0x44
  · rw [if_pos hD] at hrun ⊢
    exact busmgtDiscover_refreshes h.free hrun
  rw [if_neg hD] at hrun ⊢
  by_cases hI : p.kind = 0x49
  · rw [if_pos hI] at hrun ⊢
    exact busmgtIdentify_refreshes hrun
  rw [if_neg hI] at hrun ⊢
  by_cases hV : p.kind = 0x56
  · rw [if_pos hV] at hrun
    rw [if_neg (by rw [hV]; decide), if_neg (by rw [hV]; decide)]
    exact busmgtVersion_refreshes hrun
  rw [if_neg hV] at hrun
  by_cases hA : p.kind = 0x41
  · rw [if_pos hA] at hrun ⊢
    exact busmgtAlive_refreshes hrun
  rw [if_neg hA] at hrun ⊢
  by_cases hB : p.kind = 0x42
  · rw [if_pos hB] at hrun ⊢
    obtain ⟨x, hx⟩ := Option.ne_none_iff_exists'.mp (hroom hB)
    exact busmgtBridge_refreshes h hx hrun
  · rw [if_neg hB] at hrun ⊢
    cases hrun
    exact refreshes_none fun _ => rfl

end Packets

/-! ## The countdown -/

/-- **What a second does to a node on the bus**: it times out, or its timeout is one less. -/
structure CountsDown (x x' : Node) : Prop where
  out : x.TimesOut → x'.active = false ∧ x'.state = .timeout
  left : ¬ x.TimesOut → x.state.onBus → x'.slot = x.slot ∧ x'.timeout = x.timeout - 1

section Tick

variable {d d' : Daemon} {n : NodeId} {env : NodeId → NetEnv}

theorem mgtCheckNode_countsDown (h : mgtCheckNode d n = .ok d') :
    CountsDown (d.nodes n) (d'.nodes n) := by
  cases mgtCheckNode_checks h with
  | off off =>
      exact ⟨fun hout => absurd hout.1 off, fun _ honBus => absurd honBus off⟩
  | left onBus left =>
      refine ⟨fun hout => absurd hout.2 left, fun _ _ => ?_⟩
      rw [setNode_self]
      exact ⟨rfl, rfl⟩
  | out out =>
      refine ⟨fun _ => ?_, fun hnot => absurd out hnot⟩
      rw [setNode_self]
      exact ⟨rfl, rfl⟩

/-- **A tick**, whatever its other turns do. -/
theorem mgtTick_countsDown (hd : Plugged d) (hused : (d.nodes n).free = false)
    (h : mgtTick d env = .ok d') : CountsDown (d.nodes n) (d'.nodes n) := by
  obtain ⟨d₁, d₂, d₃, d₄, ⟨-, hsame₁, hcheck⟩, ⟨-, hsame₃, hconfigure⟩, hsame₄⟩ :=
    mgtTick_turns hd hused h
  have hcount := mgtCheckNode_countsDown hcheck
  -- the second loop leaves the bus side of the node alone
  have hbus : (d'.nodes n).bus = (d₂.nodes n).bus := by
    rw [hsame₄.node, ← hsame₃.node]
    cases hconfigure
    exact onNet_bus d₃ n _ n
  have hslot : (d'.nodes n).slot = (d₂.nodes n).slot := by
    have hcongr := congrArg Node.slot hbus
    exact hcongr
  have htimeout : (d'.nodes n).timeout = (d₂.nodes n).timeout := by
    have hcongr := congrArg Node.timeout hbus
    exact hcongr
  rw [hsame₁.node] at hcount
  refine ⟨fun hout => ?_, fun hnot honBus => ?_⟩
  · obtain ⟨hactive, hstate⟩ := hcount.out hout
    exact ⟨(congrArg Slot.active hslot).trans hactive, (congrArg Slot.state hslot).trans hstate⟩
  · obtain ⟨hsame, hone⟩ := hcount.left hnot honBus
    exact ⟨hslot.trans hsame, htimeout.trans hone⟩

end Tick

/-! ## Hearing a node -/

/-- The node with this id in slot `i` is heard: a `D` with its id, an `I` with its id that is
accepted, an `A` from its address, or a `B` with its id. -/
inductive Heard (i : NodeId) (id : CString) (d : Daemon) : BusEvent → Prop
  | discover {p : UbPacket} {connect : UbnetdConnect} (kind : p.kind = 0x44)
      (own : packetId p 7 = id) : Heard i id d (.packet p connect)
  | identify {p : UbPacket} {connect : UbnetdConnect} (kind : p.kind = 0x49)
      (own : packetId p 1 = id) (waiting : (d.nodes i).state = .identify)
      (netup : (d.nodes i).netup = true) : Heard i id d (.packet p connect)
  | alive {p : UbPacket} {connect : UbnetdConnect} (kind : p.kind = 0x41)
      (active : (d.nodes i).active = true) (adr : (d.nodes i).busadr = p.src.toNat) :
      Heard i id d (.packet p connect)
  | bridge {p : UbPacket} {connect : UbnetdConnect} (kind : p.kind = 0x42)
      (own : packetId p 5 = id) : Heard i id d (.packet p connect)

/-- Packets are no longer than their data, there is one bridge at address 2, and at every `D`
an address is available. -/
def Orderly (bid : CString) (d : Daemon) : BusEvent → Prop
  | .packet p _ =>
      ((p.kind = 0x44 ∨ p.kind = 0x49) → p.len.toNat ≤ ubPacketData)
        ∧ (p.kind = 0x44 → ∃ a : Int, 3 ≤ a ∧ a ≤ 254
          ∧ ∀ i, (d.nodes i).active = true → (d.nodes i).busadr ≠ a)
        ∧ (p.kind = 0x42 → p.src = 2 ∧ packetId p 5 = bid)
  | .tick _ => True

section Hearing

variable {bid : CString} {d d' : Daemon} {p : UbPacket} {connect : UbnetdConnect} {i : NodeId}

/-- There is a slot for the bridge whenever somebody is at its address. -/
theorem Addressed.bridge_room {t : SlotTable} (h : Addressed bid t) {n : NodeId}
    (hn : t.byAdr 2 = some n) : t.target bid ≠ none := by
  obtain ⟨-, hactive, hadr⟩ := byAdr_eq_some hn
  have hcan := h.canonical n hactive
  rw [h.bridge n hadr] at hcan
  rw [SlotTable.target, hcan, Option.some_or]
  exact Option.some_ne_none n

/-- A `B` that is handled finds a slot for its bridge. -/
theorem Addressed.bridge_handled (h : Addressed bid d.slots) (hassigned : d.slots.Assigned)
    (horderly : Orderly bid d (.packet p connect)) (hrun : busmgtInpacket d p connect = .ok d')
    (hkind : p.kind = 0x42) : d.slots.target (packetId p 5) ≠ none := by
  intro hnone
  obtain ⟨hsrc, hid⟩ := horderly.2.2 hkind
  rw [busmgtInpacket, hkind, if_neg (by decide), if_neg (by decide), if_neg (by decide),
    if_neg (by decide), if_pos rfl] at hrun
  obtain ⟨⟨n, hn⟩, -⟩ := busmgtBridge_length hassigned hrun
  rw [bridged_none hnone, hsrc] at hn
  rw [hid] at hnone
  exact h.bridge_room hn hnone

theorem Orderly.addressed (horderly : Orderly bid d (.packet p connect))
    (h : Addressed bid d.slots) (hassigned : d.slots.Assigned)
    (hrun : busmgtInpacket d p connect = .ok d') : Addressed bid d'.slots := by
  have hroom := h.bridge_handled hassigned horderly hrun
  obtain ⟨-, hleft, hbridge⟩ := horderly
  have hchange := (busmgtInpacket_change h.free hrun).1
  generalize d'.slots = t' at hchange
  cases hchange with
  | same => exact h
  | discover kind _ slot =>
      obtain ⟨hlo, hhi, hfresh⟩ := freeAdr_fresh h (hleft kind)
      exact h.register slot (fun j _ => hfresh j) (.inr ⟨hlo, hhi⟩) (fun h2 => by omega) (.inl rfl)
  | identify _ slot waiting => exact h.confirm ((h.active _).mpr (.inl waiting))
  | @bridge x n t₁ kind slot registered found =>
      obtain ⟨hsrc, hid⟩ := hbridge kind
      rw [hid] at slot registered
      rw [hsrc, registered] at found
      rw [registered]
      exact h.bridged slot found
  | bridgeFull kind slot found => exact absurd slot (hroom kind)

/-- An active node is the one its address is looked up to. -/
theorem Addressed.byAdr_active {t : SlotTable} (h : Addressed bid t) {a : Int}
    (hactive : (t i).active = true) (hadr : (t i).busadr = a) : t.byAdr a = some i := by
  cases hby : t.byAdr a with
  | none => exact absurd hadr (byAdr_eq_none.mp hby i (h.used hactive) hactive)
  | some j =>
      obtain ⟨-, hj, hadrj⟩ := byAdr_eq_some hby
      exact congrArg some (h.exclusive j i a (holder_eq_some.mpr ⟨hj, hadrj⟩)
        (holder_eq_some.mpr ⟨hactive, hadr⟩))

/-- A node that is active after a `D` has its id if and only if it is the target. -/
theorem Addressed.discovered_iff {t t' : SlotTable} (h : Addressed bid t) (hkind : p.kind = 0x44)
    (hlen : p.len.toNat ≤ maxId) (hchange : PacketChange p t t')
    (hactive : (t' i).active = true) :
    t.target (packetId p 7) = some i ↔ packetId p 7 = (t' i).id := by
  cases hchange with
  | same idle =>
      have hnone := (idle.1 hkind).resolve_left (Nat.not_lt.mpr hlen)
      rw [hnone]
      refine iff_of_false (fun heq => nomatch heq) fun hown => ?_
      rw [hown, SlotTable.target, h.canonical i hactive] at hnone
      cases hnone
  | @discover x _ _ slot =>
      rw [slot, Option.some_inj]
      constructor
      · intro hx
        rw [← hx, SlotTable.register, Function.update_self]
      · intro hown
        by_contra hne
        rw [SlotTable.register, Function.update_of_ne (Ne.symm hne)] at hown hactive
        exact hne (h.eq_target slot hactive hown.symm).symm
  | identify kind => exact absurd (kind.symm.trans hkind) (by decide)
  | bridge kind => exact absurd (kind.symm.trans hkind) (by decide)
  | bridgeFull kind => exact absurd (kind.symm.trans hkind) (by decide)

/-- A packet that is neither a `D` nor a `B` renames nobody. -/
theorem PacketChange.sameIds {t t' : SlotTable} (hchange : PacketChange p t t')
    (hD : p.kind ≠ 0x44) (hB : p.kind ≠ 0x42) : t.SameIds t' := by
  cases hchange with
  | same => exact fun _ => ⟨rfl, rfl⟩
  | discover kind => exact absurd kind hD
  | identify => exact sameIds_confirm t _
  | bridge kind => exact absurd kind hB
  | bridgeFull kind => exact absurd kind hB

/-- After a `B` the bridge is the only node with its id. -/
theorem Addressed.bridged_iff {t t' : SlotTable} (h : Addressed bid t) (hkind : p.kind = 0x42)
    (hsrc : p.src = 2) (hid : packetId p 5 = bid) (hroom : t.target (packetId p 5) ≠ none)
    (hchange : PacketChange p t t') (hactive : (t' i).active = true) :
    (t.bridged p).byAdr p.src.toNat = some i ↔ packetId p 5 = (t' i).id := by
  cases hchange with
  | same idle => exact absurd hkind idle.2
  | discover kind => exact absurd (kind.symm.trans hkind) (by decide)
  | identify kind => exact absurd (kind.symm.trans hkind) (by decide)
  | @bridge x n t₁ _ slot registered found =>
      rw [bridged_some slot, ← registered, found, Option.some_inj]
      rw [hid] at slot registered ⊢
      rw [hsrc, registered] at found
      have hn := h.bridge_found slot found
      subst hn
      constructor
      · intro hi
        rw [← hi, registered]
        simp [SlotTable.confirm, SlotTable.register]
      · intro hown
        by_contra hne
        rw [registered, SlotTable.confirm, Function.update_of_ne (Ne.symm hne),
          SlotTable.register, Function.update_of_ne (Ne.symm hne)] at hown hactive
        exact hne (h.eq_target slot hactive hown.symm).symm
  | bridgeFull _ slot => exact absurd slot hroom

/-! ### Who is heard from -/

theorem heard_discover {id : CString} (hkind : p.kind = 0x44) :
    Heard i id d (.packet p connect) ↔ packetId p 7 = id := by
  constructor
  · intro h
    cases h with
    | discover _ own => exact own
    | identify kind | alive kind | bridge kind =>
        exact absurd (kind.symm.trans hkind) (by decide)
  · exact Heard.discover hkind

theorem heard_identify {id : CString} (hkind : p.kind = 0x49) :
    Heard i id d (.packet p connect)
      ↔ packetId p 1 = id ∧ (d.nodes i).state = .identify ∧ (d.nodes i).netup = true := by
  constructor
  · intro h
    cases h with
    | identify _ own waiting netup => exact ⟨own, waiting, netup⟩
    | discover kind | alive kind | bridge kind =>
        exact absurd (kind.symm.trans hkind) (by decide)
  · rintro ⟨own, waiting, netup⟩
    exact Heard.identify hkind own waiting netup

theorem heard_alive {id : CString} (hkind : p.kind = 0x41) :
    Heard i id d (.packet p connect)
      ↔ (d.nodes i).active = true ∧ (d.nodes i).busadr = p.src.toNat := by
  constructor
  · intro h
    cases h with
    | alive _ active adr => exact ⟨active, adr⟩
    | discover kind | identify kind | bridge kind =>
        exact absurd (kind.symm.trans hkind) (by decide)
  · rintro ⟨active, adr⟩
    exact Heard.alive hkind active adr

theorem heard_bridge {id : CString} (hkind : p.kind = 0x42) :
    Heard i id d (.packet p connect) ↔ packetId p 5 = id := by
  constructor
  · intro h
    cases h with
    | bridge _ own => exact own
    | discover kind | identify kind | alive kind =>
        exact absurd (kind.symm.trans hkind) (by decide)
  · exact Heard.bridge hkind

/-- **The timeout that a packet sets is that of the node it is heard from.** -/
theorem refreshed_iff (h : Addressed bid d.slots) (hassigned : d.slots.Assigned)
    (horderly : Orderly bid d (.packet p connect)) (hrun : busmgtInpacket d p connect = .ok d')
    (hactive : (d'.nodes i).active = true) :
    refreshed d p = some i ↔ Heard i (d'.nodes i).id d (.packet p connect) := by
  have hroom := h.bridge_handled hassigned horderly hrun
  have hchange := (busmgtInpacket_change h.free hrun).1
  have hdata : ubPacketData = 45 := rfl
  have hmax : maxId = 100 := rfl
  obtain ⟨hlen, -, hbridge⟩ := horderly
  unfold refreshed
  by_cases hD : p.kind = 0x44
  · have hfits : p.len.toNat ≤ maxId := by
      have hshort := hlen (.inl hD)
      omega
    rw [if_pos hD, if_pos hfits, heard_discover hD]
    exact h.discovered_iff hD hfits hchange hactive
  rw [if_neg hD]
  by_cases hI : p.kind = 0x49
  · have hfits : p.len.toNat ≤ maxId := by
      have hshort := hlen (.inr hI)
      omega
    have hsame : (d'.nodes i).id = (d.nodes i).id :=
      ((hchange.sameIds hD (by rw [hI]; decide)) i).2
    rw [if_pos hI, if_pos hfits, Option.filter_eq_some_iff, heard_identify hI, hsame,
      decide_eq_true_eq]
    constructor
    · rintro ⟨hby, hboth⟩
      exact ⟨(byId_eq_some.mp hby).1.2.symm, hboth⟩
    · rintro ⟨hown, hboth⟩
      rw [hown]
      exact ⟨h.canonical i ((h.active i).mpr (.inl hboth.1)), hboth⟩
  rw [if_neg hI]
  by_cases hA : p.kind = 0x41
  · rw [if_pos hA, heard_alive hA]
    constructor
    · intro hby
      exact (byAdr_eq_some hby).2
    · rintro ⟨hon, hadr⟩
      exact h.byAdr_active hon hadr
  rw [if_neg hA]
  by_cases hB : p.kind = 0x42
  · obtain ⟨hsrc, hid⟩ := hbridge hB
    rw [if_pos hB, heard_bridge hB]
    exact h.bridged_iff hB hsrc hid (hroom hB) hchange hactive
  · rw [if_neg hB]
    refine iff_of_false (fun heq => nomatch heq) fun hheard => ?_
    cases hheard with
    | discover kind => exact hD kind
    | identify kind => exact hI kind
    | alive kind => exact hA kind
    | bridge kind => exact hB kind

/-- Whoever is active after a packet that was not heard from it was so before, under its id. -/
theorem unheard_slot (h : Addressed bid d.slots) (hassigned : d.slots.Assigned)
    (horderly : Orderly bid d (.packet p connect)) (hrun : busmgtInpacket d p connect = .ok d')
    (hactive : (d'.nodes i).active = true)
    (hunheard : ¬ Heard i (d'.nodes i).id d (.packet p connect)) :
    (d.nodes i).active = true ∧ (d'.nodes i).id = (d.nodes i).id := by
  have hroom := h.bridge_handled hassigned horderly hrun
  have hchange := (busmgtInpacket_change h.free hrun).1
  obtain ⟨-, -, hbridge⟩ := horderly
  change (d'.slots i).active = true at hactive
  change ¬ Heard i (d'.slots i).id d _ at hunheard
  show (d.slots i).active = true ∧ (d'.slots i).id = (d.slots i).id
  generalize d'.slots = t' at hchange hactive hunheard
  cases hchange with
  | same => exact ⟨hactive, rfl⟩
  | @discover x kind _ slot =>
      by_cases hix : i = x
      · refine absurd (Heard.discover kind ?_) hunheard
        rw [hix, SlotTable.register, Function.update_self]
      · rw [SlotTable.register, Function.update_of_ne hix] at hactive ⊢
        exact ⟨hactive, rfl⟩
  | @identify x _ slot waiting =>
      by_cases hix : i = x
      · rw [hix, SlotTable.confirm, Function.update_self]
        exact ⟨(h.active x).mpr (.inl waiting), rfl⟩
      · rw [SlotTable.confirm, Function.update_of_ne hix] at hactive ⊢
        exact ⟨hactive, rfl⟩
  | @bridge x n t₁ kind slot registered found =>
      obtain ⟨hsrc, hid⟩ := hbridge kind
      rw [hid] at slot registered
      rw [hsrc, registered] at found
      have hn := h.bridge_found slot found
      subst hn
      by_cases hix : i = n
      · refine absurd (Heard.bridge kind ?_) hunheard
        rw [hix, registered, hid]
        simp [SlotTable.confirm, SlotTable.register]
      · rw [registered, SlotTable.confirm, Function.update_of_ne hix, SlotTable.register,
          Function.update_of_ne hix] at hactive ⊢
        exact ⟨hactive, rfl⟩
  | bridgeFull kind slot => exact absurd slot (hroom kind)

/-- No packet takes a node off the bus. -/
theorem PacketChange.active {t t' : SlotTable} (hchange : PacketChange p t t')
    (hactive : (t i).active = true) : (t' i).active = true := by
  have hconfirm : ∀ (t : SlotTable) (n : NodeId), (t i).active = true →
      (t.confirm n i).active = true := by
    intro t n hi
    by_cases hin : i = n
    · rw [hin, SlotTable.confirm, Function.update_self]
    · rw [SlotTable.confirm, Function.update_of_ne hin]
      exact hi
  have hregister : ∀ (x : NodeId) (id : CString) (adr : Int) (state : NodeState),
      (t.register x id adr state i).active = true := by
    intro x id adr state
    by_cases hix : i = x
    · rw [hix, SlotTable.register, Function.update_self]
    · rw [SlotTable.register, Function.update_of_ne hix]
      exact hactive
  cases hchange with
  | same => exact hactive
  | discover => exact hregister _ _ _ _
  | identify => exact hconfirm t _ hactive
  | bridge _ _ registered =>
      rw [registered]
      exact hconfirm _ _ (hregister _ _ _ _)
  | bridgeFull => exact hconfirm t _ hactive

end Hearing

/-! ## The whole run -/

/-- The node is heard in this step of a run. -/
def HeardIn (i : NodeId) (id : CString) (q : Daemon × BusEvent) : Prop := Heard i id q.1 q.2

def BusEvent.isTick : BusEvent → Bool
  | .packet _ _ => false
  | .tick _ => true

/-- The number of ticks in a part of a run. -/
def ticksOf (tr : List (Daemon × BusEvent)) : Nat := tr.countP fun q => q.2.isTick

theorem not_heard_tick {i : NodeId} {id : CString} {d : Daemon} {env : NodeId → NetEnv} :
    ¬ HeardIn i id (d, .tick env) := by
  intro h
  cases h

@[simp] theorem ticksOf_nil : ticksOf [] = 0 := rfl

theorem ticksOf_append (tr tr' : List (Daemon × BusEvent)) :
    ticksOf (tr ++ tr') = ticksOf tr + ticksOf tr' := List.countP_append

@[simp] theorem ticksOf_packet (d : Daemon) (p : UbPacket) (connect : UbnetdConnect) :
    ticksOf [(d, .packet p connect)] = 0 := rfl

@[simp] theorem ticksOf_tick (d : Daemon) (env : NodeId → NetEnv) :
    ticksOf [(d, .tick env)] = 1 := rfl

/-- The invariant: the timeout of a node on the bus is what is left of `T` since the node was
last heard. -/
structure Timed (bid : CString) (T : Int) (tr : List (Daemon × BusEvent)) (d : Daemon) :
    Prop where
  addressed : Addressed bid d.slots
  wired : Wired d
  plugged : Plugged d
  nodetimeout : d.nodetimeout = T
  clock : ∀ i, (d.nodes i).active = true → 0 ≤ (d.nodes i).timeout
    ∧ ∃ x post, LastWith (HeardIn i (d.nodes i).id) tr x post
      ∧ (d.nodes i).timeout + ticksOf post = T

section Timed

variable {bid : CString} {T : Int} {tr : List (Daemon × BusEvent)} {d d' : Daemon} {i : NodeId}

theorem Timed.packet {p : UbPacket} {connect : UbnetdConnect} (hT : 0 ≤ T) (h : Timed bid T tr d)
    (horderly : Orderly bid d (.packet p connect)) (hrun : busmgtInpacket d p connect = .ok d') :
    Timed bid T (tr ++ [(d, .packet p connect)]) d' where
  addressed := horderly.addressed h.addressed h.wired.assigned hrun
  wired := h.wired.step (e := .packet p connect) hrun
  plugged := h.plugged.step h.wired (e := .packet p connect) hrun
  nodetimeout :=
    (busmgtInpacket_change h.addressed.free hrun).2.nodetimeout.trans h.nodetimeout
  clock := by
    intro i hactive
    have htimeout := busmgtInpacket_refreshes h.wired.assigned
      (h.addressed.bridge_handled h.wired.assigned horderly hrun) hrun i
    have hrefreshed := refreshed_iff h.addressed h.wired.assigned horderly hrun hactive
    by_cases hheard : Heard i (d'.nodes i).id d (.packet p connect)
    · rw [if_pos (hrefreshed.mpr hheard), h.nodetimeout] at htimeout
      rw [htimeout]
      exact ⟨hT, _, [], .hit tr hheard, by simp⟩
    · rw [if_neg fun heq => hheard (hrefreshed.mp heq)] at htimeout
      obtain ⟨hbefore, hid⟩ :=
        unheard_slot h.addressed h.wired.assigned horderly hrun hactive hheard
      obtain ⟨hpos, x, post, hlast, hcount⟩ := h.clock i hbefore
      rw [← hid] at hlast
      rw [htimeout]
      refine ⟨hpos, x, _, hlast.miss hheard, ?_⟩
      rw [ticksOf_append, ticksOf_packet, Nat.add_zero]
      exact hcount

/-- An active node counts down to its timeout. -/
theorem Timed.countsDown {env : NodeId → NetEnv} (h : Timed bid T tr d)
    (hactive : (d.nodes i).active = true) (hrun : mgtTick d env = .ok d') :
    CountsDown (d.nodes i) (d'.nodes i) :=
  mgtTick_countsDown h.plugged (h.addressed.used hactive) hrun

theorem Timed.timesOut_iff (h : Timed bid T tr d) (hactive : (d.nodes i).active = true) :
    (d.nodes i).TimesOut ↔ (d.nodes i).timeout = 0 :=
  ⟨fun hout => hout.2, fun htime => ⟨(h.addressed.active i).mp hactive, htime⟩⟩

theorem Timed.tick {env : NodeId → NetEnv} (h : Timed bid T tr d)
    (hrun : mgtTick d env = .ok d') : Timed bid T (tr ++ [(d, .tick env)]) d' where
  addressed := h.addressed.expired (mgtTick_change hrun).1
  wired := h.wired.step (e := .main (.tick env)) hrun
  plugged := h.plugged.step h.wired (e := .main (.tick env)) hrun
  nodetimeout := (mgtTick_change hrun).2.nodetimeout.trans h.nodetimeout
  clock := by
    intro i hactive
    have hbefore : (d.nodes i).active = true := by
      rcases (mgtTick_change hrun).1.slot i with hsame | ⟨htimeout, -⟩
      · have hslot := congrArg Slot.active hsame
        exact hslot.symm.trans hactive
      · have honBus := ((h.addressed.expired (mgtTick_change hrun).1).active i).mp hactive
        rw [htimeout] at honBus
        rcases honBus with heq | heq
        · cases heq
        · cases heq
    obtain ⟨hpos, x, post, hlast, hcount⟩ := h.clock i hbefore
    have hcountdown := h.countsDown hbefore hrun
    have hstays : ¬ (d.nodes i).TimesOut := by
      intro hout
      rw [(hcountdown.out hout).1] at hactive
      cases hactive
    obtain ⟨hslot, htimeout⟩ := hcountdown.left hstays ((h.addressed.active i).mp hbefore)
    have hid : (d'.nodes i).id = (d.nodes i).id := congrArg Slot.id hslot
    have hne : (d.nodes i).timeout ≠ 0 := fun htime => hstays ((h.timesOut_iff hbefore).mpr htime)
    rw [htimeout, hid]
    refine ⟨by omega, x, _, hlast.miss not_heard_tick, ?_⟩
    rw [ticksOf_append, ticksOf_tick]
    omega

/-- **One step.** -/
theorem Timed.step {e : BusEvent} (hT : 0 ≤ T) (h : Timed bid T tr d) (horderly : Orderly bid d e)
    (hrun : busStep d e = .ok d') : Timed bid T (tr ++ [(d, e)]) d' := by
  cases e with
  | packet p connect => exact h.packet hT horderly hrun
  | tick env => exact h.tick hrun

/-- The node has not been heard for all of its time. -/
def HeardTicksAgo (tr : List (Daemon × BusEvent)) (i : NodeId) (id : CString) (T : Int) : Prop :=
  ∃ x post, LastWith (HeardIn i id) tr x post ∧ (ticksOf post : Int) = T

theorem Timed.timeout_iff (h : Timed bid T tr d) (hactive : (d.nodes i).active = true) :
    (d.nodes i).timeout = 0 ↔ HeardTicksAgo tr i (d.nodes i).id T := by
  obtain ⟨-, x, post, hlast, hcount⟩ := h.clock i hactive
  constructor
  · intro htime
    exact ⟨x, post, hlast, by omega⟩
  · rintro ⟨x', post', hlast', hcount'⟩
    obtain ⟨-, heq⟩ := hlast.unique hlast'
    rw [heq] at hcount
    omega

theorem configured_nodetimeout {cs : List NodeConfig} (h : configured T cs = .ok d) :
    d.nodetimeout = T :=
  configured_invariant (I := fun e => e.nodetimeout = T) h rfl fun _ _ _ he => he

theorem run_timed {cs : List NodeConfig} {d₀ : Daemon} (hT : 0 ≤ T)
    (h₀ : configured T cs = .ok d₀) (h : Traced busStep (Orderly bid) d₀ tr d) :
    Timed bid T tr d := by
  have hsilent := configured_silent h₀
  have hfirst : Timed bid T [] d₀ := by
    refine ⟨hsilent.addressed bid, (configured_wired h₀).1, (configured_socketless h₀).plugged.1,
      configured_nodetimeout h₀, fun i hi => ?_⟩
    have hoff : (d₀.nodes i).active = false := (hsilent i).1
    rw [hoff] at hi
    cases hi
  exact h.invariant hfirst fun _ _ _ _ hs hguard hstep => hs.step hT hguard hstep

/-- **A tick** takes a node off the bus if and only if its time is up. -/
theorem Timed.removed_iff {env : NodeId → NetEnv} (h : Timed bid T tr d)
    (hrun : mgtTick d env = .ok d') (hactive : (d.nodes i).active = true) :
    ((d'.nodes i).active = false ↔ HeardTicksAgo tr i (d.nodes i).id T)
      ∧ ((d'.nodes i).state = .timeout ↔ HeardTicksAgo tr i (d.nodes i).id T) := by
  have hcountdown := h.countsDown hactive hrun
  have honBus := (h.addressed.active i).mp hactive
  rw [← h.timeout_iff hactive, ← h.timesOut_iff hactive]
  by_cases hout : (d.nodes i).TimesOut
  · obtain ⟨hoff, htimeout⟩ := hcountdown.out hout
    exact ⟨iff_of_true hoff hout, iff_of_true htimeout hout⟩
  · obtain ⟨hslot, -⟩ := hcountdown.left hout honBus
    have hon : (d'.nodes i).active = true := (congrArg Slot.active hslot).trans hactive
    have hstate : (d'.nodes i).state = (d.nodes i).state := congrArg Slot.state hslot
    rw [hon, hstate]
    refine ⟨iff_of_false (fun heq => nomatch heq) hout, iff_of_false (fun heq => ?_) hout⟩
    rcases honBus with hidentify | hnormal
    · cases heq.symm.trans hidentify
    · cases heq.symm.trans hnormal

/-- Ids stay with the slots in use. -/
theorem busStep_stays {e : BusEvent} (h : Wired d) (hstep : busStep d e = .ok d') :
    d.slots.Stays d'.slots := by
  cases e with
  | packet p connect => exact daemonStep_stays h (e := .packet p connect) hstep
  | tick env => exact daemonStep_stays h (e := .main (.tick env)) hstep

/-- One more part of a run. -/
theorem Timed.continues {post : List (Daemon × BusEvent)} {cs : List NodeConfig} {d₀ : Daemon}
    (hT : 0 ≤ T) (h₀ : configured T cs = .ok d₀) (h : Traced busStep (Orderly bid) d₀ tr d)
    (h' : Traced busStep (Orderly bid) d₀ (tr ++ post) d') : d.slots.Stays d'.slots := by
  have hrun := h.run
  have hrun' := h'.run
  rw [List.map_append] at hrun'
  refine Run.relation (R := fun a b => a.slots.Stays b.slots) (fun s => .refl s.slots)
    (fun _ _ _ hab hbc => hab.trans hbc) (fun fs s e s' hs _ hstep => ?_) hrun hrun'
  obtain ⟨tr', htr', -⟩ := hs.traced
  exact busStep_stays (run_timed hT h₀ htr').wired hstep

end Timed

/-- Every part of a run with more than `T` ticks hears the node. -/
def HeardOften (i : NodeId) (id : CString) (T : Int) (post : List (Daemon × BusEvent)) : Prop :=
  Often (HeardIn i id) (fun q => q.2.isTick) T.toNat post

section Continuation

variable {bid : CString} {T : Int} {tr post : List (Daemon × BusEvent)} {d₀ d d' : Daemon}
  {cs : List NodeConfig} {i : NodeId}

/-- A silent node is removed. -/
theorem silent_removed (hT : 0 ≤ T) (h₀ : configured T cs = .ok d₀)
    (h : Traced busStep (Orderly bid) d₀ tr d)
    (h' : Traced busStep (Orderly bid) d₀ (tr ++ post) d') (hactive : (d.nodes i).active = true)
    (hsilent : ∀ q ∈ post, ¬ HeardIn i (d.nodes i).id q) (hlong : T < ticksOf post) :
    (d'.nodes i).active = false := by
  have hid := (Timed.continues hT h₀ h h' i ((run_timed hT h₀ h).addressed.used hactive)).2
  by_contra hon
  obtain ⟨hpos, x, p, hlast, hcount⟩ := (run_timed hT h₀ h').clock i (by simpa using hon)
  change (d'.nodes i).id = (d.nodes i).id at hid
  rw [hid] at hlast
  obtain ⟨p', rfl⟩ := hlast.earlier hsilent
  rw [ticksOf_append] at hcount
  omega

/-- A node that is heard often enough is not. -/
theorem heard_kept (hT : 0 ≤ T) (h₀ : configured T cs = .ok d₀) {q : Daemon × BusEvent}
    (h : Traced busStep (Orderly bid) d₀ (tr ++ [q]) d) (hactive : (d.nodes i).active = true)
    (hheard : HeardIn i (d.nodes i).id q) (hoften : HeardOften i (d.nodes i).id T post)
    (h' : Traced busStep (Orderly bid) d₀ (tr ++ [q] ++ post) d') :
    (d'.nodes i).active = true := by
  induction post using List.reverseRecOn generalizing d' with
  | nil =>
      rw [List.append_nil] at h'
      rw [h'.run.unique h.run]
      exact hactive
  | append_singleton post z ih =>
      rw [← List.append_assoc] at h'
      generalize htr : tr ++ [q] ++ post ++ [z] = l at h'
      cases h' with
      | nil => simp at htr
      | @snoc l s _ e hs hguard hstep =>
          obtain ⟨rfl, heq⟩ := List.append_inj' htr rfl
          obtain rfl : z = (s, e) := by simpa using heq
          have hon := ih hoften.prefix hs
          have htimed := run_timed hT h₀ hs
          cases e with
          | packet p connect =>
              exact (busmgtInpacket_change htimed.addressed.free hstep).1.active hon
          | tick env =>
              by_contra hoff
              -- the node has not been heard in its last `T` ticks, nor in this one
              obtain ⟨x, p, hlast, hcount⟩ :=
                (htimed.removed_iff hstep hon).1.mp (by simpa using hoff)
              have hid := (Timed.continues hT h₀ h hs i
                ((run_timed hT h₀ h).addressed.used hactive)).2
              change (s.nodes i).id = (d.nodes i).id at hid
              rw [hid] at hlast
              have hmiss := hlast.miss (y := (s, .tick env)) not_heard_tick
              rw [List.append_assoc] at hmiss
              have hrecent := hoften.since hmiss hheard
              change ticksOf (p ++ [(s, .tick env)]) ≤ T.toNat at hrecent
              rw [ticksOf_append, ticksOf_tick] at hrecent
              omega

end Continuation

/-- **Timeouts are exact.** A node is active while its state is `NODE_IDENTIFY` or `NODE_NORMAL`,
its timeout is between 0 and `T`, and the tick that takes it off the bus is the one that comes
when `T` ticks have passed since the node was last heard: silent nodes are removed, and nodes
that are heard at least once every `T` ticks are not. -/
theorem timeouts_exact (bid : CString) (T : Int) (hT : 0 ≤ T) (cs : List NodeConfig)
    (d₀ d : Daemon) (tr : List (Daemon × BusEvent)) (h₀ : configured T cs = .ok d₀)
    (h : Traced busStep (Orderly bid) d₀ tr d) :
    (∀ i, ((d.nodes i).active = true ↔ (d.nodes i).state = .identify ∨ (d.nodes i).state = .normal)
        ∧ ((d.nodes i).active = true → 0 ≤ (d.nodes i).timeout ∧ (d.nodes i).timeout ≤ T))
      ∧ (∀ env d' i, busStep d (.tick env) = .ok d' → (d.nodes i).active = true →
        ((d'.nodes i).active = false ↔ HeardTicksAgo tr i (d.nodes i).id T)
          ∧ ((d'.nodes i).state = .timeout ↔ HeardTicksAgo tr i (d.nodes i).id T))
      ∧ ∀ i post d', (d.nodes i).active = true →
        Traced busStep (Orderly bid) d₀ (tr ++ post) d' →
        ((∀ q ∈ post, ¬ HeardIn i (d.nodes i).id q) → T < ticksOf post →
            (d'.nodes i).active = false)
          ∧ ((∃ pre q, tr = pre ++ [q] ∧ HeardIn i (d.nodes i).id q) →
            HeardOften i (d.nodes i).id T post → (d'.nodes i).active = true) := by
  have htimed := run_timed hT h₀ h
  refine ⟨fun i => ⟨htimed.addressed.active i, fun hactive => ?_⟩,
    fun env d' i hstep hactive => htimed.removed_iff hstep hactive,
    fun i post d' hactive h' => ⟨silent_removed hT h₀ h h' hactive, ?_⟩⟩
  · obtain ⟨hpos, x, post, -, hcount⟩ := htimed.clock i hactive
    omega
  · rintro ⟨pre, q, rfl, hheard⟩ hoften
    exact heard_kept hT h₀ h hactive hheard hoften h'

/-- Two seconds after its only `D` a node has been removed, if its time is one second. -/
theorem timeouts_exact_silent : configured 1 [] = .ok (nodesInit 1)
    ∧ ∃ d₁ d₂ d₃, Traced busStep (Orderly [0x62]) (nodesInit 1)
        ([(nodesInit 1, .packet (discoverPacket [0x61]) .connected)]
          ++ [(d₁, .tick fun _ => deadEnv), (d₂, .tick fun _ => deadEnv)]) d₃
      ∧ (d₁.nodes ⟨0, by decide⟩).active = true ∧ (d₃.nodes ⟨0, by decide⟩).active = false := by
  obtain ⟨d₁, hrun, hactive⟩ : ∃ d₁, Run busStep (fun _ _ => True) (nodesInit 1)
      ([] ++ [.packet (discoverPacket [0x61]) .connected]) d₁
      ∧ (d₁.nodes ⟨0, by decide⟩).active = true := by
    apply Run.exists_of_eval Fault.assertion
    decide +kernel
  obtain ⟨s, hs, -, hstep⟩ := hrun.snoc_inv
  obtain rfl := hs.unique .nil
  have horderly : Orderly [0x62] (nodesInit 1) (.packet (discoverPacket [0x61]) .connected) := by
    refine ⟨fun _ => by decide, fun _ => ⟨9, by decide, by decide, fun i hi => ?_⟩, ?_⟩
    · cases hi
    · exact fun hkind => absurd hkind (by decide)
  obtain ⟨d₂, hstep₂⟩ := mgtTick_ok d₁ fun _ => deadEnv
  obtain ⟨d₃, hstep₃⟩ := mgtTick_ok d₂ fun _ => deadEnv
  have h₁ : Traced busStep (Orderly [0x62]) (nodesInit 1)
      [(nodesInit 1, .packet (discoverPacket [0x61]) .connected)] d₁ := .snoc .nil horderly hstep
  have h₂ := h₁.snoc (show Orderly [0x62] d₁ (.tick fun _ => deadEnv) from trivial) hstep₂
  have h₃ := h₂.snoc (show Orderly [0x62] d₂ (.tick fun _ => deadEnv) from trivial) hstep₃
  refine ⟨rfl, d₁, d₂, d₃, h₃, hactive, ?_⟩
  refine ((timeouts_exact [0x62] 1 (by decide) [] _ d₁ _ rfl h₁).2.2 ⟨0, by decide⟩ _ d₃ hactive
    h₃).1 (fun q hq => ?_) (show (1 : Int) < (2 : Nat) by decide)
  rcases List.mem_cons.mp hq with rfl | hq
  · exact not_heard_tick
  · rw [List.mem_singleton.mp hq]
    exact not_heard_tick

end Ubd
