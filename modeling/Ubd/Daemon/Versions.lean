import Ubd.Daemon.Exhaustion
import Ubd.Lib.Overlay

/-!
# Daemon.Versions — the versions that nodes report

A `V` packet is copied over the beginning of the version of its node, without a NUL. What is
shown of it is the overlay of all reports of the node: `version_shown_iff` says when that is
the last one.
-/

namespace Ubd

open Runs

/-- The version in a `V` packet. -/
def versionText (p : UbPacket) : CString := (p.data.toList.drop 2).take (p.len.toNat - 2)

/-- What node `n` reports with an event. -/
def DaemonEvent.report (n : NodeId) (d : Daemon) : DaemonEvent → Option CString
  | .packet p _ =>
      if p.kind = 0x56 ∧ d.slots.byAdr p.src.toNat = some n then some (versionText p) else none
  | _ => none

/-- What node `n` has reported, one after the other. -/
def reports (n : NodeId) (tr : List (Daemon × DaemonEvent)) : List CString :=
  tr.filterMap fun q => q.2.report n q.1

/-- Versions are texts. -/
def PlainVersion (_ : Daemon) : DaemonEvent → Prop
  | .packet p _ => p.kind = 0x56 → 0 ∉ versionText p
  | _ => True

instance (d : Daemon) (e : DaemonEvent) : Decidable (PlainVersion d e) :=
  match e with
  | .packet p _ => inferInstanceAs (Decidable (p.kind = 0x56 → 0 ∉ versionText p))
  | .main _ | .take => isTrue trivial

/-! ## Everything but `V` -/

/-- A text that has come in a packet. -/
structure FromPacket (t : CString) : Prop where
  plain : 0 ∉ t
  short : t.length ≤ 40

/-- The versions are the same, and the names as well, except for those that have come in a
packet. -/
structure SameTexts (d d' : Daemon) : Prop where
  version : ∀ i, (d'.nodes i).version = (d.nodes i).version
  name : ∀ i, (d'.nodes i).name = (d.nodes i).name ∨ FromPacket (d'.nodes i).name

section SameTexts

variable {d d' d'' : Daemon} {p : UbPacket} {connect : UbnetdConnect}

theorem packetId_fromPacket (p : UbPacket) {off : Nat} (hoff : 5 ≤ off) :
    FromPacket (packetId p off) := by
  have hdata : p.data.toList.length = 45 := Vector.length_toList
  refine ⟨fun hmem => ?_, ?_⟩
  · have hzero := List.mem_takeWhile_imp hmem
    simp at hzero
  · refine le_trans (List.takeWhile_sublist _).length_le ?_
    rw [List.length_take, List.length_drop, hdata]
    omega

theorem SameTexts.refl (d : Daemon) : SameTexts d d := ⟨fun _ => rfl, fun _ => .inl rfl⟩

theorem SameTexts.trans (h : SameTexts d d') (h' : SameTexts d' d'') : SameTexts d d'' where
  version := fun i => (h'.version i).trans (h.version i)
  name := by
    intro i
    rcases h'.name i with hname | hpacket
    · rw [hname]
      exact h.name i
    · exact .inr hpacket

/-- What is done to the connections does not count. -/
theorem SameTexts.conns (h : SameTexts d d') (cs : List Connection) :
    SameTexts d { d' with conns := cs } := ⟨h.version, h.name⟩

theorem setNode_version (d : Daemon) (n : NodeId) {f : Node → Node}
    (h : (f (d.nodes n)).version = (d.nodes n).version) (i : NodeId) :
    ((d.setNode n f).nodes i).version = (d.nodes i).version := by
  by_cases hi : i = n
  · rw [hi, setNode_self]
    exact h
  · rw [setNode_of_ne d n f hi]

theorem nodesSetNameFromID_version (x : Node) : (nodesSetNameFromID x).version = x.version := by
  unfold nodesSetNameFromID
  split <;> rfl

theorem addNode_version (d : Daemon) (n i : NodeId) :
    ((nodesAddNode d n).nodes i).version = (d.nodes i).version := by
  refine setNode_version d n ?_ i
  exact nodesSetNameFromID_version _

/-- Writing to a node. -/
theorem sameTexts_named (d : Daemon) (n : NodeId) {f : Node → Node}
    (hversion : (f (d.nodes n)).version = (d.nodes n).version)
    (hname : (f (d.nodes n)).name = (d.nodes n).name ∨ FromPacket (f (d.nodes n)).name) :
    SameTexts d (d.setNode n f) := by
  refine ⟨setNode_version d n hversion, fun i => ?_⟩
  by_cases hi : i = n
  · rw [hi, setNode_self]
    exact hname
  · rw [setNode_of_ne d n f hi]
    exact .inl rfl

theorem sameTexts_setNode (d : Daemon) (n : NodeId) {f : Node → Node}
    (hversion : (f (d.nodes n)).version = (d.nodes n).version)
    (hname : (f (d.nodes n)).name = (d.nodes n).name) : SameTexts d (d.setNode n f) :=
  sameTexts_named d n hversion (.inl hname)

theorem sameTexts_onNet (d : Daemon) (n : NodeId) (f : NetState → NetState) :
    SameTexts d (d.onNet n f) := by
  refine ⟨fun i => ?_, fun i => .inl ?_⟩
  · have hbus := congrArg Node.version (onNet_bus d n f i)
    exact hbus
  · have hbus := congrArg Node.name (onNet_bus d n f i)
    exact hbus

theorem sameTexts_queue (d : Daemon) (ms : List MessageStream) : SameTexts d (d.queue ms) :=
  ⟨fun _ => rfl, fun _ => .inl rfl⟩

/-- A node without a name gets one from its id. -/
theorem sameTexts_addNode (d : Daemon) (n : NodeId) (hid : FromPacket (d.nodes n).id) :
    SameTexts d (nodesAddNode d n) := by
  refine sameTexts_named d n (nodesSetNameFromID_version _) ?_
  unfold nodesSetNameFromID
  split
  · exact .inr ⟨fun hmem => hid.plain ((List.takeWhile_sublist _).subset hmem),
      le_trans (List.takeWhile_sublist _).length_le hid.short⟩
  · exact .inl rfl

theorem LooksUp.sameTexts {id : CString} {x : NodeId} (hid : FromPacket id)
    (h : LooksUp d id x d') : SameTexts d d' := by
  cases h with
  | known found => exact .refl d
  | new unknown free =>
      refine ((sameTexts_setNode d x rfl rfl).trans
        (sameTexts_setNode _ x rfl rfl)).trans (sameTexts_addNode _ x ?_)
      rw [setNode_self]
      show FromPacket (id.take maxId)
      rw [List.take_of_length_le (le_trans hid.short (by decide))]
      exact hid

theorem registered_sameTexts (d : Daemon) (x : NodeId) (adr : Int) (type : NodeType)
    (connect : UbnetdConnect) : SameTexts d (d.registered x adr type connect) := by
  unfold Daemon.registered
  exact ((sameTexts_setNode d x rfl rfl).trans (sameTexts_onNet _ x _)).trans
    (sameTexts_setNode _ x rfl rfl)

theorem mgtRegisterNode_sameTexts {id : CString} {type : NodeType} {busadr : UInt8}
    {o : Option NodeId} (hid : FromPacket id)
    (h : mgtRegisterNode d id type busadr connect = .ok (d', o)) : SameTexts d d' := by
  rcases mgtRegisterNode_cases h with ⟨rfl, -⟩ | ⟨d₁, x, adr, hlook, -, rfl⟩
  · exact .refl d'
  · exact (hlook.sameTexts hid).trans (registered_sameTexts d₁ x adr type connect)

theorem busmgtInpacket_sameTexts (hkind : p.kind ≠ 0x56)
    (h : busmgtInpacket d p connect = .ok d') : SameTexts d d' :=
  busmgtInpacket_relation (R := SameTexts) SameTexts.refl (fun _ _ _ h h' => h.trans h')
    (fun _ _ _ _ _ _ hoff hregister =>
      mgtRegisterNode_sameTexts (packetId_fromPacket p hoff) hregister)
    (fun a n _ hwrite => sameTexts_setNode a n (hwrite.version hkind) hwrite.name)
    (fun a ms _ => sameTexts_queue a ms) h

theorem mgtTick_sameTexts {env : NodeId → NetEnv} (h : mgtTick d env = .ok d') :
    SameTexts d d' := by
  refine mgtTick_invariant (I := fun e => SameTexts d e) (fun e n e' he hturn => he.trans ?_)
    (fun e n e' he hturn => he.trans ?_) (.refl d) h
  · cases mgtCheckNode_checks hturn with
    | off off => exact .refl e
    | left onBus left => exact sameTexts_setNode e n rfl rfl
    | out out =>
        unfold mgtRemoved
        exact (((sameTexts_setNode e n rfl rfl).trans (sameTexts_onNet _ n _)).trans
          (sameTexts_setNode _ n rfl rfl)).trans (sameTexts_setNode _ n rfl rfl)
  · cases hturn
    exact sameTexts_onNet e n _

theorem listenRegister_sameTexts (d : Daemon) (n : NodeId) (classid : ClassId)
    (out : Gpointer) : SameTexts d (listenRegister d n classid out) :=
  sameTexts_setNode d n rfl rfl

theorem listenUnregister_sameTexts (d : Daemon) (n : NodeId) (classid : ClassId)
    (out : Gpointer) : SameTexts d (listenUnregister d n classid out) :=
  sameTexts_setNode d n rfl rfl

theorem tcpRequest_sameTexts {c : Connection} {r : Request} (h : tcpRequest c d r = .ok d') :
    SameTexts d d' := by
  cases r with
  | command cmd =>
      obtain ⟨ms, rfl, -⟩ := tcpCallback_queues h
      exact sameTexts_queue d ms
  | listen =>
      cases h
      exact listenRegister_sameTexts d c.n c.classid c.out

theorem mainStep_sameTexts {e : MainEvent} (h : mainStep d e = .ok d') : SameTexts d d' := by
  by_cases htick : ∃ env, e = .tick env
  · obtain ⟨env, rfl⟩ := htick
    exact mgtTick_sameTexts h
  · cases mainStep_serves h fun env heq => htick ⟨env, heq⟩ with
    | unknown | deaf | closed | failed => exact .refl d
    | management | fails => exact (SameTexts.refl d).conns _
    | @command service n classid listening =>
        exact (listenRegister_sameTexts d n classid _).conns _
    | @reads k buf c nb d₁ found reading run =>
        have hread : SameTexts d d₁ := tcpListenerRead_relation SameTexts.refl
          (fun _ _ _ h h' => h.trans h') (fun _ _ _ => tcpRequest_sameTexts) run
        exact hread.conns _
    | @closes k c found reading =>
        exact (listenUnregister_sameTexts d c.n c.classid c.out).conns _

end SameTexts

/-! ## `V` -/

section Reports

variable {d d' : Daemon} {p : UbPacket} {n : NodeId}

theorem report_packet (n : NodeId) (d : Daemon) (p : UbPacket) (connect : UbnetdConnect) :
    (DaemonEvent.packet p connect).report n d
      = if p.kind = 0x56 ∧ d.slots.byAdr p.src.toNat = some n then some (versionText p)
        else none := rfl

theorem versionText_length (p : UbPacket) : (versionText p).length ≤ 43 := by
  unfold versionText
  rw [List.length_take, List.length_drop, Vector.length_toList]
  exact Nat.min_le_right _ _

/-- **A `V`** is written over the version of its node. -/
theorem busmgtVersion_overwrites (h : busmgtVersion d p = .ok d') (n : NodeId) :
    (d'.nodes n).version.toList
      = if d.slots.byAdr p.src.toNat = some n then
          Overlay.write (d.nodes n).version.toList (versionText p)
        else (d.nodes n).version.toList := by
  unfold busmgtVersion at h
  rw [nodesGetNodeByBusAdr_slots] at h
  cases hby : d.slots.byAdr p.src.toNat with
  | none =>
      rw [hby] at h
      cases h
  | some m =>
      rw [hby] at h
      simp only [bind_eq_ok, pure_eq_ok] at h
      obtain ⟨text, hcopy, version, hversion, h⟩ := h
      cases h
      have htext : text = versionText p := by
        unfold copyData at hcopy
        split at hcopy
        · cases hcopy
          have hlen : ((p.len.toNat : Int) - 2).toNat = p.len.toNat - 2 := by omega
          rw [hlen]
          rfl
        · cases hcopy
      rw [htext] at hversion
      by_cases hnm : n = m
      · subst hnm
        rw [if_pos rfl, setNode_self]
        exact (memcpy_write hversion).2
      · rw [if_neg fun heq => hnm (Option.some.inj heq).symm, setNode_of_ne d m _ hnm]

/-- **What a step does to a version.** -/
theorem daemonStep_version {e : DaemonEvent} (h : daemonStep d e = .ok d') (n : NodeId) :
    (d'.nodes n).version.toList
      = (e.report n d).elim (d.nodes n).version.toList
        (Overlay.write (d.nodes n).version.toList) := by
  cases e with
  | main e => exact congrArg Vector.toList ((mainStep_sameTexts h).version n)
  | take =>
      cases h
      rfl
  | packet p connect =>
      change busmgtInpacket d p connect = .ok d' at h
      rw [report_packet]
      by_cases hkind : p.kind = 0x56
      · unfold busmgtInpacket at h
        rw [hkind, if_neg (by decide), if_neg (by decide), if_pos rfl] at h
        rw [busmgtVersion_overwrites h n]
        by_cases hby : d.slots.byAdr p.src.toNat = some n
        · rw [if_pos hby, if_pos ⟨hkind, hby⟩]
          rfl
        · rw [if_neg hby, if_neg fun hboth => hby hboth.2]
          rfl
      · rw [(busmgtInpacket_sameTexts hkind h).version n, if_neg fun hboth => hkind hboth.1]
        rfl

/-- What a step does to a name. -/
theorem daemonStep_name {e : DaemonEvent} (h : daemonStep d e = .ok d') (n : NodeId) :
    (d'.nodes n).name = (d.nodes n).name ∨ FromPacket (d'.nodes n).name := by
  cases e with
  | main e => exact (mainStep_sameTexts h).name n
  | take =>
      cases h
      exact .inl rfl
  | packet p connect =>
      change busmgtInpacket d p connect = .ok d' at h
      by_cases hkind : p.kind = 0x56
      · unfold busmgtInpacket at h
        rw [hkind, if_neg (by decide), if_neg (by decide), if_pos rfl] at h
        obtain ⟨m, version, -, -, rfl⟩ := busmgtVersion_sets h
        by_cases hnm : n = m
        · rw [hnm, setNode_self]
          exact .inl rfl
        · rw [setNode_of_ne d m _ hnm]
          exact .inl rfl
      · exact (busmgtInpacket_sameTexts hkind h).name n

/-- No report is longer than 43 bytes. -/
theorem report_length {e : DaemonEvent} {t : CString} (h : e.report n d = some t) :
    t.length ≤ 43 := by
  cases e with
  | main e => cases h
  | take => cases h
  | packet p connect =>
      rw [report_packet] at h
      split_ifs at h
      cases h
      exact versionText_length p

theorem reports_snoc (n : NodeId) (tr : List (Daemon × DaemonEvent)) (d : Daemon)
    (e : DaemonEvent) : reports n (tr ++ [(d, e)]) = reports n tr ++ (e.report n d).toList := by
  unfold reports
  rw [List.filterMap_append]
  cases he : e.report n d with
  | none => simp [he]
  | some t => simp [he]

/-- The version of a node is the overlay of its reports, with NULs behind it. -/
structure Recorded (n : NodeId) (tr : List (Daemon × DaemonEvent)) (d : Daemon) : Prop where
  holds : Overlay.Holds 0 (d.nodes n).version.toList (Overlay.overlay (reports n tr))
  short : ∀ u ∈ reports n tr, u.length ≤ 43

theorem Recorded.step {tr : List (Daemon × DaemonEvent)} {e : DaemonEvent} (h : Recorded n tr d)
    (hplain : PlainVersion d e) (hstep : daemonStep d e = .ok d') :
    Recorded n (tr ++ [(d, e)]) d' := by
  have hversion := daemonStep_version hstep n
  have hreports := reports_snoc n tr d e
  cases hreport : e.report n d with
  | none =>
      rw [hreport] at hversion hreports
      change _ = reports n tr ++ [] at hreports
      rw [List.append_nil] at hreports
      refine ⟨?_, ?_⟩
      · rw [hversion, hreports]
        exact h.holds
      · rw [hreports]
        exact h.short
  | some t =>
      rw [hreport] at hversion hreports
      have ht : 0 ∉ t ∧ t.length ≤ 43 := by
        cases e with
        | main e => cases hreport
        | take => cases hreport
        | packet p connect =>
            rw [report_packet] at hreport
            split_ifs at hreport with hboth
            cases hreport
            exact ⟨hplain hboth.1, versionText_length p⟩
      have hfits : t.length ≤ (d.nodes n).version.toList.length := by
        rw [Vector.length_toList]
        exact le_trans ht.2 (by decide)
      refine ⟨?_, ?_⟩
      · rw [hversion, hreports, Option.toList_some, Overlay.overlay_snoc]
        exact h.holds.write hfits ht.1
      · rw [hreports, Option.toList_some, List.forall_mem_append, List.forall_mem_singleton]
        exact ⟨h.short, ht.2⟩

/-- There is always room for a NUL. -/
theorem Recorded.read {tr : List (Daemon × DaemonEvent)} (h : Recorded n tr d) :
    0 ∈ (d.nodes n).version.toList
      ∧ cstr (d.nodes n).version.toList = Overlay.overlay (reports n tr) := by
  refine h.holds.read (lt_of_le_of_lt (Overlay.length_overlay_le_iff.mpr h.short) ?_)
  rw [Vector.length_toList]
  decide

/-- The configuration has no versions. -/
theorem configured_version {nodetimeout : Int} {cs : List NodeConfig}
    (h : configured nodetimeout cs = .ok d) (n : NodeId) :
    (d.nodes n).version = Vector.replicate maxId 0 := by
  refine configured_invariant (I := fun e => ∀ i, (e.nodes i).version = Vector.replicate maxId 0) h
    (fun _ => rfl) (fun e m c he i => ?_) n
  unfold Daemon.withConfigured
  rw [addNode_version, setNode_version _ m rfl, setNode_version e m rfl, he i]

theorem configured_recorded {nodetimeout : Int} {cs : List NodeConfig}
    (h : configured nodetimeout cs = .ok d) (n : NodeId) : Recorded n [] d := by
  refine ⟨?_, fun u hu => nomatch hu⟩
  rw [configured_version h n]
  exact .blank 0 maxId

end Reports

/-- **When the version that is shown is the version last reported**, in every state of a run:
when no earlier report of the node was longer. It always ends within its array. -/
theorem version_shown_iff {nodetimeout : Int} {cs : List NodeConfig} {d₀ d : Daemon}
    {tr : List (Daemon × DaemonEvent)} (hconfigured : configured nodetimeout cs = .ok d₀)
    (hrun : Traced daemonStep PlainVersion d₀ tr d) (n : NodeId) :
    0 ∈ (d.nodes n).version.toList
      ∧ ∀ v, (reports n tr).getLast? = some v →
        (cstr (d.nodes n).version.toList = v ↔ ∀ u ∈ reports n tr, u.length ≤ v.length) := by
  have hrecorded : Recorded n tr d := hrun.invariant (I := Recorded n)
    (configured_recorded hconfigured n) fun _ _ _ _ hs hplain hstep => hs.step hplain hstep
  obtain ⟨hnul, hread⟩ := hrecorded.read
  refine ⟨hnul, fun v hlast => ?_⟩
  rw [hread]
  exact Overlay.overlay_eq_iff hlast

/-- A version from the first node. -/
def versionPacket (text : CString) : UbPacket where
  src := 3
  dest := 1
  flags := ubPacketMgt
  cls := 0
  len := UInt8.ofNat (2 + text.length)
  data := Vector.ofFn fun i => ([0x56, 0] ++ text).getD i.val 0

/-- The first node is discovered and reports these versions. -/
def reporting (texts : List CString) : List DaemonEvent :=
  .packet (newcomer 0) .connected :: texts.map fun text => .packet (versionPacket text) .connected

/-- A version that grows is shown. -/
theorem version_shown_iff_grown : configured 30 [] = .ok (nodesInit 30)
    ∧ ∃ tr d, Traced daemonStep PlainVersion (nodesInit 30) tr d
      ∧ reports ⟨0, by decide⟩ tr = [[0x61], [0x62, 0x63]]
      ∧ cstr (d.nodes ⟨0, by decide⟩).version.toList = [0x62, 0x63] := by
  obtain ⟨tr, d, htr, hreports⟩ : ∃ tr d, Traced daemonStep PlainVersion (nodesInit 30) tr d
      ∧ reports ⟨0, by decide⟩ tr = [[0x61], [0x62, 0x63]] := by
    apply Traced.exists_of_eval Fault.assertion (reporting [[0x61], [0x62, 0x63]])
    decide +kernel
  have hshown := (@version_shown_iff 30 [] (nodesInit 30) d tr rfl htr ⟨0, by decide⟩).2
    [0x62, 0x63] (by rw [hreports]; rfl)
  rw [hreports] at hshown
  exact ⟨rfl, tr, d, htr, hreports, hshown.mpr (by decide)⟩

/-- **Of a longer report, the end stays**: after `ab` and `c`, `cb` is shown. -/
theorem shorter_version_mixed : configured 30 [] = .ok (nodesInit 30)
    ∧ ∃ tr d, Traced daemonStep PlainVersion (nodesInit 30) tr d
      ∧ reports ⟨0, by decide⟩ tr = [[0x61, 0x62], [0x63]]
      ∧ cstr (d.nodes ⟨0, by decide⟩).version.toList = [0x63, 0x62] := by
  refine ⟨rfl, ?_⟩
  apply Traced.exists_of_eval Fault.assertion (reporting [[0x61, 0x62], [0x63]])
  decide +kernel

end Ubd
