import Ubd.Daemon.Pairing
import Ubd.Directory.Announced

/-!
# Directory.Withdrawn — removed nodes are not announced any more

`net_removeSockets` withdraws the services of the slots that have a class at that time. What
was announced is what had a class when the sockets were made, and in between every `D` writes
the classes. `removal_ends_iff` says in which runs nothing is left behind.
-/

namespace Ubd

open Runs

/-! ## Runs -/

inductive AnnounceEvent where
  | daemon (e : DaemonEvent)
  /-- `dirclient_tick` -/
  | resend

/-- `dirclient_tick`, in whatever order the table has. -/
def dirclientTick (c : DirClient) : DirClient :=
  { c with sent := c.sent ++ c.services.map Prod.snd }

def announceStep (d : Daemon) : AnnounceEvent → Except Fault Daemon
  | .daemon e => daemonStep d e
  | .resend => .ok { d with dirclient := dirclientTick d.dirclient }

/-- The sockets of the node are made in this step. -/
def MakesSockets (d : Daemon) (e : AnnounceEvent) (n : NodeId) : Prop :=
  ∃ env, e = .daemon (.main (.tick env)) ∧ (d.nodes n).ComesUp (env n)

/-- What the table says is true, and nothing else is outstanding. -/
structure Announcing (d : Daemon) : Prop where
  settled : Settled d
  entries : ∀ k m, (k, m) ∈ d.dirclient.services →
    (d.nodes k.1).busadr ≠ 0 ∧ ∃ type, m.Announces type (d.nodes k.1).id
  outstanding : ∀ type id, Outstanding d.dirclient.sent type id →
    ∃ n, (d.nodes n).busadr ≠ 0 ∧ (d.nodes n).id = id

section Steps

variable {d d' : Daemon} {n : NodeId}

theorem DirMessage.Announces.id_eq {m : DirMessage} {type type' : String} {id id' : CString}
    (h : m.Announces type id) (h' : m.Announces type' id') : id = id' := by
  cases m with
  | updateService => exact h.2.symm.trans h'.2
  | deleteService => exact h.elim

/-- What the tick of the directory client makes outstanding. -/
theorem resend_outstanding (h : Announcing d) {type : String} {id : CString} :
    Outstanding (dirclientTick d.dirclient).sent type id
      ↔ Outstanding d.dirclient.sent type id
        ∨ ∃ k m, (k, m) ∈ d.dirclient.services ∧ m.Announces type id := by
  unfold dirclientTick
  rw [outstanding_updates]
  · refine or_congr_right ⟨?_, ?_⟩
    · rintro ⟨m, hm, hannounces⟩
      obtain ⟨⟨k, m⟩, hmem, rfl⟩ := List.mem_map.mp hm
      exact ⟨k, m, hmem, hannounces⟩
    · rintro ⟨k, m, hmem, hannounces⟩
      exact ⟨m, List.mem_map.mpr ⟨(k, m), hmem, rfl⟩, hannounces⟩
  · intro m hm
    obtain ⟨⟨k, m⟩, hmem, rfl⟩ := List.mem_map.mp hm
    obtain ⟨-, type, hannounces⟩ := h.entries k m hmem
    exact ⟨type, _, hannounces⟩

/-- Nothing that has been announced is lost, and nothing new is announced. -/
theorem Announcing.of_stays (h : Announcing d) (hsettled : Settled d')
    (hassigned : ∀ i, (d.nodes i).busadr ≠ 0 → (d'.nodes i).busadr ≠ 0)
    (hid : ∀ i, (d.nodes i).busadr ≠ 0 → (d'.nodes i).id = (d.nodes i).id)
    (hentries : ∀ k m, (k, m) ∈ d'.dirclient.services → (k, m) ∈ d.dirclient.services)
    (hsent : ∀ type id, Outstanding d'.dirclient.sent type id →
      Outstanding d.dirclient.sent type id) : Announcing d' where
  settled := hsettled
  entries := by
    intro k m hm
    obtain ⟨hadr, type, hannounces⟩ := h.entries k m (hentries k m hm)
    refine ⟨hassigned k.1 hadr, type, ?_⟩
    rw [hid k.1 hadr]
    exact hannounces
  outstanding := by
    intro type id hout
    obtain ⟨n, hadr, hn⟩ := h.outstanding type id (hsent type id hout)
    exact ⟨n, hassigned n hadr, (hid n hadr).trans hn⟩

theorem Announcing.check (h : Announcing d) {x : NodeId} (hturn : mgtCheckNode d x = .ok d') :
    Announcing d' := by
  have hquiet := (mgtCheckNode_expired hturn).2
  refine h.of_stays (mgtCheckNode_body.settled h.settled hturn) hquiet.assigned
    (fun i _ => mgtCheckNode_body.ids hturn i) (fun k m hm => ?_) (fun type id hout => ?_)
  · rcases mgtCheckNode_dirclient hturn with ⟨-, hremoved⟩ | ⟨-, hsame⟩
    · rw [hremoved, mem_removeServices] at hm
      exact hm.1
    · rw [hsame] at hm
      exact hm
  · rcases mgtCheckNode_dirclient hturn with ⟨-, hremoved⟩ | ⟨-, hsame⟩
    · rw [hremoved, removeServices_outstanding] at hout
      exact hout.1
    · rw [hsame] at hout
      exact hout

theorem Announcing.configure (h : Announcing d) {x : NodeId} {env : NodeId → NetEnv}
    (hturn : mgtConfigureNode env d x = .ok d') : Announcing d' := by
  have hquiet := (mgtConfigureNode_expired hturn).2
  have hid := (mgtConfigureNode_body env).ids hturn
  have hsettled := (mgtConfigureNode_body env).settled h.settled hturn
  rcases mgtConfigureNode_dirclient hturn with ⟨hup, hregistered⟩ | ⟨-, hsame⟩
  · -- the node has a connection to ubnetd
    have hx := hquiet.assigned x (h.settled.wired.touched x (.inl hup.1.1))
    refine ⟨hsettled, fun k m hm => ?_, fun type id hout => ?_⟩
    · rw [hregistered] at hm
      rw [hid]
      by_cases hk : k.1 = x
      · obtain ⟨y, i⟩ := k
        dsimp only at hk
        subst hk
        rw [registerServices_entries] at hm
        split_ifs at hm with hclass
        · rw [hm]
          exact ⟨hx, _, rfl, rfl⟩
        · obtain ⟨hadr, hannounces⟩ := h.entries _ m hm
          exact ⟨hquiet.assigned _ hadr, hannounces⟩
      · rw [registerServices_others hk] at hm
        obtain ⟨hadr, hannounces⟩ := h.entries k m hm
        exact ⟨hquiet.assigned _ hadr, hannounces⟩
    · rw [hregistered, registerServices_outstanding] at hout
      rcases hout with hout | ⟨hown, -⟩
      · obtain ⟨n, hadr, hn⟩ := h.outstanding type id hout
        exact ⟨n, hquiet.assigned n hadr, (hid n).trans hn⟩
      · exact ⟨x, hx, (hid x).trans hown⟩
  · refine h.of_stays hsettled hquiet.assigned (fun i _ => hid i) (fun k m hm => ?_)
      (fun type id hout => ?_)
    · rw [hsame] at hm
      exact hm
    · rw [hsame] at hout
      exact hout

theorem Settled.step {e : DaemonEvent} (h : Settled d) (hstep : daemonStep d e = .ok d') :
    Settled d' := by
  refine ⟨h.wired.step hstep, h.plugged.step h.wired hstep, ?_⟩
  cases e with
  | packet p connect =>
      exact h.placed.packet h.wired.assigned (busmgtInpacket_change h.wired.assigned.free hstep).1
  | take =>
      cases hstep
      exact h.placed
  | main e =>
      by_cases he : ∃ env, e = .tick env
      · obtain ⟨env, rfl⟩ := he
        exact h.placed.expired (mgtTick_change hstep).1
      · have hslots := (mainStep_traffic (fun env heq => he ⟨env, heq⟩) hstep).slots
        rw [hslots]
        exact h.placed

/-- A node that has had an address keeps its id. -/
theorem Settled.keeps_id {e : DaemonEvent} (h : Settled d) (hstep : daemonStep d e = .ok d')
    (hn : (d.nodes n).busadr ≠ 0) : (d'.nodes n).id = (d.nodes n).id :=
  (daemonStep_stays h.wired hstep n (h.used hn)).2

/-- **One step.** -/
theorem Announcing.step {e : AnnounceEvent} (h : Announcing d)
    (hstep : announceStep d e = .ok d') : Announcing d' := by
  cases e with
  | resend =>
      cases hstep
      refine ⟨⟨⟨h.settled.wired.assigned, h.settled.wired.touched, h.settled.wired.conns⟩,
        ⟨h.settled.plugged.wired, h.settled.plugged.live⟩, h.settled.placed⟩, h.entries,
        fun type id hout => ?_⟩
      rcases (resend_outstanding h).mp hout with hout | ⟨k, m, hm, hannounces⟩
      · exact h.outstanding type id hout
      · obtain ⟨hadr, type', hannounces'⟩ := h.entries k m hm
        exact ⟨k.1, hadr, hannounces'.id_eq hannounces⟩
  | daemon e =>
      by_cases he : ∃ env, e = .main (.tick env)
      · obtain ⟨env, rfl⟩ := he
        exact mgtTick_invariant (fun _ _ _ he hturn => Announcing.check he hturn)
          (fun _ _ _ he hturn => Announcing.configure he hturn) h hstep
      · have hsame : d'.dirclient = d.dirclient :=
          daemonStep_dirclient (fun env heq => he ⟨env, heq⟩) hstep
        refine h.of_stays (h.settled.step hstep)
          (fun i => daemonStep_assigned h.settled.wired hstep)
          (fun i => h.settled.keeps_id hstep) (fun k m hm => ?_) (fun type id hout => ?_)
        · rw [hsame] at hm
          exact hm
        · rw [hsame] at hout
          exact hout

/-- Who is silent in the middle of a tick is so at its end. -/
theorem Announcing.silent_tick {d₁ : Daemon} {env : NodeId → NetEnv} (h : Announcing d)
    (hn : (d.nodes n).busadr ≠ 0) (hdown : ¬ (d.nodes n).ComesUp (env n))
    (hcheck : mgtCheckTimeout d = .ok d₁) (hsilent : (d₁.announced n).Silent)
    (hrun : mgtTick d env = .ok d') : (d'.announced n).Silent := by
  obtain ⟨e, hcheck', hconfigure⟩ := bind_eq_ok.mp hrun
  obtain rfl := Except.ok.inj (hcheck.symm.trans hcheck')
  obtain ⟨-, -, hnet, hclasses, -⟩ := mgtCheckTimeout_announced h.settled hn hcheck
  obtain ⟨hsettled, hquiet⟩ := forEachNode_settled mgtCheckNode_body h.settled hcheck
  have hdown' : ¬ (d₁.nodes n).ComesUp (env n) := fun hup =>
    hdown ((comesUp_congr hnet hclasses (env n)).mp hup)
  rw [(mgtConfigure_announced hsettled (hquiet.assigned n hn) hconfigure).2.1 hdown']
  exact hsilent

/-- **What is silent stays silent** until the sockets of the node are made. -/
theorem Announcing.silent_step {e : AnnounceEvent} (h : Announcing d)
    (hn : (d.nodes n).busadr ≠ 0) (hsilent : (d.announced n).Silent)
    (hdown : ¬ MakesSockets d e n) (hstep : announceStep d e = .ok d') :
    (d'.announced n).Silent := by
  cases e with
  | resend =>
      cases hstep
      refine ⟨hsilent.1, fun type hout => ?_⟩
      rcases (resend_outstanding h).mp hout with hout | ⟨⟨x, i⟩, m, hm, hannounces⟩
      · exact hsilent.2 type hout
      · obtain ⟨hadr, type', hannounces'⟩ := h.entries _ m hm
        have hid := hannounces'.id_eq hannounces
        by_cases hx : x = n
        · subst hx
          exact hsilent.1 i m hm
        · exact h.settled.id_ne hn hadr hx hid
  | daemon e =>
      by_cases he : ∃ env, e = .main (.tick env)
      · obtain ⟨env, rfl⟩ := he
        obtain ⟨d₁, hcheck, hconfigure⟩ := bind_eq_ok.mp hstep
        obtain ⟨hremoved, hkept, -⟩ := mgtCheckTimeout_announced h.settled hn hcheck
        refine h.silent_tick hn (fun hup => hdown ⟨env, rfl, hup⟩) hcheck ?_ hstep
        by_cases hout : (d.nodes n).TimesOut
        · rw [hremoved hout]
          exact hsilent.withdraw _
        · rw [hkept hout]
          exact hsilent
      · have hsame : d'.dirclient = d.dirclient :=
          daemonStep_dirclient (fun env heq => he ⟨env, heq⟩) hstep
        rw [announced_same (h.settled.keeps_id hstep hn) hsame]
        exact hsilent

theorem announceStep_assigned {e : AnnounceEvent} (h : Announcing d)
    (hn : (d.nodes n).busadr ≠ 0) (hstep : announceStep d e = .ok d') :
    (d'.nodes n).busadr ≠ 0 := by
  cases e with
  | resend =>
      cases hstep
      exact hn
  | daemon e => exact daemonStep_assigned h.settled.wired hstep hn

end Steps

/-- **`net_removeSockets` ends the announcements of its node**: right after it there is no entry
for a slot of the node and nothing outstanding, and so it stays until the sockets of the node
are made again. -/
def EndsAnnouncements (d₀ : Daemon) (es : List AnnounceEvent) : Prop :=
  ∀ pre env mid post t d₁ n,
    es = pre ++ AnnounceEvent.daemon (.main (.tick env)) :: (mid ++ post) →
    Run announceStep (fun _ _ => True) d₀ pre t → (t.nodes n).TimesOut →
    mgtCheckTimeout t = .ok d₁ →
    (d₁.announced n).Silent
      ∧ ∀ t', Run announceStep (fun d e => ¬ MakesSockets d e n) t
          (AnnounceEvent.daemon (.main (.tick env)) :: mid) t' → (t'.announced n).Silent

/-- What has ended at a tick is not taken up again. -/
theorem Announcing.stays_silent {t t' d₁ : Daemon} {n : NodeId} {env : NodeId → NetEnv}
    {mid : List AnnounceEvent} (h : Announcing t) (hn : (t.nodes n).busadr ≠ 0)
    (hcheck : mgtCheckTimeout t = .ok d₁) (hsilent : (d₁.announced n).Silent)
    (hrun : Run announceStep (fun d e => ¬ MakesSockets d e n) t
      (AnnounceEvent.daemon (.main (.tick env)) :: mid) t') :
    (Announcing t' ∧ (t'.nodes n).busadr ≠ 0) ∧ (t'.announced n).Silent := by
  induction mid using List.reverseRecOn generalizing t' with
  | nil =>
      rw [← List.nil_append [_]] at hrun
      obtain ⟨s, hs, hdown, hstep⟩ := hrun.snoc_inv
      obtain rfl := hs.nil_inv
      refine ⟨⟨h.step hstep, announceStep_assigned h hn hstep⟩, ?_⟩
      exact h.silent_tick hn (fun hup => hdown ⟨env, rfl, hup⟩) hcheck hsilent hstep
  | append_singleton mid e ih =>
      rw [← List.cons_append] at hrun
      obtain ⟨s, hs, hdown, hstep⟩ := hrun.snoc_inv
      obtain ⟨⟨hs', hadr⟩, hquiet⟩ := ih hs
      exact ⟨⟨hs'.step hstep, announceStep_assigned hs' hadr hstep⟩,
        hs'.silent_step hadr hquiet hdown hstep⟩

/-- Who times out still offers all that is announced of it: each of its slots that has an entry
has a class, and each service that is outstanding is that of one of its classes. -/
def RemovalOffered (d : Daemon) (e : AnnounceEvent) : Prop :=
  ∀ env n, e = .daemon (.main (.tick env)) → (d.nodes n).TimesOut →
    (d.announced n).OfferedBy (d.nodes n).classes

/-- The classes in a packet leave what is announced of the node that gets them. -/
def ClassesKept (d : Daemon) : AnnounceEvent → Prop
  | .daemon (.packet p _) => ∀ n, (d.nodes n).busadr ≠ 0 →
      (p.kind = 0x44 → p.len.toNat ≤ maxId → d.slots.target (packetId p 7) = some n →
        (d.announced n).OfferedBy (discoveredClasses p))
      ∧ (p.kind = 0x42 → (d.slots.bridged p).byAdr p.src.toNat = some n →
        (d.announced n).OfferedBy (announcedClasses p))
  | _ => True

/-- All nodes offer what is announced of them, and no more is in the table. -/
def AllOffered (d : Daemon) : Prop := ∀ n, (d.nodes n).busadr ≠ 0 →
  (d.announced n).OfferedBy (d.nodes n).classes ∧ (d.announced n).Backed (d.nodes n).id

section Kept

variable {d d' : Daemon} {n : NodeId}

/-- A node that gets its first address is not announced. -/
theorem Announcing.silent_new {e : DaemonEvent} (h : Announcing d)
    (hstep : daemonStep d e = .ok d') (hsame : d'.dirclient = d.dirclient)
    (hn : (d.nodes n).busadr = 0) (hn' : (d'.nodes n).busadr ≠ 0) :
    (d'.announced n).Silent := by
  have hsettled := h.settled.step hstep
  constructor
  · intro i m hm
    change ((n, i), m) ∈ d'.dirclient.services at hm
    rw [hsame] at hm
    exact (h.entries _ m hm).1 hn
  · intro type hout
    change Outstanding d'.dirclient.sent type _ at hout
    rw [hsame] at hout
    -- it would be outstanding for another node with this id
    obtain ⟨x, hx, hid⟩ := h.outstanding type _ hout
    have hne : x ≠ n := by
      rintro rfl
      exact hx hn
    refine hsettled.id_ne hn' (daemonStep_assigned h.settled.wired hstep hx) hne ?_
    rw [h.settled.keeps_id hstep hx]
    exact hid

theorem AllOffered.tick {env : NodeId → NetEnv} (hoffered : AllOffered d) (h : Settled d)
    (hrun : mgtTick d env = .ok d') : AllOffered d' := by
  intro n hn'
  have hn : (d.nodes n).busadr ≠ 0 := by
    have hsame := (mgtTick_change hrun).1.busadr n
    change (d'.nodes n).busadr = (d.nodes n).busadr at hsame
    rw [← hsame]
    exact hn'
  obtain ⟨d₁, hcheck, hconfigure⟩ := bind_eq_ok.mp hrun
  obtain ⟨hremoved, hkept, -, hclasses, hid⟩ := mgtCheckTimeout_announced h hn hcheck
  obtain ⟨hsettled, hquiet⟩ := forEachNode_settled mgtCheckNode_body h hcheck
  obtain ⟨hoff, hback⟩ := hoffered n hn
  have hfirst : (d₁.announced n).OfferedBy (d₁.nodes n).classes
      ∧ (d₁.announced n).Backed (d₁.nodes n).id := by
    by_cases hout : (d.nodes n).TimesOut
    · have hsilent := Announcements.withdraw_silent_iff.mpr hoff
      rw [hremoved hout]
      exact ⟨hsilent.offeredBy _, hsilent.backed _⟩
    · rw [hkept hout, hclasses, hid]
      exact ⟨hoff, hback⟩
  obtain ⟨hup, hdown, hclasses', hid'⟩ :=
    mgtConfigure_announced hsettled (hquiet.assigned n hn) hconfigure
  rw [hclasses', hid']
  by_cases hcomes : (d₁.nodes n).ComesUp (env n)
  · rw [hup hcomes]
    exact ⟨hfirst.1.announce, hfirst.2.announce⟩
  · rw [hdown hcomes]
    exact hfirst

theorem AllOffered.step {e : AnnounceEvent} (hoffered : AllOffered d) (h : Announcing d)
    (hkept : ClassesKept d e) (hstep : announceStep d e = .ok d') : AllOffered d' := by
  cases e with
  | resend =>
      cases hstep
      intro n hn
      obtain ⟨hoff, hback⟩ := hoffered n hn
      have htypes : ∀ type, Outstanding (dirclientTick d.dirclient).sent type (d.nodes n).id
          ↔ Outstanding d.dirclient.sent type (d.nodes n).id := by
        intro type
        rw [resend_outstanding h]
        refine or_iff_left_of_imp ?_
        rintro ⟨⟨x, i⟩, m, hm, hannounces⟩
        obtain ⟨hadr, type', hannounces'⟩ := h.entries _ m hm
        by_cases hx : x = n
        · subst hx
          exact hback i m type hm hannounces
        · exact absurd (hannounces'.id_eq hannounces) (h.settled.id_ne hn hadr hx)
      exact ⟨⟨hoff.1, fun type hout => hoff.2 type ((htypes type).mp hout)⟩,
        fun i m type hm hannounces => (htypes type).mpr (hback i m type hm hannounces)⟩
  | daemon e =>
      by_cases he : ∃ env, e = .main (.tick env)
      · obtain ⟨env, rfl⟩ := he
        exact hoffered.tick h.settled hstep
      · have hnot : ∀ env, e ≠ .main (.tick env) := fun env heq => he ⟨env, heq⟩
        have hsame : d'.dirclient = d.dirclient := daemonStep_dirclient hnot hstep
        intro n hn'
        by_cases hn : (d.nodes n).busadr = 0
        · have hsilent := h.silent_new hstep hsame hn hn'
          exact ⟨hsilent.offeredBy _, hsilent.backed _⟩
        · have hid := h.settled.keeps_id hstep hn
          obtain ⟨hoff, hback⟩ := hoffered n hn
          rw [announced_same hid hsame, hid]
          refine ⟨?_, hback⟩
          rcases (daemonStep_keeps h.settled.wired h.settled.plugged hnot hstep).classes n with
            hclasses | ⟨p, connect, rfl, hclasses⟩
          · rw [hclasses]
            exact hoff
          · generalize (d'.nodes n).classes = classes at hclasses ⊢
            cases hclasses with
            | fresh hfree =>
                rw [h.settled.used hn] at hfree
                cases hfree
            | discovered hkind hlen hslot => exact (hkept n hn).1 hkind hlen hslot
            | announced hkind hfound => exact (hkept n hn).2 hkind hfound

end Kept

/-- In the beginning nothing is announced. -/
theorem configured_dirclient {nodetimeout : Int} {cs : List NodeConfig} {d : Daemon}
    (h : configured nodetimeout cs = .ok d) : d.dirclient = ⟨[], []⟩ :=
  (configured_managed h).dirclient

theorem configured_announcing {nodetimeout : Int} {cs : List NodeConfig} {d : Daemon}
    (h : configured nodetimeout cs = .ok d) : Announcing d ∧ AllOffered d := by
  have hclient := configured_dirclient h
  have hsilent := configured_silent h
  refine ⟨⟨⟨(configured_wired h).1, (configured_socketless h).plugged.1, fun i hi => ?_⟩,
    fun k m hm => ?_, fun type id hout => ?_⟩, fun n hn => absurd (hsilent n).2.2 hn⟩
  · rw [(hsilent i).1] at hi
    cases hi
  · rw [hclient] at hm
    cases hm
  · rw [hclient] at hout
    exact absurd hout not_outstanding_nil

/-- **When a removed node stops being announced**: in every run, the removals end the
announcements of their nodes if and only if every node that times out still offers all that is
announced of it. It does so if packets leave what is announced. -/
theorem removal_ends_iff (nodetimeout : Int) (cs : List NodeConfig) (d₀ : Daemon)
    (es : List AnnounceEvent) (h₀ : configured nodetimeout cs = .ok d₀) :
    (EndsAnnouncements d₀ es ↔ EveryStep announceStep (fun _ _ => True) d₀ RemovalOffered es)
      ∧ (EveryStep announceStep (fun _ _ => True) d₀ ClassesKept es →
        EveryStep announceStep (fun _ _ => True) d₀ RemovalOffered es) := by
  obtain ⟨hfirst, hoffered⟩ := configured_announcing h₀
  have hinv : ∀ pre t, Run announceStep (fun _ _ => True) d₀ pre t → Announcing t :=
    fun pre t ht => ht.invariant hfirst fun _ _ _ hs _ hstep => hs.step hstep
  refine ⟨⟨fun hends => ?_, fun hall => ?_⟩, fun hkept => ?_⟩
  · rintro pre e post t hes ht env n rfl hout
    obtain ⟨d', hrun⟩ := mgtTick_ok t env
    obtain ⟨d₁, hcheck, -⟩ := bind_eq_ok.mp hrun
    obtain ⟨hsilent, -⟩ := hends pre env [] post t d₁ n hes ht hout hcheck
    have hsettled := (hinv pre t ht).settled
    rw [(mgtCheckTimeout_announced hsettled (hsettled.timesOut hout) hcheck).1 hout] at hsilent
    exact Announcements.withdraw_silent_iff.mp hsilent
  · intro pre env mid post t d₁ n hes ht hout hcheck
    have hadr := (hinv pre t ht).settled.timesOut hout
    have hsilent : (d₁.announced n).Silent := by
      rw [(mgtCheckTimeout_announced (hinv pre t ht).settled hadr hcheck).1 hout]
      exact Announcements.withdraw_silent_iff.mpr (hall pre _ (mid ++ post) t hes ht env n rfl hout)
    exact ⟨hsilent, fun t' ht' => ((hinv pre t ht).stays_silent hadr hcheck hsilent ht').2⟩
  · rintro pre e post t hes ht env n rfl hout
    have hmeets : Announcing t ∧ AllOffered t := by
      rw [hes] at hkept
      refine (ht.everyStep_iff.mp hkept.prefix).invariant
        (I := fun s => Announcing s ∧ AllOffered s) ⟨hfirst, hoffered⟩
        fun s e s' hs hguard hstep => ?_
      exact ⟨hs.1.step hstep, hs.2.step hs.1 hguard.2 hstep⟩
    exact (hmeets.2 n (hmeets.1.settled.timesOut hout)).1

/-- A node that comes up and times out is not announced any more, with the packets it sent. -/
theorem removal_ends_iff_lifetime : configured 1 [] = .ok (nodesInit 1)
    ∧ EveryStep announceStep (fun _ _ => True) (nodesInit 1) ClassesKept
      (lifetime.map .daemon ++ [.resend])
    ∧ EndsAnnouncements (nodesInit 1) (lifetime.map .daemon ++ [.resend]) := by
  have hkept : EveryStep announceStep (fun _ _ => True) (nodesInit 1) ClassesKept
      (lifetime.map .daemon ++ [.resend]) := by
    show EveryStep announceStep (fun _ _ => True) (nodesInit 1) ClassesKept
      ([] ++ [AnnounceEvent.daemon (.packet (discoverPacket [0x61]) .connected)]
        ++ [.daemon (.main (.tick fun _ => liveEnv))]
        ++ [.daemon (.main (.tick fun _ => deadEnv))] ++ [.resend])
    refine (((everyStep_nil.snoc fun t ht => ?_).snoc fun t _ => trivial).snoc
      fun t _ => trivial).snoc fun t _ => trivial
    rw [ht.nil_inv]
    exact fun n hn => absurd rfl hn
  obtain ⟨hiff, hoffered⟩ := removal_ends_iff 1 [] (nodesInit 1)
    (lifetime.map .daemon ++ [.resend]) rfl
  exact ⟨rfl, hkept, hiff.mpr (hoffered hkept)⟩

/-- **A node whose class has moved to another slot stays in the table** when it is removed. -/
theorem moved_still_announced : configured 1 [] = .ok (nodesInit 1)
    ∧ ¬ EndsAnnouncements (nodesInit 1)
      (moved.map .daemon ++ [.daemon (.main (.tick fun _ => deadEnv))]) := by
  refine ⟨rfl, fun hends => ?_⟩
  obtain ⟨d, hd, hout, hclass, hentry⟩ : ∃ d,
      Run announceStep (fun _ _ => True) (nodesInit 1) (moved.map .daemon) d
        ∧ (d.nodes ⟨0, by decide⟩).TimesOut
        ∧ (d.nodes ⟨0, by decide⟩).classes .first = 0
        ∧ ((⟨0, by decide⟩ : NodeId), ClassId.first) ∈ d.dirclient.services.map Prod.fst := by
    apply Run.exists_of_eval Fault.assertion
    decide +kernel
  have hfirst : Announcing (nodesInit 1) :=
    (configured_announcing (show configured 1 [] = .ok (nodesInit 1) from rfl)).1
  have hsettled : Settled d :=
    (hd.invariant hfirst fun _ _ _ hs _ hstep => hs.step hstep).settled
  obtain ⟨d', hrun⟩ := mgtTick_ok d fun _ => deadEnv
  obtain ⟨d₁, hcheck, -⟩ := bind_eq_ok.mp hrun
  obtain ⟨hsilent, -⟩ :=
    hends (moved.map .daemon) (fun _ => deadEnv) [] [] d d₁ _ rfl hd hout hcheck
  rw [(mgtCheckTimeout_announced hsettled (hsettled.timesOut hout) hcheck).1 hout] at hsilent
  obtain ⟨⟨k, m⟩, hm, heq⟩ := List.mem_map.mp hentry
  dsimp only at heq
  subst heq
  exact (Announcements.withdraw_silent_iff.mp hsilent).1 .first m hm hclass

end Ubd
