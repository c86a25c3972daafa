import Ubd.Directory.Withdrawn

/-!
# Directory.Offered — the client tells what the nodes offer

From the time its sockets are made until it times out a node is offered. `run_mirrors` says that,
as long as packets bring the classes such nodes have, all that is announced is what they offer.
-/

namespace Ubd

open Runs Lifetimes

/-- The time of the node runs out in this step. -/
def Expires (d : Daemon) (e : AnnounceEvent) (n : NodeId) : Prop :=
  ∃ env, e = .daemon (.main (.tick env)) ∧ (d.nodes n).TimesOut

/-- The sockets of the node have been made, and its time has not run out since. -/
def Offered (d₀ : Daemon) (es : List AnnounceEvent) (n : NodeId) : Prop :=
  ∃ pre e post t, es = pre ++ e :: post ∧ Run announceStep (fun _ _ => True) d₀ pre t
    ∧ MakesSockets t e n
    ∧ ∀ mid e' post' t', post = mid ++ e' :: post' →
      Run announceStep (fun _ _ => True) d₀ (pre ++ e :: mid) t' → ¬ Expires t' e' n

/-- Packets give the nodes that are offered the classes they have. -/
def ClassesStay (d₀ : Daemon) (es : List AnnounceEvent) : Prop :=
  ∀ pre p connect post t n classes, es = pre ++ AnnounceEvent.daemon (.packet p connect) :: post →
    Run announceStep (fun _ _ => True) d₀ pre t → Offered d₀ pre n → Reclasses t p n classes →
    classes = (t.nodes n).classes

section Histories

variable {d₀ t : Daemon} {es : List AnnounceEvent} {e : AnnounceEvent} {n : NodeId}

theorem not_offered_nil : ¬ Offered d₀ [] n := by
  rintro ⟨pre, e, post, -, hes, -⟩
  simp at hes

theorem offered_snoc (ht : Run announceStep (fun _ _ => True) d₀ es t) :
    Offered d₀ (es ++ [e]) n ↔ MakesSockets t e n ∨ (Offered d₀ es n ∧ ¬ Expires t e n) := by
  constructor
  · rintro ⟨pre, x, post, u, hes, hu, hmakes, hkept⟩
    induction post using List.reverseRecOn with
    | nil =>
        obtain ⟨rfl, heq⟩ := List.append_inj' hes rfl
        cases heq
        rw [ht.unique hu]
        exact .inl hmakes
    | append_singleton post y _ =>
        rw [← List.cons_append, ← List.append_assoc] at hes
        obtain ⟨rfl, heq⟩ := List.append_inj' hes rfl
        cases heq
        refine .inr ⟨⟨pre, x, post, u, rfl, hu, hmakes, fun mid e' post' t' hpost => ?_⟩,
          hkept post e [] t rfl ht⟩
        exact hkept mid e' (post' ++ [e]) t' (by rw [hpost, List.append_assoc, List.cons_append])
  · rintro (hmakes | ⟨⟨pre, x, post, u, rfl, hu, hmakes, hkept⟩, hexpires⟩)
    · refine ⟨es, e, [], t, rfl, ht, hmakes, fun mid e' post' t' hpost => ?_⟩
      simp at hpost
    · refine ⟨pre, x, post ++ [e], u, by simp, hu, hmakes, fun mid e' post' t' hpost ht' => ?_⟩
      induction post' using List.reverseRecOn with
      | nil =>
          obtain ⟨rfl, heq⟩ := List.append_inj' hpost rfl
          cases heq
          rw [← ht.unique ht']
          exact hexpires
      | append_singleton post' y _ =>
          rw [← List.cons_append, ← List.append_assoc] at hpost
          obtain ⟨rfl, -⟩ := List.append_inj' hpost rfl
          exact hkept mid e' post' t' rfl ht'

theorem ClassesStay.prefix {fs : List AnnounceEvent} (h : ClassesStay d₀ (es ++ fs)) :
    ClassesStay d₀ es := by
  intro pre p connect post u m classes hes
  exact h pre p connect (post ++ fs) u m classes (by rw [hes, List.append_assoc, List.cons_append])

/-- Before the first event nobody is offered. -/
theorem classesStay_cons (h : ∀ p connect, AnnounceEvent.daemon (.packet p connect) ∉ es) :
    ClassesStay d₀ (e :: es) := by
  intro pre p connect post u m classes hes _ hoffered
  cases pre with
  | nil => exact absurd hoffered not_offered_nil
  | cons a pre =>
      obtain ⟨-, rfl⟩ := List.cons.inj hes
      exact absurd (List.mem_append_right pre List.mem_cons_self) (h p connect)

end Histories

namespace Announcements

/-- What is announced is what the node offers. -/
structure Tells (a : Announcements) (n : Node) : Prop where
  entry : ∀ i m, a.entries i m →
    n.classes i ≠ 0 ∧ m.Announces (classesGetClassName (n.classes i)) n.id
  entries : ∀ i, n.classes i ≠ 0 → ∃ m, a.entries i m
  types : ∀ type, a.types type ↔ Offers n.classes type

variable {a : Announcements} {n n' : Node}

theorem Tells.congr (h : a.Tells n) (hclasses : n'.classes = n.classes) (hid : n'.id = n.id) :
    a.Tells n' := by
  refine ⟨?_, ?_, ?_⟩
  · rw [hclasses, hid]
    exact h.entry
  · rw [hclasses]
    exact h.entries
  · rw [hclasses]
    exact h.types

theorem Tells.offeredBy (h : a.Tells n) : a.OfferedBy n.classes :=
  ⟨fun i m hm => (h.entry i m hm).1, fun type htype => (h.types type).mp htype⟩

/-- A registration tells what the node offers, if there was nothing else. -/
theorem tells_announce (h : a.Silent ∨ a.Tells n) : (a.announce n).Tells n := by
  have hnone : ∀ i m, n.classes i = 0 → ¬ a.entries i m := by
    intro i m hi hm
    rcases h with h | h
    · exact h.1 i m hm
    · exact (h.entry i m hm).1 hi
  refine ⟨fun i m hm => ?_, fun i hi => ⟨updateMessage n i, ?_⟩, fun type => ?_⟩
  · change (if n.classes i ≠ 0 then m = updateMessage n i else a.entries i m) at hm
    split_ifs at hm with hclass
    · rw [hm]
      exact ⟨hclass, rfl, rfl⟩
    · exact absurd hm (hnone i m (not_not.mp hclass))
  · show if n.classes i ≠ 0 then updateMessage n i = updateMessage n i else _
    rw [if_pos hi]
  · refine or_iff_right_of_imp fun htype => ?_
    rcases h with h | h
    · exact absurd htype (h.2 type)
    · exact (h.types type).mp htype

end Announcements

/-- **The client mirrors the nodes**: those that are up are announced with all they offer, and
nobody else is. -/
structure Mirrors (d : Daemon) (up : NodeId → Prop) : Prop where
  assigned : ∀ n, up n → (d.nodes n).busadr ≠ 0
  tells : ∀ n, up n → (d.announced n).Tells (d.nodes n)
  silent : ∀ n, (d.nodes n).busadr ≠ 0 → ¬ up n → (d.announced n).Silent

section Mirrors

variable {d d' : Daemon} {up : NodeId → Prop} {n : NodeId}

theorem Mirrors.offers (h : Mirrors d up) (hn : (d.nodes n).busadr ≠ 0) :
    (d.announced n).Silent ∨ (d.announced n).Tells (d.nodes n) := by
  by_cases hup : up n
  · exact .inr (h.tells n hup)
  · exact .inl (h.silent n hn hup)

/-- The tick of the client says nothing new. -/
theorem Mirrors.resend (h : Mirrors d up) (hannouncing : Announcing d)
    (hn : (d.nodes n).busadr ≠ 0) (type : String) :
    Outstanding (dirclientTick d.dirclient).sent type (d.nodes n).id
      ↔ Outstanding d.dirclient.sent type (d.nodes n).id := by
  rw [resend_outstanding hannouncing]
  refine or_iff_left_of_imp ?_
  rintro ⟨⟨x, i⟩, m, hm, hannounces⟩
  obtain ⟨hadr, type', hannounces'⟩ := hannouncing.entries _ m hm
  by_cases hx : x = n
  · subst hx
    rcases h.offers hn with hsilent | htells
    · exact absurd hm (hsilent.1 i m)
    · obtain ⟨hclass, hown⟩ := htells.entry i m hm
      have htype : classesGetClassName ((d.nodes x).classes i) = type := by
        cases m with
        | updateService => exact hown.1.symm.trans hannounces.1
        | deleteService => exact hown.elim
      exact (htells.types type).mpr ⟨i, hclass, htype⟩
  · exact absurd (hannounces'.id_eq hannounces) (hannouncing.settled.id_ne hn hadr hx)

/-- **One step.** -/
theorem Mirrors.step {e : AnnounceEvent} (h : Mirrors d up) (hannouncing : Announcing d)
    (hstay : ∀ p connect n classes, e = .daemon (.packet p connect) → up n →
      Reclasses d p n classes → classes = (d.nodes n).classes)
    (hstep : announceStep d e = .ok d') :
    Mirrors d' fun n => MakesSockets d e n ∨ (up n ∧ ¬ Expires d e n) := by
  have hsettled := hannouncing.settled
  have hassigned : ∀ n, (MakesSockets d e n ∨ (up n ∧ ¬ Expires d e n)) →
      (d.nodes n).busadr ≠ 0 := by
    rintro n (⟨env, -, hup⟩ | ⟨hup, -⟩)
    · exact hsettled.wired.touched n (.inl hup.1.1)
    · exact h.assigned n hup
  cases e with
  | resend =>
      have hidle : ∀ n, (MakesSockets d .resend n ∨ (up n ∧ ¬ Expires d .resend n)) ↔ up n := by
        intro n
        have hnone : ∀ env, AnnounceEvent.resend ≠ .daemon (.main (.tick env)) := nofun
        simp [MakesSockets, Expires, hnone]
      cases hstep
      refine ⟨hassigned, fun n hup => ?_, fun n hn hup => ?_⟩
      · rw [hidle] at hup
        have htells := h.tells n hup
        exact ⟨htells.entry, htells.entries, fun type =>
          (h.resend hannouncing (h.assigned n hup) type).trans (htells.types type)⟩
      · rw [hidle] at hup
        have hsilent := h.silent n hn hup
        exact ⟨hsilent.1, fun type htype =>
          hsilent.2 type ((h.resend hannouncing hn type).mp htype)⟩
  | daemon e =>
      by_cases he : ∃ env, e = .main (.tick env)
      · obtain ⟨env, rfl⟩ := he
        obtain ⟨d₁, hcheck, hconfigure⟩ := bind_eq_ok.mp hstep
        obtain ⟨hsettled₁, hquiet⟩ := forEachNode_settled mgtCheckNode_body hsettled hcheck
        have hbusadr : ∀ n, (d'.nodes n).busadr = (d.nodes n).busadr :=
          (mgtTick_change hstep).1.busadr
        -- the two loops, as they are for one node
        have hnode : ∀ n, (d.nodes n).busadr ≠ 0 →
            ((d₁.nodes n).ComesUp (env n) ↔ (d.nodes n).ComesUp (env n))
            ∧ ((d.nodes n).ComesUp (env n) ∨ (up n ∧ ¬ (d.nodes n).TimesOut) →
              (d'.announced n).Tells (d'.nodes n))
            ∧ (¬ ((d.nodes n).ComesUp (env n) ∨ (up n ∧ ¬ (d.nodes n).TimesOut)) →
              (d'.announced n).Silent) := by
          intro n hn
          obtain ⟨hremoved, hkept, hnet, hclasses, hid⟩ :=
            mgtCheckTimeout_announced hsettled hn hcheck
          have hcongr := comesUp_congr hnet hclasses (env n)
          obtain ⟨hup, hdown, hclasses', hid'⟩ :=
            mgtConfigure_announced hsettled₁ (hquiet.assigned n hn) hconfigure
          have hfirst : (up n ∧ ¬ (d.nodes n).TimesOut → (d₁.announced n).Tells (d₁.nodes n))
              ∧ (¬ (up n ∧ ¬ (d.nodes n).TimesOut) → (d₁.announced n).Silent) := by
            by_cases hout : (d.nodes n).TimesOut
            · refine ⟨fun hboth => absurd hout hboth.2, fun _ => ?_⟩
              rw [hremoved hout, Announcements.withdraw_silent_iff]
              rcases h.offers hn with hsilent | htells
              · exact hsilent.offeredBy _
              · exact htells.offeredBy
            · rw [hkept hout]
              refine ⟨fun hboth => (h.tells n hboth.1).congr hclasses hid, fun hnot => ?_⟩
              exact h.silent n hn fun hupn => hnot ⟨hupn, hout⟩
          have hoffers : (d₁.announced n).Silent ∨ (d₁.announced n).Tells (d₁.nodes n) :=
            (Classical.em _).elim (fun hboth => .inr (hfirst.1 hboth))
              fun hnot => .inl (hfirst.2 hnot)
          by_cases hcomes : (d₁.nodes n).ComesUp (env n)
          · refine ⟨hcongr, fun _ => ?_, fun hnot => absurd (.inl (hcongr.mp hcomes)) hnot⟩
            rw [hup hcomes]
            exact (Announcements.tells_announce hoffers).congr hclasses' hid'
          · rw [hdown hcomes]
            refine ⟨hcongr, fun hor => ?_, fun hnot => hfirst.2 fun hboth => hnot (.inr hboth)⟩
            rcases hor with hup' | hboth
            · exact absurd (hcongr.mpr hup') hcomes
            · exact (hfirst.1 hboth).congr hclasses' hid'
        have hiff : ∀ n, (MakesSockets d (.daemon (.main (.tick env))) n
            ∨ (up n ∧ ¬ Expires d (.daemon (.main (.tick env))) n))
            ↔ ((d.nodes n).ComesUp (env n) ∨ (up n ∧ ¬ (d.nodes n).TimesOut)) := by
          intro n
          refine or_congr ⟨?_, fun hup => ⟨env, rfl, hup⟩⟩ (and_congr_right fun _ => not_congr
            ⟨fun ⟨_, _, hout⟩ => hout, fun hout => ⟨env, rfl, hout⟩⟩)
          rintro ⟨env', heq, hup⟩
          cases heq
          exact hup
        refine ⟨fun n hup => ?_, fun n hup => ?_, fun n hn hup => ?_⟩
        · rw [hbusadr]
          exact hassigned n hup
        · exact (hnode n (hassigned n hup)).2.1 ((hiff n).mp hup)
        · rw [hbusadr] at hn
          exact (hnode n hn).2.2 fun hor => hup ((hiff n).mpr hor)
      · have hnot : ∀ env, e ≠ .main (.tick env) := fun env heq => he ⟨env, heq⟩
        have hsame : d'.dirclient = d.dirclient := daemonStep_dirclient hnot hstep
        have hidle : ∀ n, (MakesSockets d (.daemon e) n
            ∨ (up n ∧ ¬ Expires d (.daemon e) n)) ↔ up n := by
          intro n
          have hnone : ∀ env, AnnounceEvent.daemon e ≠ .daemon (.main (.tick env)) :=
            fun env heq => hnot env (AnnounceEvent.daemon.inj heq)
          simp [MakesSockets, Expires, hnone]
        refine ⟨fun n hup => daemonStep_assigned hsettled.wired hstep (hassigned n hup),
          fun n hup => ?_, fun n hn hup => ?_⟩
        · rw [hidle] at hup
          have hadr := h.assigned n hup
          have hid := hsettled.keeps_id hstep hadr
          rw [announced_same hid hsame]
          refine (h.tells n hup).congr ?_ hid
          rcases (daemonStep_keeps hsettled.wired hsettled.plugged hnot hstep).classes n with
            hclasses | ⟨p, connect, rfl, hclasses⟩
          · exact hclasses
          · exact hstay p connect n _ rfl hup hclasses
        · rw [hidle] at hup
          by_cases hadr : (d.nodes n).busadr = 0
          · exact hannouncing.silent_new hstep hsame hadr hn
          · rw [announced_same (hsettled.keeps_id hstep hadr) hsame]
            exact h.silent n hadr hup

/-- **Every run.** -/
theorem run_mirrors {d₀ d : Daemon} {es : List AnnounceEvent} (h₀ : Announcing d₀)
    (hnobody : ∀ n, (d₀.nodes n).busadr = 0)
    (hrun : Run announceStep (fun _ _ => True) d₀ es d) (hstay : ClassesStay d₀ es) :
    Mirrors d (Offered d₀ es) := by
  induction hrun with
  | nil =>
      exact ⟨fun n hup => absurd hup not_offered_nil, fun n hup => absurd hup not_offered_nil,
        fun n hn _ => absurd (hnobody n) hn⟩
  | @snoc es d d' e hrun _ hstep ih =>
      have hbefore := ih hstay.prefix
      have hannouncing := hrun.invariant h₀ fun _ _ _ hs _ hdone => Announcing.step hs hdone
      have hafter := hbefore.step hannouncing (fun p connect n classes heq hup hclasses =>
        hstay es p connect [] d n classes (by rw [heq]) hrun hup hclasses) hstep
      have hoffered : Offered d₀ (es ++ [e])
          = fun n => MakesSockets d e n ∨ (Offered d₀ es n ∧ ¬ Expires d e n) := by
        funext n
        exact propext (offered_snoc hrun)
      rw [hoffered]
      exact hafter

end Mirrors

end Ubd
