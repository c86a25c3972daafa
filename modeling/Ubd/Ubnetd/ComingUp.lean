import Ubd.Daemon.Sockets
import Ubd.Ubnetd.Hosted

/-!
# Ubnetd.ComingUp — every node comes up

A tick makes the sockets of a node once ubnetd has answered it. Where all of them can be made, an
active node has its sockets or is still to hear from ubnetd: `nodes_come_up`.
-/

namespace Ubd

open Registries Runs

/-! ## The daemon -/

/-- An active node has its sockets, or waits for an answer. -/
def Upcoming (d : Daemon) : Prop :=
  ∀ n, (d.nodes n).active = true → SocketsUp d n ∨ (d.nodes n).ubnetd ≠ none

/-- Connecting to ubnetd works, and so does making sockets. -/
def Plentiful (d : Daemon) : DaemonEvent → Prop
  | .packet _ connect => connect = .connected
  | .main (.tick env) => ∀ n, (d.nodes n).CanCreate (env n)
  | _ => True

instance (x : Node) (env : NetEnv) : Decidable (x.CanCreate env) :=
  inferInstanceAs (Decidable ((∀ _ : Fin _, _ → _ ∧ _) ∧ _))

instance (d : Daemon) (e : DaemonEvent) : Decidable (Plentiful d e) :=
  match e with
  | .packet _ connect => inferInstanceAs (Decidable (connect = .connected))
  | .main (.tick _) => inferInstanceAs (Decidable (∀ _ : Fin _, _))
  | .main (.accept _) => .isTrue trivial
  | .main (.read ..) => .isTrue trivial
  | .main (.close _) => .isTrue trivial
  | .main (.readError _) => .isTrue trivial
  | .take => .isTrue trivial

section Daemons

variable {d d' : Daemon} {e : DaemonEvent} {n : NodeId} {env : NodeId → NetEnv}

theorem hosting_add {s : Slot} : s.hosting = some .add ↔ s.active = true := by
  unfold Slot.hosting
  split_ifs with hactive
  · exact iff_of_true rfl hactive
  · exact iff_of_false (by decide) hactive
  · exact iff_of_false (by decide) hactive

/-- Who is not told anything by a step and active after it was so before. -/
theorem Addressing.active (h : Addressing d) (hstep : daemonStep d e = .ok d')
    (hcalls : lastCall (interfaceCalls d e) n = none) (hactive : (d'.nodes n).active = true) :
    (d.nodes n).active = true := by
  have hhosting := h.hosting hstep n
  rw [hcalls, Option.none_or, hosting_add.mpr hactive] at hhosting
  exact hosting_add.mp hhosting.symm

/-- A packet asks ubnetd for the node that it registers. -/
theorem Upcoming.packet {p : UbPacket} {connect : UbnetdConnect} (h : Upcoming d)
    (hsound : Addressing d) (hconnect : connect = .connected)
    (hstep : daemonStep d (.packet p connect) = .ok d') : Upcoming d' := by
  intro n hactive
  have hnot : ∀ env, DaemonEvent.packet p connect ≠ .main (.tick env) := fun _ heq => nomatch heq
  have hkeeps := daemonStep_keeps hsound.wired hsound.plugged hnot hstep
  have hinterfaces := congrArg Interfaces.ubnetd (busmgtInpacket_interfaces hsound.wired hstep)
  have hkept : lastCall (interfaceCalls d (.packet p connect)) n = none →
      (d'.nodes n).ubnetd = (d.nodes n).ubnetd →
      SocketsUp d' n ∨ (d'.nodes n).ubnetd ≠ none := by
    intro hcalls hsame
    rw [hsame, hkeeps.socketsUp hsound.plugged n]
    exact h n (hsound.active hstep hcalls hactive)
  cases hregister : registering d p with
  | none =>
      rw [hregister] at hinterfaces
      exact hkept (lastCall_unregistering hregister n) (congrFun hinterfaces n)
  | some x =>
      rw [hregister, hconnect] at hinterfaces
      have hubnetd := congrFun hinterfaces n
      change (d'.nodes n).ubnetd = Function.update d.interfaces.ubnetd x _ n at hubnetd
      by_cases hn : n = x
      · right
        rw [hn, Function.update_self] at hubnetd
        rw [hn, hubnetd]
        exact Option.some_ne_none _
      · rw [Function.update_of_ne hn] at hubnetd
        refine hkept ?_ hubnetd
        rw [lastCall_packet hregister, if_neg (Ne.symm hn)]

/-- Who is active after a tick was so before, and its time has not run out. -/
theorem Addressing.active_tick (h : Addressing d) (hstep : mgtTick d env = .ok d')
    (hactive : (d'.nodes n).active = true) :
    (d.nodes n).free = false ∧ (d.nodes n).active = true ∧ ¬ (d.nodes n).TimesOut := by
  have hused : (d.nodes n).free = false := by
    cases hfree : (d.nodes n).free with
    | false => rfl
    | true =>
        rw [mgtTick_free h.plugged hfree hstep] at hactive
        exact nomatch hfree.symm.trans (h.wired.assigned.used hactive)
  have hslot := congrArg Slot.active (mgtTick_ticked h.plugged hused hstep).slot
  by_cases hout : (d.nodes n).TimesOut
  · rw [if_pos hout] at hslot
    exact nomatch hactive.symm.trans hslot
  · rw [if_neg hout] at hslot
    exact ⟨hused, hslot.symm.trans hactive, hout⟩

/-- **A tick** leaves the sockets of active nodes open, and makes those of the nodes that hear
`'A'`. -/
theorem Upcoming.tick (h : Upcoming d) (hsound : Addressing d)
    (hcan : ∀ n, (d.nodes n).CanCreate (env n))
    (htold : ∀ n b, (env n).ubnetd = some b → b = 0x41 ∧ (d.nodes n).netadr ≠ none)
    (hstep : mgtTick d env = .ok d') {n : NodeId} (hactive : (d'.nodes n).active = true) :
    SocketsUp d' n ∨ ((d'.nodes n).ubnetd ≠ none ∧ (env n).ubnetd = none) := by
  obtain ⟨hused, hbefore, hin⟩ := hsound.active_tick hstep hactive
  have hticked := mgtTick_ticked hsound.plugged hused hstep
  have hup := (socketsUp_tick hsound.plugged hused hstep).1
  rcases h n hbefore with hopen | hwaits
  · exact .inl (hup.mpr (.inr ⟨hopen, hin⟩))
  · cases hheard : (env n).ubnetd with
    | none =>
        refine .inr ⟨?_, rfl⟩
        rw [hticked.ubnetd, if_pos hheard]
        exact hwaits
    | some b =>
        obtain ⟨rfl, hadr⟩ := htold n b hheard
        exact .inl (hup.mpr (.inl ⟨⟨hwaits, hheard, hadr⟩, hcan n⟩))

/-- Nothing else does anything to it. -/
theorem Upcoming.step (h : Upcoming d) (hsound : Addressing d) (hplentiful : Plentiful d e)
    (htold : ∀ env, e = .main (.tick env) →
      ∀ n b, (env n).ubnetd = some b → b = 0x41 ∧ (d.nodes n).netadr ≠ none)
    (hstep : daemonStep d e = .ok d') : Upcoming d' := by
  cases e with
  | packet p connect => exact h.packet hsound hplentiful hstep
  | take =>
      cases hstep
      exact h
  | main e =>
      by_cases he : ∃ env, e = .tick env
      · obtain ⟨env, rfl⟩ := he
        exact fun n hactive =>
          (h.tick hsound hplentiful (htold env rfl) hstep hactive).imp_right And.left
      · have hnot : ∀ env, e ≠ .tick env := fun env heq => he ⟨env, heq⟩
        have htraffic := mainStep_traffic hnot hstep
        have hkeeps := daemonStep_keeps hsound.wired hsound.plugged
          (fun env heq => hnot env (DaemonEvent.main.inj heq)) hstep
        intro n hactive
        rw [htraffic.ubnetd, hkeeps.socketsUp hsound.plugged n]
        refine h n ?_
        have hslot := congrArg Slot.active (congrFun htraffic.slots n)
        exact hslot.symm.trans hactive

end Daemons

/-! ## Both programs -/

section Hosts

variable {σ : Type}

/-- Whatever the main loop turns to, there is enough. -/
def Hosting.Plentiful (s : Hosting σ) : HostEvent → Prop
  | .begins e => Ubd.Plentiful s.daemon e
  | _ => True

instance (s : Hosting σ) (e : HostEvent) : Decidable (s.Plentiful e) :=
  match e with
  | .begins e => inferInstanceAs (Decidable (Ubd.Plentiful s.daemon e))
  | .ubnetd _ => .isTrue trivial
  | .calls => .isTrue trivial
  | .told => .isTrue trivial
  | .ends => .isTrue trivial

/-- The nodes come up, also with what the main loop has begun. -/
structure Hosting.Upcoming (s : Hosting σ) : Prop where
  now : Ubd.Upcoming s.daemon
  doing : ∀ q, s.doing = some q →
    daemonStep s.daemon q.event = .ok q.next ∧ Ubd.Plentiful s.daemon q.event

variable {w : HostSetup σ} {i : σ} {s s' : Hosting σ}

theorem Hosting.mem_of_latest {n : NodeId} {c : UbnetdConn} (h : s.latest n = some c) :
    ((Op.add, n), c) ∈ s.requests := by
  obtain ⟨q, hfind, rfl⟩ := Option.map_eq_some_iff.mp h
  have hq : q.1 = (Op.add, n) := by simpa using List.find?_some hfind
  rw [← hq]
  exact List.mem_reverse.mp (List.mem_of_find?_eq_some hfind)

/-- What ubnetd has sent for a node is an `'A'`, and the node has its address. -/
theorem Hosted.heard (h : Hosted w i s) {n : NodeId} {b : UInt8}
    (hheard : (s.latest n).bind (·.answer.head?) = some b) :
    b = 0x41 ∧ (s.later.nodes n).netadr ≠ none := by
  obtain ⟨c, hlatest, hhead⟩ := Option.bind_eq_some_iff.mp hheard
  obtain ⟨k, hmade, hc⟩ := Hosting.mem_requests.mp (Hosting.mem_of_latest hlatest)
  obtain ⟨-, a, ha, -⟩ := h.asked k .add n c hmade hc
  constructor
  · have hanswer : c.answer ≠ [] := fun hnil => by
      rw [hnil] at hhead
      cases hhead
    rw [h.added hmade hc hanswer] at hhead
    exact (Option.some.inj hhead).symm
  · obtain ⟨adr, hadr, -⟩ := Option.map_eq_some_iff.mp ha
    rw [hadr]
    exact Option.some_ne_none adr

/-- An active node that ubnetd is through with has been sent its answer. -/
theorem Hosted.answered (h : Hosted w i s) (hidle : s.doing = none) {n : NodeId}
    (hactive : (s.daemon.nodes n).active = true)
    (hthrough : ∀ c, s.latest n = some c → c.state.Done) :
    (s.latest n).bind (·.answer.head?) = some 0x41 := by
  obtain ⟨hlater, hall, -⟩ := Hosting.idle hidle
  have haccounted := h.accounted n
  rw [hall, hlater, ← slot_nodes, hosting_add.mpr hactive] at haccounted
  obtain ⟨k, hmade, -⟩ := exists_lastCall haccounted
  have hlt : k < s.ubnetd.conns.length := by
    rw [← h.length]
    exact (List.getElem?_eq_some_iff.mp hmade).1
  have hmem : ((Op.add, n), s.ubnetd.conns[k]) ∈ s.requests :=
    Hosting.mem_requests.mpr ⟨k, hmade, List.getElem?_eq_getElem hlt⟩
  -- there is a latest one
  cases hlatest : s.latest n with
  | none =>
      have hnone := List.find?_eq_none.mp (Option.map_eq_none_iff.mp hlatest) _
        (List.mem_reverse.mpr hmem)
      simp at hnone
  | some c =>
      obtain ⟨j, hmade', hc⟩ := Hosting.mem_requests.mp (Hosting.mem_of_latest hlatest)
      obtain ⟨hbroken, a, -, hasked⟩ := h.asked j .add n c hmade' hc
      obtain ⟨rc, -, hanswer⟩ :=
        h.serving.answered hc (hthrough c hlatest) hbroken hasked
      have htold := h.added hmade' hc (by rw [hanswer]; simp)
      show c.answer.head? = some 0x41
      rw [htold]
      rfl

/-- **One step.** -/
theorem Hosting.Upcoming.step (h : s.Upcoming) (hsound : Addressing s.daemon)
    (hhosted : Hosted w i s) {e : HostEvent} (hconnected : s.Connected e)
    (hplentiful : s.Plentiful e) (hstep : w.step s e = .ok s') : s'.Upcoming := by
  unfold HostSetup.step at hstep
  cases e with
  | ubnetd e =>
      obtain ⟨u, -, heq⟩ := bind_eq_ok.mp hstep
      cases heq
      exact ⟨h.now, h.doing⟩
  | begins e =>
      dsimp only at hstep
      split at hstep
      · cases hstep
        exact h
      · obtain ⟨next, hnext, heq⟩ := bind_eq_ok.mp hstep
        cases heq
        refine ⟨h.now, fun q hq => ?_⟩
        cases hq
        exact ⟨hnext, hplentiful⟩
  | calls =>
      dsimp only at hstep
      split at hstep
      · rename_i e next op x calls hdoing
        split at hstep
        · cases hstep
        · obtain ⟨u, -, heq⟩ := bind_eq_ok.mp hstep
          cases heq
          obtain ⟨hnext, henough⟩ := h.doing _ hdoing
          refine ⟨h.now, fun q hq => ?_⟩
          cases hq
          exact ⟨hnext, henough⟩
      · cases hstep
        exact h
  | told =>
      dsimp only at hstep
      split at hstep
      · rename_i e next calls k hdoing
        split at hstep
        · cases hstep
          obtain ⟨hnext, henough⟩ := h.doing _ hdoing
          refine ⟨h.now, fun q hq => ?_⟩
          cases hq
          exact ⟨hnext, henough⟩
        · cases hstep
          exact h
      · cases hstep
        exact h
  | ends =>
      dsimp only at hstep
      split at hstep
      · rename_i e next hdoing
        cases hstep
        obtain ⟨hnext, henough⟩ := h.doing _ hdoing
        refine ⟨h.now.step hsound henough (fun env he n b hb => ?_) hnext, nofun⟩
        cases he
        -- the tick has read it
        have hreads := hconnected env (by rw [hdoing]; rfl) n
        rw [hb] at hreads
        obtain ⟨rfl, hadr⟩ := hhosted.heard (hreads.resolve_left (by simp)).symm
        refine ⟨rfl, fun hnone => hadr ?_⟩
        rw [(Hosting.busy hdoing).1]
        cases hfree : (s.daemon.nodes n).free with
        | true => rw [mgtTick_free hsound.plugged hfree hnext]; exact hnone
        | false => exact (mgtTick_ticked hsound.plugged hfree hnext).netadr.trans hnone
      · cases hstep
        exact h

end Hosts

end Ubd
