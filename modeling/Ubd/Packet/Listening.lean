import Ubd.Tcp.Frames
import Ubd.Packet.Streams

/-!
# Packet.Listening — how often a listener is told

A connection to a class port is registered when it is accepted, and again by every `L` that is
read on it. `listen_newMessage` writes once for each time, so that what a listener gets depends
on all that was ever read on its connection: `delivered_once_iff`.
-/

namespace Ubd

open Runs

/-! ## What is asked for -/

/-- What the parser asks for while it reads `buf`. -/
def NodeBuffer.requests (nb : NodeBuffer) (buf : List UInt8) : List Request :=
  match tcpListenerRead record ([], nb) buf with
  | .ok (log, _) => log
  | .error _ => []

/-- How many `L` commands a step reads on connection `k`. -/
def Daemon.listenCommands (d : Daemon) (k : Nat) : DaemonEvent → Nat
  | .main (.read j buf) =>
      match d.conns[k]? with
      | some c => if j = k ∧ c.reading = true then (c.nb.requests buf).count .listen else 0
      | none => 0
  | _ => 0

/-- How many `L` commands were ever read on connection `k`. -/
def listenCount (k : Nat) (tr : List (Daemon × DaemonEvent)) : Nat :=
  (tr.map fun t => t.1.listenCommands k t.2).sum

theorem listenCount_snoc (k : Nat) (tr : List (Daemon × DaemonEvent)) (d : Daemon)
    (e : DaemonEvent) :
    listenCount k (tr ++ [(d, e)]) = listenCount k tr + d.listenCommands k e := by
  simp [listenCount]

/-- A read does what the parser asks for, in order. -/
theorem tcpListenerRead_log {σ : Type} {handle : σ → Request → Except Fault σ} {s s' : σ}
    {nb nb' : NodeBuffer} {buf : List UInt8}
    (h : tcpListenerRead handle (s, nb) buf = .ok (s', nb')) (log : List Request) :
    ∃ rs, tcpListenerRead record (log, nb) buf = .ok (log ++ rs, nb')
      ∧ rs.foldlM handle s = .ok s' := by
  induction buf generalizing s nb log with
  | nil =>
      cases h
      exact ⟨[], by rw [List.append_nil]; rfl, rfl⟩
  | cons b buf ih =>
      rw [tcpListenerRead_cons] at h ⊢
      obtain ⟨⟨s₁, nb₁⟩, hbyte, hrest⟩ := bind_eq_ok.mp h
      obtain ⟨⟨nb₂, r⟩, hparse, hbyte⟩ := bind_eq_ok.mp hbyte
      cases r with
      | none =>
          cases hbyte
          obtain ⟨rs, hread, hrun⟩ := ih hrest log
          refine ⟨rs, ?_, hrun⟩
          rw [tcpListenerByte, hparse]
          exact hread
      | some r =>
          obtain ⟨s₂, hhandle, hbyte⟩ := bind_eq_ok.mp hbyte
          cases hbyte
          obtain ⟨rs, hread, hrun⟩ := ih hrest (log ++ [r])
          refine ⟨r :: rs, ?_, foldlM_cons_ok.mpr ⟨_, hhandle, hrun⟩⟩
          rw [tcpListenerByte, hparse, List.append_cons]
          exact hread

/-! ## How often a stream is registered -/

/-- How often a class slot has the stream among its listeners. -/
def Daemon.heard (d : Daemon) (n : NodeId) (i : ClassId) (out : Gpointer) : Nat :=
  ((d.nodes n).tcpsockets i).listeners.count out

/-- The slot is that of the connection, and the stream its own. -/
def Connection.At (c : Connection) (n : NodeId) (i : ClassId) (out : Gpointer) : Prop :=
  n = c.n ∧ i = c.classid ∧ out = c.out

instance (c : Connection) (n : NodeId) (i : ClassId) (out : Gpointer) :
    Decidable (c.At n i out) := inferInstanceAs (Decidable (_ ∧ _))

/-- How often `tcp_listener` has registered the connection. -/
def Connection.accepted (c : Connection) : Nat :=
  match c.callback with
  | .newCommand => 1
  | .newMgt => 0

section Heard

variable {d d' : Daemon} {n m : NodeId} {i j : ClassId} {out x : Gpointer} {c : Connection}

theorem heard_setListeners (f : Node → List Gpointer) :
    (d.setNode n fun x => x.setListeners i (f x)).heard m j x
      = if m = n ∧ j = i then (f (d.nodes n)).count x else d.heard m j x := by
  unfold Daemon.heard Node.setListeners
  by_cases hm : m = n
  · subst hm
    rw [setNode_self]
    by_cases hj : j = i
    · subst hj
      simp
    · simp [hj]
  · rw [setNode_of_ne d n _ hm, if_neg fun h => hm h.1]

theorem heard_listenRegister (d : Daemon) (c : Connection) (m : NodeId) (j : ClassId)
    (x : Gpointer) : (listenRegister d c.n c.classid c.out).heard m j x
      = d.heard m j x + if c.At m j x then 1 else 0 := by
  unfold listenRegister
  rw [heard_setListeners]
  by_cases hslot : m = c.n ∧ j = c.classid
  · rw [if_pos hslot]
    obtain ⟨rfl, rfl⟩ := hslot
    by_cases hx : x = c.out
    · subst hx
      rw [if_pos (show c.At c.n c.classid c.out from ⟨rfl, rfl, rfl⟩), List.count_cons_self]
      rfl
    · rw [if_neg fun h : c.At c.n c.classid x => hx h.2.2, List.count_cons_of_ne (Ne.symm hx)]
      rfl
  · rw [if_neg hslot, if_neg fun h : c.At m j x => hslot ⟨h.1, h.2.1⟩, Nat.add_zero]

theorem heard_listenUnregister (d : Daemon) (c : Connection) (m : NodeId) (j : ClassId)
    (x : Gpointer) : (listenUnregister d c.n c.classid c.out).heard m j x
      = if c.At m j x then 0 else d.heard m j x := by
  unfold listenUnregister
  rw [heard_setListeners]
  by_cases hslot : m = c.n ∧ j = c.classid
  · rw [if_pos hslot]
    obtain ⟨rfl, rfl⟩ := hslot
    by_cases hx : x = c.out
    · subst hx
      rw [if_pos (show c.At c.n c.classid c.out from ⟨rfl, rfl, rfl⟩), List.count_eq_zero]
      simp
    · rw [if_neg fun h : c.At c.n c.classid x => hx h.2.2,
        List.count_filter (by simpa using hx)]
      rfl
  · rw [if_neg hslot, if_neg fun h : c.At m j x => hslot ⟨h.1, h.2.1⟩]

/-- What is asked for on a connection registers it once for every `L`. -/
theorem heard_requests {rs : List Request} (h : rs.foldlM (tcpRequest c) d = .ok d')
    (m : NodeId) (j : ClassId) (x : Gpointer) :
    d'.heard m j x = d.heard m j x + if c.At m j x then rs.count .listen else 0 := by
  induction rs generalizing d with
  | nil =>
      cases h
      simp
  | cons r rs ih =>
      obtain ⟨d₁, hrequest, hrest⟩ := foldlM_cons_ok.mp h
      rw [ih hrest]
      cases r with
      | command cmd =>
          obtain ⟨ms, rfl, -⟩ := tcpCallback_queues hrequest
          rw [List.count_cons_of_ne (by simp)]
          rfl
      | listen =>
          cases hrequest
          rw [heard_listenRegister, List.count_cons_self]
          split <;> omega

end Heard

/-! ## What a step can do -/

/-- **What a step does** for connections, and with their registrations. -/
inductive Attends (d : Daemon) (e : DaemonEvent) (d' : Daemon) : Prop
  /-- Nothing is done for a connection. -/
  | aside (conns : d'.conns = d.conns) (kept : UsedKept d d')
      (lost : ∀ n i, ((d'.nodes n).tcpsockets i).listeners
        ⊆ ((d.nodes n).tcpsockets i).listeners)
      (quiet : ∀ k, d.listenCommands k e = 0)
  | opens (c : Connection) (conns : d'.conns = d.conns ++ [c])
      (out : c.out = d.conns.length + 1) (isOpen : c.released = false)
      (heard : ∀ n i x,
        d'.heard n i x = d.heard n i x + if c.At n i x then c.accepted else 0)
      (quiet : ∀ k, d.listenCommands k e = 0)
  | asks (k : Nat) (c : Connection) (nb : NodeBuffer) (found : d.conns[k]? = some c)
      (reading : c.reading = true) (conns : d'.conns = d.conns.set k { c with nb := nb })
      (heard : ∀ n i x,
        d'.heard n i x = d.heard n i x + if c.At n i x then d.listenCommands k e else 0)
      (others : ∀ j, j ≠ k → d.listenCommands j e = 0)
  | fails (k : Nat) (c : Connection) (found : d.conns[k]? = some c)
      (conns : d'.conns = d.conns.set k { c with reading := false })
      (heard : ∀ n i x, d'.heard n i x = d.heard n i x)
      (quiet : ∀ k, d.listenCommands k e = 0)
  | closes (k : Nat) (c : Connection) (found : d.conns[k]? = some c)
      (reading : c.reading = true)
      (conns : d'.conns = d.conns.set k { c with reading := false, released := true })
      (heard : ∀ n i x, d'.heard n i x = if c.At n i x then 0 else d.heard n i x)
      (quiet : ∀ k, d.listenCommands k e = 0)

section Attends

variable {d d' : Daemon}

theorem attends_refl {e : DaemonEvent} (quiet : ∀ k, d.listenCommands k e = 0) :
    Attends d e d :=
  .aside rfl (.refl d) (fun _ _ => List.Subset.refl _) quiet

theorem Unattended.attends {e : DaemonEvent} (h : Unattended d d') (hkept : UsedKept d d')
    (quiet : ∀ k, d.listenCommands k e = 0) : Attends d e d' :=
  .aside h.conns hkept h.listeners quiet

/-- Data on a connection. -/
theorem tcpRead_attends {k : Nat} {buf : List UInt8} (h : tcpRead d k buf = .ok d') :
    Attends d (.main (.read k buf)) d' := by
  have hothers : ∀ j, j ≠ k → d.listenCommands j (.main (.read k buf)) = 0 := by
    intro j hj
    unfold Daemon.listenCommands
    dsimp only
    split
    · exact if_neg fun hread => hj hread.1.symm
    · rfl
  unfold tcpRead at h
  split at h
  · rename_i c hfound
    split at h
    · rename_i hreading
      obtain ⟨⟨d₁, nb⟩, hrun, h⟩ := bind_eq_ok.mp h
      cases h
      obtain ⟨rs, hread, hrequests⟩ := tcpListenerRead_log hrun []
      have hcommands : d.listenCommands k (.main (.read k buf)) = rs.count .listen := by
        simp [Daemon.listenCommands, NodeBuffer.requests, hfound, hreading, hread]
      refine .asks k c nb hfound hreading ?_ (fun n i x => ?_) hothers
      · exact congrArg (List.set · k _) (tcpListenerRead_asks hrun).conns
      · rw [hcommands]
        exact heard_requests hrequests n i x
    · rename_i hquiet
      cases h
      refine attends_refl fun j => ?_
      by_cases hj : j = k
      · subst hj
        simp [Daemon.listenCommands, hfound, hquiet]
      · exact hothers j hj
  · rename_i hnobody
    cases h
    refine attends_refl fun j => ?_
    by_cases hj : j = k
    · subst hj
      simp [Daemon.listenCommands, hnobody]
    · exact hothers j hj

/-- **Every step attends.** -/
theorem daemonStep_attends {e : DaemonEvent} (h : daemonStep d e = .ok d') : Attends d e d' := by
  cases e with
  | packet p connect =>
      exact (busmgtInpacket_managed h).toUnattended.attends (busmgtInpacket_usedKept h)
        fun _ => rfl
  | take =>
      cases h
      exact .aside rfl (fun _ hn => ⟨hn, rfl, fun _ => rfl⟩) (fun _ _ => List.Subset.refl _)
        fun _ => rfl
  | main e =>
      by_cases htick : ∃ env, e = .tick env
      · obtain ⟨env, rfl⟩ := htick
        exact (mgtTick_unattended h).attends (mgtTick_usedKept h) fun _ => rfl
      · by_cases hread : ∃ k buf, e = .read k buf
        · obtain ⟨k, buf, rfl⟩ := hread
          exact tcpRead_attends h
        · cases mainStep_serves h fun env heq => htick ⟨env, heq⟩ with
          | unknown | closed | failed => exact attends_refl fun _ => rfl
          | reads | deaf => exact absurd ⟨_, _, rfl⟩ hread
          | @command service n i listening =>
              let c : Connection :=
                ⟨NodeBuffer.fresh, n, i, .newCommand, d.conns.length + 1, true, false⟩
              exact .opens c rfl rfl rfl (heard_listenRegister d c) fun _ => rfl
          | @management service n i listening =>
              refine .opens _ rfl rfl rfl (fun m j x => ?_) fun _ => rfl
              show d.heard m j x = _
              rw [Connection.accepted, ite_self, Nat.add_zero]
          | @closes k c found reading =>
              exact .closes k c found reading rfl (heard_listenUnregister d c) fun _ => rfl
          | @fails k c found => exact .fails k c found rfl (fun _ _ _ => rfl) fun _ => rfl

end Attends

/-! ## The invariant -/

/-- **A stream is registered** once for every time its connection was, while that is open, and
nowhere else. -/
structure Accounted (tr : List (Daemon × DaemonEvent)) (d : Daemon) : Prop where
  wired : Wired d
  outs : ∀ k c, d.conns[k]? = some c → c.out = k + 1 ∧ (c.released = true → c.reading = false)
  heard : ∀ k c, d.conns[k]? = some c → ∀ n i, d.heard n i c.out
    = if c.released = false ∧ n = c.n ∧ i = c.classid then c.accepted + listenCount k tr else 0
  known : ∀ n i x, 0 < d.heard n i x →
    ∃ (k : Nat) (c : Connection), d.conns[k]? = some c ∧ c.out = x
  fresh : ∀ k, d.conns.length ≤ k → listenCount k tr = 0

section Accounted

variable {tr : List (Daemon × DaemonEvent)} {d d' : Daemon} {e : DaemonEvent}

/-- Who is replaced by a connection with his stream is still known. -/
theorem known_set {conns : List Connection} {k : Nat} {c c' : Connection} {x : Gpointer}
    (hfound : conns[k]? = some c) (hout : c'.out = c.out)
    (h : ∃ (j : Nat) (y : Connection), conns[j]? = some y ∧ y.out = x) :
    ∃ (j : Nat) (y : Connection), (conns.set k c')[j]? = some y ∧ y.out = x := by
  obtain ⟨j, y, hy, hx⟩ := h
  by_cases hj : j = k
  · subst hj
    rw [hfound] at hy
    cases hy
    exact ⟨j, c', List.getElem?_set_self (List.getElem?_eq_some_iff.mp hfound).1, hout.trans hx⟩
  · exact ⟨j, y, by rw [List.getElem?_set_ne (Ne.symm hj), hy], hx⟩

theorem listenCommands_none {k : Nat} (h : d.conns.length ≤ k) (e : DaemonEvent) :
    d.listenCommands k e = 0 := by
  unfold Daemon.listenCommands
  split
  · rw [List.getElem?_eq_none h]
  · rfl

/-- The stream of one connection is not that of another. -/
theorem Accounted.not_at (h : Accounted tr d) {j k : Nat} {x c : Connection}
    (hx : d.conns[j]? = some x) (hc : d.conns[k]? = some c) (hj : j ≠ k) (n : NodeId)
    (i : ClassId) : ¬ c.At n i x.out :=
  fun hat => hj (ConnsNumbered.place_unique h.outs hc hx hat.2.2)

/-- Where nothing is done for connections they stay registered: their nodes are in use. -/
theorem Accounted.aside (h : Accounted tr d) (kept : UsedKept d d')
    (lost : ∀ n i, ((d'.nodes n).tcpsockets i).listeners ⊆ ((d.nodes n).tcpsockets i).listeners)
    {k : Nat} {c : Connection} (hc : d.conns[k]? = some c) (n : NodeId) (i : ClassId) :
    d'.heard n i c.out = d.heard n i c.out := by
  by_cases hn : n = c.n
  · subst hn
    have hadr := h.wired.conns c (List.mem_of_getElem? hc)
    have hused : (d.nodes c.n).free = false :=
      (byId_eq_some.mp (h.wired.assigned.canonical c.n hadr)).1.1
    unfold Daemon.heard
    rw [(kept c.n hused).2.2 i]
  · have hnone : d.heard n i c.out = 0 := by
      rw [h.heard k c hc n i, if_neg fun hown => hn hown.2.1]
    have hout : c.out ∉ ((d.nodes n).tcpsockets i).listeners := List.count_eq_zero.mp hnone
    rw [hnone]
    exact List.count_eq_zero.mpr fun hmem => hout (lost n i hmem)

theorem Accounted.fresh_snoc (h : Accounted tr d) {k : Nat} (hk : d.conns.length ≤ k) :
    listenCount k (tr ++ [(d, e)]) = 0 := by
  rw [listenCount_snoc, h.fresh k hk, listenCommands_none hk]

/-- Nobody has the stream of the next connection yet. -/
theorem Accounted.next_unheard (h : Accounted tr d) (n : NodeId) (i : ClassId) :
    d.heard n i (d.conns.length + 1) = 0 := by
  refine Nat.eq_zero_of_not_pos fun hpos => ?_
  obtain ⟨k, y, hy, hsame⟩ := h.known n i _ hpos
  have hlt := (List.getElem?_eq_some_iff.mp hy).1
  rw [(h.outs k y hy).1] at hsame
  exact Nat.ne_of_lt hlt (Nat.succ.inj hsame)

/-- A step that opens a connection. -/
theorem Accounted.opened (h : Accounted tr d) (hwired : Wired d') {c : Connection}
    (conns : d'.conns = d.conns ++ [c]) (out : c.out = d.conns.length + 1)
    (isOpen : c.released = false)
    (heard : ∀ n i x, d'.heard n i x = d.heard n i x + if c.At n i x then c.accepted else 0)
    (quiet : ∀ k, d.listenCommands k e = 0) : Accounted (tr ++ [(d, e)]) d' := by
  refine ⟨hwired, ?_, fun k x hx n i => ?_, fun n i x hx => ?_, fun k hk => ?_⟩
  · rw [conns]
    exact ConnsNumbered.snoc h.outs out isOpen
  · rw [conns] at hx
    rw [heard, listenCount_snoc, quiet, Nat.add_zero]
    rcases getElem?_snoc_some hx with hx | ⟨rfl, rfl⟩
    · -- a connection that was there has another stream
      have hlt := (List.getElem?_eq_some_iff.mp hx).1
      have hnot : ¬ c.At n i x.out := by
        rintro ⟨-, -, hsame⟩
        rw [(h.outs k x hx).1, out] at hsame
        exact Nat.ne_of_lt hlt (Nat.succ.inj hsame)
      rw [if_neg hnot, Nat.add_zero, h.heard k x hx n i]
    · rw [out, h.next_unheard, ← out, Nat.zero_add, h.fresh _ (Nat.le_refl _), Nat.add_zero]
      by_cases hslot : n = x.n ∧ i = x.classid
      · rw [if_pos ⟨hslot.1, hslot.2, rfl⟩, if_pos ⟨isOpen, hslot⟩]
      · rw [if_neg fun hat => hslot ⟨hat.1, hat.2.1⟩, if_neg fun hown => hslot hown.2]
  · rw [heard] at hx
    rw [conns]
    by_cases hat : c.At n i x
    · exact ⟨_, c, List.getElem?_concat_length, hat.2.2.symm⟩
    · rw [if_neg hat, Nat.add_zero] at hx
      obtain ⟨k, y, hy, hout⟩ := h.known n i x hx
      refine ⟨k, y, ?_, hout⟩
      rw [List.getElem?_append_left (List.getElem?_eq_some_iff.mp hy).1, hy]
  · rw [conns, List.length_append, List.length_singleton] at hk
    exact h.fresh_snoc (Nat.le_of_succ_le hk)

/-- A step for one connection, in whose slot its stream is counted anew. -/
theorem Accounted.replaced (h : Accounted tr d) (hwired : Wired d') {k : Nat} {c c' : Connection}
    (found : d.conns[k]? = some c) (conns : d'.conns = d.conns.set k c')
    (hout : c'.out = c.out) (hquiet : c'.released = true → c'.reading = false)
    (heard : ∀ n i x, ¬ c.At n i x → d'.heard n i x = d.heard n i x)
    (others : ∀ j, j ≠ k → d.listenCommands j e = 0)
    (own : ∀ n i, d'.heard n i c.out = if c'.released = false ∧ n = c'.n ∧ i = c'.classid
      then c'.accepted + (listenCount k tr + d.listenCommands k e) else 0) :
    Accounted (tr ++ [(d, e)]) d' := by
  refine ⟨hwired, ?_, fun j x hx n i => ?_, fun n i x hx => ?_, fun j hj => ?_⟩
  · rw [conns]
    exact ConnsNumbered.set h.outs found hout hquiet
  · rw [conns] at hx
    rw [listenCount_snoc]
    rcases getElem?_set_some found hx with ⟨rfl, rfl⟩ | ⟨hj, hx⟩
    · rw [hout]
      exact own n i
    · rw [heard n i _ (h.not_at hx found hj n i), others j hj, h.heard j x hx n i]
      rfl
  · rw [conns]
    refine known_set found hout ?_
    by_cases hat : c.At n i x
    · exact ⟨k, c, found, hat.2.2.symm⟩
    · rw [heard n i x hat] at hx
      exact h.known n i x hx
  · rw [conns, List.length_set] at hj
    exact h.fresh_snoc hj

/-- **One step.** -/
theorem Accounted.step (h : Accounted tr d) (hstep : daemonStep d e = .ok d') :
    Accounted (tr ++ [(d, e)]) d' := by
  have hwired := h.wired.step hstep
  cases daemonStep_attends hstep with
  | aside conns kept lost quiet =>
      refine ⟨hwired, by rw [conns]; exact h.outs, fun k c hc n i => ?_, fun n i x hx => ?_,
        fun k hk => h.fresh_snoc (conns ▸ hk)⟩
      · rw [conns] at hc
        rw [h.aside kept lost hc n i, h.heard k c hc n i, listenCount_snoc, quiet, Nat.add_zero]
      · rw [conns]
        exact h.known n i x (List.count_pos_iff.mpr (lost n i (List.count_pos_iff.mp hx)))
  | opens c conns out isOpen heard quiet => exact h.opened hwired conns out isOpen heard quiet
  | asks k c nb found reading conns heard others =>
      have hopen := ConnsNumbered.reading_open h.outs found reading
      refine h.replaced hwired found conns rfl (h.outs k c found).2 (fun n i x hat => ?_) others
        fun n i => ?_
      · rw [heard, if_neg hat, Nat.add_zero]
      · rw [heard, h.heard k c found n i]
        by_cases hslot : n = c.n ∧ i = c.classid
        · rw [if_pos ⟨hopen, hslot⟩, if_pos ⟨hslot.1, hslot.2, rfl⟩, if_pos ⟨hopen, hslot⟩,
            Nat.add_assoc]
          rfl
        · rw [if_neg fun hown => hslot hown.2, if_neg fun hat => hslot ⟨hat.1, hat.2.1⟩,
            if_neg fun hown => hslot hown.2]
  | fails k c found conns heard quiet =>
      refine h.replaced hwired found conns rfl (fun _ => rfl) (fun n i x _ => heard n i x)
        (fun j _ => quiet j) fun n i => ?_
      rw [heard, quiet, Nat.add_zero]
      exact h.heard k c found n i
  | closes k c found reading conns heard quiet =>
      refine h.replaced hwired found conns rfl (fun _ => rfl) (fun n i x hat => ?_)
        (fun j _ => quiet j) fun n i => ?_
      · rw [heard, if_neg hat]
      · -- it was registered nowhere but in its slot
        refine Eq.trans ?_ (if_neg fun hown => Bool.noConfusion hown.1).symm
        rw [heard]
        by_cases hat : c.At n i c.out
        · exact if_pos hat
        · refine (if_neg hat).trans ((h.heard k c found n i).trans (if_neg fun hown => ?_))
          exact hat ⟨hown.2.1, hown.2.2, rfl⟩

end Accounted

/-! ## `listen_newMessage` -/

/-- What was written to a stream, call by call. -/
def writesTo (ws : List (Gpointer × List UInt8)) (out : Gpointer) : List (List UInt8) :=
  (ws.filter fun w => w.1 = out).map Prod.snd

/-- `listen_newMessage` writes one encoded copy to every open connection to the class port, and
nothing to those to other class ports. -/
def DeliveredOnce (d : Daemon) (n : NodeId) (i : ClassId) (p : UbPacket) : Prop :=
  ∃ d' ws, listenNewMessage d n p = .ok d' ∧ d'.written = d.written ++ ws
    ∧ ∀ c ∈ d.conns, c.callback = .newCommand → c.released = false →
      writesTo ws c.out = if n = c.n ∧ i = c.classid
        then tcpWriteCharacterEncoded (p.data.toList.take p.len.toNat) true else []

/-- No `L` was read on an open connection to the class port; and what the packet says of its
length is true, or nobody is there to be told. -/
def RegisteredOnce (tr : List (Daemon × DaemonEvent)) (d : Daemon) (n : NodeId) (i : ClassId)
    (p : UbPacket) : Prop :=
  (∀ k c, d.conns[k]? = some c → c.released = false → n = c.n → i = c.classid →
      c.callback = .newCommand → listenCount k tr = 0)
    ∧ (p.len.toNat ≤ ubPacketData
      ∨ ∀ k c, d.conns[k]? = some c → c.released = false → n = c.n → i = c.classid →
        c.callback = .newMgt ∧ listenCount k tr = 0)

section Delivery

variable {d d' : Daemon} {n : NodeId} {i : ClassId} {p : UbPacket}

/-- The class slot is found, if it is the only one with the class. -/
theorem listenClass_eq {x : Node} {cls : UInt8} (h : ∀ j, x.classes j = cls ↔ j = i) :
    x.listenClass cls = i := by
  unfold Node.listenClass
  have hmem : i ∈ classSlots.filter (x.classes · = cls) := by
    rw [List.mem_filter]
    exact ⟨List.mem_finRange i, by simpa using (h i).mpr rfl⟩
  cases hlast : (classSlots.filter (x.classes · = cls)).getLast? with
  | none =>
      rw [List.getLast?_eq_none_iff.mp hlast] at hmem
      cases hmem
  | some j =>
      have hj := (List.mem_filter.mp (List.mem_of_getLast? hlast)).2
      exact (h j).mp (by simpa using hj)

/-- The loop over the listeners. -/
theorem foldlM_write (chunks : List (List UInt8)) (l : List Gpointer) (d : Daemon) :
    l.foldlM (fun d out => (.ok (d.write out chunks) : Except Fault Daemon)) d
      = .ok { d with
          written := d.written ++ l.flatMap fun out => chunks.map fun b => (out, b) } := by
  induction l generalizing d with
  | nil => simp
  | cons out l ih =>
      rw [List.foldlM_cons, ok_bind, ih, List.flatMap_cons, ← List.append_assoc]
      rfl

/-- A stream gets what is written as often as it is registered. -/
theorem writesTo_flatMap (chunks : List (List UInt8)) (l : List Gpointer) (out : Gpointer) :
    writesTo (l.flatMap fun out => chunks.map fun b => (out, b)) out
      = (List.replicate (l.count out) chunks).flatten := by
  induction l with
  | nil => rfl
  | cons x l ih =>
      rw [writesTo] at ih ⊢
      rw [List.flatMap_cons, List.filter_append, List.map_append, ih]
      by_cases hx : x = out
      · subst hx
        rw [List.count_cons_self, List.replicate_succ, List.flatten_cons]
        congr 1
        rw [List.filter_eq_self.mpr (by simp), List.map_map]
        exact List.map_id chunks
      · rw [List.count_cons_of_ne hx, List.filter_eq_nil_iff.mpr (by simp [hx])]
        rfl

theorem flatten_replicate_eq_self {α : Type} {l : List (List α)} (hne : l ≠ []) {m : Nat}
    (h : (List.replicate m l).flatten = l) : m = 1 := by
  have hlen := congrArg List.length h
  rw [List.length_flatten, List.map_replicate, List.sum_replicate_nat] at hlen
  exact Nat.eq_of_mul_eq_mul_right (List.length_pos_iff.mpr hne) (hlen.trans (Nat.one_mul _).symm)

theorem tcpWriteCharacterEncoded_ne_nil (data : List UInt8) (unsolicited : Bool) :
    tcpWriteCharacterEncoded data unsolicited ≠ [] := by
  unfold tcpWriteCharacterEncoded tcpWriteBinaryEncoded
  split <;> simp

/-- A packet with its data is written to all listeners. -/
theorem listenNewMessage_fits (hlen : p.len.toNat ≤ ubPacketData) (d : Daemon) (n : NodeId) :
    listenNewMessage d n p = .ok { d with
      written := d.written
        ++ ((d.nodes n).tcpsockets ((d.nodes n).listenClass p.cls)).listeners.flatMap
          fun out => (tcpWriteCharacterEncoded (p.data.toList.take p.len.toNat) true).map
            fun b => (out, b) } := by
  unfold listenNewMessage
  have hpayload : p.payload = .ok (p.data.toList.take p.len.toNat) := if_pos hlen
  simp only [hpayload, ok_bind, pure_eq_ok]
  exact foldlM_write _ _ d

/-- One that is too long is only written if there are none. -/
theorem listenNewMessage_long (hlen : ¬ p.len.toNat ≤ ubPacketData)
    (h : listenNewMessage d n p = .ok d') :
    ((d.nodes n).tcpsockets ((d.nodes n).listenClass p.cls)).listeners = [] ∧ d' = d := by
  unfold listenNewMessage at h
  have hpayload : p.payload = .error .outOfBounds := if_neg hlen
  simp only [hpayload, error_bind] at h
  cases hl : ((d.nodes n).tcpsockets ((d.nodes n).listenClass p.cls)).listeners with
  | nil =>
      rw [hl] at h
      cases h
      exact ⟨rfl, rfl⟩
  | cons out l =>
      rw [hl] at h
      cases h

end Delivery

/-- The configuration registers nobody. -/
theorem configured_accounted {nodetimeout : Int} {cs : List NodeConfig} {d : Daemon}
    (h : configured nodetimeout cs = .ok d) : Accounted [] d := by
  have hmanaged := configured_managed h
  have hconns : d.conns = [] := hmanaged.conns
  refine ⟨(configured_wired h).1, ?_, ?_, fun n i x hx => ?_, fun _ _ => rfl⟩
  · rw [hconns]
    intro k c hc
    cases hc
  · rw [hconns]
    intro k c hc
    cases hc
  · cases hmanaged.listeners n i (List.count_pos_iff.mp hx)

/-! ## Who is told -/

section Told

variable {tr : List (Daemon × DaemonEvent)} {d : Daemon} {n : NodeId} {i : ClassId} {p : UbPacket}

theorem Accounted.heard_own (h : Accounted tr d) {k : Nat} {c : Connection}
    (hc : d.conns[k]? = some c) (hopen : c.released = false) (hn : n = c.n) (hi : i = c.classid) :
    d.heard n i c.out = c.accepted + listenCount k tr :=
  (h.heard k c hc n i).trans (if_pos ⟨hopen, hn, hi⟩)

/-- A class slot has no listeners if its open connections were never registered. -/
theorem Accounted.unlistened_iff (h : Accounted tr d) :
    ((d.nodes n).tcpsockets i).listeners = []
      ↔ ∀ k c, d.conns[k]? = some c → c.released = false → n = c.n → i = c.classid →
        c.callback = .newMgt ∧ listenCount k tr = 0 := by
  constructor
  · intro hnone k c hc hopen hn hi
    have hcount := h.heard_own hc hopen hn hi
    rw [Daemon.heard, hnone, List.count_nil, Connection.accepted] at hcount
    cases hcommand : c.callback with
    | newCommand =>
        rw [hcommand] at hcount
        dsimp only at hcount
        omega
    | newMgt =>
        rw [hcommand] at hcount
        exact ⟨rfl, by dsimp only at hcount; omega⟩
  · intro hmgt
    rw [List.eq_nil_iff_forall_not_mem]
    intro out hout
    have hpos : 0 < d.heard n i out := List.count_pos_iff.mpr hout
    obtain ⟨k, c, hc, rfl⟩ := h.known n i out hpos
    rw [h.heard k c hc n i] at hpos
    split at hpos
    · rename_i hown
      obtain ⟨hcallback, hcount⟩ := hmgt k c hc hown.1 hown.2.1 hown.2.2
      rw [hcount, Connection.accepted, hcallback] at hpos
      cases hpos
    · cases hpos

/-- A packet that is as long as it says comes as often as a connection was registered. -/
theorem Accounted.delivered_fits_iff (h : Accounted tr d)
    (hslot : (d.nodes n).listenClass p.cls = i) (hfits : p.len.toNat ≤ ubPacketData) :
    DeliveredOnce d n i p
      ↔ ∀ k c, d.conns[k]? = some c → c.released = false → n = c.n → i = c.classid →
        c.callback = .newCommand → listenCount k tr = 0 := by
  constructor
  · rintro ⟨d', ws, hrun, hws, hto⟩ k c hc hopen hn hi hcommand
    rw [listenNewMessage_fits hfits, hslot] at hrun
    cases hrun
    have hgot := hto c (List.mem_of_getElem? hc) hcommand hopen
    rw [if_pos ⟨hn, hi⟩, ← List.append_cancel_left hws, writesTo_flatMap] at hgot
    have honce := flatten_replicate_eq_self (tcpWriteCharacterEncoded_ne_nil _ _) hgot
    rw [← Daemon.heard, h.heard_own hc hopen hn hi, Connection.accepted, hcommand] at honce
    exact Nat.add_left_cancel honce
  · intro honce
    refine ⟨_, _, listenNewMessage_fits hfits d n, rfl, fun c hc hcommand hopen => ?_⟩
    obtain ⟨k, hk⟩ := List.getElem?_of_mem hc
    rw [hslot, writesTo_flatMap, ← Daemon.heard, h.heard k c hk n i]
    by_cases hown : n = c.n ∧ i = c.classid
    · rw [if_pos ⟨hopen, hown⟩, if_pos hown, honce k c hk hopen hown.1 hown.2 hcommand,
        Connection.accepted, hcommand]
      simp
    · rw [if_neg fun hall => hown hall.2, if_neg hown]
      rfl

/-- A packet that says too much is only harmless if nobody is there to be told. -/
theorem Accounted.delivered_long_iff (h : Accounted tr d)
    (hslot : (d.nodes n).listenClass p.cls = i) (hlong : ¬ p.len.toNat ≤ ubPacketData) :
    DeliveredOnce d n i p ↔ ((d.nodes n).tcpsockets i).listeners = [] := by
  constructor
  · rintro ⟨d', ws, hrun, -⟩
    rw [← hslot]
    exact (listenNewMessage_long hlong hrun).1
  · intro hnone
    refine ⟨d, [], ?_, (List.append_nil _).symm, fun c hc hcommand hopen => ?_⟩
    · unfold listenNewMessage
      rw [hslot, hnone]
      rfl
    · obtain ⟨k, hk⟩ := List.getElem?_of_mem hc
      refine (if_neg fun hown => ?_).symm
      rw [(h.unlistened_iff.mp hnone k c hk hopen hown.1 hown.2).1] at hcommand
      cases hcommand

end Told

/-- **Who is told once.** After every run, a packet of a class that one slot has is delivered
once to each open connection to the port of that slot, and to no other class port, if and only
if no `L` was read on those connections and the packet is as long as it says. -/
theorem delivered_once_iff (nodetimeout : Int) (cs : List NodeConfig) (d₀ d : Daemon)
    (tr : List (Daemon × DaemonEvent)) (h₀ : configured nodetimeout cs = .ok d₀)
    (h : Traced daemonStep (fun _ _ => True) d₀ tr d) (n : NodeId) (i : ClassId) (p : UbPacket)
    (hclass : ∀ j, (d.nodes n).classes j = p.cls ↔ j = i) :
    DeliveredOnce d n i p ↔ RegisteredOnce tr d n i p := by
  have hd : Accounted tr d := h.invariant (I := Accounted) (configured_accounted h₀)
    fun _ _ _ _ hs _ hstep => hs.step hstep
  have hslot : (d.nodes n).listenClass p.cls = i := listenClass_eq hclass
  unfold RegisteredOnce
  by_cases hfits : p.len.toNat ≤ ubPacketData
  · rw [hd.delivered_fits_iff hslot hfits]
    exact (and_iff_left (.inl hfits)).symm
  · rw [hd.delivered_long_iff hslot hfits, hd.unlistened_iff, or_iff_right hfits]
    refine ⟨fun hmgt => ⟨fun k c hc hopen hn hi hcommand => ?_, hmgt⟩, And.right⟩
    exact (hmgt k c hc hopen hn hi).2

/-- A node is discovered and comes up, and a client connects to its class port. -/
def listened : List DaemonEvent := discoverOnce ++ [.main (.accept 3)]

/-- The client says `L`. -/
def listenedTwice : List DaemonEvent := listened ++ [.main (.read 0 [0x4C])]

/-- The node says something of its own accord. -/
def noticePacket : UbPacket where
  src := 3
  dest := 1
  flags := ubPacketUnsolicited
  cls := 23
  len := 1
  data := Vector.replicate 45 0x78

/-- Who has just connected is told once. -/
theorem delivered_once_iff_listened : configured 30 [] = .ok (nodesInit 30)
    ∧ ∃ d tr, Traced daemonStep (fun _ _ => True) (nodesInit 30) tr d
      ∧ tr.map Prod.snd = listened
      ∧ (∀ j, (d.nodes ⟨0, by decide⟩).classes j = noticePacket.cls ↔ j = .first)
      ∧ (DeliveredOnce d ⟨0, by decide⟩ .first noticePacket
        ↔ RegisteredOnce tr d ⟨0, by decide⟩ .first noticePacket) := by
  obtain ⟨d, hd, hclass⟩ : ∃ d, Run daemonStep (fun _ _ => True) (nodesInit 30) listened d
      ∧ ∀ j, (d.nodes ⟨0, by decide⟩).classes j = noticePacket.cls ↔ j = .first := by
    apply Run.exists_of_eval Fault.assertion
    decide +kernel
  obtain ⟨tr, htr, hevents⟩ := hd.traced
  exact ⟨rfl, d, tr, htr, hevents, hclass,
    delivered_once_iff 30 [] (nodesInit 30) d tr rfl htr _ _ _ hclass⟩

/-- **An `L` on a class port** has everything said twice. -/
theorem listen_command_doubles : configured 30 [] = .ok (nodesInit 30)
    ∧ ∃ d tr, Traced daemonStep (fun _ _ => True) (nodesInit 30) tr d
      ∧ tr.map Prod.snd = listenedTwice
      ∧ (∀ j, (d.nodes ⟨0, by decide⟩).classes j = noticePacket.cls ↔ j = .first)
      ∧ ¬ DeliveredOnce d ⟨0, by decide⟩ .first noticePacket := by
  obtain ⟨d, hd, hclass, hwritten⟩ : ∃ d,
      Run daemonStep (fun _ _ => True) (nodesInit 30) listenedTwice d
      ∧ (∀ j, (d.nodes ⟨0, by decide⟩).classes j = noticePacket.cls ↔ j = .first)
      ∧ d.written = [] := by
    apply Run.exists_of_eval Fault.assertion
    decide +kernel
  obtain ⟨d₁, hd₁, hsaid, hconn⟩ : ∃ d,
      Run daemonStep (fun _ _ => True) (nodesInit 30) listenedTwice d
      ∧ (listenNewMessage d ⟨0, by decide⟩ noticePacket).toOption.map Daemon.written
        = some (List.replicate 2
          [((1 : Gpointer), [(0x63 : UInt8)]), (1, [0x78]), (1, [0x0D]), (1, [0x0A])]).flatten
      ∧ d.conns.map (fun c => (c.callback, c.out, c.released))
        = [(.newCommand, (1 : Gpointer), false)] := by
    apply Run.exists_of_eval Fault.assertion
    decide +kernel
  obtain rfl := hd.unique hd₁
  obtain ⟨tr, htr, hevents⟩ := hd.traced
  refine ⟨rfl, d, tr, htr, hevents, hclass, ?_⟩
  rintro ⟨d', ws, hrun, hws, hto⟩
  rw [hrun] at hsaid
  rw [hwritten, List.nil_append] at hws
  obtain ⟨c, hc, hfields⟩ := List.map_eq_singleton_iff.mp hconn
  obtain ⟨hcallback, hout, hreleased⟩ : c.callback = .newCommand ∧ c.out = 1
      ∧ c.released = false := by
    simpa using hfields
  have hgot := hto c (by rw [hc]; exact List.mem_singleton_self c) hcallback hreleased
  rw [hout, ← hws, Option.some.inj hsaid] at hgot
  -- eight writes are neither one copy nor none
  split at hgot
  · revert hgot
    decide
  · revert hgot
    decide

end Ubd
