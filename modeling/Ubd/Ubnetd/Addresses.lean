import Ubd.Daemon.Confirmations
import Ubd.Ubnetd.Handler

/-!
# Ubnetd.Addresses — what ubnetd does for all who ask it

However the threads take turns, each request is carried out once, by the commands of its own
thread, and answered with how the last of them ended: `requests_answered`. The commands of
different threads for one address mix, and to add an address is to delete it first; still, an
address that is only asked for is there in the end and one that nobody wants is gone:
`addresses_settled`.
-/

namespace Ubd

open Delimited Registries Runs

section Ubnetd

variable {σ : Type} {R : Registry σ Inet6} {s s' : Ubnetd σ} {i : σ}

/-! ## What belongs to a connection -/

/-- What the client asks for. -/
def UbnetdConn.asked (c : UbnetdConn) : Option (Op × Inet6) := requestOf (c.said.take requestLen)

/-- The commands that have run for a connection. -/
def ranFor (k : Nat) (log : List (Nat × Entry Inet6)) : List (Entry Inet6) :=
  (log.filter (·.1 = k)).map Prod.snd

/-- The commands for a request, the last of which has returned `rc`. -/
def Ran : Op × Inet6 → Int → List (Entry Inet6) → Prop
  | (.add, a), rc, ran => ∃ first, ran = [⟨.del, a, first⟩, ⟨.add, a, rc⟩]
  | (.del, a), rc, ran => ran = [⟨.del, a, rc⟩]

/-- The request was carried out and answered. -/
def UbnetdConn.Answered (c : UbnetdConn) (ran : List (Entry Inet6)) : Prop :=
  ∃ r rc, c.asked = some r ∧ Ran r rc ran ∧ c.answer = [answerByte rc]

/-- There is no request, and there will be none. -/
def UbnetdConn.Refused (c : UbnetdConn) (ran : List (Entry Inet6)) : Prop :=
  (c.broken = true ∨ (c.asked = none ∧ (c.ended = true ∨ requestLen ≤ c.said.length)))
    ∧ ran = [] ∧ c.answer = []

/-- Where a thread is, with its commands and its client's request. -/
def UbnetdConn.Serves (c : UbnetdConn) (ran : List (Entry Inet6)) : Prop :=
  match c.state with
  | .receiving buf =>
      buf.length < requestLen ∧ c.said = buf ++ c.transit ∧ ran = [] ∧ c.answer = []
  | .creating a => c.asked = some (.add, a) ∧ ran = [] ∧ c.answer = []
  | .adding a => c.asked = some (.add, a) ∧ (∃ first, ran = [⟨.del, a, first⟩]) ∧ c.answer = []
  | .removing a => c.asked = some (.del, a) ∧ ran = [] ∧ c.answer = []
  | .answering rc => ∃ r, c.asked = some r ∧ Ran r rc ran ∧ c.answer = []
  | .waiting => c.Answered ran
  | .closed => c.Answered ran ∨ c.Refused ran

/-- Whose `system` it is. -/
theorem ranFor_snoc (k j : Nat) (log : List (Nat × Entry Inet6)) (e : Entry Inet6) :
    ranFor k (log ++ [(j, e)]) = ranFor k log ++ if j = k then [e] else [] := by
  unfold ranFor
  rw [List.filter_append, List.map_append]
  by_cases hj : j = k
  · subst hj
    simp
  · simp [hj]

theorem mem_ranFor {k : Nat} {log : List (Nat × Entry Inet6)} {e : Entry Inet6} :
    e ∈ ranFor k log ↔ (k, e) ∈ log := by
  unfold ranFor
  simp only [List.mem_map, List.mem_filter, decide_eq_true_eq]
  constructor
  · rintro ⟨⟨j, e⟩, ⟨hmem, rfl⟩, rfl⟩
    exact hmem
  · intro hmem
    exact ⟨(k, e), ⟨hmem, rfl⟩, rfl⟩

section Conn

variable {c : UbnetdConn} {ran : List (Entry Inet6)}

theorem asked_length {c : UbnetdConn} {r : Op × Inet6} (h : c.asked = some r) :
    requestLen ≤ c.said.length := by
  have hlen := requestOf_length h
  rw [List.length_take] at hlen
  omega

/-- What comes behind a request does not change it. -/
theorem asked_append {c' : UbnetdConn} {bytes : List UInt8} (hlen : requestLen ≤ c.said.length)
    (hsaid : c'.said = c.said ++ bytes) : c'.asked = c.asked := by
  unfold UbnetdConn.asked
  rw [hsaid, List.take_append_of_le_length hlen]

/-! ## What the clients do -/

/-- Where a request is there, its thread does not mind what follows. -/
theorem UbnetdConn.Serves.send (h : c.Serves ran) (bytes : List UInt8)
    (hopen : c.ended = false) :
    ({ c with transit := c.transit ++ bytes, said := c.said ++ bytes }).Serves ran := by
  have hasked : requestLen ≤ c.said.length →
      ({ c with transit := c.transit ++ bytes, said := c.said ++ bytes }).asked = c.asked :=
    fun hlen => asked_append hlen rfl
  have hsome : ∀ r, c.asked = some r →
      ({ c with transit := c.transit ++ bytes, said := c.said ++ bytes }).asked = some r :=
    fun r hr => (hasked (asked_length hr)).trans hr
  have hanswered : c.Answered ran →
      ({ c with transit := c.transit ++ bytes, said := c.said ++ bytes }).Answered ran := by
    rintro ⟨r, rc, hr, hran, htold⟩
    exact ⟨r, rc, hsome r hr, hran, htold⟩
  unfold UbnetdConn.Serves at h ⊢
  dsimp only
  cases hstate : c.state with
  | receiving buf =>
      rw [hstate] at h
      obtain ⟨hshort, hsaid, hidle⟩ := h
      exact ⟨hshort, by rw [hsaid, List.append_assoc], hidle⟩
  | creating a =>
      rw [hstate] at h
      exact ⟨hsome _ h.1, h.2⟩
  | adding a =>
      rw [hstate] at h
      exact ⟨hsome _ h.1, h.2⟩
  | removing a =>
      rw [hstate] at h
      exact ⟨hsome _ h.1, h.2⟩
  | answering rc =>
      rw [hstate] at h
      obtain ⟨r, hr, hran⟩ := h
      exact ⟨r, hsome r hr, hran⟩
  | waiting =>
      rw [hstate] at h
      exact hanswered h
  | closed =>
      rw [hstate] at h
      rcases h with h | ⟨hbad, hidle⟩
      · exact .inl (hanswered h)
      · refine .inr ⟨?_, hidle⟩
        rcases hbad with hbroken | ⟨hnone, hended | hlong⟩
        · exact .inl hbroken
        · rw [hopen] at hended
          cases hended
        · refine .inr ⟨(hasked hlong).trans hnone, .inr ?_⟩
          rw [List.length_append]
          exact le_trans hlong (Nat.le_add_right _ _)

theorem UbnetdConn.Serves.shut (h : c.Serves ran) : ({ c with ended := true }).Serves ran := by
  unfold UbnetdConn.Serves at h ⊢
  dsimp only
  cases hstate : c.state with
  | closed =>
      rw [hstate] at h
      exact h.imp_right fun hrefused =>
        ⟨hrefused.1.imp_right fun hnone => ⟨hnone.1, .inl rfl⟩, hrefused.2⟩
  | _ =>
      rw [hstate] at h
      exact h

/-! ## What the threads do -/

/-- All bytes of a request are there. -/
theorem handleRequest_serves {buf : List UInt8} (hstate : c.state = handleRequest buf)
    (hasked : c.asked = requestOf buf) (hlong : requestLen ≤ c.said.length) (hidle : ran = [])
    (hsilent : c.answer = []) : c.Serves ran := by
  unfold UbnetdConn.Serves
  rw [hstate]
  unfold handleRequest
  cases hr : requestOf buf with
  | none => exact .inr ⟨.inr ⟨hasked.trans hr, .inr hlong⟩, hidle, hsilent⟩
  | some r =>
      obtain ⟨op, a⟩ := r
      cases op with
      | add => exact ⟨hasked.trans hr, hidle, hsilent⟩
      | del => exact ⟨hasked.trans hr, hidle, hsilent⟩

/-- **`receive`**: it gives up at the end of the stream, or has the first 17 bytes. -/
theorem UbnetdConn.Serves.receive (h : c.Serves ran) (n : Nat) : (c.receive n).Serves ran := by
  unfold UbnetdConn.receive
  split
  · rename_i buf hstate
    unfold UbnetdConn.Serves at h
    rw [hstate] at h
    obtain ⟨hshort, hsaid, hidle, hsilent⟩ := h
    split
    · rename_i hempty
      rw [hempty, List.append_nil] at hsaid
      split
      · rename_i hended
        refine .inr ⟨.inr ⟨?_, .inl hended⟩, hidle, hsilent⟩
        -- the request is cut off
        by_contra hasked
        obtain ⟨r, hr⟩ := Option.ne_none_iff_exists'.mp hasked
        have hlen : requestLen ≤ c.said.length := asked_length hr
        rw [hsaid] at hlen
        omega
      · unfold UbnetdConn.Serves
        rw [hstate]
        exact ⟨hshort, by rw [hsaid, hempty, List.append_nil], hidle, hsilent⟩
    · dsimp only
      generalize hgot : c.transit.take (min (n + 1) (requestLen - buf.length)) = got
      have hsplit : c.said = buf ++ got ++ c.transit.drop got.length := by
        rw [hsaid, List.append_assoc, ← hgot, List.length_take]
        rcases Nat.le_total (min (n + 1) (requestLen - buf.length)) c.transit.length with
          hle | hle
        · rw [Nat.min_eq_left hle, List.take_append_drop]
        · rw [Nat.min_eq_right hle, List.take_of_length_le hle, List.drop_length,
            List.append_nil]
      split
      · rename_i hmore
        exact ⟨hmore, hsplit, hidle, hsilent⟩
      · rename_i hall
        have hlen : (buf ++ got).length = requestLen := by
          rw [List.length_append, ← hgot, List.length_take] at hall ⊢
          omega
        have hasked : c.asked = requestOf (buf ++ got) := by
          unfold UbnetdConn.asked
          rw [hsplit, List.take_left' hlen]
        refine handleRequest_serves rfl hasked ?_ hidle hsilent
        show requestLen ≤ c.said.length
        rw [hsplit, List.length_append, hlen]
        exact Nat.le_add_right _ _
  · rename_i hstate
    split
    · exact h
    · unfold UbnetdConn.Serves at h
      rw [hstate] at h
      exact .inl h
  · exact h

theorem UbnetdConn.Serves.breakOff (h : c.Serves ran) : c.breakOff.Serves ran := by
  unfold UbnetdConn.breakOff
  split
  · rename_i buf hstate
    unfold UbnetdConn.Serves at h
    rw [hstate] at h
    exact .inr ⟨.inl rfl, h.2.2.1, h.2.2.2⟩
  · rename_i hstate
    unfold UbnetdConn.Serves at h
    rw [hstate] at h
    exact .inl h
  · exact h

theorem UbnetdConn.Serves.sendAnswer (h : c.Serves ran) : c.sendAnswer.Serves ran := by
  unfold UbnetdConn.sendAnswer
  split
  · rename_i rc hstate
    unfold UbnetdConn.Serves at h
    rw [hstate] at h
    obtain ⟨r, hr, hran, hsilent⟩ := h
    exact ⟨r, rc, hr, hran, by rw [hsilent]; rfl⟩
  · exact h

/-- **`system`**: one more command of the request. -/
theorem UbnetdConn.Serves.returned (h : c.Serves ran) {op : Op} {a : Inet6}
    (hcommand : c.state.command = some (op, a)) (rc : Int) :
    ({ c with state := c.state.returned rc }).Serves (ran ++ [(⟨op, a, rc⟩ : Entry Inet6)]) := by
  unfold UbnetdConn.Serves at h
  cases hstate : c.state with
  | creating b =>
      rw [hstate] at h hcommand
      obtain ⟨hasked, hidle, hsilent⟩ := h
      cases hcommand
      exact ⟨hasked, ⟨rc, by rw [hidle]; rfl⟩, hsilent⟩
  | adding b =>
      rw [hstate] at h hcommand
      obtain ⟨hasked, ⟨first, hran⟩, hsilent⟩ := h
      cases hcommand
      exact ⟨(.add, a), hasked, ⟨first, by rw [hran]; rfl⟩, hsilent⟩
  | removing b =>
      rw [hstate] at h hcommand
      obtain ⟨hasked, hidle, hsilent⟩ := h
      cases hcommand
      exact ⟨(.del, a), hasked, by rw [hidle]; rfl, hsilent⟩
  | _ =>
      rw [hstate] at hcommand
      cases hcommand

end Conn

/-! ## What a step does -/

/-- **ubnetd and its connections**: the interface is as the commands have left it, and every
thread serves its client. -/
structure Serving (R : Registry σ Inet6) (i : σ) (s : Ubnetd σ) : Prop where
  history : History R i (s.log.map Prod.snd) s.interface
  serves : ∀ (k : Nat) (c : UbnetdConn), s.conns[k]? = some c → c.Serves (ranFor k s.log)
  known : ∀ q ∈ s.log, q.1 < s.conns.length

/-- A step of one connection, with no command. -/
theorem Serving.onConn (h : Serving R i s) (k : Nat) {f : UbnetdConn → UbnetdConn}
    (hf : ∀ c ran, c.Serves ran → (f c).Serves ran) : Serving R i (s.onConn k f) := by
  unfold Ubnetd.onConn
  split
  · rename_i c hfound
    refine ⟨h.history, fun j x hx => ?_, fun q hq => ?_⟩
    · rcases getElem?_set_some hfound hx with ⟨rfl, rfl⟩ | ⟨-, hx⟩
      · exact hf c _ (h.serves j c hfound)
      · exact h.serves j x hx
    · show q.1 < (s.conns.set k (f c)).length
      rw [List.length_set]
      exact h.known q hq
  · exact h

/-- A command, which runs for one connection. -/
theorem Serving.system (h : Serving R i s) (k : Nat) : Serving R i (s.system R k) := by
  unfold Ubnetd.system
  split
  · rename_i c hfound
    split
    · rename_i op a hcommand
      refine ⟨?_, fun j x hx => ?_, fun q hq => ?_⟩
      · show History R i ((s.log ++ [(k, _)]).map Prod.snd) _
        rw [List.map_append]
        exact h.history.snoc op a
      · show x.Serves (ranFor j (s.log ++ [(k, _)]))
        rw [ranFor_snoc]
        rcases getElem?_set_some hfound hx with ⟨rfl, rfl⟩ | ⟨hj, hx⟩
        · rw [if_pos rfl]
          exact (h.serves j c hfound).returned hcommand _
        · rw [if_neg (Ne.symm hj), List.append_nil]
          exact h.serves j x hx
      · show q.1 < (s.conns.set k _).length
        rw [List.length_set]
        rcases List.mem_append.mp hq with hq | hq
        · exact h.known q hq
        · rw [List.mem_singleton.mp hq]
          exact (List.getElem?_eq_some_iff.mp hfound).1
    · exact h
  · exact h

theorem ranFor_unknown {k : Nat} {log : List (Nat × Entry Inet6)} (h : ∀ q ∈ log, q.1 < k) :
    ranFor k log = [] := by
  refine List.eq_nil_iff_forall_not_mem.mpr fun e he => ?_
  exact absurd (h _ (mem_ranFor.mp he)) (Nat.lt_irrefl k)

/-- **One step.** -/
theorem Serving.step (h : Serving R i s) {e : HandlerEvent} (hstep : s.step R e = .ok s') :
    Serving R i s' := by
  cases e with
  | accept =>
      cases hstep
      refine ⟨h.history, fun k c hc => ?_, fun q hq => ?_⟩
      · rcases getElem?_snoc_some hc with hc | ⟨rfl, rfl⟩
        · exact h.serves k c hc
        · show UbnetdConn.fresh.Serves (ranFor s.conns.length s.log)
          rw [ranFor_unknown h.known]
          exact ⟨by decide, rfl, rfl, rfl⟩
      · show q.1 < (s.conns ++ [UbnetdConn.fresh]).length
        rw [List.length_append]
        exact Nat.lt_add_right _ (h.known q hq)
  | send k bytes =>
      cases hstep
      refine h.onConn k fun c ran hc => ?_
      split
      · exact hc
      · rename_i hopen
        exact hc.send bytes (Bool.eq_false_iff.mpr hopen)
  | shut k =>
      cases hstep
      exact h.onConn k fun c ran hc => hc.shut
  | receive k n =>
      cases hstep
      exact h.onConn k fun c ran hc => hc.receive n
  | breakOff k =>
      cases hstep
      exact h.onConn k fun c ran hc => hc.breakOff
  | system k =>
      cases hstep
      exact h.system k
  | answer k =>
      cases hstep
      exact h.onConn k fun c ran hc => hc.sendAnswer

theorem serving_init (R : Registry σ Inet6) (i : σ) : Serving R i (Ubnetd.init i) :=
  ⟨.nil, fun k c hc => (by cases hc), fun q hq => nomatch hq⟩

theorem Serving.of_run {es : List HandlerEvent}
    (h : Run (Ubnetd.step R) (fun _ _ => True) (Ubnetd.init i) es s) : Serving R i s :=
  h.invariant (serving_init R i) fun _ _ _ hs _ hstep => hs.step hstep

end Ubnetd

/-! ## Interfaces -/

/-- A thread has done what there was to do. -/
def HandlerState.Done (st : HandlerState) : Prop := st = .waiting ∨ st = .closed

instance (st : HandlerState) : Decidable st.Done := inferInstanceAs (Decidable (_ ∨ _))

/-- `ip addr`, where an interface is nothing but its addresses: it fails when an address that is
to be added is there, or one that is to be deleted is not. -/
def ipAddr : Registry (List Inet6) Inet6 where
  has addrs a := a ∈ addrs
  run addrs op a :=
    match op with
    | .add => if a ∈ addrs then (addrs, 512) else (a :: addrs, 0)
    | .del => if a ∈ addrs then (addrs.filter (· ≠ a), 0) else (addrs, 512)
  other := by
    intro addrs op a b hb
    cases op with
    | add =>
        dsimp only
        split
        · rfl
        · simp [hb]
    | del =>
        dsimp only
        split
        · simp [hb]
        · rfl
  added := by
    intro addrs a h
    dsimp only at h ⊢
    split at h
    · cases h
    · rename_i habsent
      rw [if_neg habsent]
      exact ⟨habsent, List.mem_cons_self⟩
  deleted := by
    intro addrs a h
    dsimp only at h ⊢
    split at h
    · rename_i hthere
      rw [if_pos hthere]
      exact ⟨hthere, by simp⟩
    · cases h
  failed := by
    intro addrs op a h
    cases op with
    | add =>
        dsimp only at h ⊢
        split at h
        · rename_i hthere
          rw [if_pos hthere]
        · exact absurd rfl h
    | del =>
        dsimp only at h ⊢
        split at h
        · exact absurd rfl h
        · rename_i habsent
          rw [if_neg habsent]

theorem ipAddr_reliable : ipAddr.Reliable where
  add {_ _} h := congrArg Prod.snd (if_neg h)
  del {_ _} h := congrArg Prod.snd (if_pos h)

/-- The address of these examples. -/
def someAddress : Inet6 := Vector.replicate 16 7

/-- Two clients ask for one address, and the two threads take turns: the second is told `'N'`
though the address is there. -/
def askedTwice : List HandlerEvent :=
  [.accept, .send 0 [0x41], .accept, .send 1 (interfaceRequest .add someAddress).flatten,
    .send 0 someAddress.toList, .receive 0 0, .receive 1 99, .receive 0 99,
    .system 0, .system 1, .system 0, .system 1, .answer 1, .answer 0]

theorem askedTwice_state : ∃ s,
    Run (Ubnetd.step ipAddr) (fun _ _ => True) (Ubnetd.init []) askedTwice s
      ∧ (∀ c ∈ s.conns, c.state.Done ∧ c.broken = false ∧ c.asked = some (.add, someAddress))
      ∧ s.conns.map UbnetdConn.answer = [[0x41], [0x4E]] := by
  apply Run.exists_of_eval Fault.assertion
  decide +kernel

section Ubnetd

variable {σ : Type} {R : Registry σ Inet6} {s s' : Ubnetd σ} {i : σ}

/-! ## What comes of a request -/

/-- What `receive` has returned, for the daemon's side. -/
def UbnetdConn.received (c : UbnetdConn) : Option (Vector UInt8 17) :=
  if requestLen ≤ c.said.length then some (Vector.ofFn fun i => c.said.getD i 0) else none

/-- What the daemon's side sees of a thread that is done. -/
def UbnetdConn.peer (c : UbnetdConn) : Peer :=
  match c.answer with
  | [] => .closed
  | b :: _ => .answered b

theorem decode_said (c : UbnetdConn) :
    requestFormat.decode c.said = c.asked.map fun r => (r, c.said.drop requestLen) := rfl

/-- A thread that is done has answered, or there was nothing to answer. -/
theorem UbnetdConn.Serves.done {c : UbnetdConn} {ran : List (Entry Inet6)} (h : c.Serves ran)
    (hdone : c.state.Done) : c.Answered ran ∨ c.Refused ran := by
  unfold UbnetdConn.Serves at h
  rcases hdone with hstate | hstate
  · rw [hstate] at h
    exact .inl h
  · rw [hstate] at h
    exact h

/-- The commands of a thread are for the address it is asked for. -/
theorem UbnetdConn.Serves.own {c : UbnetdConn} {ran : List (Entry Inet6)} (h : c.Serves ran)
    {e : Entry Inet6} (he : e ∈ ran) :
    ∃ op, c.asked = some (op, e.key) ∧ (op = .del → e.op = .del) := by
  have hran : ∀ r rc, Ran r rc ran → e.key = r.2 ∧ (r.1 = .del → e.op = .del) := by
    rintro ⟨op, a⟩ rc hran
    cases op with
    | add =>
        obtain ⟨first, rfl⟩ := hran
        rcases List.mem_pair.mp he with rfl | rfl
        · exact ⟨rfl, fun heq => nomatch heq⟩
        · exact ⟨rfl, fun heq => nomatch heq⟩
    | del =>
        have hran : ran = [⟨.del, a, rc⟩] := hran
        rw [hran] at he
        rw [List.mem_singleton.mp he]
        exact ⟨rfl, fun _ => rfl⟩
  have hanswered : c.Answered ran →
      ∃ op, c.asked = some (op, e.key) ∧ (op = .del → e.op = .del) := by
    rintro ⟨⟨op, a⟩, rc, hasked, hrun, -⟩
    obtain ⟨hkey, hop⟩ := hran _ _ hrun
    exact ⟨op, by rw [hkey]; exact hasked, hop⟩
  unfold UbnetdConn.Serves at h
  split at h
  · rw [h.2.2.1] at he
    cases he
  · rw [h.2.1] at he
    cases he
  · obtain ⟨hasked, ⟨first, rfl⟩, -⟩ := h
    rw [List.mem_singleton.mp he]
    exact ⟨.add, hasked, fun heq => nomatch heq⟩
  · rw [h.2.1] at he
    cases he
  · obtain ⟨⟨op, a⟩, hasked, hrun, -⟩ := h
    obtain ⟨hkey, hop⟩ := hran _ _ hrun
    exact ⟨op, by rw [hkey]; exact hasked, hop⟩
  · exact hanswered h
  · rcases h with h | ⟨-, hidle, -⟩
    · exact hanswered h
    · rw [hidle] at he
      cases he

/-- What was received is what was asked for. -/
theorem connectionHandler_received (c : UbnetdConn) (rc : Int) :
    connectionHandler c.received rc
      = if c.asked = none then .closed else .answered (answerByte rc) := by
  have hanswer : ∀ o : Option (Op × Inet6), o ≠ none →
      (if rc = 0 then Peer.answered 0x41 else .answered 0x4E)
        = if o = none then .closed else .answered (answerByte rc) := by
    intro o ho
    rw [if_neg ho]
    unfold answerByte
    split <;> rfl
  unfold UbnetdConn.received
  by_cases hlen : requestLen ≤ c.said.length
  · rw [if_pos hlen]
    cases hsaid : c.said with
    | nil =>
        rw [hsaid] at hlen
        cases hlen
    | cons cmd addr =>
        have htake : (cmd :: addr.take 16).length = requestLen := by
          rw [hsaid, List.length_cons] at hlen
          rw [List.length_cons, List.length_take, Nat.min_eq_left (Nat.le_of_succ_le_succ hlen)]
          rfl
        have hasked : c.asked = if cmd ≠ opByte .add ∧ cmd ≠ opByte .del then none
            else some (if cmd = opByte .add then .add else .del,
              inetAddressNewFromBytes (addr.take 16)) := by
          unfold UbnetdConn.asked
          rw [hsaid]
          show requestOf (cmd :: addr.take 16) = _
          unfold requestOf
          dsimp only
          refine if_congr ?_ rfl rfl
          rw [htake]
          exact or_iff_right fun hne => hne rfl
        have hget : (Vector.ofFn fun i : Fin 17 => (cmd :: addr).getD i 0).get 0 = cmd := by
          show (Vector.ofFn fun i : Fin 17 => (cmd :: addr).getD i 0)[0] = cmd
          rw [Vector.getElem_ofFn]
          rfl
        unfold connectionHandler
        dsimp only
        rw [hget]
        by_cases hcmd : cmd ≠ opByte .add ∧ cmd ≠ opByte .del
        · rw [hasked, if_pos hcmd, if_pos rfl]
          exact if_pos hcmd
        · rw [hasked, if_neg hcmd, ← hanswer _ (Option.some_ne_none _)]
          exact if_neg hcmd
  · rw [if_neg hlen]
    have hnone : c.asked = none := by
      by_contra hasked
      obtain ⟨r, hr⟩ := Option.ne_none_iff_exists'.mp hasked
      exact hlen (asked_length hr)
    rw [if_pos hnone]
    rfl

/-- **Every request is carried out once and answered for what came of it.** However the threads
take turns and in whatever pieces a request comes: commands only run for an address that was
asked for; and when a thread is done and no receive of its request has failed (`broken`), it has
run the commands of its request, each once and in order, and answered whether the last has
succeeded, or it was sent no request and has done nothing. The daemon's side sees what it expects
of `connection_handler`. -/
theorem requests_answered (R : Registry σ Inet6) (i : σ) (es : List HandlerEvent) (s : Ubnetd σ)
    (k : Nat) (c : UbnetdConn)
    (h : Run (Ubnetd.step R) (fun _ _ => True) (Ubnetd.init i) es s)
    (hfound : s.conns[k]? = some c) :
    (∀ e ∈ ranFor k s.log, ∃ op rest, requestFormat.decode c.said = some ((op, e.key), rest))
      ∧ (c.state.Done → c.broken = false → ∃ rc, c.peer = connectionHandler c.received rc
        ∧ match requestFormat.decode c.said with
          | some (r, _) => Ran r rc (ranFor k s.log) ∧ c.answer = [answerByte rc]
          | none => ranFor k s.log = [] ∧ c.answer = []) := by
  have hserves := (Serving.of_run h).serves k c hfound
  refine ⟨fun e he => ?_, fun hdone hsound => ?_⟩
  · obtain ⟨op, hasked, -⟩ := hserves.own he
    exact ⟨op, c.said.drop requestLen, by rw [decode_said, hasked]; rfl⟩
  · rcases hserves.done hdone with ⟨r, rc, hasked, hran, htold⟩ | ⟨hbad, hidle, hsilent⟩
    · refine ⟨rc, ?_, ?_⟩
      · rw [connectionHandler_received, hasked, if_neg (Option.some_ne_none r)]
        unfold UbnetdConn.peer
        rw [htold]
      · rw [decode_said, hasked]
        exact ⟨hran, htold⟩
    · have hnone : c.asked = none := by
        rcases hbad with hbroken | hnone
        · rw [hsound] at hbroken
          cases hbroken
        · exact hnone.1
      refine ⟨0, ?_, ?_⟩
      · rw [connectionHandler_received, if_pos hnone]
        unfold UbnetdConn.peer
        rw [hsilent]
      · rw [decode_said, hnone]
        exact ⟨hidle, hsilent⟩

theorem requests_answered_twice : ∃ s c,
    Run (Ubnetd.step ipAddr) (fun _ _ => True) (Ubnetd.init []) askedTwice s
      ∧ s.conns[1]? = some c
      ∧ ∃ rc, Ran (.add, someAddress) rc (ranFor 1 s.log) ∧ c.answer = [answerByte rc] := by
  obtain ⟨s, hs, hdone, hanswers⟩ := askedTwice_state
  obtain ⟨c, hfound, -⟩ : ∃ c, s.conns[1]? = some c ∧ c.answer = [0x4E] := by
    rw [← Option.map_eq_some_iff, ← List.getElem?_map, hanswers]
    rfl
  obtain ⟨hstate, hsound, hasked⟩ := hdone c (List.mem_of_getElem? hfound)
  obtain ⟨rc, -, hserved⟩ :=
    (requests_answered ipAddr [] askedTwice s 1 c hs hfound).2 hstate hsound
  rw [decode_said, hasked] at hserved
  exact ⟨s, c, hs, hfound, rc, hserved⟩

/-! ## What comes of an address -/

/-- An entry of the log is for a request. -/
theorem Serving.entry (h : Serving R i s) {q : Nat × Entry Inet6} (hq : q ∈ s.log) :
    ∃ c, s.conns[q.1]? = some c ∧ q.2 ∈ ranFor q.1 s.log
      ∧ ∃ op, c.asked = some (op, q.2.key) ∧ (op = .del → q.2.op = .del) := by
  have hlt := h.known q hq
  have hfound := List.getElem?_eq_getElem hlt
  have hmem : q.2 ∈ ranFor q.1 s.log := mem_ranFor.mpr hq
  exact ⟨_, hfound, hmem, (h.serves _ _ hfound).own hmem⟩

/-- A thread that is done and was asked for something has answered. -/
theorem Serving.answered (h : Serving R i s) {k : Nat} {c : UbnetdConn} {r : Op × Inet6}
    (hfound : s.conns[k]? = some c) (hdone : c.state.Done) (hsound : c.broken = false)
    (hasked : c.asked = some r) :
    ∃ rc, Ran r rc (ranFor k s.log) ∧ c.answer = [answerByte rc] := by
  rcases ((h.serves k c hfound).done hdone) with ⟨r', rc, hr, hran, htold⟩ | ⟨hbad, -⟩
  · rw [hasked] at hr
    cases hr
    exact ⟨rc, hran, htold⟩
  · rcases hbad with hbroken | ⟨hnone, -⟩
    · rw [hsound] at hbroken
      cases hbroken
    · rw [hasked] at hnone
      cases hnone

/-- The last command of a request that adds is the one that adds. -/
theorem last_of_pair {α : Type} {xs ys : List α} {x y z : α} (h : xs ++ z :: ys = [x, y]) :
    z = y ∨ y ∈ ys := by
  rcases List.eq_nil_or_concat' ys with rfl | ⟨ys, w, rfl⟩
  · have hlast : xs ++ [z] = [x] ++ [y] := h
    exact .inl (List.singleton_inj.mp (List.append_inj' hlast rfl).2)
  · have hlast : (xs ++ z :: ys) ++ [w] = [x] ++ [y] := by
      rw [List.append_assoc]
      exact h
    have hw := List.singleton_inj.mp (List.append_inj' hlast rfl).2
    rw [hw]
    exact .inr (List.mem_append_right _ (List.mem_singleton_self y))

/-- Where all threads for an address add it, the last command on it does. -/
theorem Serving.last_add (h : Serving R i s) {a : Inet6}
    (hdone : ∀ c ∈ s.conns, c.state.Done ∧ c.broken = false)
    (hwanted : ∀ c ∈ s.conns, c.asked ≠ some (.del, a)) {op : Op}
    (hlast : Last a (s.log.map Prod.snd) op) : op = .add := by
  obtain ⟨l₁, l₂, status, hsplit, hafter⟩ := hlast
  obtain ⟨log₁, rest, hlog, rfl, hrest⟩ := List.map_eq_append_iff.mp hsplit
  obtain ⟨q, log₂, rfl, hq, rfl⟩ := List.map_eq_cons_iff.mp hrest
  have hmem : q ∈ s.log := by
    rw [hlog]
    exact List.mem_append_right _ List.mem_cons_self
  obtain ⟨c, hfound, -, op', hasked, -⟩ := h.entry hmem
  rw [hq] at hasked
  have hc := List.mem_of_getElem? hfound
  cases op' with
  | del => exact absurd hasked (hwanted c hc)
  | add =>
      obtain ⟨rc, ⟨first, hran⟩, -⟩ := h.answered hfound (hdone c hc).1 (hdone c hc).2 hasked
      have hparts : ranFor q.1 s.log = ranFor q.1 log₁ ++ q.2 :: ranFor q.1 log₂ := by
        rw [hlog]
        unfold ranFor
        rw [List.filter_append, List.filter_cons_of_pos (by simp), List.map_append,
          List.map_cons]
      rw [hparts] at hran
      rcases last_of_pair hran with heq | hlater
      · rw [hq] at heq
        exact congrArg Entry.op heq
      · -- it would not be the last one
        exact absurd rfl (hafter _ (List.mem_map.mpr ⟨_, mem_ranFor.mp hlater, rfl⟩))

/-- A success on an address is answered with `'A'`. -/
theorem Serving.success (h : Serving R i s) {a : Inet6} {op : Op}
    (hdone : ∀ c ∈ s.conns, c.state.Done ∧ c.broken = false)
    (hsame : ∀ c ∈ s.conns, ∀ op', c.asked = some (op', a) → op' = op)
    (hpos : 0 < successes op a (s.log.map Prod.snd)) :
    ∃ (k : Nat) (c : UbnetdConn),
      s.conns[k]? = some c ∧ c.asked = some (op, a) ∧ c.answer = [0x41] := by
  obtain ⟨q, hq, heq⟩ := List.mem_map.mp (successes_pos.mp hpos)
  obtain ⟨c, hfound, hmem, op', hasked, -⟩ := h.entry hq
  rw [heq] at hasked hmem
  have hc := List.mem_of_getElem? hfound
  obtain rfl := hsame c hc op' hasked
  obtain ⟨rc, hran, htold⟩ := h.answered hfound (hdone c hc).1 (hdone c hc).2 hasked
  refine ⟨q.1, c, hfound, hasked, ?_⟩
  have hrc : rc = 0 := by
    cases op' with
    | add =>
        obtain ⟨first, hran⟩ := hran
        rw [hran] at hmem
        rcases List.mem_pair.mp hmem with heq | heq
        · cases heq
        · exact (congrArg Entry.status heq).symm
    | del =>
        have hran : ranFor q.1 s.log = [⟨.del, a, rc⟩] := hran
        rw [hran] at hmem
        exact (congrArg Entry.status (List.mem_singleton.mp hmem)).symm
  rw [htold, hrc]
  rfl

/-- A `'D'` that is answered with `'A'` has deleted the address. -/
theorem Serving.deleted (h : Serving R i s) {a : Inet6} {k : Nat} {c : UbnetdConn}
    (hdone : ∀ c ∈ s.conns, c.state.Done ∧ c.broken = false) (hfound : s.conns[k]? = some c)
    (hasked : c.asked = some (.del, a)) :
    ∃ rc, (k, ⟨.del, a, rc⟩) ∈ s.log ∧ c.answer = [answerByte rc] := by
  have hc := List.mem_of_getElem? hfound
  obtain ⟨rc, hran, htold⟩ := h.answered hfound (hdone c hc).1 (hdone c hc).2 hasked
  have hran : ranFor k s.log = [⟨.del, a, rc⟩] := hran
  exact ⟨rc, mem_ranFor.mp (by rw [hran]; exact List.mem_singleton_self _), htold⟩

theorem answerByte_eq {rc : Int} : answerByte rc = 0x41 ↔ rc = 0 := by
  unfold answerByte
  split <;> simp_all

/-- **What ubnetd leaves behind**, in whatever order its threads take turns. An address that
nobody asks for is left alone. Where `ip addr` fails only when there is nothing to do, and all
threads are done and no receive of a request has failed (`broken`): an address that was only to
be added is there, and somebody was told so; an address that was only to be removed is gone, and
of those who asked exactly one was told `'A'` if it was there before, and none if it was not. -/
theorem addresses_settled (R : Registry σ Inet6) (i : σ) (es : List HandlerEvent) (s : Ubnetd σ)
    (a : Inet6) (h : Run (Ubnetd.step R) (fun _ _ => True) (Ubnetd.init i) es s) :
    ((∀ c ∈ s.conns, ∀ op, c.asked ≠ some (op, a)) → (R.has s.interface a ↔ R.has i a))
      ∧ (R.Reliable → (∀ c ∈ s.conns, c.state.Done ∧ c.broken = false) →
        ((∃ c ∈ s.conns, c.asked = some (.add, a)) →
          (∀ c ∈ s.conns, c.asked ≠ some (.del, a)) →
          R.has s.interface a
            ∧ ∃ c ∈ s.conns, c.asked = some (.add, a) ∧ c.answer = [0x41])
        ∧ ((∃ c ∈ s.conns, c.asked = some (.del, a)) →
          (∀ c ∈ s.conns, c.asked ≠ some (.add, a)) →
          ¬ R.has s.interface a
            ∧ (R.has i a → ∃! k : Nat, ∃ c : UbnetdConn, s.conns[k]? = some c
              ∧ c.asked = some (.del, a) ∧ c.answer = [0x41])
            ∧ (¬ R.has i a → ∀ c ∈ s.conns, c.asked = some (.del, a) → c.answer = [0x4E]))) := by
  have hserving := Serving.of_run h
  refine ⟨fun hnobody => ?_, fun hR hdone => ⟨fun hsome hwanted => ?_, fun hsome hunwanted => ?_⟩⟩
  · refine hserving.history.untouched fun e he hkey => ?_
    obtain ⟨q, hq, rfl⟩ := List.mem_map.mp he
    obtain ⟨c, hfound, -, op, hasked, -⟩ := hserving.entry hq
    rw [hkey] at hasked
    exact hnobody c (List.mem_of_getElem? hfound) op hasked
  · obtain ⟨c, hc, hasked⟩ := hsome
    obtain ⟨k, hfound⟩ := List.getElem?_of_mem hc
    obtain ⟨rc, ⟨first, hran⟩, -⟩ := hserving.answered hfound (hdone c hc).1 (hdone c hc).2 hasked
    have hdel : (⟨.del, a, first⟩ : Entry Inet6) ∈ s.log.map Prod.snd :=
      List.mem_map.mpr ⟨(k, _), mem_ranFor.mp (by rw [hran]; exact List.mem_cons_self), rfl⟩
    obtain ⟨op, hlast⟩ := exists_last hdel
    obtain rfl := hserving.last_add hdone hwanted hlast
    have hhas : R.has s.interface a := (hserving.history.last hR hlast).mpr rfl
    refine ⟨hhas, ?_⟩
    have hpos : 0 < successes .add a (s.log.map Prod.snd) := by
      have hbalance := hserving.history.balance a
      by_cases hthere : R.has i a
      · have hremoved := hserving.history.removed hR hthere hdel
        simp only [hthere, hhas, if_true] at hbalance
        omega
      · simp only [hthere, hhas, if_true, if_false] at hbalance
        omega
    obtain ⟨j, c', hfound', hasked', htold⟩ := hserving.success hdone (fun c hc op hop => by
      cases op with
      | add => rfl
      | del => exact absurd hop (hwanted c hc)) hpos
    exact ⟨c', List.mem_of_getElem? hfound', hasked', htold⟩
  · have honly : ∀ c ∈ s.conns, ∀ op, c.asked = some (op, a) → op = .del := by
      intro c hc op hop
      cases op with
      | del => rfl
      | add => exact absurd hop (hunwanted c hc)
    have hops : ∀ e ∈ s.log.map Prod.snd, e.key = a → e.op = .del := by
      intro e he hkey
      obtain ⟨q, hq, rfl⟩ := List.mem_map.mp he
      obtain ⟨c, hfound, -, op, hasked, hop⟩ := hserving.entry hq
      rw [hkey] at hasked
      exact hop (honly c (List.mem_of_getElem? hfound) op hasked)
    have hnoadd : successes .add a (s.log.map Prod.snd) = 0 := by
      by_contra hpos
      have hmem := successes_pos.mp (Nat.pos_of_ne_zero hpos)
      exact Op.noConfusion (hops _ hmem rfl)
    obtain ⟨c, hc, hasked⟩ := hsome
    obtain ⟨k, hfound⟩ := List.getElem?_of_mem hc
    obtain ⟨rc, hmem, -⟩ := hserving.deleted hdone hfound hasked
    obtain ⟨op, hlast⟩ := exists_last (List.mem_map.mpr ⟨_, hmem, rfl⟩ :
      ⟨.del, a, rc⟩ ∈ s.log.map Prod.snd)
    have hgone : ¬ R.has s.interface a := by
      rw [hserving.history.last hR hlast]
      obtain ⟨l₁, l₂, status, hsplit, -⟩ := hlast
      have hop := hops ⟨op, a, status⟩
        (by rw [hsplit]; exact List.mem_append_right _ List.mem_cons_self) rfl
      exact fun hadd => Op.noConfusion (hop.symm.trans hadd)
    have hbalance := hserving.history.balance a
    refine ⟨hgone, fun hthere => ?_, fun hthere c hc hasked => ?_⟩
    · simp only [hthere, hgone, hnoadd, if_true, if_false] at hbalance
      obtain ⟨j, c', hfound', hasked', htold⟩ :=
        hserving.success hdone honly (Nat.lt_of_lt_of_eq Nat.zero_lt_one hbalance)
      refine ⟨j, ⟨c', hfound', hasked', htold⟩, ?_⟩
      rintro j' ⟨x, hx, hxasked, hxtold⟩
      -- two successes would be one too many
      by_contra hne
      have hentry : ∀ {k : Nat} {c : UbnetdConn}, s.conns[k]? = some c → c.asked = some (.del, a) →
          c.answer = [0x41] → (k, (⟨.del, a, 0⟩ : Entry Inet6)) ∈ s.log := by
        intro k c hfound hasked htold
        obtain ⟨rc, hmem, hanswer⟩ := hserving.deleted hdone hfound hasked
        rw [hanswer] at htold
        obtain rfl := answerByte_eq.mp (List.singleton_inj.mp htold)
        exact hmem
      have hsub : [(j', (⟨.del, a, 0⟩ : Entry Inet6)), (j, ⟨.del, a, 0⟩)].Subperm s.log := by
        refine List.subperm_of_subset ?_ ?_
        · simpa using hne
        · intro q hq
          rcases List.mem_pair.mp hq with rfl | rfl
          · exact hentry hx hxasked hxtold
          · exact hentry hfound' hasked' htold
      have htwo : 2 ≤ successes .del a (s.log.map Prod.snd) := by
        unfold successes
        rw [List.countP_map]
        refine le_trans ?_ (hsub.countP_le _)
        simp
      omega
    · simp only [hthere, hgone, hnoadd, if_false] at hbalance
      obtain ⟨j, hfound'⟩ := List.getElem?_of_mem hc
      obtain ⟨rc, hmem, htold⟩ := hserving.deleted hdone hfound' hasked
      rw [htold]
      unfold answerByte
      rw [if_neg]
      rintro rfl
      have hpos := successes_pos.mpr (List.mem_map.mpr ⟨_, hmem, rfl⟩ :
        ⟨.del, a, 0⟩ ∈ s.log.map Prod.snd)
      omega

theorem addresses_settled_twice : ∃ s,
    Run (Ubnetd.step ipAddr) (fun _ _ => True) (Ubnetd.init []) askedTwice s
      ∧ s.conns.map UbnetdConn.answer = [[0x41], [0x4E]]
      ∧ someAddress ∈ s.interface
      ∧ ∃ c ∈ s.conns, c.asked = some (.add, someAddress) ∧ c.answer = [0x41] := by
  obtain ⟨s, hs, hdone, hanswers⟩ := askedTwice_state
  have hboth := (addresses_settled ipAddr [] askedTwice s someAddress hs).2 ipAddr_reliable
    fun c hc => ⟨(hdone c hc).1, (hdone c hc).2.1⟩
  obtain ⟨c, hc⟩ : ∃ c, c ∈ s.conns := by
    refine List.exists_mem_of_ne_nil _ fun hnil => ?_
    rw [hnil] at hanswers
    cases hanswers
  refine ⟨s, hs, hanswers, hboth.1 ⟨c, hc, (hdone c hc).2.2⟩ fun x hx hdel => ?_⟩
  rw [(hdone x hx).2.2] at hdel
  cases hdel

end Ubnetd

end Ubd
