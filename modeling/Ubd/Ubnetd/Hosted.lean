import Ubd.Ubnetd.Calls

/-!
# Ubnetd.Hosted — the addresses of the nodes are on the interface

The daemon asks ubnetd to add and to remove addresses, and the threads that do so overlap. As long
as it asks for nothing for a node while its address is being added, the last request decides:
`addresses_hosted` says that the interface agrees with the table of slots wherever nothing is left
to do. `hurried_left_behind` shows what becomes of it otherwise.
-/

namespace Ubd

open Registries Runs

/-! ## The threads -/

theorem HandlerState.Done.isOver {st : HandlerState} (h : st.Done) : st.isOver = true := by
  rcases h with rfl | rfl <;> rfl

/-- What a turn without a command leaves of a connection. -/
structure UbnetdConn.Idles (c c' : UbnetdConn) : Prop where
  said : c'.said = c.said
  broken : c'.broken = c.broken
  finished : c'.state.isOver = c.state.isOver
  adding : ∀ a, c'.state = .adding a → c.state = .adding a

section Conns

variable {c : UbnetdConn} {ran : List (Entry Inet6)} {r : Op × Inet6}

theorem UbnetdConn.Idles.refl (c : UbnetdConn) : c.Idles c := ⟨rfl, rfl, rfl, fun _ => id⟩

theorem asked_of_said {c' : UbnetdConn} (h : c'.said = c.said) : c'.asked = c.asked := by
  unfold UbnetdConn.asked
  rw [h]

theorem receive_fields (c : UbnetdConn) (n : Nat) : (c.receive n).said = c.said
    ∧ (c.receive n).broken = c.broken ∧ (c.receive n).answer = c.answer := by
  unfold UbnetdConn.receive
  cases c.state with
  | receiving buf =>
      dsimp only
      split
      · split <;> exact ⟨rfl, rfl, rfl⟩
      · split <;> exact ⟨rfl, rfl, rfl⟩
  | waiting =>
      dsimp only
      split <;> exact ⟨rfl, rfl, rfl⟩
  | _ => exact ⟨rfl, rfl, rfl⟩

/-- As long as no command has run for a request, none is over. -/
theorem UbnetdConn.Serves.unstarted (h : c.Serves []) (hasked : c.asked = some r)
    (hbroken : c.broken = false) :
    c.state.isOver = false ∧ ∀ a, c.state ≠ .adding a := by
  have hran : ∀ (r : Op × Inet6) (rc : Int), ¬ Ran r rc [] := by
    rintro ⟨op, a⟩ rc hran
    cases op with
    | add =>
        obtain ⟨first, hcons⟩ := hran
        cases hcons
    | del => cases hran
  unfold UbnetdConn.Serves at h
  cases hstate : c.state with
  | receiving | creating | removing => exact ⟨rfl, fun _ => by simp⟩
  | adding a =>
      rw [hstate] at h
      obtain ⟨-, ⟨first, hcons⟩, -⟩ := h
      cases hcons
  | answering rc =>
      rw [hstate] at h
      obtain ⟨r, -, hnone, -⟩ := h
      exact absurd hnone (hran r rc)
  | waiting =>
      rw [hstate] at h
      obtain ⟨r, rc, -, hnone, -⟩ := h
      exact absurd hnone (hran r rc)
  | closed =>
      rw [hstate] at h
      rcases h with ⟨r, rc, -, hnone, -⟩ | ⟨hrefused, -⟩
      · exact absurd hnone (hran r rc)
      · rcases hrefused with hbad | ⟨hbad, -⟩
        · exact nomatch hbroken.symm.trans hbad
        · exact nomatch hasked.symm.trans hbad

/-- A request that has been sent is received. -/
theorem UbnetdConn.Serves.receive_idles (h : c.Serves ran) (hasked : c.asked = some r)
    (hbroken : c.broken = false) (n : Nat) : c.Idles (c.receive n) := by
  obtain ⟨hsaid, hbroken', -⟩ := receive_fields c n
  cases hstate : c.state with
  | receiving buf =>
      have hran : ran = [] := by
        unfold UbnetdConn.Serves at h
        rw [hstate] at h
        exact h.2.2.1
      have hserves := h.receive n
      rw [hran] at hserves
      obtain ⟨hover, hadding⟩ :=
        hserves.unstarted ((asked_of_said hsaid).trans hasked) (hbroken'.trans hbroken)
      refine ⟨hsaid, hbroken', ?_, fun a ha => absurd ha (hadding a)⟩
      rw [hover, hstate]
      rfl
  | waiting =>
      unfold UbnetdConn.receive
      rw [hstate]
      dsimp only
      split
      · exact .refl c
      · exact ⟨rfl, rfl, by rw [hstate]; rfl, by simp⟩
  | creating | adding | removing | answering | closed =>
      unfold UbnetdConn.receive
      rw [hstate]
      exact .refl c

/-- When there is something to read, the thread is through. -/
theorem UbnetdConn.Serves.readable (h : c.Serves ran) (hreadable : c.readable = true) :
    c.state.Done := by
  unfold UbnetdConn.readable at hreadable
  unfold UbnetdConn.Serves at h
  cases hstate : c.state with
  | waiting => exact .inl rfl
  | closed => exact .inr rfl
  | receiving buf =>
      rw [hstate] at h hreadable
      rw [h.2.2.2] at hreadable
      cases hreadable
  | creating a | adding a | removing a =>
      rw [hstate] at h hreadable
      rw [h.2.2] at hreadable
      cases hreadable
  | answering rc =>
      rw [hstate] at h hreadable
      obtain ⟨r, -, -, hanswer⟩ := h
      rw [hanswer] at hreadable
      cases hreadable

theorem sendAnswer_idles (c : UbnetdConn) : c.Idles c.sendAnswer := by
  unfold UbnetdConn.sendAnswer
  cases hstate : c.state with
  | answering rc =>
      exact ⟨rfl, rfl, by rw [hstate]; rfl, by simp⟩
  | receiving | creating | adding | removing | waiting | closed => exact .refl c

end Conns

/-! ## Both programs -/

section Hosts

variable {σ : Type}

/-- The daemon after the event that the main loop deals with. -/
def Hosting.later (s : Hosting σ) : Daemon := s.doing.elim s.daemon Doing.next

/-- All that has been asked for, or is to be. -/
def Hosting.all (s : Hosting σ) : List (Op × NodeId) := s.made ++ s.doing.elim [] Doing.calls

def Hosting.waits (s : Hosting σ) : Option Nat := s.doing.bind Doing.waits

theorem Hosting.idle {s : Hosting σ} (h : s.doing = none) :
    s.later = s.daemon ∧ s.all = s.made ∧ s.waits = none := by
  unfold later all waits
  rw [h]
  exact ⟨rfl, List.append_nil _, rfl⟩

theorem Hosting.busy {s : Hosting σ} {q : Doing} (h : s.doing = some q) :
    s.later = q.next ∧ s.all = s.made ++ q.calls ∧ s.waits = q.waits := by
  unfold later all waits
  rw [h]
  exact ⟨rfl, rfl, rfl⟩

theorem Hosting.mem_requests {s : Hosting σ} {q : (Op × NodeId) × UbnetdConn} :
    q ∈ s.requests ↔ ∃ k : Nat, s.made[k]? = some q.1 ∧ s.ubnetd.conns[k]? = some q.2 := by
  unfold requests
  rw [List.mem_iff_getElem?]
  exact exists_congr fun k => List.getElem?_zip_eq_some

theorem Hosting.Served.finished {s : Hosting σ} {op : Op} {n : NodeId} {k : Nat} {c : UbnetdConn}
    (h : s.Served op n) (hmade : s.made[k]? = some (op, n)) (hc : s.ubnetd.conns[k]? = some c) :
    c.state.isOver = true :=
  h ((op, n), c) (Hosting.mem_requests.mpr ⟨k, hmade, hc⟩) rfl

/-- The last connection that was opened for the node, and what for. -/
def Hosting.Last (s : Hosting σ) (n : NodeId) (k : Nat) (op : Op) : Prop :=
  s.made[k]? = some (op, n) ∧ ∀ j op', k < j → s.made[j]? ≠ some (op', n)

/-- What the interface is like when the commands of this connection are over, and when the last
of them is to run. -/
structure Leaves (R : Registry σ Inet6) (i : σ) (c : UbnetdConn) (op : Op) (a : Inet6) : Prop where
  adding : ∀ b, c.state = .adding b → ¬ R.has i a
  finished : c.state.isOver = true → (R.has i a ↔ op = .add)

/-- **One at a time**: for a node there is one connection at most whose thread is at work, the
last one. What it leaves is what is there. -/
structure Hosted (w : HostSetup σ) (i : σ) (s : Hosting σ) : Prop where
  serving : Serving w.ipAddr i s.ubnetd
  accounted : ∀ n, lastCall s.all n = (s.later.slots n).hosting
  length : s.made.length = s.ubnetd.conns.length
  asked : ∀ (k : Nat) op n c, s.made[k]? = some (op, n) → s.ubnetd.conns[k]? = some c →
    c.broken = false ∧ ∃ a, w.address s.later n = some a ∧ c.asked = some (op, a)
  waits : ∀ k, s.waits = some k → k + 1 = s.made.length
  removed : ∀ (k : Nat) n c, s.made[k]? = some (Op.del, n) → s.ubnetd.conns[k]? = some c →
    s.waits ≠ some k → c.state.isOver = true
  earlier : ∀ (k j : Nat) op op' n c, k < j → s.made[k]? = some (op, n) →
    s.made[j]? = some (op', n) → s.ubnetd.conns[k]? = some c → c.state.isOver = true
  status : ∀ q ∈ s.ubnetd.log, q.2.op = .add → q.2.status = 0
  leaves : ∀ n k op c a, s.Last n k op → s.ubnetd.conns[k]? = some c →
    w.address s.later n = some a → Leaves w.ipAddr s.ubnetd.interface c op a

variable {w : HostSetup σ} {i : σ} {s s' : Hosting σ} {u : Ubnetd σ}

theorem Leaves.idles {R : Registry σ Inet6} {x : σ} {c c' : UbnetdConn} {op : Op} {a : Inet6}
    (h : Leaves R x c op a) (hidles : c.Idles c') : Leaves R x c' op a :=
  ⟨fun b hb => h.adding b (hidles.adding b hb), fun hover => h.finished (hidles.finished ▸ hover)⟩

/-- A turn of ubnetd in which no command runs. -/
theorem Hosted.idles (h : Hosted w i s) (hserving : Serving w.ipAddr i u)
    (hinterface : u.interface = s.ubnetd.interface) (hlog : u.log = s.ubnetd.log)
    (hlength : u.conns.length = s.ubnetd.conns.length)
    (hidles : ∀ (k : Nat) c', u.conns[k]? = some c' →
      ∃ c, s.ubnetd.conns[k]? = some c ∧ c.Idles c') :
    Hosted w i { s with ubnetd := u } where
  serving := hserving
  accounted := h.accounted
  length := h.length.trans hlength.symm
  asked := by
    intro k op n c' hmade hc'
    obtain ⟨c, hc, hturn⟩ := hidles k c' hc'
    rw [hturn.broken, asked_of_said hturn.said]
    exact h.asked k op n c hmade hc
  waits := h.waits
  removed := by
    intro k n c' hmade hc' hwaits
    obtain ⟨c, hc, hturn⟩ := hidles k c' hc'
    exact hturn.finished.trans (h.removed k n c hmade hc hwaits)
  earlier := by
    intro k j op op' n c' hlt hk hj hc'
    obtain ⟨c, hc, hturn⟩ := hidles k c' hc'
    exact hturn.finished.trans (h.earlier k j op op' n c hlt hk hj hc)
  status := by
    show ∀ q ∈ u.log, _
    rw [hlog]
    exact h.status
  leaves := by
    intro n k op c' a hlast hc' ha
    obtain ⟨c, hc, hturn⟩ := hidles k c' hc'
    show Leaves w.ipAddr u.interface c' op a
    rw [hinterface]
    exact (h.leaves n k op c a hlast hc ha).idles hturn

/-- Every connection is that of a node. -/
theorem Hosted.request (h : Hosted w i s) {k : Nat} {c : UbnetdConn}
    (hc : s.ubnetd.conns[k]? = some c) : ∃ op n a, s.made[k]? = some (op, n)
      ∧ c.broken = false ∧ w.address s.later n = some a ∧ c.asked = some (op, a) := by
  have hlt : k < s.made.length := by
    rw [h.length]
    exact (List.getElem?_eq_some_iff.mp hc).1
  have hmade : s.made[k]? = some s.made[k] := List.getElem?_eq_getElem hlt
  obtain ⟨hbroken, a, ha, hasked⟩ := h.asked k s.made[k].1 s.made[k].2 c hmade hc
  exact ⟨_, _, a, hmade, hbroken, ha, hasked⟩

theorem Hosted.onConn (h : Hosted w i s) (k : Nat) {f : UbnetdConn → UbnetdConn}
    (hserving : Serving w.ipAddr i (s.ubnetd.onConn k f))
    (hf : ∀ c, s.ubnetd.conns[k]? = some c → c.Idles (f c)) :
    Hosted w i { s with ubnetd := s.ubnetd.onConn k f } := by
  unfold Ubnetd.onConn at hserving ⊢
  cases hfound : s.ubnetd.conns[k]? with
  | none => exact h
  | some c =>
      rw [hfound] at hserving
      refine h.idles hserving rfl rfl (List.length_set ..) fun j c' hc' => ?_
      rcases getElem?_set_some hfound hc' with ⟨rfl, rfl⟩ | ⟨-, hc'⟩
      · exact ⟨c, hfound, hf c hfound⟩
      · exact ⟨c', hc', .refl c'⟩

/-- There is one last connection. -/
theorem Hosting.Last.unique {n : NodeId} {k j : Nat} {op op' : Op} (h : s.Last n k op)
    (h' : s.Last n j op') : k = j := by
  rcases Nat.lt_trichotomy k j with hlt | heq | hlt
  · exact absurd h'.1 (h.2 j op' hlt)
  · exact heq
  · exact absurd h.1 (h'.2 k op hlt)

/-- A thread that is at work is at work for the last connection of its node. -/
theorem Hosted.last (h : Hosted w i s) {k : Nat} {op : Op} {n : NodeId} {c : UbnetdConn}
    (hmade : s.made[k]? = some (op, n)) (hc : s.ubnetd.conns[k]? = some c)
    (hbusy : ¬ c.state.isOver = true) : s.Last n k op :=
  ⟨hmade, fun j op' hlt hj => hbusy (h.earlier k j op op' n c hlt hmade hj hc)⟩

/-- No two nodes have the same address. -/
def HostSetup.Apart (w : HostSetup σ) (d : Daemon) : Prop :=
  ∀ n m a, w.address d n = some a → w.address d m = some a → n = m

/-- They had none before. -/
theorem HostSetup.Apart.before {d d' : Daemon} (h : w.Apart d')
    (hkept : ∀ n a, w.address d n = some a → w.address d' n = some a) : w.Apart d :=
  fun n m a hn hm => h n m a (hkept n a hn) (hkept m a hm)

/-- The command that a thread runs next is for its request. -/
theorem UbnetdConn.Serves.command {c : UbnetdConn} {ran : List (Entry Inet6)} {op op' : Op}
    {a b : Inet6} (h : c.Serves ran) (hasked : c.asked = some (op, a))
    (hcommand : c.state.command = some (op', b)) :
    b = a ∧ (op' = .add → c.state = .adding a)
      ∧ ∀ rc, (c.state.returned rc).isOver = true → op' = op := by
  unfold UbnetdConn.Serves at h
  cases hstate : c.state with
  | creating x =>
      rw [hstate] at h hcommand
      cases h.1.symm.trans hasked
      cases hcommand
      exact ⟨rfl, nofun, nofun⟩
  | adding x =>
      rw [hstate] at h hcommand
      cases h.1.symm.trans hasked
      cases hcommand
      exact ⟨rfl, fun _ => rfl, fun _ _ => rfl⟩
  | removing x =>
      rw [hstate] at h hcommand
      cases h.1.symm.trans hasked
      cases hcommand
      exact ⟨rfl, nofun, fun _ _ => rfl⟩
  | receiving | answering | waiting | closed =>
      rw [hstate] at hcommand
      cases hcommand

/-- A thread that has a command to run is at work. -/
theorem command_busy {st : HandlerState} {q : Op × Inet6} (hcommand : st.command = some q) :
    ¬ st.isOver = true := by
  cases st with
  | creating | adding | removing => exact Bool.false_ne_true
  | receiving | answering | waiting | closed => cases hcommand

theorem command_adding {st : HandlerState} {op : Op} {a b : Inet6} {rc : Int}
    (hcommand : st.command = some (op, a)) (hadding : st.returned rc = .adding b) : op = .del := by
  cases st with
  | creating x =>
      cases hcommand
      rfl
  | adding | removing => cases hadding
  | receiving | answering | waiting | closed => cases hcommand

/-- **A command** is for the address of one node, and for the last connection of that node. -/
theorem Hosted.system (h : Hosted w i s) (hR : w.ipAddr.Reliable) (hapart : w.Apart s.later)
    (k : Nat) : Hosted w i { s with ubnetd := s.ubnetd.system w.ipAddr k } := by
  have hserving := h.serving.system k
  unfold Ubnetd.system at hserving ⊢
  cases hfound : s.ubnetd.conns[k]? with
  | none => exact h
  | some c =>
      cases hcommand : c.state.command with
      | none =>
          dsimp only
          rw [hcommand]
          exact h
      | some q =>
          obtain ⟨op', b⟩ := q
          rw [hfound] at hserving
          dsimp only at hserving ⊢
          rw [hcommand] at hserving ⊢
          dsimp only at hserving ⊢
          obtain ⟨op, n, a, hmade, hbroken, ha, hasked⟩ := h.request hfound
          have hbusy := command_busy hcommand
          obtain ⟨rfl, hadding, hsame⟩ := (h.serving.serves k c hfound).command hasked hcommand
          have hlast := h.last hmade hfound hbusy
          have hleaves := h.leaves n k op c b hlast hfound ha
          have hconn : ∀ (j : Nat) x, (s.ubnetd.conns.set k
              { c with state := c.state.returned (w.ipAddr.run s.ubnetd.interface op' b).2 })[j]?
                = some x → (j = k ∧ x = { c with
                  state := c.state.returned (w.ipAddr.run s.ubnetd.interface op' b).2 })
              ∨ (j ≠ k ∧ s.ubnetd.conns[j]? = some x) :=
            fun j x hx => getElem?_set_some hfound hx
          refine ⟨hserving, h.accounted, ?_, ?_, h.waits, ?_, ?_, ?_, ?_⟩
          · show s.made.length = (s.ubnetd.conns.set k _).length
            rw [List.length_set]
            exact h.length
          · intro j opj m x hj hx
            rcases hconn j x hx with ⟨rfl, rfl⟩ | ⟨-, hx⟩
            · exact h.asked j opj m c hj hfound
            · exact h.asked j opj m x hj hx
          · intro j m x hj hx hwaits
            rcases hconn j x hx with ⟨rfl, rfl⟩ | ⟨-, hx⟩
            · exact absurd (h.removed j m c hj hfound hwaits) hbusy
            · exact h.removed j m x hj hx hwaits
          · intro j l opj opl m x hlt hj hl hx
            rcases hconn j x hx with ⟨rfl, rfl⟩ | ⟨-, hx⟩
            · exact absurd (h.earlier j l opj opl m c hlt hj hl hfound) hbusy
            · exact h.earlier j l opj opl m x hlt hj hl hx
          · intro q hq hop
            rcases List.mem_append.mp hq with hq | hq
            · exact h.status q hq hop
            · rw [List.mem_singleton.mp hq] at hop ⊢
              dsimp only at hop ⊢
              rw [hop]
              exact hR.add (hleaves.adding b (hadding hop))
          · intro m j opj x a' hlastj hx ha'
            rcases hconn j x hx with ⟨rfl, rfl⟩ | ⟨hj, hx⟩
            · -- the command has been the last one for this address
              cases hmade.symm.trans hlastj.1
              cases ha.symm.trans ha'
              refine ⟨fun x hx => ?_, fun hover => ?_⟩
              · rw [hR.run, command_adding hcommand hx]
                decide
              · rw [hR.run, hsame _ hover]
            · have hne : a' ≠ b := by
                rintro rfl
                cases hapart m n a' ha' ha
                exact hj (hlastj.unique hlast)
              have hkept := h.leaves m j opj x a' hlastj hx ha'
              exact ⟨fun y hy => by rw [w.ipAddr.other hne]; exact hkept.adding y hy,
                fun hover => by rw [w.ipAddr.other hne]; exact hkept.finished hover⟩

/-! ### The main loop -/

/-- A connection on which this has been sent. -/
def UbnetdConn.sent (bytes : List UInt8) : UbnetdConn := { UbnetdConn.fresh with
  transit := bytes
  said := bytes }

/-- Sending on the connection that has been opened last. -/
theorem send_last (R : Registry σ Inet6) (u : Ubnetd σ) {c : UbnetdConn} (hopen : c.ended = false)
    (bytes : List UInt8) :
    Ubnetd.step R { u with conns := u.conns ++ [c] } (.send u.conns.length bytes)
      = .ok { u with conns := u.conns ++ [{ c with
          transit := c.transit ++ bytes
          said := c.said ++ bytes }] } := by
  have hfound : (u.conns ++ [c])[u.conns.length]? = some c := List.getElem?_concat_length ..
  have hset : ∀ c' : UbnetdConn, (u.conns ++ [c]).set u.conns.length c' = u.conns ++ [c'] := by
    intro c'
    simp
  unfold Ubnetd.step Ubnetd.onConn
  dsimp only
  rw [hfound]
  dsimp only
  rw [hset, hopen]
  rfl

theorem connecting_ok (R : Registry σ Inet6) (u : Ubnetd σ) (op : Op) (a : Inet6) :
    (connecting u.conns.length op a).foldlM (Ubnetd.step R) u = .ok { u with
      conns := u.conns ++ [.sent (interfaceRequest op a).flatten] } := by
  have hsends : ∀ (bytes : List UInt8),
      Ubnetd.step R { u with conns := u.conns ++ [.sent []] } (.send u.conns.length bytes)
        = .ok { u with conns := u.conns ++ [.sent bytes] } := fun bytes => send_last R u rfl bytes
  have hsends' : Ubnetd.step R { u with conns := u.conns ++ [.sent [opByte op]] }
      (.send u.conns.length a.toList)
        = .ok { u with conns := u.conns ++ [.sent ([opByte op] ++ a.toList)] } :=
    send_last R u rfl a.toList
  have hbytes : (interfaceRequest op a).flatten = [opByte op] ++ a.toList := by
    unfold interfaceRequest
    simp
  rw [hbytes]
  show (Ubnetd.step R { u with conns := u.conns ++ [.sent []] }
    (.send u.conns.length [opByte op]) >>= fun v =>
      [HandlerEvent.send u.conns.length a.toList].foldlM (Ubnetd.step R) v) = _
  rw [hsends]
  show (Ubnetd.step R { u with conns := u.conns ++ [.sent [opByte op]] }
    (.send u.conns.length a.toList) >>= pure) = _
  rw [hsends']
  rfl

theorem sent_asked (op : Op) (a : Inet6) :
    (UbnetdConn.sent (interfaceRequest op a).flatten).asked = some (op, a) := by
  have hlen := requestOf_length (requestOf_interfaceRequest op a)
  unfold UbnetdConn.asked
  show requestOf ((interfaceRequest op a).flatten.take requestLen) = _
  rw [List.take_of_length_le hlen.le]
  exact requestOf_interfaceRequest op a

/-- The main loop turns to an event. -/
theorem Hosted.begins (h : Hosted w i s) (hsound : Addressing s.daemon) {e : DaemonEvent}
    {next : Daemon} (hidle : s.doing = none) (hstep : daemonStep s.daemon e = .ok next) :
    Hosted w i { s with doing := some ⟨e, next, interfaceCalls s.daemon e, none⟩ } := by
  obtain ⟨hlater, hall, hwaits⟩ := Hosting.idle hidle
  have hkept : ∀ n a, w.address s.later n = some a → w.address next n = some a := by
    intro n a ha
    rw [hlater] at ha
    obtain ⟨adr, hadr, rfl⟩ := Option.map_eq_some_iff.mp ha
    exact Option.map_eq_some_iff.mpr ⟨adr, hsound.kept hstep hadr, rfl⟩
  refine ⟨h.serving, fun n => ?_, h.length, ?_, nofun, ?_, h.earlier, h.status, ?_⟩
  · show lastCall (s.made ++ interfaceCalls s.daemon e) n = (next.slots n).hosting
    have haccounted := h.accounted n
    rw [hall, hlater] at haccounted
    rw [lastCall_append, haccounted]
    exact (hsound.hosting hstep n).symm
  · intro k op n c hk hc
    obtain ⟨hbroken, a, ha, hasked⟩ := h.asked k op n c hk hc
    exact ⟨hbroken, a, hkept n a ha, hasked⟩
  · intro k n c hk hc _
    exact h.removed k n c hk hc (by rw [hwaits]; simp)
  · intro n k op c a hlast hc ha
    obtain ⟨-, a', ha', -⟩ := h.asked k op n c hlast.1 hc
    cases (hkept n a' ha').symm.trans ha
    exact h.leaves n k op c a hlast hc ha'

/-- `interface_removeAddress` has its answer. -/
theorem Hosted.told (h : Hosted w i s) {e : DaemonEvent} {next : Daemon}
    {calls : List (Op × NodeId)} {k : Nat} (hdoing : s.doing = some ⟨e, next, calls, some k⟩)
    (hreadable : (s.ubnetd.conns[k]?).any UbnetdConn.readable = true) :
    Hosted w i { s with doing := some ⟨e, next, calls, none⟩ } := by
  obtain ⟨hlater, hall, hwaits⟩ := Hosting.busy hdoing
  dsimp only at hlater hall hwaits
  have hasked := h.asked
  have haccounted := h.accounted
  have hleaves := h.leaves
  rw [hlater] at hasked haccounted hleaves
  rw [hall] at haccounted
  refine ⟨h.serving, haccounted, h.length, hasked, nofun, ?_, h.earlier, h.status,
    hleaves⟩
  intro j n c hj hc _
  by_cases hjk : j = k
  · subst hjk
    have hany : c.readable = true := by
      have hc' := hreadable
      rw [hc] at hc'
      exact hc'
    exact ((h.serving.serves j c hc).readable hany).isOver
  · exact h.removed j n c hj hc (by rw [hwaits]; simpa using Ne.symm hjk)

/-- `interface.c` is called for a node. -/
theorem Hosted.calls (h : Hosted w i s) {e : DaemonEvent} {next : Daemon} {op : Op} {x : NodeId}
    {calls : List (Op × NodeId)} {a : Inet6}
    (hdoing : s.doing = some ⟨e, next, (op, x) :: calls, none⟩)
    (ha : w.address next x = some a) (hserved : s.Served .add x)
    (hserving : Serving w.ipAddr i { s.ubnetd with
      conns := s.ubnetd.conns ++ [.sent (interfaceRequest op a).flatten] }) :
    Hosted w i { s with
      ubnetd := { s.ubnetd with
        conns := s.ubnetd.conns ++ [.sent (interfaceRequest op a).flatten] }
      doing := some ⟨e, next, calls, if op = .del then some s.ubnetd.conns.length else none⟩
      made := s.made ++ [(op, x)] } := by
  obtain ⟨hlater, hall, hwaits⟩ := Hosting.busy hdoing
  dsimp only at hlater hall hwaits
  have hasked := h.asked
  have haccounted := h.accounted
  have hleaves := h.leaves
  have hremoved : ∀ (k : Nat) c, s.made[k]? = some (.del, x) → s.ubnetd.conns[k]? = some c →
      c.state.isOver = true := fun k c hk hc => h.removed k x c hk hc (by rw [hwaits]; simp)
  rw [hlater] at hasked haccounted hleaves
  rw [hall] at haccounted
  -- a connection is an old one, or the new one
  have hcases : ∀ (k : Nat) c q, (s.made ++ [(op, x)])[k]? = some q →
      (s.ubnetd.conns ++ [.sent (interfaceRequest op a).flatten])[k]? = some c →
      (s.made[k]? = some q ∧ s.ubnetd.conns[k]? = some c ∧ k < s.made.length)
        ∨ (k = s.made.length ∧ q = (op, x) ∧ c = .sent (interfaceRequest op a).flatten) := by
    intro k c q hk hc
    by_cases hlt : k < s.made.length
    · rw [List.getElem?_append_left hlt] at hk
      rw [List.getElem?_append_left (h.length ▸ hlt)] at hc
      exact .inl ⟨hk, hc, hlt⟩
    · have hq := (getElem?_snoc_some hk).resolve_left
        fun hold => hlt (List.getElem?_eq_some_iff.mp hold).1
      refine .inr ⟨hq.1, hq.2, ?_⟩
      rw [hq.1, h.length, List.getElem?_concat_length] at hc
      exact (Option.some.inj hc).symm
  refine ⟨hserving, ?_, ?_, ?_, ?_, ?_, ?_, h.status, ?_⟩
  · intro n
    show lastCall ((s.made ++ [(op, x)]) ++ calls) n = _
    rw [List.append_assoc]
    exact haccounted n
  · show (s.made ++ [(op, x)]).length = (s.ubnetd.conns ++ [_]).length
    rw [List.length_append, List.length_append, h.length]
    rfl
  · intro k op' n c hk hc
    rcases hcases k c _ hk hc with ⟨hk, hc, -⟩ | ⟨-, heq, rfl⟩
    · exact hasked k op' n c hk hc
    · cases heq
      exact ⟨rfl, a, ha, sent_asked op a⟩
  · intro k hk
    show k + 1 = (s.made ++ [(op, x)]).length
    rw [List.length_append, h.length]
    change (if op = .del then some s.ubnetd.conns.length else none) = some k at hk
    split at hk
    · cases hk
      rfl
    · cases hk
  · intro k n c hk hc hk'
    rcases hcases k c _ hk hc with ⟨hk, hc, -⟩ | ⟨rfl, heq, rfl⟩
    · exact h.removed k n c hk hc (by rw [hwaits]; simp)
    · cases heq
      exact absurd (congrArg some h.length).symm hk'
  · intro k j op₁ op₂ n c hlt hk hj hc
    rcases hcases k c _ hk hc with ⟨hk, hc, hkl⟩ | ⟨rfl, -, -⟩
    · rcases getElem?_snoc_some hj with hj | ⟨-, heq⟩
      · exact h.earlier k j op₁ op₂ n c hlt hk hj hc
      · cases heq
        cases op₁ with
        | add => exact hserved.finished hk hc
        | del => exact hremoved k c hk hc
    · have hbound := (List.getElem?_eq_some_iff.mp hj).1
      rw [List.length_append, List.length_singleton] at hbound
      omega
  · intro n k op' c b hlast hc hb
    rcases hcases k c _ hlast.1 hc with ⟨hk, hc, hkl⟩ | ⟨-, -, rfl⟩
    · refine hleaves n k op' c b ⟨hk, fun j op'' hlt hj => hlast.2 j op'' hlt ?_⟩ hc hb
      rw [List.getElem?_append_left (List.getElem?_eq_some_iff.mp hj).1]
      exact hj
    · exact ⟨nofun, nofun⟩

theorem Hosted.ends (h : Hosted w i s) {e : DaemonEvent} {next : Daemon}
    (hdoing : s.doing = some ⟨e, next, [], none⟩) :
    Hosted w i { s with daemon := next, doing := none } := by
  obtain ⟨hlater, hall, hwaits⟩ := Hosting.busy hdoing
  dsimp only at hlater hall hwaits
  have hasked := h.asked
  have haccounted := h.accounted
  have hleaves := h.leaves
  rw [hlater] at hasked haccounted hleaves
  rw [hall] at haccounted
  refine ⟨h.serving, fun n => ?_, h.length, hasked, nofun, ?_, h.earlier, h.status,
    hleaves⟩
  · show lastCall (s.made ++ []) n = _
    exact haccounted n
  · intro k n c hk hc _
    exact h.removed k n c hk hc (by rw [hwaits]; simp)

/-- **One step.** -/
theorem Hosted.step (h : Hosted w i s) (hsound : Addressing s.daemon) (hR : w.ipAddr.Reliable)
    {e : HostEvent} (hconnected : s.Connected e) (hunhurried : s.Unhurried e)
    (hapart : w.Apart s.later)
    (hstep : w.step s e = .ok s') : Hosted w i s' := by
  cases e with
  | ubnetd e =>
      obtain ⟨u, hu, heq⟩ := bind_eq_ok.mp hstep
      cases heq
      have hserving := h.serving.step hu
      cases e with
      | accept | send | breakOff => exact hconnected.elim
      | shut k =>
          cases hu
          exact h.onConn k hserving fun c _ => ⟨rfl, rfl, rfl, fun _ => id⟩
      | receive k n =>
          cases hu
          refine h.onConn k hserving fun c hc => ?_
          obtain ⟨op, x, a, -, hbroken, -, hasked⟩ := h.request hc
          exact (h.serving.serves k c hc).receive_idles hasked hbroken n
      | answer k =>
          cases hu
          exact h.onConn k hserving fun c _ => sendAnswer_idles c
      | system k =>
          cases hu
          exact h.system hR hapart k
  | begins e =>
      unfold HostSetup.step at hstep
      cases hdoing : s.doing with
      | some q =>
          rw [hdoing] at hstep
          cases hstep
          exact h
      | none =>
          rw [hdoing] at hstep
          obtain ⟨next, hnext, heq⟩ := bind_eq_ok.mp hstep
          cases heq
          exact h.begins hsound hdoing hnext
  | calls =>
      unfold HostSetup.step at hstep
      dsimp only at hstep
      split at hstep
      · rename_i e next op x calls hdoing
        cases ha : w.address next x with
        | none =>
            rw [ha] at hstep
            cases hstep
        | some a =>
            rw [ha] at hstep
            obtain ⟨u, hu, heq⟩ := bind_eq_ok.mp hstep
            have hserving := foldlM_invariant (I := Serving w.ipAddr i)
              (fun _ _ _ _ hs hturn => hs.step hturn) h.serving hu
            rw [connecting_ok] at hu
            cases hu
            cases heq
            exact h.calls hdoing ha (hunhurried (op, x) (by rw [hdoing]; rfl)) hserving
      · cases hstep
        exact h
  | told =>
      unfold HostSetup.step at hstep
      dsimp only at hstep
      split at hstep
      · rename_i e next calls k hdoing
        split at hstep
        · rename_i hreadable
          cases hstep
          exact h.told hdoing hreadable
        · cases hstep
          exact h
      · cases hstep
        exact h
  | ends =>
      unfold HostSetup.step at hstep
      dsimp only at hstep
      split at hstep
      · rename_i e next hdoing
        cases hstep
        exact h.ends hdoing
      · cases hstep
        exact h

/-! ## Over whole runs -/

/-- The daemon is sound before and after the event, and nothing it has given a node an address for
is forgotten. -/
structure Hosting.Sound (s : Hosting σ) : Prop where
  now : Addressing s.daemon
  later : Addressing s.later

theorem Hosting.Sound.step (h : s.Sound) {e : HostEvent} (hstep : w.step s e = .ok s') :
    s'.Sound ∧ ∀ n a, w.address s.later n = some a → w.address s'.later n = some a := by
  have hsame : s'.daemon = s.daemon → s'.later = s.later →
      s'.Sound ∧ ∀ n a, w.address s.later n = some a → w.address s'.later n = some a := by
    intro hdaemon hlater
    refine ⟨⟨hdaemon ▸ h.now, hlater ▸ h.later⟩, fun n a ha => ?_⟩
    rw [hlater]
    exact ha
  unfold HostSetup.step at hstep
  cases e with
  | ubnetd e =>
      obtain ⟨u, -, heq⟩ := bind_eq_ok.mp hstep
      cases heq
      exact hsame rfl rfl
  | begins e =>
      dsimp only at hstep
      split at hstep
      · cases hstep
        exact hsame rfl rfl
      · rename_i hidle
        obtain ⟨next, hnext, heq⟩ := bind_eq_ok.mp hstep
        cases heq
        refine ⟨⟨h.now, h.now.step hnext⟩, fun n a ha => ?_⟩
        rw [(Hosting.idle hidle).1] at ha
        obtain ⟨adr, hadr, rfl⟩ := Option.map_eq_some_iff.mp ha
        exact Option.map_eq_some_iff.mpr ⟨adr, h.now.kept hnext hadr, rfl⟩
  | calls =>
      dsimp only at hstep
      split at hstep
      · rename_i e next op x calls hdoing
        split at hstep
        · cases hstep
        · obtain ⟨u, -, heq⟩ := bind_eq_ok.mp hstep
          cases heq
          exact hsame rfl (Hosting.busy hdoing).1.symm
      · cases hstep
        exact hsame rfl rfl
  | told =>
      dsimp only at hstep
      split at hstep
      · rename_i e next calls k hdoing
        split at hstep
        · cases hstep
          exact hsame rfl (Hosting.busy hdoing).1.symm
        · cases hstep
          exact hsame rfl rfl
      · cases hstep
        exact hsame rfl rfl
  | ends =>
      dsimp only at hstep
      split at hstep
      · rename_i e next hdoing
        cases hstep
        have hlater := (Hosting.busy hdoing).1
        have hgood := h.later
        rw [hlater] at hgood
        refine ⟨⟨hgood, hgood⟩, fun n a ha => ?_⟩
        rw [hlater] at ha
        exact ha
      · cases hstep
        exact hsame rfl rfl

/-- An address that no command is for is left alone. -/
theorem Hosted.untouched (h : Hosted w i s) {a : Inet6}
    (hnobody : ∀ (k : Nat) op n, s.made[k]? = some (op, n) → w.address s.later n ≠ some a) :
    w.ipAddr.has s.ubnetd.interface a ↔ w.ipAddr.has i a := by
  refine h.serving.history.untouched fun e he => ?_
  obtain ⟨q, hq, rfl⟩ := List.mem_map.mp he
  obtain ⟨c, hc, -, op, hasked, -⟩ := h.serving.entry hq
  obtain ⟨op', n, b, hmade, -, hb, hasked'⟩ := h.request hc
  cases hasked.symm.trans hasked'
  rintro rfl
  exact hnobody q.1 op n hmade hb

/-- The call that was made last. -/
theorem exists_lastCall {l : List (Op × NodeId)} {n : NodeId} {op : Op}
    (h : lastCall l n = some op) : ∃ k : Nat, l[k]? = some (op, n)
      ∧ ∀ j op', k < j → l[j]? ≠ some (op', n) := by
  induction l using List.reverseRecOn with
  | nil => cases h
  | append_singleton l q ih =>
      obtain ⟨op', m⟩ := q
      rw [lastCall_snoc] at h
      by_cases hm : m = n
      · rw [if_pos hm] at h
        cases h
        refine ⟨l.length, by rw [List.getElem?_concat_length, hm], fun j op'' hlt hj => ?_⟩
        have hbound := (List.getElem?_eq_some_iff.mp hj).1
        rw [List.length_append, List.length_singleton] at hbound
        omega
      · rw [if_neg hm] at h
        obtain ⟨k, hk, hafter⟩ := ih h
        have hlt := (List.getElem?_eq_some_iff.mp hk).1
        refine ⟨k, by rw [List.getElem?_append_left hlt]; exact hk, fun j op'' hj hsome => ?_⟩
        rcases getElem?_snoc_some hsome with hold | ⟨-, heq⟩
        · exact hafter j op'' hj hold
        · cases heq
          exact hm rfl

/-- Nothing is left to do for the node. -/
structure Hosting.Idle (s : Hosting σ) (n : NodeId) : Prop where
  asked : ∀ q ∈ s.doing, ∀ op, (op, n) ∉ q.calls
  added : s.Served .add n
  removed : s.Served .del n

theorem Hosting.Idle.last {n : NodeId} (h : s.Idle n) : lastCall s.all n = lastCall s.made n := by
  cases hdoing : s.doing with
  | none => rw [(Hosting.idle hdoing).2.1]
  | some q =>
      rw [(Hosting.busy hdoing).2.1, lastCall_append,
        lastCall_none.mpr fun op => h.asked q hdoing op, Option.none_or]

theorem Hosting.Idle.finished {n : NodeId} {k : Nat} {op : Op} {c : UbnetdConn} (h : s.Idle n)
    (hmade : s.made[k]? = some (op, n)) (hc : s.ubnetd.conns[k]? = some c) :
    c.state.isOver = true := by
  cases op with
  | add => exact h.added.finished hmade hc
  | del => exact h.removed.finished hmade hc

/-- Who has an answer to a request to add an address has been told that it was added. -/
theorem Hosted.added (h : Hosted w i s) {k : Nat} {n : NodeId} {c : UbnetdConn}
    (hmade : s.made[k]? = some (Op.add, n)) (hc : s.ubnetd.conns[k]? = some c)
    (hanswer : c.answer ≠ []) : c.answer = [0x41] := by
  obtain ⟨hbroken, a, -, hasked⟩ := h.asked k .add n c hmade hc
  have hreadable : c.readable = true := by
    unfold UbnetdConn.readable
    rw [List.isEmpty_eq_false_iff.mpr hanswer]
    rfl
  have hdone := (h.serving.serves k c hc).readable hreadable
  obtain ⟨rc, ⟨first, hran⟩, htold⟩ := h.serving.answered hc hdone hbroken hasked
  have hmem : (k, (⟨.add, a, rc⟩ : Entry Inet6)) ∈ s.ubnetd.log := by
    refine mem_ranFor.mp ?_
    rw [hran]
    exact List.mem_cons_of_mem _ List.mem_cons_self
  rw [htold, answerByte_eq.mpr (h.status _ hmem rfl)]

end Hosts

/-! ## A node comes and goes -/

/-- MD5 is that of the id `01`. -/
def plainHost : HostSetup (List Inet6) where
  ipAddr := ipAddr
  baseaddress := someAddress
  md5 := fun _ => #v[0x55, 0xA5, 0x40, 0x08, 0xAD, 0x1B, 0xA5, 0x89, 0xAA, 0x21, 0x0D, 0x26, 0x29,
    0xC1, 0xDF, 0x41]
  fromString := fun _ => someAddress

theorem maxNode_pos : 0 < maxNode := Nat.zero_lt_succ 255

def firstNode : NodeId := ⟨0, maxNode_pos⟩

/-- The first node hears this from ubnetd. -/
def hears (b : Option UInt8) (n : NodeId) : NetEnv :=
  ⟨if n = firstNode then b else none, fun _ => true, fun _ => true, true⟩

def hearing (b : Option UInt8) : DaemonEvent := .main (.tick (hears b))

/-- `interface_removeAddress` and the thread that answers it. -/
def removing (k : Nat) : List HostEvent :=
  [.calls, .ubnetd (.receive k 99), .ubnetd (.system k), .ubnetd (.answer k), .told]

/-- The first node is discovered, and the request to add its address comes in two pieces. -/
def arriving : List HostEvent :=
  [.begins (.packet (newcomer 0) .connected)] ++ removing 0
    ++ [.calls, .ends, .ubnetd (.receive 1 0), .ubnetd (.receive 1 99), .ubnetd (.system 1)]

/-- ubnetd adds the address. -/
def added : List HostEvent := arriving ++ [.ubnetd (.system 1), .ubnetd (.answer 1)]

/-- The next tick is the last one of the node. -/
def leaving : List HostEvent := [.begins (hearing none)] ++ removing 2 ++ [.ends]

/-- What these runs come to. -/
def Hosting.FirstOnly {σ : Type} (s : Hosting σ) : Prop :=
  s.doing.isNone = true ∧ (s.Served .add firstNode ∧ s.Served .del firstNode)
    ∧ (∀ n, n ≠ firstNode → (s.daemon.nodes n).netadr.isNone = true)
    ∧ (s.daemon.nodes firstNode).netadr = some (.freeAddr [1])

instance {σ : Type} (s : Hosting σ) : Decidable s.FirstOnly :=
  inferInstanceAs (Decidable (_ ∧ (_ ∧ _) ∧ (∀ _ : Fin _, _ → _) ∧ _))

/-- The address of the first node. -/
def firstAddress : Inet6 := plainHost.inet (.freeAddr [1])

/-- **Without haste only**: the time of the node runs out while ubnetd still adds its address. The
thread that removes it overtakes the one that adds it, and the address stays. -/
theorem hurried_left_behind : ∃ s,
    Run plainHost.step (fun s e => s.Connected e) (.init (nodesInit 1) [])
      (arriving ++ [.begins (hearing none), .ends] ++ leaving
        ++ [.ubnetd (.system 1), .ubnetd (.answer 1)]) s
      ∧ s.FirstOnly ∧ (s.daemon.nodes firstNode).active = false
      ∧ (s.daemon.nodes firstNode).busadr ≠ 0 ∧ firstAddress ∈ s.ubnetd.interface := by
  apply Run.exists_of_eval Fault.assertion
  decide +kernel

end Ubd
