import Ubd.Tcp.Control
import Ubd.Packet.Listening

/-!
# Packet.Endings — how connections end

`tcp_listener_read` reads the connections to class and management ports, which have a node, and
those to the control port, which have none. Each can end by the end of its stream or by an
error, and a control connection by the command to exit. The end of a stream is handled with the
node in mind, and an error not at all: `endings_clean_iff`.
-/

namespace Ubd

open Runs

/-! ## Control connections beside the others -/

/-- A `struct nodebuffer` of a control connection: its `n` is `NULL`. The field `stream` is not
in the code. -/
structure ControlConnection where
  nb : ControlBuffer
  session : ControlSession
  /-- All that was read. -/
  stream : List UInt8
  reading : Bool
  released : Bool

/-- `Welcome to the control interface`, a newline and a prompt -/
def welcome : List UInt8 :=
  [0x57, 0x65, 0x6C, 0x63, 0x6F, 0x6D, 0x65, 0x20, 0x74, 0x6F, 0x20, 0x74, 0x68, 0x65, 0x20,
   0x63, 0x6F, 0x6E, 0x74, 0x72, 0x6F, 0x6C, 0x20, 0x69, 0x6E, 0x74, 0x65, 0x72, 0x66, 0x61,
   0x63, 0x65, 0x0A, 0x3E]

/-- A control connection as `tcp_listener` makes it. -/
def ControlConnection.accepted : ControlConnection where
  nb := .fresh
  session := ⟨[], [welcome]⟩
  stream := []
  reading := true
  released := false

structure ConnSystem where
  daemon : Daemon
  controls : List ControlConnection

def ConnSystem.init (d : Daemon) : ConnSystem := ⟨d, []⟩

inductive ConnEvent where
  /-- What has nothing to do with control connections. -/
  | daemon (e : DaemonEvent)
  | acceptControl
  | readControl (k : Nat) (buf : List UInt8)
  | closeControl (k : Nat)
  | errorControl (k : Nat)

section Steps

variable (scanner : Scanner) (listNodes : Nat → Nat → List UInt8)

/-- `tcp_listener_read` with data on a control connection. After the command to exit the
connection and its `nodebuffer` are released. -/
def ControlConnection.read (cmd : ControlSession → List UInt8 → Except Fault (ControlSession × Int))
    (c : ControlConnection) (buf : List UInt8) : Except Fault ControlConnection := do
  let ((session, nb), goOn) ← controlRead cmd (c.session, c.nb) buf
  if goOn then return ⟨nb, session, c.stream ++ buf, true, c.released⟩
  else return ⟨nb, session, c.stream ++ buf, false, true⟩

/-- One step. `listNodes k i` is what `cmd_list_nodes` returns at the command `i` of control
connection `k`. -/
def connStep (s : ConnSystem) : ConnEvent → Except Fault ConnSystem
  | .daemon e => do
      let d ← daemonStep s.daemon e
      return { s with daemon := d }
  | .acceptControl => .ok { s with controls := s.controls ++ [.accepted] }
  | .readControl k buf =>
      match s.controls[k]? with
      | some c =>
          if c.reading then do
            let c ← c.read (ControlSession.cmd scanner (listNodes k)) buf
            return { s with controls := s.controls.set k c }
          else .ok s
      | none => .ok s
  | .closeControl k =>
      match s.controls[k]? with
      -- `listen_unregister(nb->n, nb->classid, nb->out)` without a node
      | some c => if c.reading then .error .nullPointer else .ok s
      | none => .ok s
  | .errorControl k =>
      match s.controls[k]? with
      | some c => .ok { s with controls := s.controls.set k { c with reading := false } }
      | none => .ok s

/-! ## Endings -/

/-- A connection, by its place among those of its kind. -/
inductive ConnRef where
  /-- to a class or a management port -/
  | port (k : Nat)
  | control (k : Nat)

/-- The connection is read, and has not been released. -/
def ConnSystem.IsOpen (s : ConnSystem) : ConnRef → Prop
  | .port k => ∃ c, s.daemon.conns[k]? = some c ∧ c.reading = true ∧ c.released = false
  | .control k => ∃ c, s.controls[k]? = some c ∧ c.reading = true ∧ c.released = false

/-- The connection has been released, it is not read, and its stream is in no list of
listeners. That of a control connection is never put into one. -/
def ConnSystem.IsGone (s : ConnSystem) : ConnRef → Prop
  | .port k => ∃ c, s.daemon.conns[k]? = some c ∧ c.reading = false ∧ c.released = true
      ∧ ¬ s.daemon.Listens c.out
  | .control k => ∃ c, s.controls[k]? = some c ∧ c.reading = false ∧ c.released = true

/-- **How a connection that is read can end.** -/
inductive ConnSystem.Ends (s : ConnSystem) : ConnRef → ConnEvent → Prop
  | eof {k : Nat} {c : Connection} (found : s.daemon.conns[k]? = some c)
      (reading : c.reading = true) : Ends s (.port k) (.daemon (.main (.close k)))
  | error {k : Nat} {c : Connection} (found : s.daemon.conns[k]? = some c)
      (reading : c.reading = true) : Ends s (.port k) (.daemon (.main (.readError k)))
  | exit {k : Nat} {c : ControlConnection} {buf : List UInt8} (found : s.controls[k]? = some c)
      (reading : c.reading = true)
      (command : ∃ line ∈ lineCommands (c.stream ++ buf), scanner.isExit line = true) :
      Ends s (.control k) (.readControl k buf)
  | controlEof {k : Nat} {c : ControlConnection} (found : s.controls[k]? = some c)
      (reading : c.reading = true) : Ends s (.control k) (.closeControl k)
  | controlError {k : Nat} {c : ControlConnection} (found : s.controls[k]? = some c)
      (reading : c.reading = true) : Ends s (.control k) (.errorControl k)

/-- Every connection that a step ends was not released before, the step succeeds, and from then
on the connection is gone: it is not read again, so nothing will release it once more. -/
def CleanEndings (s : ConnSystem) (e : ConnEvent) : Prop :=
  ∀ r, s.Ends scanner r e → s.IsOpen r
    ∧ ∃ s', connStep scanner listNodes s e = .ok s'
      ∧ ∀ fs t, Run (connStep scanner listNodes) (fun _ _ => True) s' fs t → t.IsGone r

/-- A connection that is read ends by an error; or a control connection by the end of its
stream. -/
def ConnSystem.Mishandles (s : ConnSystem) : ConnEvent → Prop
  | .daemon (.main (.readError k)) => ∃ c, s.daemon.conns[k]? = some c ∧ c.reading = true
  | .closeControl k => ∃ c, s.controls[k]? = some c ∧ c.reading = true
  | .errorControl k => ∃ c, s.controls[k]? = some c ∧ c.reading = true
  | _ => False

end Steps

/-! ## The invariant -/

/-- The parser of a control connection is where all that was read has brought it. -/
structure ControlConnection.Follows (scanner : Scanner) (listNodes : Nat → List UInt8)
    (c : ControlConnection) : Prop where
  quiet : c.released = true → c.reading = false
  read : c.reading = true → controlRead (ControlSession.cmd scanner listNodes)
    (⟨[], [welcome]⟩, .fresh) c.stream = .ok ((c.session, c.nb), true)

/-- What holds after every run. -/
structure ConnSystem.Steady (scanner : Scanner) (listNodes : Nat → Nat → List UInt8)
    (s : ConnSystem) : Prop where
  ports : ∃ tr, Accounted tr s.daemon
  controls : ∀ (k : Nat) (c : ControlConnection), s.controls[k]? = some c →
    c.Follows scanner (listNodes k)

section Steady

variable {scanner : Scanner} {listNodes : Nat → Nat → List UInt8} {s s' : ConnSystem}

/-- **A read of a control connection** drops it exactly if a command to exit is among the
commands of its stream. -/
theorem ControlConnection.Follows.reads {cmds : Nat → List UInt8} {c : ControlConnection}
    (h : c.Follows scanner cmds) (hreading : c.reading = true) (buf : List UInt8) :
    ∃ session nb, controlRead (ControlSession.cmd scanner cmds) (c.session, c.nb) buf
        = .ok ((session, nb), !(lineCommands (c.stream ++ buf)).any scanner.isExit)
      ∧ controlRead (ControlSession.cmd scanner cmds) (⟨[], [welcome]⟩, .fresh) (c.stream ++ buf)
        = controlRead (ControlSession.cmd scanner cmds) (c.session, c.nb) buf := by
  have hgo : controlRead (ControlSession.cmd scanner cmds) (⟨[], [welcome]⟩, .fresh)
      (c.stream ++ buf) = controlRead (ControlSession.cmd scanner cmds) (c.session, c.nb) buf := by
    have hread := h.read hreading
    unfold controlRead at hread ⊢
    rw [Lines.untilLast_append, hread]
  obtain ⟨nb, -, -, hrun⟩ := controlReads_eq (ControlSession.cmd scanner cmds)
    ⟨[], [welcome]⟩ [c.stream ++ buf]
  obtain ⟨session, hgive, -⟩ := Lines.untilLast_log (giveCommand_session scanner cmds)
    ⟨[], [welcome]⟩ (lineCommands (c.stream ++ buf))
  rw [controlReads_flatten, List.flatten_singleton, hgive, hgo] at hrun
  exact ⟨session, nb, hrun, hgo⟩

theorem accepted_follows (cmds : Nat → List UInt8) :
    ControlConnection.accepted.Follows scanner cmds :=
  ⟨fun h => Bool.noConfusion h, fun _ => rfl⟩

theorem ControlConnection.Follows.read_ok {cmds : Nat → List UInt8} {c c' : ControlConnection}
    {buf : List UInt8} (h : c.Follows scanner cmds) (hreading : c.reading = true)
    (hread : c.read (ControlSession.cmd scanner cmds) buf = .ok c') : c'.Follows scanner cmds := by
  obtain ⟨session, nb, hrun, hgo⟩ := h.reads hreading buf
  unfold ControlConnection.read at hread
  rw [hrun] at hread
  cases hexit : (lineCommands (c.stream ++ buf)).any scanner.isExit with
  | true =>
      rw [hexit] at hread
      cases hread
      exact ⟨fun _ => rfl, fun h => Bool.noConfusion h⟩
  | false =>
      rw [hexit] at hread hrun
      cases hread
      refine ⟨fun hreleased => ?_, fun _ => hgo.trans hrun⟩
      rw [h.quiet hreleased] at hreading
      cases hreading

/-- What a step does. -/
inductive ConnMoves (scanner : Scanner) (listNodes : Nat → Nat → List UInt8) (s : ConnSystem) :
    ConnEvent → ConnSystem → Prop
  | daemon {e : DaemonEvent} {d : Daemon} (done : daemonStep s.daemon e = .ok d) :
      ConnMoves scanner listNodes s (.daemon e) { s with daemon := d }
  | accept : ConnMoves scanner listNodes s .acceptControl
      { s with controls := s.controls ++ [.accepted] }
  | read {k : Nat} {buf : List UInt8} {c c' : ControlConnection}
      (found : s.controls[k]? = some c) (reading : c.reading = true)
      (done : c.read (ControlSession.cmd scanner (listNodes k)) buf = .ok c') :
      ConnMoves scanner listNodes s (.readControl k buf)
        { s with controls := s.controls.set k c' }
  | fails {k : Nat} {c : ControlConnection} (found : s.controls[k]? = some c) :
      ConnMoves scanner listNodes s (.errorControl k)
        { s with controls := s.controls.set k { c with reading := false } }
  | nothing {e : ConnEvent} : ConnMoves scanner listNodes s e s

theorem connStep_moves {e : ConnEvent} (h : connStep scanner listNodes s e = .ok s') :
    ConnMoves scanner listNodes s e s' := by
  cases e with
  | daemon e =>
      obtain ⟨d, hdaemon, h⟩ := bind_eq_ok.mp h
      cases h
      exact .daemon hdaemon
  | acceptControl =>
      cases h
      exact .accept
  | readControl k buf =>
      unfold connStep at h
      dsimp only at h
      split at h
      · rename_i c hfound
        split at h
        · rename_i hreading
          obtain ⟨c', hread, h⟩ := bind_eq_ok.mp h
          cases h
          exact .read hfound hreading hread
        · cases h
          exact .nothing
      · cases h
        exact .nothing
  | closeControl k =>
      unfold connStep at h
      dsimp only at h
      split at h
      · split at h
        · cases h
        · cases h
          exact .nothing
      · cases h
        exact .nothing
  | errorControl k =>
      unfold connStep at h
      dsimp only at h
      split at h
      · rename_i c hfound
        cases h
        exact .fails hfound
      · cases h
        exact .nothing

/-- **One step.** -/
theorem ConnSystem.Steady.step {e : ConnEvent} (h : s.Steady scanner listNodes)
    (hstep : connStep scanner listNodes s e = .ok s') : s'.Steady scanner listNodes := by
  have hset : ∀ {k : Nat} {c c' : ControlConnection}, s.controls[k]? = some c →
      c'.Follows scanner (listNodes k) →
      ({ s with controls := s.controls.set k c' } : ConnSystem).Steady scanner listNodes := by
    intro k c c' hfound hfollows
    refine ⟨h.ports, fun j x hx => ?_⟩
    rcases getElem?_set_some hfound hx with ⟨rfl, rfl⟩ | ⟨-, hx⟩
    · exact hfollows
    · exact h.controls j x hx
  cases connStep_moves hstep with
  | daemon done =>
      obtain ⟨tr, htr⟩ := h.ports
      exact ⟨⟨_, htr.step done⟩, h.controls⟩
  | accept =>
      refine ⟨h.ports, fun k c hc => ?_⟩
      rcases getElem?_snoc_some hc with hc | ⟨-, rfl⟩
      · exact h.controls k c hc
      · exact accepted_follows _
  | read found reading done => exact hset found ((h.controls _ _ found).read_ok reading done)
  | fails found => exact hset found ⟨fun _ => rfl, fun hreading => Bool.noConfusion hreading⟩
  | nothing => exact h

/-- What has been released is registered nowhere. -/
theorem Accounted.unregistered {tr : List (Daemon × DaemonEvent)} {d : Daemon}
    (h : Accounted tr d) {k : Nat} {c : Connection} (hc : d.conns[k]? = some c)
    (hreleased : c.released = true) : ¬ d.Listens c.out := by
  rintro ⟨n, i, hout⟩
  have hnone := h.heard k c hc n i
  rw [if_neg fun hown => by rw [hreleased] at hown; exact Bool.noConfusion hown.1] at hnone
  exact List.count_eq_zero.mp hnone hout

/-- A connection that is not read is not touched any more, but by an error. -/
theorem Attends.released {d d' : Daemon} {e : DaemonEvent} (h : Attends d e d') {k : Nat}
    {c : Connection} (hc : d.conns[k]? = some c) (hquiet : c.reading = false)
    (hreleased : c.released = true) :
    ∃ c', d'.conns[k]? = some c' ∧ c'.reading = false ∧ c'.released = true := by
  have hset : ∀ {j : Nat} {x x' : Connection}, d.conns[j]? = some x →
      (j = k → x'.reading = false ∧ x'.released = true) →
      ∃ c', (d.conns.set j x')[k]? = some c' ∧ c'.reading = false ∧ c'.released = true := by
    intro j x x' hx hown
    by_cases hj : j = k
    · refine ⟨x', ?_, hown hj⟩
      subst hj
      exact List.getElem?_set_self (List.getElem?_eq_some_iff.mp hx).1
    · exact ⟨c, by rw [List.getElem?_set_ne hj, hc], hquiet, hreleased⟩
  have hother : ∀ {j : Nat} {x : Connection}, d.conns[j]? = some x → x.reading = true → j ≠ k := by
    rintro j x hx hreading rfl
    rw [hc] at hx
    cases hx
    rw [hquiet] at hreading
    cases hreading
  cases h with
  | aside conns kept lost quiet => exact ⟨c, by rw [conns, hc], hquiet, hreleased⟩
  | opens x conns out isOpen heard quiet =>
      refine ⟨c, ?_, hquiet, hreleased⟩
      rw [conns, List.getElem?_append_left (List.getElem?_eq_some_iff.mp hc).1, hc]
  | asks j x nb found reading conns heard others =>
      rw [conns]
      exact hset found fun hj => absurd hj (hother found reading)
  | closes j x found reading conns heard quiet =>
      rw [conns]
      exact hset found fun hj => absurd hj (hother found reading)
  | fails j x found conns heard quiet =>
      rw [conns]
      refine hset found fun hj => ⟨rfl, ?_⟩
      subst hj
      rw [hc] at found
      cases found
      exact hreleased

/-- Who is gone stays so. -/
theorem ConnSystem.IsGone.step {e : ConnEvent} {r : ConnRef} (h : s.Steady scanner listNodes)
    (hgone : s.IsGone r) (hstep : connStep scanner listNodes s e = .ok s') : s'.IsGone r := by
  have hsteady := h.step hstep
  cases r with
  | port k =>
      obtain ⟨c, hc, hquiet, hreleased, -⟩ := hgone
      obtain ⟨c', hc', hquiet', hreleased'⟩ : ∃ c', s'.daemon.conns[k]? = some c'
          ∧ c'.reading = false ∧ c'.released = true := by
        cases connStep_moves hstep with
        | daemon done => exact (daemonStep_attends done).released hc hquiet hreleased
        | accept | read | fails | nothing => exact ⟨c, hc, hquiet, hreleased⟩
      obtain ⟨tr, htr⟩ := hsteady.ports
      exact ⟨c', hc', hquiet', hreleased', htr.unregistered hc' hreleased'⟩
  | control k =>
      obtain ⟨c, hc, hquiet, hreleased⟩ := hgone
      cases connStep_moves hstep with
      | daemon | nothing => exact ⟨c, hc, hquiet, hreleased⟩
      | accept =>
          refine ⟨c, ?_, hquiet, hreleased⟩
          exact (List.getElem?_append_left (List.getElem?_eq_some_iff.mp hc).1).trans hc
      | @read j buf x x' found reading done =>
          refine ⟨c, ?_, hquiet, hreleased⟩
          refine (List.getElem?_set_ne ?_).trans hc
          rintro rfl
          rw [hc] at found
          cases found
          rw [hquiet] at reading
          cases reading
      | @fails j x found =>
          by_cases hj : j = k
          · subst hj
            rw [hc] at found
            cases found
            exact ⟨{ c with reading := false },
              List.getElem?_set_self (List.getElem?_eq_some_iff.mp hc).1, rfl, hreleased⟩
          · exact ⟨c, (List.getElem?_set_ne hj).trans hc, hquiet, hreleased⟩

theorem ConnSystem.IsGone.run {fs : List ConnEvent} {r : ConnRef} (h : s.Steady scanner listNodes)
    (hgone : s.IsGone r) (hrun : Run (connStep scanner listNodes) (fun _ _ => True) s fs s') :
    s'.IsGone r :=
  (hrun.invariant (I := fun t => t.Steady scanner listNodes ∧ t.IsGone r) ⟨h, hgone⟩
    fun _ _ _ hs _ hstep => ⟨hs.1.step hstep, hs.2.step hs.1 hstep⟩).2

theorem init_steady {nodetimeout : Int} {cs : List NodeConfig} {d : Daemon}
    (h : configured nodetimeout cs = .ok d) :
    (ConnSystem.init d).Steady scanner listNodes :=
  ⟨⟨[], configured_accounted h⟩, fun k c hc => by cases hc⟩

/-- A connection that is read has not been released. -/
theorem ConnSystem.Steady.port_open (h : s.Steady scanner listNodes) {k : Nat} {c : Connection}
    (hfound : s.daemon.conns[k]? = some c) (hreading : c.reading = true) : s.IsOpen (.port k) := by
  obtain ⟨tr, htr⟩ := h.ports
  refine ⟨c, hfound, hreading, ?_⟩
  rw [Bool.eq_false_iff]
  intro hreleased
  rw [(htr.outs k c hfound).2 hreleased] at hreading
  cases hreading

theorem ConnSystem.Steady.control_open (h : s.Steady scanner listNodes) {k : Nat}
    {c : ControlConnection} (hfound : s.controls[k]? = some c) (hreading : c.reading = true) :
    s.IsOpen (.control k) := by
  refine ⟨c, hfound, hreading, ?_⟩
  rw [Bool.eq_false_iff]
  intro hreleased
  rw [(h.controls k c hfound).quiet hreleased] at hreading
  cases hreading

/-- **One ending** is clean unless it is mishandled. -/
theorem ConnSystem.Steady.cleanEndings (h : s.Steady scanner listNodes) {e : ConnEvent}
    (hhandled : ¬ s.Mishandles e) : CleanEndings scanner listNodes s e := by
  intro r hends
  -- it is enough that the connection is gone after the step
  have hlater : ∀ s', connStep scanner listNodes s e = .ok s' → s'.IsGone r →
      ∃ s', connStep scanner listNodes s e = .ok s'
        ∧ ∀ fs t, Run (connStep scanner listNodes) (fun _ _ => True) s' fs t → t.IsGone r :=
    fun s' hstep hgone => ⟨s', hstep, fun _ _ hrun => hgone.run (h.step hstep) hrun⟩
  cases hends with
  | @eof k c found reading =>
      refine ⟨h.port_open found reading, hlater { s with daemon := tcpClose s.daemon k } rfl ?_⟩
      have hclosed : (tcpClose s.daemon k).conns[k]?
          = some { c with reading := false, released := true } := by
        rw [tcpClose_eq found reading]
        exact List.getElem?_set_self (List.getElem?_eq_some_iff.mp found).1
      obtain ⟨tr, htr⟩ := h.ports
      have hstep : daemonStep s.daemon (.main (.close k)) = .ok (tcpClose s.daemon k) := rfl
      exact ⟨_, hclosed, rfl, rfl, (htr.step hstep).unregistered hclosed rfl⟩
  | @error k c found reading => exact absurd ⟨c, found, reading⟩ hhandled
  | @exit k c buf found reading command =>
      obtain ⟨session, nb, hrun, -⟩ := (h.controls k c found).reads reading buf
      have hexit : (lineCommands (c.stream ++ buf)).any scanner.isExit = true :=
        List.any_eq_true.mpr command
      rw [hexit] at hrun
      let c' : ControlConnection := ⟨nb, session, c.stream ++ buf, false, true⟩
      have hread : c.read (ControlSession.cmd scanner (listNodes k)) buf = .ok c' := by
        unfold ControlConnection.read
        rw [hrun]
        rfl
      refine ⟨h.control_open found reading,
        hlater { s with controls := s.controls.set k c' } ?_ ⟨c', ?_, rfl, rfl⟩⟩
      · unfold connStep
        simp only [found, reading, if_true, hread, ok_bind, pure_eq_ok]
      · exact List.getElem?_set_self (List.getElem?_eq_some_iff.mp found).1
  | @controlEof k c found reading => exact absurd ⟨c, found, reading⟩ hhandled
  | @controlError k c found reading => exact absurd ⟨c, found, reading⟩ hhandled

/-- **What is mishandled** does not end cleanly: the end of a control stream is the end of the
daemon, and after an error nothing is released. -/
theorem not_mishandles_of_cleanEndings {e : ConnEvent}
    (h : CleanEndings scanner listNodes s e) : ¬ s.Mishandles e := by
  intro hbad
  unfold ConnSystem.Mishandles at hbad
  split at hbad
  · rename_i k
    obtain ⟨c, found, reading⟩ := hbad
    obtain ⟨⟨x, hx, -, hheld⟩, s', hstep, hlater⟩ := h (.port k) (.error found reading)
    obtain ⟨y, hy, -, hreleased, -⟩ := hlater [] s' .nil
    rw [found] at hx
    cases hx
    have hs' : s' = { s with daemon := tcpReadError s.daemon k } := by
      cases hstep
      rfl
    have hset : (tcpReadError s.daemon k).conns[k]? = some { c with reading := false } := by
      unfold tcpReadError
      rw [found]
      exact List.getElem?_set_self (List.getElem?_eq_some_iff.mp found).1
    rw [hs', hset] at hy
    cases hy
    rw [hheld] at hreleased
    cases hreleased
  · rename_i k
    obtain ⟨c, found, reading⟩ := hbad
    obtain ⟨-, s', hstep, -⟩ := h (.control k) (.controlEof found reading)
    unfold connStep at hstep
    simp only [found, reading, if_true] at hstep
    cases hstep
  · rename_i k
    obtain ⟨c, found, reading⟩ := hbad
    obtain ⟨⟨x, hx, -, hheld⟩, s', hstep, hlater⟩ := h (.control k) (.controlError found reading)
    obtain ⟨y, hy, -, hreleased⟩ := hlater [] s' .nil
    rw [found] at hx
    cases hx
    have hset : connStep scanner listNodes s (.errorControl k)
        = .ok { s with controls := s.controls.set k { c with reading := false } } := by
      unfold connStep
      simp only [found]
    rw [hset] at hstep
    cases hstep
    rw [List.getElem?_set_self (List.getElem?_eq_some_iff.mp found).1] at hy
    cases hy
    rw [hheld] at hreleased
    cases hreleased
  · exact hbad

end Steady

/-- **Every connection ends cleanly**, in every run, if and only if none ends by an error, and no
control connection by the end of its stream. -/
theorem endings_clean_iff (scanner : Scanner) (listNodes : Nat → Nat → List UInt8)
    (nodetimeout : Int) (cs : List NodeConfig) (d₀ : Daemon)
    (h₀ : configured nodetimeout cs = .ok d₀) (es : List ConnEvent) :
    EveryStep (connStep scanner listNodes) (fun _ _ => True) (ConnSystem.init d₀)
        (CleanEndings scanner listNodes) es
      ↔ EveryStep (connStep scanner listNodes) (fun _ _ => True) (ConnSystem.init d₀)
        (fun s e => ¬ s.Mishandles e) es := by
  constructor
  · intro hclean pre e post t hes ht
    exact not_mishandles_of_cleanEndings (hclean pre e post t hes ht)
  · intro hhandled pre e post t hes ht
    have hsteady : t.Steady scanner listNodes := ht.invariant (init_steady h₀)
      fun _ _ _ hs _ hstep => hs.step hstep
    exact hsteady.cleanEndings (hhandled pre e post t hes ht)

/-- The characters of `exit`, and a newline. -/
def exitLine : List UInt8 := [0x65, 0x78, 0x69, 0x74, 0x0A]

/-- A scanner that knows one symbol. -/
def exitScanner : Scanner := fun cmd => if cmd = exitLine.dropLast then [.symbol 8] else [.other]

/-- Who says `exit` ends cleanly. -/
theorem endings_clean_iff_exit : configured 30 [] = .ok (nodesInit 30)
    ∧ EveryStep (connStep exitScanner fun _ _ => []) (fun _ _ => True)
      (ConnSystem.init (nodesInit 30)) (CleanEndings exitScanner fun _ _ => [])
      [.acceptControl, .readControl 0 exitLine] := by
  refine ⟨rfl, (endings_clean_iff exitScanner (fun _ _ => []) 30 [] (nodesInit 30) rfl _).mpr ?_⟩
  intro pre e post t hes _
  have hmem : e ∈ [ConnEvent.acceptControl, .readControl 0 exitLine] := by
    rw [hes]
    simp
  rcases List.mem_pair.mp hmem with rfl | rfl
  · exact id
  · exact id

/-- **The end of a control connection** is the end of the daemon. -/
theorem control_eof_faults : configured 30 [] = .ok (nodesInit 30)
    ∧ ¬ EveryStep (connStep exitScanner fun _ _ => []) (fun _ _ => True)
      (ConnSystem.init (nodesInit 30)) (CleanEndings exitScanner fun _ _ => [])
      [.acceptControl, .closeControl 0] := by
  refine ⟨rfl, fun hclean => ?_⟩
  have hrun : Run (connStep exitScanner fun _ _ => []) (fun _ _ => True)
      (ConnSystem.init (nodesInit 30)) [.acceptControl] ⟨nodesInit 30, [.accepted]⟩ :=
    Run.snoc .nil trivial rfl
  obtain ⟨-, s', hstep, -⟩ := hclean [.acceptControl] (.closeControl 0) [] _ rfl hrun
    (.control 0) (.controlEof (c := .accepted) rfl rfl)
  cases hstep

end Ubd
