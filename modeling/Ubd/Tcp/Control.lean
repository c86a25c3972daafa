import Ubd.Lib.Lines
import Ubd.Tcp.Parse

/-!
# Tcp.Control — the command parser of `cmdparser.c`

`cmdparser_parse` handles one byte of a control connection. It collects a line and gives it to
`cmdparser_cmd`, which looks at its first tokens. The tokens come from GLib's `GScanner`: what
it makes of a line is the parameter `Scanner`.

The automaton reads lines, and which lines are commands can be said without it: `isCommand` of
the `remainder` of a piece. `cmdparser_parse_lines` says that the two agree on every stream.
-/

namespace Ubd

/-! ## `cmdparser_cmd` -/

/-- A token of `GScanner`. A symbol has the number `cmdparser_init` gives it. -/
inductive Token where
  | symbol (value : Nat)
  | other
  deriving DecidableEq, Repr

/-- What `g_scanner_get_next_token` returns, call by call, after `g_scanner_input_text`.
Behind the last token there is only `G_TOKEN_EOF`. -/
abbrev Scanner := List UInt8 → List Token

/-- `SYMBOL(scanner, x)` for the token number `i` of a line -/
def Scanner.isSymbol (scanner : Scanner) (cmd : List UInt8) (i x : Nat) : Bool :=
  (scanner cmd)[i]? = some (.symbol x)

/-- `unknown command` and a newline -/
def unknownCommand : List UInt8 :=
  [0x75, 0x6E, 0x6B, 0x6E, 0x6F, 0x77, 0x6E, 0x20, 0x63, 0x6F, 0x6D, 0x6D, 0x61, 0x6E, 0x64, 0x0A]

/-- `bye` and a newline -/
def bye : List UInt8 := [0x62, 0x79, 0x65, 0x0A]

/-- The character `>`. -/
def charPrompt : UInt8 := 0x3E

/-- `cmdparser_cmd`, with its return value and `*result`. `listNodes` is what `cmd_list_nodes`
returns; `cmd_list_groups` returns `NULL`. -/
def cmdparserCmd (scanner : Scanner) (listNodes : List UInt8) (cmd : List UInt8) :
    Int × List UInt8 :=
  if scanner.isSymbol cmd 0 3 then
    let result := if scanner.isSymbol cmd 1 7 then listNodes else unknownCommand
    ((result ++ [charPrompt]).length, result ++ [charPrompt])
  else if scanner.isSymbol cmd 0 8 then (-1, bye)
  else ((unknownCommand ++ [charPrompt]).length, unknownCommand ++ [charPrompt])

/-- A line that `cmdparser_cmd` takes as the command to exit. -/
def Scanner.isExit (scanner : Scanner) (cmd : List UInt8) : Bool := scanner.isSymbol cmd 0 8

theorem cmdparserCmd_neg_iff (scanner : Scanner) (listNodes cmd : List UInt8) :
    (cmdparserCmd scanner listNodes cmd).1 < 0 ↔ scanner.isExit cmd = true := by
  unfold cmdparserCmd Scanner.isExit
  split
  · rename_i hlist
    -- one token is not two symbols
    have hexit : scanner.isSymbol cmd 0 8 = false := by
      simp only [Scanner.isSymbol, decide_eq_true_eq] at hlist
      simp [Scanner.isSymbol, hlist]
    simp [hexit]
    omega
  · split
    · rename_i hexit
      simp [hexit]
    · rename_i hexit
      simp [hexit]
      omega

/-! ## `cmdparser_parse` -/

/-- A byte as a `gchar`, which is signed. -/
def gchar (b : UInt8) : Int := b.toBitVec.toInt

/-- `nb->state` on a control connection, numbered 0 to 2 in this order. -/
inductive ControlState where
  | idle
  | command
  | skip
  deriving DecidableEq, Repr

/-- The fields of `struct nodebuffer` this parser keeps its place in. -/
structure ControlBuffer where
  cmd : Vector UInt8 maxBuf
  cmdlen : Int
  state : ControlState

/-- A `nodebuffer` as `g_new0` makes it. -/
def ControlBuffer.fresh : ControlBuffer where
  cmd := Vector.replicate maxBuf 0
  cmdlen := 0
  state := .idle

/-- The bytes `cmdparser_cmd` is given: `nb->cmd` and `nb->cmdlen`. -/
def ControlBuffer.command (nb : ControlBuffer) : List UInt8 := nb.cmd.toList.take nb.cmdlen.toNat

section Parsing

variable {τ : Type} (cmd : τ → List UInt8 → Except Fault (τ × Int))

/-- `case 1` of `cmdparser_parse`. The flag is its return value: `FALSE` drops the
connection. -/
def cmdparserLine (p : τ × ControlBuffer) (data : UInt8) :
    Except Fault ((τ × ControlBuffer) × Bool) :=
  let nb := p.2
  if isNewline data then
    match cmd p.1 nb.command with
    | .ok (t, len) => .ok ((t, { nb with state := .idle }), decide (0 ≤ len))
    | .error x => .error x
  else if gchar data < 0x20 then .ok ((p.1, { nb with state := .skip }), true)
  else do
    let text ← store nb.cmd nb.cmdlen data
    let nb := { nb with cmd := text, cmdlen := nb.cmdlen + 1 }
    if nb.cmdlen = (maxBuf : Int) then
      return ((p.1, { nb with state := .skip }), true)
    else
      return ((p.1, nb), true)

/-- `cmdparser_parse`, with what it does with a command as `cmd` -/
def cmdparserParse (p : τ × ControlBuffer) (data : UInt8) :
    Except Fault ((τ × ControlBuffer) × Bool) :=
  match p.2.state with
  | .idle =>
      -- no `break` here: the first byte of a line is handled as all the others
      if 0x20 ≤ gchar data then
        cmdparserLine cmd (p.1, { p.2 with state := .command, cmdlen := 0 }) data
      else .ok (p, true)
  | .command => cmdparserLine cmd p data
  | .skip =>
      if isNewline data then .ok ((p.1, { p.2 with state := .idle }), true) else .ok (p, true)

/-- The loop of `tcp_listener_read` on control data. The flag says that the stream stays
open. -/
def controlRead (p : τ × ControlBuffer) (buf : List UInt8) :
    Except Fault ((τ × ControlBuffer) × Bool) :=
  Lines.untilLast (cmdparserParse cmd) p buf

/-- The reads of a control connection. A connection that was dropped is not read again. -/
def controlReads (p : τ × ControlBuffer) (reads : List (List UInt8)) :
    Except Fault ((τ × ControlBuffer) × Bool) :=
  Lines.untilLast (controlRead cmd) p reads

/-- How the bytes are split into reads makes no difference. -/
theorem controlReads_flatten (p : τ × ControlBuffer) (reads : List (List UInt8)) :
    controlReads cmd p reads = controlRead cmd p reads.flatten := by
  induction reads generalizing p with
  | nil => rfl
  | cons buf reads ih =>
      rw [List.flatten_cons, controlRead, Lines.untilLast_append]
      match hbuf : Lines.untilLast (cmdparserParse cmd) p buf with
      | .ok (q, true) => exact (Lines.untilLast_cons_more hbuf).trans (ih q)
      | .ok (q, false) => exact Lines.untilLast_cons_last hbuf
      | .error x => exact Lines.untilLast_cons_error hbuf

end Parsing

/-! ## The grammar of lines -/

/-- A byte below `0x20`, or at least `0x80`. -/
def isBad (b : UInt8) : Bool := b.toNat < 0x20 || 0x80 ≤ b.toNat

/-- A piece without the bad bytes it begins with. -/
def remainder (piece : List UInt8) : List UInt8 := piece.dropWhile isBad

/-- A command line: not empty, shorter than the buffer, and without a bad byte. -/
def isCommand (r : List UInt8) : Bool := !r.isEmpty && r.length ≤ 99 && r.all fun b => !isBad b

/-- The commands of a stream: what is left of the pieces between newlines, where it is a
command line. -/
def lineCommands (stream : List UInt8) : List (List UInt8) :=
  ((Lines.completed isNewline stream).map remainder).filter isCommand

/-- What a piece amounts to. -/
def lineCommand (piece : List UInt8) : Option (List UInt8) :=
  if isCommand (remainder piece) then some (remainder piece) else none

theorem lineCommands_eq (stream : List UInt8) :
    lineCommands stream = (Lines.completed isNewline stream).filterMap lineCommand := by
  rw [lineCommands, List.filter_map, ← List.filterMap_eq_map, List.filterMap_filter]
  refine congrArg (fun f => List.filterMap f _) (funext fun piece => ?_)
  simp only [lineCommand, Function.comp]

theorem isCommand_iff {r : List UInt8} :
    isCommand r = true ↔ r ≠ [] ∧ r.length < maxBuf ∧ ∀ b ∈ r, isBad b = false := by
  simp [isCommand, maxBuf, and_assoc, Nat.lt_succ_iff]

theorem gchar_lt_iff (b : UInt8) : gchar b < 0x20 ↔ isBad b = true := by
  have hlt : b.toNat < 256 := b.toNat_lt
  have hval : gchar b = if 2 * b.toNat < 256 then (b.toNat : Int) else b.toNat - 256 :=
    BitVec.toInt_eq_toNat_cond b.toBitVec
  rw [hval]
  simp only [isBad, Bool.or_eq_true, decide_eq_true_eq]
  split <;> omega

theorem isBad_of_isNewline {b : UInt8} (h : isNewline b = true) : isBad b = true := by
  simp only [isNewline, Bool.or_eq_true, decide_eq_true_eq] at h
  rcases h with rfl | rfl <;> rfl

theorem remainder_append (p : List UInt8) (b : UInt8) : remainder (p ++ [b])
    = if remainder p = [] then if isBad b then [] else [b] else remainder p ++ [b] := by
  rw [remainder, remainder, List.dropWhile_append]
  cases hp : p.dropWhile isBad with
  | nil => simp [List.dropWhile_cons]
  | cons c r => simp

/-! ## The automaton and the grammar -/

/-- The state of the parser when `r` is what is left of the piece it is in. -/
inductive ControlBuffer.Holds (nb : ControlBuffer) (r : List UInt8) : Prop
  | idle (empty : r = []) (state : nb.state = .idle) (lo : 0 ≤ nb.cmdlen)
      (hi : nb.cmdlen ≤ maxBuf)
  | command (accepted : isCommand r = true) (state : nb.state = .command)
      (len : nb.cmdlen = r.length) (text : nb.command = r)
  | skip (nonempty : r ≠ []) (refused : isCommand r = false) (state : nb.state = .skip)
      (lo : 0 ≤ nb.cmdlen) (hi : nb.cmdlen ≤ maxBuf)

theorem ControlBuffer.Holds.inBuffer {nb : ControlBuffer} {r : List UInt8} (h : nb.Holds r) :
    0 ≤ nb.cmdlen ∧ nb.cmdlen ≤ maxBuf := by
  cases h with
  | idle _ _ lo hi => exact ⟨lo, hi⟩
  | command accepted _ len _ =>
      have hshort := (isCommand_iff.mp accepted).2.1
      omega
  | skip _ _ _ lo hi => exact ⟨lo, hi⟩

theorem fresh_holds : ControlBuffer.fresh.Holds [] :=
  .idle rfl rfl (by decide) (by decide)

/-- Bytes behind a refused remainder do not mend it. -/
theorem isCommand_append {r : List UInt8} {b : UInt8} (hne : r ≠ []) (h : isCommand r = false) :
    isCommand (r ++ [b]) = false := by
  rw [Bool.eq_false_iff, ne_eq, isCommand_iff] at h ⊢
  rintro ⟨-, hlen, hgood⟩
  rw [List.length_append, List.length_singleton] at hlen
  exact h ⟨hne, by omega, fun c hc => hgood c (List.mem_append_left _ hc)⟩

section Automaton

variable {τ : Type} (cmd : τ → List UInt8 → Except Fault (τ × Int)) (t : τ)

/-- A good byte in a line is stored, and fills the buffer if it is the hundredth. -/
theorem cmdparserLine_good (nb : ControlBuffer) {r : List UInt8} {b : UInt8}
    (hstate : nb.state = .command) (hlen : nb.cmdlen = r.length) (htext : nb.command = r)
    (hshort : r.length < maxBuf) (hgood : ∀ c ∈ r ++ [b], isBad c = false) :
    ∃ nb', cmdparserLine cmd (t, nb) b = .ok ((t, nb'), true) ∧ nb'.Holds (r ++ [b]) := by
  have hb : isBad b = false := hgood b (by simp)
  have hline : isNewline b = false := by
    cases hn : isNewline b with
    | false => rfl
    | true =>
        rw [isBad_of_isNewline hn] at hb
        cases hb
  have hlow : ¬ gchar b < 0x20 := by
    rw [gchar_lt_iff, hb]
    simp
  have hstore : store nb.cmd nb.cmdlen b = .ok (nb.cmd.set r.length b) := by
    rw [hlen]
    exact store_ok _ _ hshort
  have hprefix : nb.cmd.toList.take r.length = r := by
    have hnat : nb.cmdlen.toNat = r.length := by omega
    rw [ControlBuffer.command, hnat] at htext
    exact htext
  have htake : (nb.cmd.set r.length b).toList.take (r.length + 1) = r ++ [b] := by
    rw [take_set_succ _ _ hshort, hprefix]
  have hrun : cmdparserLine cmd (t, nb) b
      = if nb.cmdlen + 1 = (maxBuf : Int)
        then .ok ((t, { nb with
          cmd := nb.cmd.set r.length b, cmdlen := nb.cmdlen + 1, state := .skip }), true)
        else .ok ((t, { nb with
          cmd := nb.cmd.set r.length b, cmdlen := nb.cmdlen + 1 }), true) := by
    unfold cmdparserLine
    simp only [hline, Bool.false_eq_true, if_false, if_neg hlow, hstore, ok_bind, pure_eq_ok]
  by_cases hfull : nb.cmdlen + 1 = (maxBuf : Int)
  · refine ⟨_, hrun.trans (if_pos hfull), .skip (by simp) ?_ rfl ?_ (Int.le_of_eq hfull)⟩
    · rw [Bool.eq_false_iff, ne_eq, isCommand_iff]
      rintro ⟨-, hlt, -⟩
      rw [List.length_append, List.length_singleton] at hlt
      omega
    · show 0 ≤ nb.cmdlen + 1
      omega
  · refine ⟨_, hrun.trans (if_neg hfull), .command ?_ hstate ?_ ?_⟩
    · refine isCommand_iff.mpr ⟨by simp, ?_, hgood⟩
      rw [List.length_append, List.length_singleton]
      omega
    · show nb.cmdlen + 1 = _
      rw [hlen, List.length_append, List.length_singleton]
      rfl
    · show (nb.cmd.set r.length b).toList.take (nb.cmdlen + 1).toNat = _
      have hnat : (nb.cmdlen + 1).toNat = r.length + 1 := by omega
      rw [hnat, htake]

/-- A bad byte in a line, other than a newline, has the rest of it skipped. -/
theorem cmdparserLine_bad {nb : ControlBuffer} {b : UInt8} (hline : isNewline b = false)
    (hb : isBad b = true) :
    cmdparserLine cmd (t, nb) b = .ok ((t, { nb with state := .skip }), true) := by
  unfold cmdparserLine
  simp only [hline, Bool.false_eq_true, if_false, if_pos ((gchar_lt_iff b).mpr hb)]

/-- A byte of a piece. -/
theorem cmdparserParse_inside {nb : ControlBuffer} {p : List UInt8} {b : UInt8}
    (h : nb.Holds (remainder p)) (hline : isNewline b = false) :
    ∃ nb', cmdparserParse cmd (t, nb) b = .ok ((t, nb'), true)
      ∧ nb'.Holds (remainder (p ++ [b])) := by
  rw [remainder_append]
  cases h with
  | idle empty state lo hi =>
      rw [if_pos empty]
      cases hb : isBad b with
      | true =>
          have hlow := (gchar_lt_iff b).mpr hb
          refine ⟨nb, ?_, .idle rfl state lo hi⟩
          unfold cmdparserParse
          simp only [state]
          rw [if_neg (by omega)]
      | false =>
          have hhigh : 0x20 ≤ gchar b := by
            have hlow := mt (gchar_lt_iff b).mp (by simp [hb])
            omega
          have hgood : ∀ c ∈ ([] : List UInt8) ++ [b], isBad c = false := by simpa using hb
          obtain ⟨nb', hrun, hat⟩ := cmdparserLine_good cmd t
            { nb with state := .command, cmdlen := 0 } (r := []) rfl rfl rfl (by decide) hgood
          refine ⟨nb', ?_, hat⟩
          unfold cmdparserParse
          simp only [state]
          rw [if_pos hhigh]
          exact hrun
  | command accepted state len text =>
      obtain ⟨hne, hshort, hgood⟩ := isCommand_iff.mp accepted
      have hparse : cmdparserParse cmd (t, nb) b = cmdparserLine cmd (t, nb) b := by
        unfold cmdparserParse
        simp only [state]
      rw [if_neg hne, hparse]
      cases hb : isBad b with
      | true =>
          refine ⟨_, cmdparserLine_bad cmd t hline hb, .skip (by simp) ?_ rfl ?_ ?_⟩
          · rw [Bool.eq_false_iff, ne_eq, isCommand_iff]
            rintro ⟨-, -, hall⟩
            rw [hall b (by simp)] at hb
            cases hb
          · show 0 ≤ nb.cmdlen
            omega
          · show nb.cmdlen ≤ maxBuf
            omega
      | false =>
          refine cmdparserLine_good cmd t nb state len text hshort fun c hc => ?_
          rcases List.mem_append.mp hc with hc | hc
          · exact hgood c hc
          · rw [List.mem_singleton.mp hc]
            exact hb
  | skip nonempty refused state lo hi =>
      rw [if_neg nonempty]
      refine ⟨nb, ?_, .skip (by simp) (isCommand_append nonempty refused) state lo hi⟩
      unfold cmdparserParse
      simp only [state, hline, Bool.false_eq_true, if_false]

/-- What `cmdparser_parse` does with a command, as a loop body. -/
def giveCommand (t : τ) (line : List UInt8) : Except Fault (τ × Bool) :=
  match cmd t line with
  | .ok (t, len) => .ok (t, decide (0 ≤ len))
  | .error x => .error x

/-- The newline of a piece. -/
theorem cmdparserParse_ends {nb : ControlBuffer} {p : List UInt8} {b : UInt8}
    (h : nb.Holds (remainder p)) (hline : isNewline b = true) :
    ∃ nb', nb'.Holds [] ∧ cmdparserParse cmd (t, nb) b
      = (Lines.hand (giveCommand cmd) t (lineCommand p)).map fun r => ((r.1, nb'), r.2) := by
  have hin := h.inBuffer
  refine ⟨{ nb with state := .idle }, .idle rfl rfl hin.1 hin.2, ?_⟩
  unfold cmdparserParse lineCommand
  cases h with
  | idle empty state lo hi =>
      have hlow := (gchar_lt_iff b).mpr (isBad_of_isNewline hline)
      simp only [state]
      rw [if_neg (by omega), empty, if_neg (by decide), ← state]
      rfl
  | command accepted state len text =>
      simp only [state]
      rw [if_pos accepted]
      unfold cmdparserLine
      simp only [hline, if_true, Lines.hand, giveCommand, text]
      cases cmd t (remainder p) with
      | ok r => rfl
      | error x => rfl
  | skip nonempty refused state lo hi =>
      simp only [state, hline, if_true, refused]
      rfl

/-- **The parser is a reader of lines.** -/
theorem cmdparser_reader : Lines.Reader isNewline lineCommand (giveCommand cmd)
    (fun p nb => nb.Holds (remainder p)) (cmdparserParse cmd) where
  inside t h hline := cmdparserParse_inside cmd t h hline
  ends t h hline := cmdparserParse_ends cmd t h hline

/-- However a stream is read, what is done is what the commands of the stream ask for. -/
theorem controlReads_eq (reads : List (List UInt8)) :
    ∃ nb r, nb.Holds r ∧ controlReads cmd (t, ControlBuffer.fresh) reads
      = (Lines.untilLast (giveCommand cmd) t (lineCommands reads.flatten)).map
          fun q => ((q.1, nb), q.2) := by
  obtain ⟨p, nb, hat, hrun⟩ := (cmdparser_reader cmd).reads (p := []) fresh_holds (by simp) t
    reads.flatten
  refine ⟨nb, remainder p, hat, ?_⟩
  rw [controlReads_flatten, lineCommands_eq]
  exact hrun

end Automaton

/-! ## A control connection -/

/-- What has passed through a control connection. -/
structure ControlSession where
  /-- the lines given to `cmdparser_cmd` -/
  passed : List (List UInt8)
  /-- the results written to the stream -/
  written : List (List UInt8)

def ControlSession.fresh : ControlSession := ⟨[], []⟩

/-- `cmdparser_cmd`, and the write of its result. The nodes can be others at every command. -/
def ControlSession.cmd (scanner : Scanner) (listNodes : Nat → List UInt8) (s : ControlSession)
    (line : List UInt8) : Except Fault (ControlSession × Int) :=
  let reply := cmdparserCmd scanner (listNodes s.passed.length) line
  .ok (⟨s.passed ++ [line], s.written ++ [reply.2]⟩, reply.1)

theorem giveCommand_session (scanner : Scanner) (listNodes : Nat → List UInt8)
    (s : ControlSession) (line : List UInt8) :
    ∃ s', giveCommand (ControlSession.cmd scanner listNodes) s line
        = .ok (s', !scanner.isExit line) ∧ s'.passed = s.passed ++ [line] := by
  let reply := cmdparserCmd scanner (listNodes s.passed.length) line
  refine ⟨⟨s.passed ++ [line], s.written ++ [reply.2]⟩, ?_, rfl⟩
  have hexit := cmdparserCmd_neg_iff scanner (listNodes s.passed.length) line
  have hflag : decide (0 ≤ reply.1) = !scanner.isExit line := by
    cases he : scanner.isExit line with
    | true => simpa using hexit.mpr he
    | false =>
        have := mt hexit.mp (by simp [he])
        simpa using this
  rw [← hflag]
  rfl

/-- **The parser accepts its grammar, and nothing else.** Whatever is read on a control
connection, and however it is split: the lines given to `cmdparser_cmd` are the commands of the
stream up to the first exit, and at every byte `cmdlen` lies in the buffer. That the run is
`ok` says that every write to `nb->cmd` lay inside. -/
theorem cmdparser_parse_lines (scanner : Scanner) (listNodes : Nat → List UInt8)
    (reads : List (List UInt8)) :
    (∃ s nb goOn, controlReads (ControlSession.cmd scanner listNodes)
          (ControlSession.fresh, ControlBuffer.fresh) reads = .ok ((s, nb), goOn)
        ∧ s.passed = Lines.through scanner.isExit (lineCommands reads.flatten))
      ∧ ∀ done pre post rest, reads = done ++ (pre ++ post) :: rest →
        ∃ s nb goOn, controlReads (ControlSession.cmd scanner listNodes)
            (ControlSession.fresh, ControlBuffer.fresh) (done ++ [pre]) = .ok ((s, nb), goOn)
          ∧ 0 ≤ nb.cmdlen ∧ nb.cmdlen ≤ 100 := by
  have hany : ∀ reads, ∃ s nb goOn, controlReads (ControlSession.cmd scanner listNodes)
          (ControlSession.fresh, ControlBuffer.fresh) reads = .ok ((s, nb), goOn)
        ∧ s.passed = Lines.through scanner.isExit (lineCommands reads.flatten)
        ∧ 0 ≤ nb.cmdlen ∧ nb.cmdlen ≤ 100 := by
    intro reads
    obtain ⟨nb, r, hholds, hrun⟩ :=
      controlReads_eq (ControlSession.cmd scanner listNodes) ControlSession.fresh reads
    obtain ⟨s, hgive, hpassed⟩ := Lines.untilLast_log
      (giveCommand_session scanner listNodes) ControlSession.fresh (lineCommands reads.flatten)
    refine ⟨s, nb, !(lineCommands reads.flatten).any scanner.isExit, ?_,
      by simpa [ControlSession.fresh] using hpassed, hholds.inBuffer⟩
    rw [hrun, hgive]
    rfl
  refine ⟨?_, fun done pre post rest _ => ?_⟩
  · obtain ⟨s, nb, goOn, hrun, hpassed, -⟩ := hany reads
    exact ⟨s, nb, goOn, hrun, hpassed⟩
  · obtain ⟨s, nb, goOn, hrun, -, hin⟩ := hany (done ++ [pre])
    exact ⟨s, nb, goOn, hrun, hin⟩

end Ubd
