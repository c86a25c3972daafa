import Ubd.Basics

/-!
# Tcp.Parse — the command parser of `net_tcp.c`

`tcp_parse` handles one byte of a class or management connection. Where the
source calls back, the model returns a `Request`; `tcpListenerRead` hands the
requests to whatever carries them out, byte by byte, as the loop of
`tcp_listener_read` does.

The parser has no guard against a binary command of length 0, and that is the
only way to break it: `cmd_never_overrun_iff`.
-/

namespace Ubd

/-- `MAX_BUF` -/
def maxBuf : Nat := 100

/-- The character `C`. -/
def charC : UInt8 := 0x43

/-- The character `B`. -/
def charB : UInt8 := 0x42

/-- The character `L`. -/
def charL : UInt8 := 0x4C

/-- `data == '\n' || data == '\r'` -/
def isNewline (data : UInt8) : Bool := data = 0x0A || data = 0x0D

/-- `nb->state`, numbered 0 to 4 in this order. -/
inductive ParseState where
  | idle
  | chars
  | length
  | binary
  | skip
  deriving DecidableEq, Repr

/-- The fields of `struct nodebuffer` the parser keeps its place in. -/
structure NodeBuffer where
  cmd : Vector UInt8 maxBuf
  cmdlen : Int
  state : ParseState
  cmdbinlen : Int

/-- A `nodebuffer` as `g_new0` makes it. -/
def NodeBuffer.fresh : NodeBuffer where
  cmd := Vector.replicate maxBuf 0
  cmdlen := 0
  state := .idle
  cmdbinlen := 0

/-- The bytes a callback is given: `nb->cmd` and `nb->cmdlen`. -/
def NodeBuffer.command (nb : NodeBuffer) : List UInt8 := nb.cmd.toList.take nb.cmdlen.toNat

inductive Request where
  /-- `nb->callback(nb)` -/
  | command (cmd : List UInt8)
  /-- `listen_register(nb->n, nb->classid, nb->out)` -/
  | listen
  deriving DecidableEq, Repr

/-- `tcp_parse` -/
def tcpParse (nb : NodeBuffer) (data : UInt8) : Except Fault (NodeBuffer × Option Request) :=
  match nb.state with
  | .idle =>
      if data = charC then
        .ok ({ nb with state := .chars, cmdlen := 0 }, none)
      else if data = charB then
        .ok ({ nb with state := .length, cmdlen := 0, cmdbinlen := 0 }, none)
      else if data = charL then
        .ok (nb, some .listen)
      else
        .ok (nb, none)
  | .chars =>
      if isNewline data then
        .ok ({ nb with state := .idle }, some (.command nb.command))
      else do
        let cmd ← store nb.cmd nb.cmdlen data
        let nb := { nb with cmd := cmd, cmdlen := nb.cmdlen + 1 }
        if nb.cmdlen = (maxBuf : Int) then
          return ({ nb with state := .skip }, none)
        else
          return (nb, none)
  | .length =>
      if data.toNat ≤ maxBuf then
        .ok ({ nb with cmdbinlen := data.toNat, state := .binary }, none)
      else
        .ok ({ nb with state := .idle }, none)
  | .binary => do
      let cmd ← store nb.cmd nb.cmdlen data
      let nb := { nb with cmd := cmd, cmdlen := nb.cmdlen + 1, cmdbinlen := nb.cmdbinlen - 1 }
      if nb.cmdbinlen = 0 then
        return ({ nb with state := .idle }, some (.command nb.command))
      else
        return (nb, none)
  | .skip =>
      if isNewline data then
        .ok ({ nb with state := .idle }, none)
      else
        .ok (nb, none)

section Reading

variable {σ : Type} (handle : σ → Request → Except Fault σ)

/-- One turn of the loop of `tcp_listener_read`: parse a byte and carry out what it
asks for. -/
def tcpListenerByte (p : σ × NodeBuffer) (data : UInt8) : Except Fault (σ × NodeBuffer) := do
  match ← tcpParse p.2 data with
  | (nb, none) => return (p.1, nb)
  | (nb, some r) =>
      let s ← handle p.1 r
      return (s, nb)

/-- `tcp_listener_read` on the bytes of one read. -/
def tcpListenerRead (p : σ × NodeBuffer) (buf : List UInt8) : Except Fault (σ × NodeBuffer) :=
  buf.foldlM (tcpListenerByte handle) p

/-- The reads of a connection, one after the other. -/
def tcpListenerReads (p : σ × NodeBuffer) (reads : List (List UInt8)) :
    Except Fault (σ × NodeBuffer) :=
  reads.foldlM (tcpListenerRead handle) p

/-- How the bytes are split into reads makes no difference. -/
theorem tcpListenerReads_flatten (p : σ × NodeBuffer) (reads : List (List UInt8)) :
    tcpListenerReads handle p reads = tcpListenerRead handle p reads.flatten := by
  induction reads generalizing p with
  | nil => rfl
  | cons buf reads ih =>
      unfold tcpListenerReads tcpListenerRead at *
      rw [List.foldlM_cons, List.flatten_cons, List.foldlM_append]
      exact bind_congr fun q => ih q

theorem tcpListenerRead_append (p : σ × NodeBuffer) (l r : List UInt8) :
    tcpListenerRead handle p (l ++ r)
      = tcpListenerRead handle p l >>= fun q => tcpListenerRead handle q r :=
  List.foldlM_append

theorem tcpListenerRead_cons (p : σ × NodeBuffer) (b : UInt8) (l : List UInt8) :
    tcpListenerRead handle p (b :: l)
      = tcpListenerByte handle p b >>= fun q => tcpListenerRead handle q l :=
  List.foldlM_cons

end Reading

/-! ## The grammar of a connection -/

/-- A complete piece of the stream. -/
inductive Item where
  /-- A byte between commands. -/
  | other (b : UInt8) (h : b ≠ charC ∧ b ≠ charB)
  /-- A `C` command and its newline. -/
  | chars (payload : List UInt8) (nl : UInt8) (h : ∀ b ∈ payload, isNewline b = false)
      (hnl : isNewline nl = true)
  /-- A `B` command, its length byte and its data. -/
  | binary (payload : List UInt8) (h : 1 ≤ payload.length ∧ payload.length ≤ maxBuf)
  /-- A `B` and a length byte that is refused. -/
  | refused (n : UInt8) (h : maxBuf < n.toNat)

def Item.bytes : Item → List UInt8
  | .other b _ => [b]
  | .chars payload nl _ _ => charC :: (payload ++ [nl])
  | .binary payload _ => charB :: UInt8.ofNat payload.length :: payload
  | .refused n _ => [charB, n]

/-- What an item makes the parser ask for. A `C` command that fills the buffer is
skipped. -/
def Item.request : Item → Option Request
  | .other b _ => if b = charL then some .listen else none
  | .chars payload _ _ _ => if payload.length < maxBuf then some (.command payload) else none
  | .binary payload _ => some (.command payload)
  | .refused _ _ => none

/-- The beginning of an item. -/
inductive Partial where
  | nothing
  | chars (payload : List UInt8)
  | length
  | binary (n : Nat) (payload : List UInt8)

def Partial.bytes : Partial → List UInt8
  | .nothing => []
  | .chars payload => charC :: payload
  | .length => [charB]
  | .binary n payload => charB :: UInt8.ofNat n :: payload

/-- The parser state that belongs to a partial item. -/
def Partial.At (nb : NodeBuffer) : Partial → Prop
  | .nothing => nb.state = .idle ∧ 0 ≤ nb.cmdlen ∧ nb.cmdlen ≤ maxBuf
  | .chars payload => (∀ b ∈ payload, isNewline b = false)
      ∧ (payload.length < maxBuf → nb.state = .chars ∧ nb.cmdlen = payload.length
          ∧ nb.command = payload)
      ∧ (maxBuf ≤ payload.length → nb.state = .skip ∧ nb.cmdlen = maxBuf)
  | .length => nb.state = .length ∧ nb.cmdlen = 0
  | .binary n payload => n ≤ maxBuf ∧ payload.length < n ∧ nb.state = .binary
      ∧ nb.cmdlen = payload.length ∧ nb.cmdbinlen = n - payload.length ∧ nb.command = payload

theorem at_fresh : Partial.At NodeBuffer.fresh .nothing := by
  refine ⟨rfl, ?_, ?_⟩ <;> decide

/-! ## One byte -/

/-- Storing a byte behind the command extends the command. -/
theorem store_command {nb : NodeBuffer} {payload : List UInt8} (b : UInt8)
    (hlen : nb.cmdlen = payload.length) (hcmd : nb.command = payload)
    (hroom : payload.length < maxBuf) :
    ∃ cmd, store nb.cmd nb.cmdlen b = .ok cmd
      ∧ cmd.toList.take (payload.length + 1) = payload ++ [b] := by
  refine ⟨nb.cmd.set payload.length b, ?_, ?_⟩
  · rw [hlen]
    exact store_ok _ _ hroom
  · have hprefix : nb.cmd.toList.take payload.length = payload := by
      have hnat : nb.cmdlen.toNat = payload.length := by omega
      rw [NodeBuffer.command, hnat] at hcmd
      exact hcmd
    rw [take_set_succ _ _ hroom, hprefix]

theorem tcpParse_idle_chars {nb : NodeBuffer} (h : Partial.At nb .nothing) :
    ∃ nb', tcpParse nb charC = .ok (nb', none) ∧ Partial.At nb' (.chars []) := by
  obtain ⟨hstate, -, -⟩ := h
  refine ⟨{ nb with state := .chars, cmdlen := 0 }, ?_, by simp, ?_, ?_⟩
  · simp [tcpParse, hstate]
  · intro _
    exact ⟨rfl, rfl, rfl⟩
  · intro hlong
    simp [maxBuf] at hlong

theorem tcpParse_idle_binary {nb : NodeBuffer} (h : Partial.At nb .nothing) :
    ∃ nb', tcpParse nb charB = .ok (nb', none) ∧ Partial.At nb' .length := by
  obtain ⟨hstate, -, -⟩ := h
  have hne : charB ≠ charC := by decide
  exact ⟨{ nb with state := .length, cmdlen := 0, cmdbinlen := 0 },
    by simp [tcpParse, hstate, hne], rfl, rfl⟩

theorem tcpParse_idle_other {nb : NodeBuffer} (h : Partial.At nb .nothing) {b : UInt8}
    (hb : b ≠ charC ∧ b ≠ charB) :
    tcpParse nb b = .ok (nb, (Item.other b hb).request) := by
  obtain ⟨hstate, -, -⟩ := h
  by_cases hl : b = charL
  · have hnot : charL ≠ charC ∧ charL ≠ charB := by decide
    simp [tcpParse, hstate, hnot, Item.request, hl]
  · simp [tcpParse, hstate, hb, Item.request, hl]

/-- A character of a `C` command: stored, or skipped behind a full buffer. -/
theorem tcpParse_chars {nb : NodeBuffer} {payload : List UInt8}
    (h : Partial.At nb (.chars payload)) {b : UInt8} (hb : isNewline b = false) :
    ∃ nb', tcpParse nb b = .ok (nb', none) ∧ Partial.At nb' (.chars (payload ++ [b])) := by
  obtain ⟨hclean, hshort, hlong⟩ := h
  have hclean' : ∀ c ∈ payload ++ [b], isNewline c = false := by
    intro c hc
    rcases List.mem_append.mp hc with hc | hc
    · exact hclean c hc
    · rw [List.mem_singleton.mp hc]
      exact hb
  by_cases hroom : payload.length < maxBuf
  · obtain ⟨hstate, hlen, hcmd⟩ := hshort hroom
    obtain ⟨cmd, hstore, htake⟩ := store_command b hlen hcmd hroom
    by_cases hfull : payload.length + 1 = maxBuf
    · refine ⟨{ nb with cmd := cmd, cmdlen := nb.cmdlen + 1, state := .skip }, ?_, hclean', ?_, ?_⟩
      · have hint : nb.cmdlen + 1 = (maxBuf : Int) := by omega
        simp [tcpParse, hstate, hb, hstore, hint]
      · intro hlt
        simp at hlt
        omega
      · intro _
        refine ⟨rfl, ?_⟩
        show nb.cmdlen + 1 = (maxBuf : Int)
        omega
    · refine ⟨{ nb with cmd := cmd, cmdlen := nb.cmdlen + 1 }, ?_, hclean', ?_, ?_⟩
      · have hint : nb.cmdlen + 1 ≠ (maxBuf : Int) := by omega
        simp [tcpParse, hstate, hb, hstore, hint]
      · intro _
        refine ⟨hstate, by simp [hlen], ?_⟩
        have hnat : (nb.cmdlen + 1).toNat = payload.length + 1 := by omega
        rw [NodeBuffer.command, hnat, htake]
      · intro hge
        simp at hge
        omega
  · obtain ⟨hstate, hlen⟩ := hlong (by omega)
    refine ⟨nb, by simp [tcpParse, hstate, hb], hclean', ?_, ?_⟩
    · intro hlt
      simp at hlt
      omega
    · exact fun _ => ⟨hstate, hlen⟩

theorem tcpParse_chars_newline {nb : NodeBuffer} {payload : List UInt8}
    (h : Partial.At nb (.chars payload)) {b : UInt8} (hb : isNewline b = true) :
    ∃ nb', tcpParse nb b = .ok (nb', (Item.chars payload b h.1 hb).request)
      ∧ Partial.At nb' .nothing := by
  obtain ⟨hclean, hshort, hlong⟩ := h
  refine ⟨{ nb with state := .idle }, ?_, ?_⟩
  · by_cases hroom : payload.length < maxBuf
    · obtain ⟨hstate, -, hcmd⟩ := hshort hroom
      simp [tcpParse, hstate, hb, hcmd, Item.request, hroom]
    · obtain ⟨hstate, -⟩ := hlong (by omega)
      simp [tcpParse, hstate, hb, Item.request, hroom]
  · by_cases hroom : payload.length < maxBuf
    · obtain ⟨-, hlen, -⟩ := hshort hroom
      refine ⟨rfl, ?_, ?_⟩ <;> show _ <;> simp only [hlen] <;> omega
    · obtain ⟨-, hlen⟩ := hlong (by omega)
      refine ⟨rfl, ?_, ?_⟩ <;> show _ <;> simp only [hlen] <;> omega

theorem tcpParse_length {nb : NodeBuffer} (h : Partial.At nb .length) {b : UInt8} (hb : b ≠ 0)
    (hle : b.toNat ≤ maxBuf) :
    ∃ nb', tcpParse nb b = .ok (nb', none) ∧ Partial.At nb' (.binary b.toNat []) := by
  obtain ⟨hstate, hlen⟩ := h
  have hpos : 0 < b.toNat := by
    rw [Nat.pos_iff_ne_zero]
    intro h0
    exact hb (UInt8.toNat_inj.mp h0)
  refine ⟨{ nb with cmdbinlen := b.toNat, state := .binary }, by simp [tcpParse, hstate, hle],
    hle, hpos, rfl, hlen, ?_, ?_⟩
  · simp
  · simp [NodeBuffer.command, hlen]

theorem tcpParse_length_refused {nb : NodeBuffer} (h : Partial.At nb .length) {b : UInt8}
    (hgt : maxBuf < b.toNat) :
    ∃ nb', tcpParse nb b = .ok (nb', none) ∧ Partial.At nb' .nothing := by
  obtain ⟨hstate, hlen⟩ := h
  refine ⟨{ nb with state := .idle }, by simp [tcpParse, hstate, hgt], rfl, ?_, ?_⟩
  · exact hlen.ge
  · show nb.cmdlen ≤ (maxBuf : Int)
    omega

/-- The data of a `B` command: stored, and handed over with the last byte. -/
theorem tcpParse_binary {nb : NodeBuffer} {n : Nat} {payload : List UInt8}
    (h : Partial.At nb (.binary n payload)) (b : UInt8) :
    ∃ nb', (payload.length + 1 < n → tcpParse nb b = .ok (nb', none)
          ∧ Partial.At nb' (.binary n (payload ++ [b])))
      ∧ (payload.length + 1 = n → tcpParse nb b = .ok (nb', some (.command (payload ++ [b])))
          ∧ Partial.At nb' .nothing) := by
  obtain ⟨hn, hlt, hstate, hlen, hbin, hcmd⟩ := h
  obtain ⟨cmd, hstore, htake⟩ := store_command b hlen hcmd (by omega)
  have hnat : (nb.cmdlen + 1).toNat = payload.length + 1 := by omega
  by_cases hlast : payload.length + 1 = n
  · have h0 : nb.cmdbinlen - 1 = 0 := by omega
    refine ⟨{ nb with
      cmd := cmd
      cmdlen := nb.cmdlen + 1
      cmdbinlen := nb.cmdbinlen - 1
      state := .idle }, by omega, fun _ => ⟨?_, rfl, ?_, ?_⟩⟩
    · simp [tcpParse, hstate, hstore, h0, NodeBuffer.command, hnat, htake]
    · show 0 ≤ nb.cmdlen + 1
      omega
    · show nb.cmdlen + 1 ≤ (maxBuf : Int)
      omega
  · have h0 : nb.cmdbinlen - 1 ≠ 0 := by omega
    refine ⟨{ nb with cmd := cmd, cmdlen := nb.cmdlen + 1, cmdbinlen := nb.cmdbinlen - 1 },
      fun _ => ⟨?_, hn, ?_, hstate, ?_, ?_, ?_⟩, by omega⟩
    · simp [tcpParse, hstate, hstore, h0]
    · simp only [List.length_append, List.length_singleton]
      omega
    · simp [hlen]
    · simp only [hbin, List.length_append, List.length_singleton]
      omega
    · rw [NodeBuffer.command, hnat, htake]

/-- **One byte of any kind**, the zero length byte excepted: it extends the partial item
or completes an item, and asks for what that item asks for. -/
theorem tcpParse_step {nb : NodeBuffer} {t : Partial} (h : t.At nb) (b : UInt8)
    (hzero : ¬ (t = .length ∧ b = 0)) :
    ∃ nb' r, tcpParse nb b = .ok (nb', r)
      ∧ ((∃ t' : Partial, t'.bytes = t.bytes ++ [b] ∧ t'.At nb' ∧ r = none)
        ∨ ∃ i : Item, i.bytes = t.bytes ++ [b] ∧ Partial.At nb' .nothing ∧ r = i.request) := by
  cases t with
  | nothing =>
      by_cases hc : b = charC
      · subst hc
        obtain ⟨nb', hrun, hat⟩ := tcpParse_idle_chars h
        exact ⟨nb', none, hrun, .inl ⟨.chars [], rfl, hat, rfl⟩⟩
      · by_cases hb : b = charB
        · subst hb
          obtain ⟨nb', hrun, hat⟩ := tcpParse_idle_binary h
          exact ⟨nb', none, hrun, .inl ⟨.length, rfl, hat, rfl⟩⟩
        · exact ⟨nb, _, tcpParse_idle_other h ⟨hc, hb⟩, .inr ⟨.other b ⟨hc, hb⟩, rfl, h, rfl⟩⟩
  | chars payload =>
      cases hb : isNewline b with
      | false =>
          obtain ⟨nb', hrun, hat⟩ := tcpParse_chars h hb
          exact ⟨nb', none, hrun, .inl ⟨.chars (payload ++ [b]), rfl, hat, rfl⟩⟩
      | true =>
          obtain ⟨nb', hrun, hat⟩ := tcpParse_chars_newline h hb
          exact ⟨nb', _, hrun, .inr ⟨.chars payload b h.1 hb, rfl, hat, rfl⟩⟩
  | length =>
      have hb : b ≠ 0 := fun h0 => hzero ⟨rfl, h0⟩
      by_cases hle : b.toNat ≤ maxBuf
      · obtain ⟨nb', hrun, hat⟩ := tcpParse_length h hb hle
        exact ⟨nb', none, hrun, .inl ⟨.binary b.toNat [], by simp [Partial.bytes], hat, rfl⟩⟩
      · have hgt : maxBuf < b.toNat := by omega
        obtain ⟨nb', hrun, hat⟩ := tcpParse_length_refused h hgt
        exact ⟨nb', none, hrun, .inr ⟨.refused b hgt, rfl, hat, rfl⟩⟩
  | binary n payload =>
      obtain ⟨nb', hmore, hlast⟩ := tcpParse_binary h b
      obtain ⟨hn, hlt, -⟩ := h
      by_cases hend : payload.length + 1 = n
      · obtain ⟨hrun, hat⟩ := hlast hend
        have hlen : (payload ++ [b]).length = n := by simpa using hend
        refine ⟨nb', _, hrun, .inr ⟨.binary (payload ++ [b]) ⟨by omega, by omega⟩, ?_, hat, rfl⟩⟩
        simp [Item.bytes, Partial.bytes, hend]
      · obtain ⟨hrun, hat⟩ := hmore (by omega)
        exact ⟨nb', none, hrun,
          .inl ⟨.binary n (payload ++ [b]), by simp [Partial.bytes], hat, rfl⟩⟩

/-! ## Whole items -/

section Items

variable {σ : Type} (handle : σ → Request → Except Fault σ)

def carryOut (s : σ) : Option Request → Except Fault σ
  | none => .ok s
  | some r => handle s r

/-- Carry out what a list of items asks for. -/
def carryOutAll (s : σ) (items : List Item) : Except Fault σ :=
  items.foldlM (fun s i => carryOut handle s i.request) s

theorem carryOutAll_append (s : σ) (items : List Item) (i : Item) :
    carryOutAll handle s (items ++ [i])
      = carryOutAll handle s items >>= fun s' => carryOut handle s' i.request := by
  simp [carryOutAll, List.foldlM_append]

theorem tcpListenerByte_eq {nb nb' : NodeBuffer} {b : UInt8} {r : Option Request}
    (h : tcpParse nb b = .ok (nb', r)) (s : σ) :
    tcpListenerByte handle (s, nb) b = carryOut handle s r >>= fun s' => .ok (s', nb') := by
  cases r with
  | none => simp [tcpListenerByte, h, carryOut]
  | some r => simp [tcpListenerByte, h, carryOut]

theorem tcpListenerRead_chars {s : σ} {nb : NodeBuffer} {p : List UInt8}
    (h : Partial.At nb (.chars p)) {q : List UInt8} (hq : ∀ b ∈ q, isNewline b = false) :
    ∃ nb', tcpListenerRead handle (s, nb) q = .ok (s, nb')
      ∧ Partial.At nb' (.chars (p ++ q)) := by
  induction q generalizing nb p with
  | nil => exact ⟨nb, rfl, by simpa using h⟩
  | cons b q ih =>
      obtain ⟨nb₁, hrun, hat⟩ := tcpParse_chars h (hq b (by simp))
      obtain ⟨nb', hread, hat'⟩ := ih hat (fun c hc => hq c (by simp [hc]))
      refine ⟨nb', ?_, by simpa using hat'⟩
      rw [tcpListenerRead_cons, tcpListenerByte_eq handle hrun]
      exact hread

theorem tcpListenerRead_binary {s : σ} {nb : NodeBuffer} {n : Nat} {p : List UInt8}
    (h : Partial.At nb (.binary n p)) {q : List UInt8} (hq : p.length + q.length < n) :
    ∃ nb', tcpListenerRead handle (s, nb) q = .ok (s, nb')
      ∧ Partial.At nb' (.binary n (p ++ q)) := by
  induction q generalizing nb p with
  | nil => exact ⟨nb, rfl, by simpa using h⟩
  | cons b q ih =>
      simp only [List.length_cons] at hq
      obtain ⟨nb₁, hmore, -⟩ := tcpParse_binary h b
      obtain ⟨hrun, hat⟩ := hmore (by omega)
      obtain ⟨nb', hread, hat'⟩ := ih hat (by simp; omega)
      refine ⟨nb', ?_, by simpa using hat'⟩
      rw [tcpListenerRead_cons, tcpListenerByte_eq handle hrun]
      exact hread

/-- A whole item leads back to the state between commands. -/
theorem tcpListenerRead_item (s : σ) {nb : NodeBuffer} (h : Partial.At nb .nothing) (i : Item) :
    ∃ nb', Partial.At nb' .nothing
      ∧ tcpListenerRead handle (s, nb) i.bytes
        = carryOut handle s i.request >>= fun s' => .ok (s', nb') := by
  cases i with
  | other b hb =>
      refine ⟨nb, h, ?_⟩
      rw [Item.bytes, tcpListenerRead_cons, tcpListenerByte_eq handle (tcpParse_idle_other h hb)]
      exact bind_ok _
  | chars payload nl hp hnl =>
      obtain ⟨nb₁, hrun₁, hat₁⟩ := tcpParse_idle_chars h
      obtain ⟨nb₂, hrun₂, hat₂⟩ := tcpListenerRead_chars handle (s := s) hat₁ hp
      rw [List.nil_append] at hat₂
      obtain ⟨nb', hrun, hat⟩ := tcpParse_chars_newline hat₂ hnl
      refine ⟨nb', hat, ?_⟩
      rw [Item.bytes, tcpListenerRead_cons, tcpListenerByte_eq handle hrun₁]
      simp only [carryOut, ok_bind]
      rw [tcpListenerRead_append, hrun₂, ok_bind, tcpListenerRead_cons,
        tcpListenerByte_eq handle hrun]
      exact bind_ok _
  | binary payload hp =>
      obtain ⟨nb₁, hrun₁, hat₁⟩ := tcpParse_idle_binary h
      have hn : (UInt8.ofNat payload.length).toNat = payload.length := by
        simp only [maxBuf] at hp
        simp
        omega
      have hne : UInt8.ofNat payload.length ≠ 0 := by
        intro h0
        rw [h0] at hn
        simp at hn
        omega
      obtain ⟨nb₂, hrun₂, hat₂⟩ := tcpParse_length hat₁ hne (by omega)
      rw [hn] at hat₂
      obtain ⟨front, last, hfront⟩ := (List.eq_nil_or_concat payload).resolve_left (by
        intro hnil
        simp [hnil] at hp)
      rw [List.concat_eq_append] at hfront
      have hlen : payload.length = front.length + 1 := by simp [hfront]
      obtain ⟨nb₃, hrun₃, hat₃⟩ := tcpListenerRead_binary handle (s := s) hat₂ (q := front)
        (by simp; omega)
      rw [List.nil_append] at hat₃
      obtain ⟨nb', -, hlast⟩ := tcpParse_binary hat₃ last
      obtain ⟨hrun, hat⟩ := hlast (by omega)
      refine ⟨nb', hat, ?_⟩
      rw [Item.bytes, tcpListenerRead_cons, tcpListenerByte_eq handle hrun₁]
      simp only [carryOut, ok_bind]
      rw [tcpListenerRead_cons, tcpListenerByte_eq handle hrun₂]
      simp only [carryOut, ok_bind]
      conv_lhs => rw [hfront]
      rw [tcpListenerRead_append, hrun₃, ok_bind, tcpListenerRead_cons,
        tcpListenerByte_eq handle hrun, ← hfront]
      exact bind_ok _
  | refused n hn =>
      obtain ⟨nb₁, hrun₁, hat₁⟩ := tcpParse_idle_binary h
      obtain ⟨nb', hrun, hat⟩ := tcpParse_length_refused hat₁ hn
      refine ⟨nb', hat, ?_⟩
      rw [Item.bytes, tcpListenerRead_cons, tcpListenerByte_eq handle hrun₁]
      simp only [carryOut, ok_bind]
      rw [tcpListenerRead_cons, tcpListenerByte_eq handle hrun]
      rfl

theorem tcpListenerRead_items {s s' : σ} {nb : NodeBuffer} (h : Partial.At nb .nothing)
    {items : List Item} (hall : carryOutAll handle s items = .ok s') :
    ∃ nb', Partial.At nb' .nothing
      ∧ tcpListenerRead handle (s, nb) (items.flatMap Item.bytes) = .ok (s', nb') := by
  induction items generalizing s nb with
  | nil =>
      cases hall
      exact ⟨nb, h, rfl⟩
  | cons i items ih =>
      rw [carryOutAll, List.foldlM_cons, bind_eq_ok] at hall
      obtain ⟨s₁, hi, hrest⟩ := hall
      obtain ⟨nb₁, hat₁, hrun₁⟩ := tcpListenerRead_item handle s h i
      obtain ⟨nb', hat, hrun⟩ := ih hat₁ hrest
      refine ⟨nb', hat, ?_⟩
      rw [List.flatMap_cons, tcpListenerRead_append, hrun₁, hi]
      exact hrun

end Items

/-! ## The command buffer -/

/-- The buffer invariant: `cmdlen` lies in the buffer, and a binary command still
expects a byte and has room for all it expects. -/
def NodeBuffer.Kept (nb : NodeBuffer) : Prop :=
  0 ≤ nb.cmdlen ∧ nb.cmdlen ≤ maxBuf
    ∧ (nb.state = .binary → 1 ≤ nb.cmdbinlen ∧ nb.cmdlen + nb.cmdbinlen ≤ maxBuf)

theorem Partial.At.kept {nb : NodeBuffer} {t : Partial} (h : t.At nb) : nb.Kept := by
  cases t with
  | nothing =>
      obtain ⟨hstate, hlo, hhi⟩ := h
      exact ⟨hlo, hhi, by simp [hstate]⟩
  | chars payload =>
      obtain ⟨-, hshort, hlong⟩ := h
      by_cases hroom : payload.length < maxBuf
      · obtain ⟨hstate, hlen, -⟩ := hshort hroom
        exact ⟨by omega, by omega, by simp [hstate]⟩
      · obtain ⟨hstate, hlen⟩ := hlong (by omega)
        exact ⟨by omega, by omega, by simp [hstate]⟩
  | length =>
      obtain ⟨hstate, hlen⟩ := h
      exact ⟨by omega, by omega, by simp [hstate]⟩
  | binary n payload =>
      obtain ⟨hn, hlt, -, hlen, hbin, -⟩ := h
      exact ⟨by omega, by omega, fun _ => ⟨by omega, by omega⟩⟩

section Buffer

variable {σ : Type} (handle : σ → Request → Except Fault σ) (s : σ)

/-- Every byte that is handled, on a fresh connection with these reads, is stored inside
the buffer if it is stored at all, and leaves the buffer invariant. -/
def CmdNeverOverrun (reads : List (List UInt8)) : Prop :=
  ∀ done pre b post rest s' nb, reads = done ++ (pre ++ b :: post) :: rest →
    tcpListenerReads handle (s, NodeBuffer.fresh) (done ++ [pre]) = .ok (s', nb) →
    ∃ nb' r, tcpParse nb b = .ok (nb', r) ∧ nb'.Kept

/-- Behind complete items whose requests are carried out stands a binary command of
length 0. -/
def ZeroLength (bytes : List UInt8) : Prop :=
  ∃ items rest s', bytes = items.flatMap Item.bytes ++ charB :: 0 :: rest
    ∧ carryOutAll handle s items = .ok s'

/-- What has been read is complete items and the beginning of another. -/
theorem tcpListenerRead_partial {handle : σ → Request → Except Fault σ} {s s' : σ}
    {l : List UInt8} {nb : NodeBuffer} (hzero : ¬ ZeroLength handle s l)
    (h : tcpListenerRead handle (s, NodeBuffer.fresh) l = .ok (s', nb)) :
    ∃ (items : List Item) (t : Partial), l = items.flatMap Item.bytes ++ t.bytes ∧ t.At nb
      ∧ carryOutAll handle s items = .ok s' := by
  induction l using List.reverseRecOn generalizing s' nb with
  | nil =>
      cases h
      exact ⟨[], .nothing, rfl, at_fresh, rfl⟩
  | append_singleton l b ih =>
      rw [tcpListenerRead_append, bind_eq_ok] at h
      obtain ⟨⟨s₁, nb₁⟩, hl, hb⟩ := h
      have hzero' : ¬ ZeroLength handle s l := by
        rintro ⟨items, rest, s₂, rfl, hall⟩
        exact hzero ⟨items, rest ++ [b], s₂, by simp, hall⟩
      obtain ⟨items, t, hbytes, hat, hall⟩ := ih hzero' hl
      have hstep : ¬ (t = .length ∧ b = 0) := by
        rintro ⟨rfl, rfl⟩
        exact hzero ⟨items, [], s₁, by simp [hbytes, Partial.bytes], hall⟩
      obtain ⟨nb', r, hrun, hcase⟩ := tcpParse_step hat b hstep
      rw [tcpListenerRead_cons, tcpListenerByte_eq handle hrun, bind_eq_ok] at hb
      obtain ⟨p, hp, hnil⟩ := hb
      cases hnil
      rw [bind_eq_ok] at hp
      obtain ⟨s₂, hcarry, heq⟩ := hp
      cases heq
      rcases hcase with ⟨t', ht', hat', rfl⟩ | ⟨i, hi, hat', rfl⟩
      · cases hcarry
        exact ⟨items, t', by rw [hbytes, List.append_assoc, ht'], hat', hall⟩
      · refine ⟨items ++ [i], .nothing, ?_, hat', ?_⟩
        · rw [hbytes, List.append_assoc, ← hi]
          simp [Partial.bytes]
        · rw [carryOutAll_append, hall]
          exact hcarry

/-- The read in which a byte of the stream arrives. -/
theorem flatten_eq_split {reads : List (List UInt8)} {l r : List UInt8} {b : UInt8}
    (h : reads.flatten = l ++ b :: r) :
    ∃ done pre post rest, reads = done ++ (pre ++ b :: post) :: rest
      ∧ (done ++ [pre]).flatten = l := by
  induction reads generalizing l with
  | nil => simp at h
  | cons buf reads ih =>
      rw [List.flatten_cons] at h
      rcases List.append_eq_append_iff.mp h with ⟨m, hl, hm⟩ | ⟨m, hbuf, hm⟩
      · obtain ⟨done, pre, post, rest, hreads, hflat⟩ := ih hm
        exact ⟨buf :: done, pre, post, rest, by simp [hreads], by simp [hl, ← hflat]⟩
      · cases m with
        | nil =>
            obtain ⟨done, pre, post, rest, hreads, hflat⟩ := ih (l := []) (by simpa using hm.symm)
            refine ⟨buf :: done, pre, post, rest, by simp [hreads], ?_⟩
            simpa [hbuf] using hflat
        | cons c m =>
            obtain ⟨rfl, -⟩ := List.cons_eq_cons.mp hm
            exact ⟨[], l, m, reads, by simp [hbuf], by simp⟩

/-- **The command buffer is kept exactly when no binary command has length 0.** -/
theorem cmd_never_overrun_iff (reads : List (List UInt8)) :
    CmdNeverOverrun handle s reads ↔ ¬ ZeroLength handle s reads.flatten := by
  constructor
  · rintro hkept ⟨items, rest, s', hbytes, hall⟩
    have hbytes' : reads.flatten = (items.flatMap Item.bytes ++ [charB]) ++ 0 :: rest := by
      simp [hbytes]
    obtain ⟨done, pre, post, tail, hreads, hpre⟩ := flatten_eq_split hbytes'
    -- the items lead back to the idle state, `B` to the length byte
    obtain ⟨nb₁, hat₁, hrun₁⟩ := tcpListenerRead_items handle at_fresh hall
    obtain ⟨nb₂, hrun₂, hstate, hlen⟩ := tcpParse_idle_binary hat₁
    have hread : tcpListenerReads handle (s, NodeBuffer.fresh) (done ++ [pre]) = .ok (s', nb₂) := by
      rw [tcpListenerReads_flatten, hpre, tcpListenerRead_append, hrun₁, ok_bind,
        tcpListenerRead_cons, tcpListenerByte_eq handle hrun₂]
      rfl
    obtain ⟨nb', r, hzero, -, -, hbin⟩ := hkept done pre 0 post tail s' nb₂ hreads hread
    rw [tcpParse, hstate] at hzero
    simp only [UInt8.toNat_zero, Nat.zero_le, if_true] at hzero
    cases hzero
    have := (hbin rfl).1
    simp at this
  · intro hzero done pre b post rest s' nb hreads hrun
    rw [tcpListenerReads_flatten] at hrun
    have hflat : reads.flatten = (done ++ [pre]).flatten ++ b :: (post ++ rest.flatten) := by
      simp [hreads]
    have hzero' : ¬ ZeroLength handle s (done ++ [pre]).flatten := by
      rintro ⟨items, rest', s₂, hbytes, hall⟩
      exact hzero ⟨items, rest' ++ b :: (post ++ rest.flatten), s₂, by simp [hflat, hbytes], hall⟩
    obtain ⟨items, t, hbytes, hat, hall⟩ := tcpListenerRead_partial hzero' hrun
    have hstep : ¬ (t = .length ∧ b = 0) := by
      rintro ⟨rfl, rfl⟩
      exact hzero ⟨items, post ++ rest.flatten, s', by simp [hflat, hbytes, Partial.bytes], hall⟩
    obtain ⟨nb', r, hparse, hcase⟩ := tcpParse_step hat b hstep
    refine ⟨nb', r, hparse, ?_⟩
    rcases hcase with ⟨t', -, hat', -⟩ | ⟨i, -, hat', -⟩
    · exact hat'.kept
    · exact hat'.kept

end Buffer

/-- The two bytes `B` and 0, with a daemon that does nothing about requests. -/
theorem zeroLength_overruns :
    ¬ CmdNeverOverrun (fun (s : Unit) (_ : Request) => .ok s) () [[charB, 0]] := by
  rw [cmd_never_overrun_iff, not_not]
  exact ⟨[], [], (), rfl, rfl⟩

end Ubd
