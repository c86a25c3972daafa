import Ubd.Serial.Grammar

/-!
# Serial.RoundTrip — the sender against the receiver

What `serial_writeMessage` puts on the line is read back by
`serial_readMessage`, over whole streams of messages and with noise between them
(`serialReadMessages_framedLine`). A frame that is cut off does not hurt the next
one unless the cut separates an escape from its second half
(`serialReadMessages_cut_iff`).
-/

namespace Ubd

open EscapeFraming

theorem serialPutenc_eq_stuff (d : List UInt8) : serialPutenc d = serialMarks.stuff d := by
  induction d with
  | nil => rfl
  | cons b d ih =>
      have hcons : serialMarks.stuff (b :: d) = serialMarks.stuff1 b ++ serialMarks.stuff d := rfl
      rw [hcons, ← ih, serialPutenc, Marks.stuff1]
      by_cases hb : b = serialEscape
      · simp [hb, serialMarks]
      · simp [hb, serialMarks]

/-- The sender encodes the message as a frame of the format. -/
theorem serialWriteMessage_eq_encode (m : Message) :
    serialWriteMessage m = serialMarks.encode m.bytes := by
  rw [serialWriteMessage, serialPutenc_eq_stuff]
  rfl

theorem Message.bytes_length {m : Message} (h : m.len.toNat ≤ ubPacketlen) :
    m.bytes.length = m.len.toNat := by
  simp [Message.bytes, h]

theorem bytesRead_map_byte (l : List UInt8) : bytesRead (l.map .byte) = l := by
  induction l with
  | nil => rfl
  | cons b l ih => rw [List.map_cons, bytesRead_byte, ih]

/-- The tokens of a message on the line. -/
def messageTokens (m : Message) : List (Token UInt8) := .start :: (m.bytes.map .lit ++ [.stop])

/-! ## Harmless tokens -/

theorem firstFault_lits {o : Option (List UInt8)} {l : List UInt8}
    (h : ∀ c ∈ o, c.length + l.length ≤ serialBufferlen) : firstFault o (l.map .lit) = none := by
  induction l generalizing o with
  | nil => rfl
  | cons b l ih =>
      have htok : tokenFault o (.lit b) = none := by
        cases o with
        | none => rfl
        | some c =>
            have := h c rfl
            simp only [List.length_cons] at this
            simp only [tokenFault, ite_eq_left_iff, reduceCtorEq, imp_false, not_not]
            omega
      rw [List.map_cons, firstFault, htok, Option.none_or]
      apply ih
      intro c hc
      cases o with
      | none => simp [openStep] at hc
      | some d =>
          have := h d rfl
          simp only [openStep, Option.map_some, Option.mem_some_iff] at hc
          subst hc
          simp only [List.length_cons, List.length_append, List.length_nil] at this ⊢
          omega

/-- A whole message is harmless, whatever frame was open before it. -/
theorem firstFault_messageTokens (o : Option (List UInt8)) {m : Message}
    (h : m.len.toNat ≤ ubPacketlen) : firstFault o (messageTokens m) = none := by
  have hlen := Message.bytes_length h
  have hlits : firstFault (some []) (m.bytes.map .lit) = none := by
    apply firstFault_lits
    intro c hc
    simp only [Option.mem_some_iff] at hc
    subst hc
    simp only [List.length_nil, Nat.zero_add, hlen, serialBufferlen]
    simp only [ubPacketlen] at h
    omega
  have hstop : tokenFault (some m.bytes) .stop = none :=
    tokenFault_stop_eq_none.mpr ⟨_, rfl, by omega⟩
  simp [messageTokens, firstFault, tokenFault, openStep, firstFault_append, hlits, openAfter_lits]
  omega

/-! ## Whole streams -/

/-- The line when the messages are sent one after the other, with noise before the
first and after each. -/
def framedLine (noise : List UInt8) (fs : List (Message × List UInt8)) : List UInt8 :=
  noise ++ fs.flatMap fun f => serialWriteMessage f.1 ++ f.2

theorem tokens_framed {fs : List (Message × List UInt8)} (h : ∀ f ∈ fs, serialEscape ∉ f.2) :
    serialMarks.tokens (fs.flatMap fun f => serialWriteMessage f.1 ++ f.2)
      = fs.flatMap fun f => messageTokens f.1 ++ f.2.map .lit := by
  induction fs with
  | nil => rfl
  | cons f fs ih =>
      obtain ⟨htok, hpend⟩ := serialMarks.tokens_encode f.1.bytes
      obtain ⟨hntok, hnpend⟩ := Marks.tokens_plain (M := serialMarks) (h f (by simp))
      rw [← serialWriteMessage_eq_encode] at htok hpend
      rw [List.flatMap_cons, List.flatMap_cons, List.append_assoc, Marks.tokens_append hpend,
        Marks.tokens_append hnpend, htok, hntok, ih (fun g hg => h g (by simp [hg])),
        List.append_assoc]
      rfl

/-- The frames after any open frame: exactly the messages, none of them harmful. -/
theorem frames_framed {fs : List (Message × List UInt8)}
    (hlen : ∀ f ∈ fs, 1 ≤ f.1.len.toNat ∧ f.1.len.toNat ≤ ubPacketlen) :
    ∀ o, firstFault o (fs.flatMap fun f => messageTokens f.1 ++ f.2.map .lit) = none
      ∧ frames o (fs.flatMap fun f => messageTokens f.1 ++ f.2.map .lit)
        = fs.map fun f => f.1.bytes := by
  induction fs with
  | nil => exact fun o => ⟨rfl, rfl⟩
  | cons f fs ih =>
      intro o
      obtain ⟨hpos, hle⟩ := hlen f (by simp)
      have hne : f.1.bytes ≠ [] := by
        intro hnil
        have := Message.bytes_length hle
        simp [hnil] at this
        omega
      have hclosed : openAfter o (messageTokens f.1) = none := by
        simp [messageTokens, openAfter_append, openStep]
      have hnoise : openAfter none (f.2.map .lit) = none := by simp [openAfter_lits]
      obtain ⟨hharm, hframes⟩ := ih (fun g hg => hlen g (by simp [hg])) none
      constructor
      · rw [List.flatMap_cons, List.append_assoc, firstFault_append,
          firstFault_messageTokens o hle, Option.none_or, hclosed, firstFault_append,
          firstFault_lits (by simp), Option.none_or, hnoise, hharm]
      · rw [List.flatMap_cons, List.append_assoc, messageTokens, frames_frame o hne,
          frames_append, frames_lits, hnoise, hframes]
        rfl

/-- **Decoding undoes encoding**, over any list of messages, from any state of the
receiver with no escape waiting, whatever frame it has left over: the stream
restarts it. -/
theorem serialReadMessages_framedLine (msg : Message) (s : SerialState) (rs : List ReadResult)
    (noise : List UInt8) (fs : List (Message × List UInt8))
    (hesc : s.escaped = false) (hlo : -1 ≤ s.fill)
    (hroom : s.fill = -1 ∨ s.fill + noise.length ≤ serialBufferlen)
    (hnoise : serialEscape ∉ noise) (hclean : ∀ f ∈ fs, serialEscape ∉ f.2)
    (hlen : ∀ f ∈ fs, 1 ≤ f.1.len.toNat ∧ f.1.len.toNat ≤ ubPacketlen)
    (hrs : bytesRead rs = framedLine noise fs) :
    ∃ s' ms, serialReadMessages msg s rs = .ok (s', ms)
      ∧ ms.map Message.bytes = fs.map (fun f => f.1.bytes)
      ∧ ∀ m ∈ ms, m.len.toNat ≤ ubPacketlen := by
  have hhi : s.fill ≤ serialBufferlen := by
    simp only [serialBufferlen] at hroom ⊢
    omega
  have hrep := represents_openFrame hlo hhi
  rw [hesc] at hrep
  obtain ⟨hntok, hnpend⟩ := Marks.tokens_plain (M := serialMarks) hnoise
  obtain ⟨hharm, hframes⟩ := frames_framed hlen (openAfter s.openFrame (noise.map .lit))
  have htok : serialMarks.tokensFrom false (bytesRead rs)
      = noise.map .lit ++ fs.flatMap fun f => messageTokens f.1 ++ f.2.map .lit := by
    rw [hrs, framedLine, ← tokens_framed hclean, ← hntok]
    exact Marks.tokens_append hnpend _
  have hfirst : firstFault s.openFrame (noise.map .lit) = none := by
    apply firstFault_lits
    intro c hc
    have hfill := hrep.fill
    rw [hc] at hfill
    simp only [Option.elim_some] at hfill
    omega
  obtain ⟨s', ms, hrun, -, hms, hlens⟩ := (serialReadMessages_spec rs msg hrep).2 (by
    rw [htok, firstFault_append, hfirst, Option.none_or, hharm])
  refine ⟨s', ms, hrun, ?_, hlens⟩
  rw [hms, htok, frames_append, frames_lits, hframes]
  rfl

/-- A message of `n` equal bytes. -/
def uniformMessage (n : UInt16) (b : UInt8) : Message := ⟨n, Vector.replicate ubPacketlen b⟩

/-- An escape just before the end mark, in a receiver with a frame left open. -/
theorem serialReadMessages_framedLine_escape :
    ∃ s' ms, serialReadMessages blankMessage { serialInit with fill := 3 }
        ((framedLine [0x41] [(uniformMessage 2 serialEscape, [serialStart])]).map .byte)
          = .ok (s', ms)
      ∧ ms.map Message.bytes
        = [(uniformMessage 2 serialEscape, [serialStart])].map (fun f => f.1.bytes)
      ∧ ∀ m ∈ ms, m.len.toNat ≤ ubPacketlen :=
  serialReadMessages_framedLine blankMessage _ _ [0x41]
    [(uniformMessage 2 serialEscape, [serialStart])]
    rfl (by decide) (by decide) (by decide) (by decide) (by decide) (bytesRead_map_byte _)

/-! ## A frame that is cut off -/

/-- The receiver gets the first `k` bytes of one message and then all of another, and
returns the second message alone. -/
def CutDelivers (msg m₁ m₂ : Message) (k : Nat) : Prop :=
  ∀ rs, bytesRead rs = (serialWriteMessage m₁).take k ++ serialWriteMessage m₂ →
    ∃ s ms, serialReadMessages msg serialInit rs = .ok (s, ms)
      ∧ ms.map Message.bytes = [m₂.bytes]

/-- The cut separates an escape byte from the byte it introduces. -/
def CutInEscape (m : Message) (k : Nat) : Prop :=
  serialMarks.pending ((serialWriteMessage m).take k) = true

/-- What is left of the first message: nothing, or an open frame with its first bytes. -/
theorem lineTokens_cut {m : Message} {k : Nat} (hk : k < (serialWriteMessage m).length) :
    serialMarks.tokens ((serialWriteMessage m).take k) = []
      ∨ ∃ j, serialMarks.tokens ((serialWriteMessage m).take k)
          = .start :: (m.bytes.take j).map .lit := by
  rw [serialWriteMessage_eq_encode] at hk ⊢
  exact serialMarks.tokens_take_encode hk

/-- A cut between tokens leaves an open frame, which the next start mark drops. -/
theorem cutDelivers_of_not_inEscape (msg : Message) {m₁ m₂ : Message} {k : Nat}
    (h₁ : m₁.len.toNat ≤ ubPacketData) (hpos : 1 ≤ m₂.len.toNat) (h₂ : m₂.len.toNat ≤ ubPacketData)
    (hk : k < (serialWriteMessage m₁).length) (hcut : ¬ CutInEscape m₁ k) :
    CutDelivers msg m₁ m₂ k := by
  intro rs hrs
  have hle₂ : m₂.len.toNat ≤ ubPacketlen := le_trans h₂ (by decide)
  have hne : m₂.bytes ≠ [] := by
    intro hnil
    have := Message.bytes_length hle₂
    simp [hnil] at this
    omega
  have hpend : serialMarks.pending ((serialWriteMessage m₁).take k) = false := by
    simpa [CutInEscape] using hcut
  obtain ⟨htok, -⟩ := serialMarks.tokens_encode m₂.bytes
  have hline : serialMarks.tokens (bytesRead rs)
      = serialMarks.tokens ((serialWriteMessage m₁).take k) ++ messageTokens m₂ := by
    rw [hrs, Marks.tokens_append hpend, serialWriteMessage_eq_encode m₂, htok]
    rfl
  have hleft : firstFault none (serialMarks.tokens ((serialWriteMessage m₁).take k)) = none
      ∧ frames none (serialMarks.tokens ((serialWriteMessage m₁).take k)) = [] := by
    rcases lineTokens_cut hk with hT | ⟨j, hT⟩
    · rw [hT]
      exact ⟨rfl, rfl⟩
    · have hj : (m₁.bytes.take j).length ≤ serialBufferlen := by
        simp only [Message.bytes, List.length_take, Vector.length_toList]
        simp only [ubPacketData, ubPacketlen, ubPacketHeader, serialBufferlen] at h₁ ⊢
        omega
      rw [hT]
      refine ⟨?_, frames_lits _ _⟩
      rw [firstFault, tokenFault, Option.none_or]
      apply firstFault_lits
      intro c hc
      rw [openStep, Option.mem_some_iff] at hc
      subst hc
      simpa using hj
  obtain ⟨-, hok⟩ := serialReadMessages_init msg rs
  obtain ⟨s, ms, hrun, -, hms, -⟩ := hok (by
    rw [← Marks.tokens, hline, firstFault_append, hleft.1, Option.none_or,
      firstFault_messageTokens _ hle₂])
  refine ⟨s, ms, hrun, ?_⟩
  have hframe := frames_frame (openAfter none (serialMarks.tokens ((serialWriteMessage m₁).take k)))
    hne []
  rw [List.append_nil] at hframe
  rw [hms, ← Marks.tokens, hline, frames_append, hleft.2, messageTokens, hframe]
  rfl

/-- A cut inside an escape turns the next start mark into literals: its end mark is
stray, or closes a frame that was never sent. -/
theorem not_cutDelivers_of_inEscape (msg : Message) {m₁ m₂ : Message} {k : Nat}
    (hk : k < (serialWriteMessage m₁).length) (hcut : CutInEscape m₁ k) :
    ¬ CutDelivers msg m₁ m₂ k := by
  intro hdel
  let line := (serialWriteMessage m₁).take k ++ serialWriteMessage m₂
  obtain ⟨s, ms, hrun, hms⟩ := hdel (line.map .byte) (bytesRead_map_byte line)
  have hline : serialMarks.tokens (bytesRead (line.map .byte))
      = serialMarks.tokens ((serialWriteMessage m₁).take k)
        ++ (([serialEscape, serialStart] ++ m₂.bytes).map .lit ++ [.stop]) := by
    have hsecond : serialMarks.tokensFrom true (serialWriteMessage m₂)
        = ([serialEscape, serialStart] ++ m₂.bytes).map .lit ++ [.stop] := by
      rw [serialWriteMessage_eq_encode, Marks.tokensFrom_true_encode]
      rfl
    have hpend : serialMarks.pendingFrom false ((serialWriteMessage m₁).take k) = true := hcut
    rw [bytesRead_map_byte, Marks.tokens, Marks.tokensFrom_append, hpend, hsecond]
    rfl
  obtain ⟨hfault, hok⟩ := serialReadMessages_init msg (line.map .byte)
  rw [← Marks.tokens, hline] at hfault hok
  cases hf : firstFault none (serialMarks.tokens ((serialWriteMessage m₁).take k)
      ++ (([serialEscape, serialStart] ++ m₂.bytes).map .lit ++ [.stop])) with
  | some f =>
      rw [hfault f hf] at hrun
      cases hrun
  | none =>
      obtain ⟨s', ms', hrun', -, hframes, -⟩ := hok hf
      rw [hrun] at hrun'
      cases hrun'
      rcases lineTokens_cut hk with hT | ⟨j, hT⟩
      · -- no frame is open at the end mark
        rw [hT, List.nil_append] at hf
        have hstop := (firstFault_none_at hf rfl).2
        rw [openAfter_lits] at hstop
        cases hstop
      · -- the second message is swallowed by the frame of the first
        rw [hms, hT, List.cons_append, ← List.append_assoc, ← List.map_append] at hframes
        have hframe := frames_frame none
          (m := m₁.bytes.take j ++ ([serialEscape, serialStart] ++ m₂.bytes))
          (by simp) []
        rw [List.append_nil] at hframe
        rw [hframe] at hframes
        have hlen := congrArg List.length (List.cons.inj hframes).1
        simp only [List.length_append, List.length_cons, List.length_nil] at hlen
        omega

/-- **A cut frame spares the next one exactly when the cut is not inside an escape.** -/
theorem serialReadMessages_cut_iff (msg m₁ m₂ : Message) (k : Nat)
    (h₁ : 1 ≤ m₁.len.toNat ∧ m₁.len.toNat ≤ ubPacketData)
    (h₂ : 1 ≤ m₂.len.toNat ∧ m₂.len.toNat ≤ ubPacketData)
    (hk : k < (serialWriteMessage m₁).length) :
    CutDelivers msg m₁ m₂ k ↔ ¬ CutInEscape m₁ k := by
  constructor
  · intro hdel hcut
    exact not_cutDelivers_of_inEscape msg hk hcut hdel
  · exact cutDelivers_of_not_inEscape msg h₁.2 h₂.1 h₂.2 hk

/-- Cut inside the payload, between tokens. -/
theorem serialReadMessages_cut_payload :
    CutDelivers blankMessage (uniformMessage 2 0x41) (uniformMessage 1 serialEscape) 3 ↔
      ¬ CutInEscape (uniformMessage 2 0x41) 3 :=
  serialReadMessages_cut_iff blankMessage (uniformMessage 2 0x41) (uniformMessage 1 serialEscape) 3
    (by decide) (by decide) (by decide)

/-- Cut after the first byte of all. -/
theorem cut_first_escape :
    ¬ CutDelivers blankMessage (uniformMessage 1 0x41) (uniformMessage 1 0x42) 1 :=
  not_cutDelivers_of_inEscape blankMessage (by decide) (by unfold CutInEscape; decide)

end Ubd
