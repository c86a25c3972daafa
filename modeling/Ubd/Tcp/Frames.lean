import Ubd.Tcp.Encode

/-!
# Tcp.Frames — streams of whole commands

A client that only ever sends whole frames expects the parser to keep its place
between them. It does not when a binary frame has length 0, or is longer than the
buffer and holds a byte that begins a command (`framesInSync_iff`): an oversized `C`
command is skipped up to its newline, of an oversized `B` command only the length
byte is. What the encoder writes stays clear of both
(`encoded_replies_parse`).
-/

namespace Ubd

/-- What a client sends as one command. -/
inductive Frame where
  /-- `C`, the payload and a newline. -/
  | chars (payload : List UInt8) (nl : UInt8) (h : ∀ b ∈ payload, isNewline b = false)
      (hnl : isNewline nl = true)
  /-- `B`, the length of the payload and the payload. -/
  | binary (payload : List UInt8) (h : payload.length < 256)

namespace Frame

def payload : Frame → List UInt8
  | .chars payload _ _ _ => payload
  | .binary payload _ => payload

/-- What stands before the payload. -/
def header : Frame → List UInt8
  | .chars _ _ _ _ => [charC]
  | .binary payload _ => [charB, UInt8.ofNat payload.length]

def trailer : Frame → List UInt8
  | .chars _ nl _ _ => [nl]
  | .binary _ _ => []

def bytes (f : Frame) : List UInt8 := f.header ++ f.payload ++ f.trailer

/-- The lengths the parser takes. -/
def Accepted : Frame → Prop
  | .chars payload _ _ _ => payload.length < maxBuf
  | .binary payload _ => 1 ≤ payload.length ∧ payload.length ≤ maxBuf

/-- What the parser may ask for while it reads the frame. -/
def Served (f : Frame) (requests : List Request) : Prop :=
  (f.Accepted → requests = [.command f.payload])
    ∧ (¬ f.Accepted → ∀ cmd, .command cmd ∈ requests → cmd = [])

end Frame

/-- The bytes that mean something between commands. -/
def beginsCommand (b : UInt8) : Prop := b = charC ∨ b = charB ∨ b = charL

instance (b : UInt8) : Decidable (beginsCommand b) := inferInstanceAs (Decidable (_ ∨ _))

/-- Write down what the parser asks for. -/
def record (log : List Request) (r : Request) : Except Fault (List Request) := .ok (log ++ [r])

/-- The parser keeps its place in a list of frames. -/
structure FramesInSync (nb : NodeBuffer) (frames : List Frame) : Prop where
  /-- Between two frames the parser is between commands. -/
  idle : ∀ before after, frames = before ++ after →
    ∃ log nb', tcpListenerRead record ([], nb) (before.flatMap Frame.bytes) = .ok (log, nb')
      ∧ nb'.state = .idle
  /-- A frame is answered by the callback it asks for. -/
  served : ∀ before f after, frames = before ++ f :: after → ∀ log nb₁ log' nb₂,
    tcpListenerRead record ([], nb) (before.flatMap Frame.bytes) = .ok (log, nb₁) →
    tcpListenerRead record ([], nb) ((before ++ [f]).flatMap Frame.bytes) = .ok (log', nb₂) →
    ∃ requests, log' = log ++ requests ∧ f.Served requests
  /-- No byte of a refused payload is read as the beginning of a command. -/
  unread : ∀ before f after, frames = before ++ f :: after → ¬ f.Accepted →
    ∀ l b r, f.payload = l ++ b :: r → ∀ log nb',
    tcpListenerRead record ([], nb) (before.flatMap Frame.bytes ++ f.header ++ l)
      = .ok (log, nb') → nb'.state = .idle → ¬ beginsCommand b

/-- A binary frame the parser does not lose its place in: there is something in it, and
where it is too long, nothing that could begin a command. -/
def Frame.Clean : Frame → Prop
  | .chars _ _ _ _ => True
  | .binary payload _ =>
      payload ≠ [] ∧ (maxBuf < payload.length → ∀ b ∈ payload, ¬ beginsCommand b)

/-! ## The record of a run -/

theorem carryOutAll_record (log : List Request) (items : List Item) :
    carryOutAll record log items = .ok (log ++ items.filterMap Item.request) := by
  induction items generalizing log with
  | nil => simp [carryOutAll]
  | cons i items ih =>
      rw [carryOutAll, List.foldlM_cons]
      cases hi : i.request with
      | none =>
          rw [carryOut, ok_bind, ← carryOutAll, ih, List.filterMap_cons_none hi]
      | some r =>
          rw [carryOut, record, ok_bind, ← carryOutAll, ih, List.filterMap_cons_some hi]
          simp

/-- Where a command begins it does not matter what the last one left in the buffer. -/
theorem tcpListenerByte_idle {σ : Type} (handle : σ → Request → Except Fault σ) (s : σ)
    {nb : NodeBuffer} (h : nb.state = .idle) {b : UInt8} (hb : b = charC ∨ b = charB) :
    tcpListenerByte handle (s, nb) b = tcpListenerByte handle (s, { nb with cmdlen := 0 }) b := by
  rcases hb with rfl | rfl
  · simp [tcpListenerByte, tcpParse, h]
  · have hne : charB ≠ charC := by decide
    simp [tcpListenerByte, tcpParse, h, hne]

theorem at_nothing_of_idle {nb : NodeBuffer} (h : nb.state = .idle) :
    Partial.At { nb with cmdlen := 0 } .nothing := by
  refine ⟨h, ?_, ?_⟩ <;> show (_ : Int) ≤ _ <;> simp [maxBuf]

/-- Items that begin a command are read from any idle state. -/
theorem tcpListenerRead_record {nb : NodeBuffer} (h : nb.state = .idle) (log : List Request)
    {items : List Item} {b : UInt8} {rest : List UInt8}
    (hbytes : items.flatMap Item.bytes = b :: rest) (hb : b = charC ∨ b = charB) :
    ∃ nb', tcpListenerRead record (log, nb) (b :: rest)
        = .ok (log ++ items.filterMap Item.request, nb')
      ∧ nb'.state = .idle := by
  obtain ⟨nb', hat, hread⟩ := tcpListenerRead_items record (at_nothing_of_idle h)
    (carryOutAll_record log items)
  refine ⟨nb', ?_, hat.1⟩
  rw [tcpListenerRead_cons, tcpListenerByte_idle record log h hb, ← tcpListenerRead_cons,
    ← hbytes]
  exact hread

/-! ## One frame -/

/-- The bytes of a refused payload that mean nothing to the parser. -/
theorem others_bytes {l : List UInt8} (h : ∀ b ∈ l, ¬ beginsCommand b) :
    ∃ items : List Item, items.flatMap Item.bytes = l ∧ items.filterMap Item.request = [] := by
  induction l with
  | nil => exact ⟨[], rfl, rfl⟩
  | cons b l ih =>
      obtain ⟨items, hbytes, hreq⟩ := ih fun x hx => h x (by simp [hx])
      have hb := h b (by simp)
      simp only [beginsCommand, not_or] at hb
      refine ⟨.other b ⟨hb.1, hb.2.1⟩ :: items, by simp [Item.bytes, hbytes], ?_⟩
      have hnone : (Item.other b ⟨hb.1, hb.2.1⟩).request = none := by simp [Item.request, hb]
      rw [List.filterMap_cons_none hnone, hreq]

/-- The items a clean frame consists of. -/
theorem Frame.Clean.items {f : Frame} (h : f.Clean) :
    ∃ items : List Item, items.flatMap Item.bytes = f.bytes
      ∧ f.Served (items.filterMap Item.request) := by
  cases f with
  | chars payload nl hp hnl =>
      -- one item, whether the command fits or is skipped up to its newline
      refine ⟨[.chars payload nl hp hnl], by simp [Item.bytes, bytes, header, Frame.payload,
        trailer], ?_⟩
      by_cases hlen : payload.length < maxBuf
      · simp [Served, Accepted, Frame.payload, Item.request, hlen]
      · simp [Served, Accepted, Item.request, hlen]
  | binary payload hp =>
      obtain ⟨hne, hclean⟩ := h
      have hpos : 1 ≤ payload.length := List.length_pos_iff.mpr hne
      by_cases hlen : payload.length ≤ maxBuf
      · refine ⟨[.binary payload ⟨hpos, hlen⟩], by simp [Item.bytes, bytes, header, Frame.payload,
          trailer], ?_⟩
        simp only [Served, Accepted, Frame.payload, Item.request, List.filterMap_cons,
          List.filterMap_nil, hpos, hlen]
        simp
      · -- only `B` and the length are refused, the payload is read as bytes that begin nothing
        obtain ⟨items, hbytes, hreq⟩ := others_bytes (hclean (by omega))
        have hn : (UInt8.ofNat payload.length).toNat = payload.length := by simp; omega
        refine ⟨.refused (UInt8.ofNat payload.length) (by omega) :: items, by simp [Item.bytes,
          bytes, header, Frame.payload, trailer, hbytes], ?_⟩
        rw [List.filterMap_cons_none rfl, hreq]
        simp [Served, Accepted, hlen]

theorem Frame.bytes_eq_cons (f : Frame) :
    ∃ b rest, f.bytes = b :: rest ∧ (b = charC ∨ b = charB) := by
  cases f with
  | chars payload nl _ _ => exact ⟨charC, payload ++ [nl], by simp [bytes, header, Frame.payload,
      trailer], .inl rfl⟩
  | binary payload _ => exact ⟨charB, UInt8.ofNat payload.length :: payload, by simp [bytes,
      header, Frame.payload, trailer], .inr rfl⟩

theorem tcpListenerRead_frame {nb : NodeBuffer} (h : nb.state = .idle) (log : List Request)
    {f : Frame} (hf : f.Clean) :
    ∃ requests nb', tcpListenerRead record (log, nb) f.bytes = .ok (log ++ requests, nb')
      ∧ nb'.state = .idle ∧ f.Served requests := by
  obtain ⟨items, hbytes, hserved⟩ := hf.items
  obtain ⟨b, rest, hcons, hb⟩ := f.bytes_eq_cons
  obtain ⟨nb', hread, hidle⟩ := tcpListenerRead_record h log (hbytes.trans hcons) hb
  exact ⟨_, nb', hcons ▸ hread, hidle, hserved⟩

theorem tcpListenerRead_frames {nb : NodeBuffer} (h : nb.state = .idle) (log : List Request)
    {frames : List Frame} (hclean : ∀ f ∈ frames, f.Clean) :
    ∃ log' nb', tcpListenerRead record (log, nb) (frames.flatMap Frame.bytes) = .ok (log', nb')
      ∧ nb'.state = .idle := by
  induction frames generalizing log nb with
  | nil => exact ⟨log, nb, rfl, h⟩
  | cons f frames ih =>
      -- what a frame leaves in the buffer does not matter to the next one, only that it is idle
      obtain ⟨requests, nb₁, hread, hidle, -⟩ := tcpListenerRead_frame h log (hclean f (by simp))
      obtain ⟨log', nb', hrest, hidle'⟩ := ih hidle (log ++ requests)
        fun g hg => hclean g (by simp [hg])
      refine ⟨log', nb', ?_, hidle'⟩
      rw [List.flatMap_cons, tcpListenerRead_append, hread]
      exact hrest

/-! ## Inside a refused frame -/

/-- Inside a refused `C` command nothing begins a command. -/
theorem chars_payload_state {nb : NodeBuffer} (h : nb.state = .idle) (log : List Request)
    {l : List UInt8} (hl : ∀ b ∈ l, isNewline b = false) :
    ∃ nb', tcpListenerRead record (log, nb) (charC :: l) = .ok (log, nb') ∧ nb'.state ≠ .idle := by
  obtain ⟨nb₁, hrun, hat⟩ := tcpParse_idle_chars (at_nothing_of_idle h)
  obtain ⟨nb', hread, hat'⟩ := tcpListenerRead_chars record (s := log) hat hl
  rw [List.nil_append] at hat'
  refine ⟨nb', ?_, ?_⟩
  · rw [tcpListenerRead_cons, tcpListenerByte_idle record log h (.inl rfl),
      tcpListenerByte_eq record hrun]
    exact hread
  · obtain ⟨-, hshort, hlong⟩ := hat'
    by_cases hroom : l.length < maxBuf
    · rw [(hshort hroom).1]
      simp
    · rw [(hlong (by omega)).1]
      simp

/-- A `B` and 0 leave the parser in the middle of a command. -/
theorem zero_length_state {nb : NodeBuffer} (h : nb.state = .idle) (log : List Request) :
    ∃ nb', tcpListenerRead record (log, nb) [charB, 0] = .ok (log, nb')
      ∧ nb'.state = .binary := by
  obtain ⟨nb₁, hrun, hstate, hlen⟩ := tcpParse_idle_binary (at_nothing_of_idle h)
  refine ⟨{ nb₁ with cmdbinlen := 0, state := .binary }, ?_, rfl⟩
  rw [tcpListenerRead_cons, tcpListenerByte_idle record log h (.inr rfl),
    tcpListenerByte_eq record hrun]
  simp [carryOut, tcpListenerRead, tcpListenerByte, tcpParse, hstate]

/-- Behind a length byte that is refused the parser is idle again. -/
theorem refused_state {nb : NodeBuffer} (h : nb.state = .idle) (log : List Request) {n : UInt8}
    (hn : maxBuf < n.toNat) {l : List UInt8} (hl : ∀ b ∈ l, ¬ beginsCommand b) :
    ∃ nb', tcpListenerRead record (log, nb) (charB :: n :: l) = .ok (log, nb')
      ∧ nb'.state = .idle := by
  obtain ⟨items, hbytes, hreq⟩ := others_bytes hl
  have hcons : (Item.refused n hn :: items).flatMap Item.bytes = charB :: n :: l := by
    simp [Item.bytes, hbytes]
  obtain ⟨nb', hread, hidle⟩ := tcpListenerRead_record h log hcons (.inr rfl)
  rw [List.filterMap_cons_none rfl, hreq, List.append_nil] at hread
  exact ⟨nb', hread, hidle⟩

/-! ## All frames -/

/-- The first byte of a list that begins a command. -/
theorem exists_first_begins {l : List UInt8} (h : ¬ ∀ b ∈ l, ¬ beginsCommand b) :
    ∃ pre b post, l = pre ++ b :: post ∧ beginsCommand b ∧ ∀ x ∈ pre, ¬ beginsCommand x := by
  induction l with
  | nil => simp at h
  | cons x l ih =>
      by_cases hx : beginsCommand x
      · exact ⟨[], x, l, rfl, hx, by simp⟩
      · have hl : ¬ ∀ b ∈ l, ¬ beginsCommand b := by
          intro hall
          apply h
          intro b hb
          rcases List.mem_cons.mp hb with rfl | hb
          · exact hx
          · exact hall b hb
        obtain ⟨pre, b, post, rfl, hb, hpre⟩ := ih hl
        refine ⟨x :: pre, b, post, rfl, hb, ?_⟩
        intro y hy
        rcases List.mem_cons.mp hy with rfl | hy
        · exact hx
        · exact hpre y hy

theorem clean_of_inSync {nb : NodeBuffer} {frames : List Frame}
    (hsync : FramesInSync nb frames) {f : Frame} (hf : f ∈ frames) : f.Clean := by
  obtain ⟨before, after, rfl⟩ := List.append_of_mem hf
  cases f with
  | chars payload nl hp hnl => trivial
  | binary payload hp =>
      obtain ⟨log, nb₁, hbefore, hidle₁⟩ := hsync.idle before _ rfl
      constructor
      · rintro rfl
        -- the frame leaves the parser inside a command, so it is not idle behind it
        obtain ⟨log', nb₂, hread, hidle₂⟩ := hsync.idle (before ++ [.binary [] hp]) after (by simp)
        obtain ⟨nb₃, hzero, hbin⟩ := zero_length_state hidle₁ log
        rw [List.flatMap_append, tcpListenerRead_append, hbefore, ok_bind] at hread
        have hbytes : [Frame.binary [] hp].flatMap Frame.bytes = [charB, 0] := rfl
        rw [hbytes, hzero] at hread
        cases hread
        rw [hbin] at hidle₂
        cases hidle₂
      · -- the first byte of the payload that begins a command is read in the idle state
        intro hlong
        by_contra hbegins
        obtain ⟨l, b, r, hpayload, hb, hl⟩ := exists_first_begins hbegins
        have hn : (UInt8.ofNat payload.length).toNat = payload.length := by simp; omega
        obtain ⟨nb₂, hread, hidle₂⟩ := refused_state hidle₁ log (n := UInt8.ofNat payload.length)
          (by omega) hl
        refine hsync.unread before _ after rfl ?_ l b r hpayload log nb₂ ?_ hidle₂ hb
        · simp [Frame.Accepted, Nat.not_le.mpr hlong]
        · rw [List.append_assoc, tcpListenerRead_append, hbefore]
          exact hread

theorem inSync_of_clean {nb : NodeBuffer} (h : nb.state = .idle) {frames : List Frame}
    (hclean : ∀ f ∈ frames, f.Clean) : FramesInSync nb frames where
  idle := by
    rintro before after rfl
    exact tcpListenerRead_frames h [] fun f hf => hclean f (by simp [hf])
  served := by
    rintro before f after rfl log nb₁ log' nb₂ hbefore hboth
    have hcleanBefore : ∀ f ∈ before, f.Clean := fun f hf => hclean f (by simp [hf])
    obtain ⟨log₁, nb₁', hread, hidle⟩ := tcpListenerRead_frames h [] hcleanBefore
    rw [hread] at hbefore
    cases hbefore
    obtain ⟨requests, nb₂', hframe, -, hserved⟩ := tcpListenerRead_frame hidle log
      (hclean f (by simp))
    rw [List.flatMap_append, tcpListenerRead_append, hread, ok_bind, List.flatMap_singleton,
      hframe] at hboth
    cases hboth
    exact ⟨requests, rfl, hserved⟩
  unread := by
    rintro before f after rfl hrefused l b r hpayload log nb' hread hidle'
    have hcleanBefore : ∀ f ∈ before, f.Clean := fun f hf => hclean f (by simp [hf])
    obtain ⟨log₁, nb₁, hbefore, hidle⟩ := tcpListenerRead_frames h [] hcleanBefore
    rw [List.append_assoc, tcpListenerRead_append, hbefore, ok_bind] at hread
    have hf := hclean f (by simp)
    cases f with
    | chars payload nl hp hnl =>
        obtain rfl : payload = l ++ b :: r := hpayload
        obtain ⟨nb₂, hinside, hbusy⟩ := chars_payload_state hidle log₁ (l := l)
          fun x hx => hp x (by simp [hx])
        have hbytes : (Frame.chars (l ++ b :: r) nl hp hnl).header ++ l = charC :: l := rfl
        rw [hbytes, hinside] at hread
        cases hread
        -- inside a `C` command the parser is never idle
        exact absurd hidle' hbusy
    | binary payload hp =>
        obtain rfl : payload = l ++ b :: r := hpayload
        have hlong : maxBuf < (l ++ b :: r).length := by
          by_contra hshort
          refine hrefused ⟨?_, Nat.le_of_not_lt hshort⟩
          rw [List.length_append, List.length_cons]
          omega
        exact hf.2 hlong b (by simp)

/-- **Whole frames keep the parser in step exactly when every binary one is clean.** -/
theorem framesInSync_iff (nb : NodeBuffer) (h : nb.state = .idle) (frames : List Frame) :
    FramesInSync nb frames ↔ ∀ f ∈ frames, f.Clean :=
  ⟨fun hsync _ hf => clean_of_inSync hsync hf, inSync_of_clean h⟩

theorem replicate_fits (b : UInt8) : (List.replicate 101 b).length < 256 := by
  rw [List.length_replicate]
  decide

/-- A binary command that is too long by one byte. -/
def oversized (b : UInt8) : Frame := .binary (List.replicate 101 b) (replicate_fits b)

/-- A command, an oversized one with nothing in it, and another one. -/
def silentFrames : List Frame :=
  [.chars [1, 2] 0x0A (by simp [isNewline]) (by decide), oversized 0, .binary [3] (by decide)]

theorem framesInSync_iff_silent :
    FramesInSync NodeBuffer.fresh silentFrames ↔ ∀ f ∈ silentFrames, f.Clean :=
  framesInSync_iff NodeBuffer.fresh rfl silentFrames

/-- An oversized binary command whose data are commands themselves. -/
theorem oversized_command_runs :
    ¬ FramesInSync NodeBuffer.fresh [oversized charL] := by
  intro hsync
  obtain ⟨-, hclean⟩ : List.replicate 101 charL ≠ []
      ∧ (maxBuf < (List.replicate 101 charL).length →
        ∀ b ∈ List.replicate 101 charL, ¬ beginsCommand b) :=
    clean_of_inSync hsync (List.mem_singleton_self _)
  have hlong : maxBuf < (List.replicate 101 charL).length := by
    rw [List.length_replicate]
    decide
  exact hclean hlong charL (List.mem_replicate.mpr ⟨by decide, rfl⟩) (.inr (.inr rfl))

/-! ## The encoder -/

/-- What the encoder writes for a payload, as a stream. -/
def encodedReply (data : List UInt8) : List UInt8 := (tcpWriteCharacterEncoded data false).flatten

/-- A reply is one command, and perhaps the second half of its line end. -/
theorem encodedReply_items {data : List UInt8} (h : data.length ≤ maxBuf - 1) :
    ∃ items : List Item, items.flatMap Item.bytes = encodedReply data
      ∧ items.filterMap Item.request = [.command data] := by
  simp only [maxBuf] at h
  cases hnl : data.any isNewline with
  | true =>
      have hpos : 1 ≤ data.length := by
        rw [Nat.one_le_iff_ne_zero, Ne, List.length_eq_zero_iff]
        rintro rfl
        simp at hnl
      refine ⟨[.binary data ⟨hpos, by simp only [maxBuf]; omega⟩], ?_, rfl⟩
      simp [encodedReply, tcpWriteCharacterEncoded, tcpWriteBinaryEncoded, hnl, Item.bytes]
  | false =>
      have hclean : ∀ b ∈ data, isNewline b = false := by
        intro b hb
        exact Bool.eq_false_iff.mpr fun hb' => by simp [List.any_eq_false.mp hnl b hb] at hb'
      refine ⟨[.chars data 0x0D hclean rfl, .other 0x0A (by decide)], ?_, ?_⟩
      · simp [encodedReply, tcpWriteCharacterEncoded, hnl, Item.bytes]
      · have hlen : data.length < maxBuf := by
          simp only [maxBuf]
          omega
        simp [Item.request, hlen, charL]

theorem encodedReplies_items {payloads : List (List UInt8)}
    (h : ∀ data ∈ payloads, data.length ≤ maxBuf - 1) :
    ∃ items : List Item, items.flatMap Item.bytes = payloads.flatMap encodedReply
      ∧ items.filterMap Item.request = payloads.map .command := by
  induction payloads with
  | nil => exact ⟨[], rfl, rfl⟩
  | cons data payloads ih =>
      obtain ⟨items, hbytes, hreq⟩ := encodedReply_items (h data (by simp))
      obtain ⟨items', hbytes', hreq'⟩ := ih fun d hd => h d (by simp [hd])
      exact ⟨items ++ items', by simp [hbytes, hbytes'], by simp [hreq, hreq']⟩

theorem encodedReply_cons (data : List UInt8) :
    ∃ b rest, encodedReply data = b :: rest ∧ (b = charC ∨ b = charB) := by
  cases hnl : data.any isNewline with
  | true =>
      exact ⟨charB, UInt8.ofNat data.length :: data, by simp [encodedReply,
        tcpWriteCharacterEncoded, tcpWriteBinaryEncoded, hnl], .inr rfl⟩
  | false =>
      exact ⟨charC, data ++ [0x0D, 0x0A], by simp [encodedReply, tcpWriteCharacterEncoded, hnl],
        .inl rfl⟩

/-- **What the encoder writes for packets is read back as the same commands.** -/
theorem encoded_replies_parse (nb : NodeBuffer) (hidle : nb.state = .idle)
    (payloads : List (List UInt8)) (hlen : ∀ data ∈ payloads, data.length ≤ 45) :
    ∃ nb', tcpListenerRead record ([], nb) (payloads.flatMap encodedReply)
        = .ok (payloads.map .command, nb')
      ∧ nb'.state = .idle := by
  cases payloads with
  | nil => exact ⟨nb, rfl, hidle⟩
  | cons data payloads =>
      have hshort : ∀ d ∈ data :: payloads, d.length ≤ maxBuf - 1 := by
        intro d hd
        have := hlen d hd
        simp only [maxBuf]
        omega
      obtain ⟨items, hbytes, hreq⟩ := encodedReplies_items hshort
      obtain ⟨b, rest, hcons, hb⟩ := encodedReply_cons data
      have hstream : (data :: payloads).flatMap encodedReply
          = b :: (rest ++ payloads.flatMap encodedReply) := by
        rw [List.flatMap_cons, hcons, List.cons_append]
      rw [hstream]
      obtain ⟨nb', hread, hidle'⟩ := tcpListenerRead_record hidle [] (hbytes.trans hstream) hb
      rw [hreq, List.nil_append] at hread
      exact ⟨nb', hread, hidle'⟩

/-- A reply with a line end in it, an empty one, and one that looks like commands. -/
theorem encoded_replies_parse_mixed :
    ∃ nb', tcpListenerRead record ([], NodeBuffer.fresh)
        ([[0x0A], [], [charB, 200, charC]].flatMap encodedReply)
        = .ok ([[0x0A], [], [charB, 200, charC]].map .command, nb')
      ∧ nb'.state = .idle :=
  encoded_replies_parse NodeBuffer.fresh rfl _ (by decide)

end Ubd
