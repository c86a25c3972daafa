import Ubd.Serial.Line

/-!
# Serial.Decode — the receiver against the frame format

`serial_in` keeps its open frame in a buffer, an index and a flag. `Represents`
relates the three to the open frame of the abstract receiver of
`EscapeFraming`, and `serialReadMessages_spec` follows a whole stream: either
every token is harmless and the messages are the frames of the stream, or the
first harmful token ends the daemon. Which tokens are harmful is `tokenFault`:
an end mark with no open frame or after more than 50 literals, and a literal
that finds the buffer full.
-/

namespace Ubd

open EscapeFraming

/-- The marks of the serial line. -/
def serialMarks : Marks UInt8 where
  esc := serialEscape
  start := serialStart
  stop := serialEnd
  start_ne_esc := by decide
  stop_ne_esc := by decide
  start_ne_stop := by decide

/-- The byte stream behind a list of reads. -/
def bytesRead (rs : List ReadResult) : List UInt8 := rs.filterMap ReadResult.byte?

@[simp] theorem bytesRead_byte (c : UInt8) (rs : List ReadResult) :
    bytesRead (.byte c :: rs) = c :: bytesRead rs := rfl

@[simp] theorem bytesRead_timeout (rs : List ReadResult) :
    bytesRead (.timeout :: rs) = bytesRead rs := rfl

@[simp] theorem bytesRead_error (rs : List ReadResult) :
    bytesRead (.error :: rs) = bytesRead rs := rfl

/-- The state of the receiver before the first byte. -/
def serialInit : SerialState where
  serialBuffer := Vector.replicate serialBufferlen 0
  fill := -1
  escaped := false

/-! ## The representation relation -/

/-- The receiver has the frame `o` open, and `e` says whether its last byte was an
unpaired escape. -/
structure Represents (s : SerialState) (e : Bool) (o : Option (List UInt8)) : Prop where
  escaped : s.escaped = e
  fill : s.fill = o.elim (-1) (fun c => (c.length : Int))
  fits : ∀ c ∈ o, c.length ≤ serialBufferlen
  buffer : ∀ c ∈ o, s.serialBuffer.toList.take c.length = c

theorem represents_init : Represents serialInit false none where
  escaped := rfl
  fill := rfl
  fits := by simp
  buffer := by simp

theorem Represents.fill_bounds {s : SerialState} {e : Bool} {o : Option (List UInt8)}
    (h : Represents s e o) : -1 ≤ s.fill ∧ s.fill ≤ serialBufferlen := by
  have hf := h.fill
  cases o with
  | none => simp only [Option.elim_none] at hf; omega
  | some c =>
      have := h.fits c rfl
      simp only [Option.elim_some] at hf
      omega

/-- The frame a state has open, whatever run led to it. -/
def SerialState.openFrame (s : SerialState) : Option (List UInt8) :=
  if s.fill < 0 then none else some (s.serialBuffer.toList.take s.fill.toNat)

theorem represents_openFrame {s : SerialState} (hlo : -1 ≤ s.fill)
    (hhi : s.fill ≤ serialBufferlen) : Represents s s.escaped s.openFrame := by
  have hlen : s.serialBuffer.toList.length = serialBufferlen := by simp
  by_cases h : s.fill < 0
  · have hneg : s.fill = -1 := by omega
    refine ⟨rfl, ?_, ?_, ?_⟩ <;> simp [SerialState.openFrame, hneg]
  · have htake : (s.serialBuffer.toList.take s.fill.toNat).length = s.fill.toNat := by
      rw [List.length_take, hlen]
      omega
    refine ⟨rfl, ?_, ?_, ?_⟩
    · simp only [SerialState.openFrame, if_neg h, Option.elim_some, htake]
      omega
    · simp only [SerialState.openFrame, if_neg h, Option.mem_some_iff, forall_eq', htake]
      omega
    · simp only [SerialState.openFrame, if_neg h, Option.mem_some_iff, forall_eq', htake]

/-! ## One byte -/

/-- What a token does to the daemon when the frame `o` is open. -/
def tokenFault (o : Option (List UInt8)) : Token UInt8 → Option Fault
  | .start => none
  | .stop =>
      match o with
      | none => some .assertion
      | some c => if c.length ≤ ubPacketlen then none else some .assertion
  | .lit _ =>
      match o with
      | none => none
      | some c => if c.length < serialBufferlen then none else some .outOfBounds

/-- The frame an end mark hands over. -/
def handedOver (o : Option (List UInt8)) : Token UInt8 → Option (List UInt8)
  | .stop => o.filter (· ≠ [])
  | _ => none

/-- A literal with room in the buffer, or outside a frame. -/
theorem serialStore_ok {s : SerialState} {o : Option (List UInt8)} (h : Represents s false o)
    {b : UInt8} (hf : tokenFault o (.lit b) = none) :
    ∃ s', serialStore s b = .ok (0, s') ∧ Represents s' false (openStep o (.lit b)) := by
  have hfill := h.fill
  cases o with
  | none =>
      simp only [Option.elim_none] at hfill
      exact ⟨s, by simp [serialStore, hfill, serialBufferlen], h⟩
  | some c =>
      simp only [Option.elim_some] at hfill
      have hc : c.length < serialBufferlen := by
        by_contra hc
        simp [tokenFault, hc] at hf
      have hgt : s.fill > -1 := by omega
      refine ⟨{ s with serialBuffer := s.serialBuffer.set c.length b, fill := s.fill + 1 },
        ?_, h.escaped, ?_, ?_, ?_⟩
      · simp only [serialStore, if_pos hgt]
        rw [hfill, store_ok _ _ hc]
        rfl
      · simp [openStep, hfill]
      · simpa [openStep] using Nat.succ_le_of_lt hc
      · simp only [openStep, Option.map_some, Option.mem_some_iff, forall_eq',
          List.length_append, List.length_singleton]
        rw [take_set_succ _ _ hc, h.buffer c rfl]

/-- A literal that finds the buffer full. -/
theorem serialStore_fault {s : SerialState} {o : Option (List UInt8)} (h : Represents s false o)
    {b : UInt8} {f : Fault} (hf : tokenFault o (.lit b) = some f) :
    serialStore s b = .error f := by
  have hfill := h.fill
  cases o with
  | none => simp [tokenFault] at hf
  | some c =>
      simp only [tokenFault, Option.ite_none_left_eq_some, Option.some.injEq] at hf
      obtain ⟨hc, rfl⟩ := hf
      simp only [Option.elim_some] at hfill
      have hgt : s.fill > -1 := by omega
      have hout : ¬ (0 ≤ s.fill ∧ s.fill < serialBufferlen) := by omega
      simp only [serialStore, if_pos hgt]
      rw [store_eq_error _ _ hout]
      rfl

/-- The token a byte completes: with the escape before it, or alone. -/
def completes (e : Bool) (b : UInt8) : Token UInt8 := if e then serialMarks.escaped b else .lit b

theorem completes_cases (e : Bool) (b : UInt8) :
    (e = true ∧ b = serialStart ∧ completes e b = .start)
      ∨ (e = true ∧ b = serialEnd ∧ completes e b = .stop)
      ∨ ((e = true → b ≠ serialStart ∧ b ≠ serialEnd) ∧ completes e b = .lit b) := by
  cases e with
  | false => exact .inr (.inr ⟨by simp, rfl⟩)
  | true =>
      by_cases hstart : b = serialStart
      · exact .inl ⟨rfl, hstart, by simp [completes, Marks.escaped, serialMarks, hstart]⟩
      · by_cases hend : b = serialEnd
        · refine .inr (.inl ⟨rfl, hend, ?_⟩)
          subst hend
          exact serialMarks.escaped_stop
        · refine .inr (.inr ⟨fun _ => ⟨hstart, hend⟩, ?_⟩)
          simp [completes, Marks.escaped, serialMarks, hstart, hend]

/-- A byte that is a literal goes to the end of `serial_in`. -/
theorem serialIn_lit {s : SerialState} {b : UInt8} (hb : s.escaped = true ∨ b ≠ serialEscape)
    (hm : s.escaped = true → b ≠ serialStart ∧ b ≠ serialEnd) :
    serialIn s b = serialStore { s with escaped := false } b := by
  cases he : s.escaped with
  | false =>
      have hb' : b ≠ serialEscape := by simpa [he] using hb
      have hs : { s with escaped := false } = s := by rw [← he]
      rw [hs]
      simp [serialIn, hb', he]
  | true =>
      obtain ⟨hstart, hend⟩ := hm he
      by_cases hesc : b = serialEscape
      · simp [serialIn, hesc, he]
      · simp [serialIn, hesc, he, hstart, hend]

/-- A start mark. -/
theorem serialIn_start {s : SerialState} {o : Option (List UInt8)} (h : Represents s true o) :
    ∃ s', serialIn s serialStart = .ok (0, s') ∧ Represents s' false (some []) := by
  have hne : serialStart ≠ serialEscape := by decide
  exact ⟨{ s with escaped := false, fill := 0 }, by simp [serialIn, hne, h.escaped],
    rfl, rfl, by simp, by simp⟩

/-- An end mark that closes an open frame: its length survives the conversions. -/
theorem serialIn_end {s : SerialState} {c : List UInt8} (h : Represents s true (some c)) :
    ∃ n s', serialIn s serialEnd = .ok (n, s') ∧ n.toUInt8.toNat = c.length
      ∧ Represents s' false none ∧ s'.serialBuffer.toList.take c.length = c := by
  have hfill : s.fill = (c.length : Int) := h.fill
  have hlen : c.length ≤ 100 := h.fits c rfl
  have hne : serialEnd ≠ serialEscape := by decide
  have hne' : serialEnd ≠ serialStart := by decide
  have hopen : s.fill ≠ -1 := by omega
  refine ⟨UInt16.ofInt s.fill, { s with escaped := false, fill := -1 }, ?_, ?_,
    ⟨rfl, rfl, by simp, by simp⟩, h.buffer c rfl⟩
  · simp [serialIn, hne, hne', h.escaped, hopen]
  · simp only [UInt16.ofInt, hfill, UInt16.toUInt8_ofNat', UInt8.toNat_ofNat']
    omega

/-- An end mark with no open frame fails the assertion. -/
theorem serialIn_strayEnd {s : SerialState} (h : Represents s true none) :
    serialIn s serialEnd = .error .assertion := by
  have hne : serialEnd ≠ serialEscape := by decide
  have hne' : serialEnd ≠ serialStart := by decide
  have hfill : s.fill = -1 := h.fill
  simp [serialIn, hne, hne', h.escaped, hfill]

/-! ## One turn of the reading loop -/

/-- An escape waits for its second half. -/
theorem serialReadTurn_escape {s : SerialState} {o : Option (List UInt8)} (msg : Message)
    (h : Represents s false o) :
    ∃ s', serialReadTurn msg s (.byte serialEscape) = .ok (s', none) ∧ Represents s' true o := by
  refine ⟨{ s with escaped := true }, ?_, rfl, h.fill, h.fits, h.buffer⟩
  simp [serialReadTurn, serialIn, h.escaped]

/-- The turn that reads an end mark of a frame that fits a message. -/
theorem serialReadTurn_end {s : SerialState} {c : List UInt8} (msg : Message)
    (h : Represents s true (some c)) (hc : c.length ≤ ubPacketlen) :
    ∃ s' r, serialReadTurn msg s (.byte serialEnd) = .ok (s', r) ∧ Represents s' false none
      ∧ r.map Message.bytes = (some c).filter (· ≠ [])
      ∧ ∀ m ∈ r, m.len.toNat ≤ ubPacketlen := by
  obtain ⟨n, s', hin, hn, hr, hbuf⟩ := serialIn_end h
  have hfits : c.length ≤ serialBufferlen := h.fits c rfl
  cases c with
  | nil =>
      have h0 : n.toUInt8 = 0 := UInt8.toNat_inj.mp hn
      exact ⟨s', none, by simp [serialReadTurn, hin, h0], hr, rfl, by simp⟩
  | cons a c =>
      have h0 : n.toUInt8 ≠ 0 := by
        intro h0
        rw [h0] at hn
        simp at hn
      obtain ⟨v, hv, htake⟩ := memcpy_ok msg.data hc
        (show (a :: c).length ≤ s'.serialBuffer.toList.length by simpa using hfits)
      have hlen : n.toUInt8.toUInt16.toNat = (a :: c).length := by
        rw [UInt8.toNat_toUInt16, hn]
      refine ⟨s', some ⟨n.toUInt8.toUInt16, v⟩, ?_, hr, ?_, ?_⟩
      · simp only [serialReadTurn, hin, ok_bind, ne_eq, h0, not_false_eq_true, if_true, hn, hc, hv]
        rfl
      · simp only [Option.map_some, Message.bytes, hlen, htake, hbuf]
        rfl
      · intro m hm
        cases hm
        show n.toUInt8.toUInt16.toNat ≤ ubPacketlen
        omega

/-- A harmless token: the loop goes on with the frame it leaves open, and returns
exactly the frame the token hands over. -/
theorem serialReadTurn_ok {s : SerialState} {e : Bool} {o : Option (List UInt8)} (msg : Message)
    (h : Represents s e o) {b : UInt8} (hb : e = true ∨ b ≠ serialEscape)
    (hf : tokenFault o (completes e b) = none) :
    ∃ s' r, serialReadTurn msg s (.byte b) = .ok (s', r)
      ∧ Represents s' false (openStep o (completes e b))
      ∧ r.map Message.bytes = handedOver o (completes e b)
      ∧ ∀ m ∈ r, m.len.toNat ≤ ubPacketlen := by
  rcases completes_cases e b with ⟨rfl, rfl, ht⟩ | ⟨rfl, rfl, ht⟩ | ⟨hm, ht⟩
  · obtain ⟨s', hs', hr⟩ := serialIn_start h
    rw [ht]
    exact ⟨s', none, by simp [serialReadTurn, hs'], hr, rfl, by simp⟩
  · rw [ht] at hf ⊢
    cases o with
    | none => simp [tokenFault] at hf
    | some c =>
        have hc : c.length ≤ ubPacketlen := by
          by_contra hc
          simp [tokenFault, hc] at hf
        exact serialReadTurn_end msg h hc
  · rw [ht] at hf ⊢
    rw [← h.escaped] at hb hm
    obtain ⟨s', hs', hr⟩ := serialStore_ok (s := { s with escaped := false })
      ⟨rfl, h.fill, h.fits, h.buffer⟩ hf
    exact ⟨s', none, by simp [serialReadTurn, serialIn_lit hb hm, hs'], hr, rfl, by simp⟩

/-- A harmful token ends the daemon in the way `tokenFault` says. -/
theorem serialReadTurn_fault {s : SerialState} {e : Bool} {o : Option (List UInt8)}
    (msg : Message) (h : Represents s e o) {b : UInt8} (hb : e = true ∨ b ≠ serialEscape)
    {f : Fault} (hf : tokenFault o (completes e b) = some f) :
    serialReadTurn msg s (.byte b) = .error f := by
  rcases completes_cases e b with ⟨rfl, rfl, ht⟩ | ⟨rfl, rfl, ht⟩ | ⟨hm, ht⟩
  · simp [ht, tokenFault] at hf
  · rw [ht] at hf
    cases o with
    | none =>
        simp only [tokenFault, Option.some.injEq] at hf
        simp [serialReadTurn, serialIn_strayEnd h, ← hf]
    | some c =>
        simp only [tokenFault, Option.ite_none_left_eq_some, Option.some.injEq] at hf
        obtain ⟨hc, rfl⟩ := hf
        obtain ⟨n, s', hin, hn, -, -⟩ := serialIn_end h
        have h0 : n.toUInt8 ≠ 0 := by
          intro h0
          rw [h0] at hn
          simp only [UInt8.toNat_zero] at hn
          omega
        simp only [serialReadTurn, hin, ok_bind, ne_eq, h0, not_false_eq_true, if_true, hn, hc,
          if_false]
  · rw [ht] at hf
    rw [← h.escaped] at hb hm
    have hs := serialStore_fault (s := { s with escaped := false })
      ⟨rfl, h.fill, h.fits, h.buffer⟩ hf
    simp [serialReadTurn, serialIn_lit hb hm, hs]

/-! ## The whole stream -/

/-- The way the first harmful token of a stream ends the daemon. -/
def firstFault : Option (List UInt8) → List (Token UInt8) → Option Fault
  | _, [] => none
  | o, t :: ts => (tokenFault o t).or (firstFault (openStep o t) ts)

theorem serialReadMessages_eq (msg : Message) (s : SerialState) (rs : List ReadResult) :
    serialReadMessages msg s rs = (do
      match ← serialReadMessage msg s rs with
      | (s', none) => return (s', [])
      | (s', some (m, rest)) =>
          let (t, ms) ← serialReadMessages m s' rest
          return (t, m :: ms)) := by
  rw [serialReadMessages]
  split <;> simp [*]

/-- Successive calls, unfolded by one read. -/
theorem serialReadMessages_cons (msg : Message) (s : SerialState) (r : ReadResult)
    (rs : List ReadResult) :
    serialReadMessages msg s (r :: rs) = (do
      match ← serialReadTurn msg s r with
      | (s', none) => serialReadMessages msg s' rs
      | (s', some m) =>
          let (t, ms) ← serialReadMessages m s' rs
          return (t, m :: ms)) := by
  rw [serialReadMessages_eq, serialReadMessage]
  cases serialReadTurn msg s r with
  | error e => rfl
  | ok p =>
      obtain ⟨s', o⟩ := p
      cases o with
      | none =>
          simp only [ok_bind]
          rw [serialReadMessages_eq]
      | some m => rfl

theorem serialReadMessages_nil (msg : Message) (s : SerialState) :
    serialReadMessages msg s [] = .ok (s, []) := by
  rw [serialReadMessages_eq]
  rfl

theorem frames_cons (o : Option (List UInt8)) (t : Token UInt8) (ts : List (Token UInt8)) :
    frames o (t :: ts) = (handedOver o t).toList ++ frames (openStep o t) ts := by
  cases t <;> rfl

/-- A byte completes a token, or is an escape that waits. -/
theorem tokensFrom_completes {e : Bool} {b : UInt8} (hb : e = true ∨ b ≠ serialEscape)
    (l : List UInt8) :
    serialMarks.tokensFrom e (b :: l) = completes e b :: serialMarks.tokensFrom false l
      ∧ serialMarks.pendingFrom e (b :: l) = serialMarks.pendingFrom false l := by
  cases e with
  | true => exact ⟨rfl, rfl⟩
  | false =>
      have hb' : b ≠ serialMarks.esc := hb.resolve_left (by simp)
      simp [Marks.tokensFrom, Marks.pendingFrom, hb', completes]

/-- What a stream of reads does to the daemon from a state with the frame `o` open: if
no token is harmful, the calls return the frames of the stream and keep the frame
left open; otherwise the first harmful token ends the daemon. -/
def StreamSpec (e : Bool) (o : Option (List UInt8)) (l : List UInt8)
    (out : Except Fault (SerialState × List Message)) : Prop :=
  (∀ f, firstFault o (serialMarks.tokensFrom e l) = some f → out = .error f)
    ∧ (firstFault o (serialMarks.tokensFrom e l) = none →
        ∃ s ms, out = .ok (s, ms)
          ∧ Represents s (serialMarks.pendingFrom e l)
              (openAfter o (serialMarks.tokensFrom e l))
          ∧ ms.map Message.bytes = frames o (serialMarks.tokensFrom e l)
          ∧ ∀ m ∈ ms, m.len.toNat ≤ ubPacketlen)

/-- **The receiver on a whole stream**, from any state and through any timeouts and
read errors. -/
theorem serialReadMessages_spec (rs : List ReadResult) :
    ∀ (msg : Message) {s : SerialState} {e : Bool} {o : Option (List UInt8)}, Represents s e o →
      StreamSpec e o (bytesRead rs) (serialReadMessages msg s rs) := by
  induction rs with
  | nil =>
      intro msg s e o h
      refine ⟨by simp [bytesRead, Marks.tokensFrom, firstFault], fun _ => ?_⟩
      exact ⟨s, [], serialReadMessages_nil msg s, h, by simp [bytesRead, Marks.tokensFrom, frames],
        by simp⟩
  | cons r rs ih =>
      intro msg s e o h
      rw [serialReadMessages_cons]
      cases r with
      | timeout => exact ih msg h
      | error => exact ih msg h
      | byte b =>
          rw [bytesRead_byte]
          by_cases hb : e = true ∨ b ≠ serialEscape
          · -- the byte completes a token
            obtain ⟨htok, hpend⟩ := tokensFrom_completes hb (bytesRead rs)
            unfold StreamSpec
            rw [htok, hpend, firstFault, frames_cons, openAfter_cons]
            cases hf : tokenFault o (completes e b) with
            | some f => simp [serialReadTurn_fault msg h hb hf]
            | none =>
                obtain ⟨s', r, hturn, hr, hbytes, hlen⟩ := serialReadTurn_ok msg h hb hf
                rw [hturn, Option.none_or, ok_bind, ← hbytes]
                cases r with
                | none => exact ih msg hr
                | some m =>
                    obtain ⟨hfault, hok⟩ := ih m hr
                    refine ⟨fun f hff => by simp [hfault f hff], fun hnone => ?_⟩
                    obtain ⟨t, ms, hrun, hrep, hms, hlens⟩ := hok hnone
                    have hm : m.len.toNat ≤ ubPacketlen := hlen m rfl
                    exact ⟨t, m :: ms, by simp [hrun], hrep, by simp [hms],
                      by simpa [hm] using hlens⟩
          · -- an escape outside an escape
            have he : e = false := by simpa using fun hc => hb (.inl hc)
            have hesc : b = serialEscape := by simpa using fun hc => hb (.inr hc)
            subst he hesc
            obtain ⟨s', hturn, hr⟩ := serialReadTurn_escape msg h
            rw [hturn]
            exact ih msg hr

end Ubd
