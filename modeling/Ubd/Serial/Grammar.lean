import Ubd.Serial.Decode

/-!
# Serial.Grammar — which streams the receiver survives, and what it returns

The conditions are on the tokens of the stream alone. `WellFramed` streams are
decoded exactly (`serialReadMessages_wellFramed`). Outside of them the receiver
has two defects. `EndsFit` is the condition under which no assertion of
`serial.c` fails (`serialReadMessages_survives_iff`); `FramesBuffered` is the one
under which the receive buffer is not overrun (`serialBuffer_never_overrun_iff`).
-/

namespace Ubd

open EscapeFraming

/-- The tokens of the bytes read. -/
def lineTokens (rs : List ReadResult) : List (Token UInt8) := serialMarks.tokens (bytesRead rs)

/-! ## The first harmful token -/

theorem firstFault_append (o : Option (List UInt8)) (ts us : List (Token UInt8)) :
    firstFault o (ts ++ us) = (firstFault o ts).or (firstFault (openAfter o ts) us) := by
  induction ts generalizing o with
  | nil => simp [firstFault]
  | cons t ts ih => simp [firstFault, ih, Option.or_assoc]

theorem firstFault_none_at {o : Option (List UInt8)} {ts pre post : List (Token UInt8)}
    {t : Token UInt8} (h : firstFault o ts = none) (hts : ts = pre ++ t :: post) :
    firstFault o pre = none ∧ tokenFault (openAfter o pre) t = none := by
  rw [hts, firstFault_append, Option.or_eq_none_iff, firstFault, Option.or_eq_none_iff] at h
  exact ⟨h.1, h.2.1⟩

/-- The token the daemon ends at, with nothing harmful before it. -/
theorem firstFault_eq_some {o : Option (List UInt8)} {ts : List (Token UInt8)} {f : Fault}
    (h : firstFault o ts = some f) :
    ∃ pre t post, ts = pre ++ t :: post ∧ firstFault o pre = none
      ∧ tokenFault (openAfter o pre) t = some f := by
  induction ts generalizing o with
  | nil => simp [firstFault] at h
  | cons t ts ih =>
      cases hf : tokenFault o t with
      | some g =>
          refine ⟨[], t, ts, rfl, rfl, ?_⟩
          simpa [firstFault, hf] using h
      | none =>
          rw [firstFault, hf, Option.none_or] at h
          obtain ⟨pre, u, post, rfl, hpre, hu⟩ := ih h
          exact ⟨t :: pre, u, post, rfl, by simp [firstFault, hf, hpre], by simpa using hu⟩

theorem tokenFault_lit_eq_some {o : Option (List UInt8)} {a : UInt8} {f : Fault} :
    tokenFault o (.lit a) = some f ↔
      f = .outOfBounds ∧ ∃ c, o = some c ∧ serialBufferlen ≤ c.length := by
  cases o with
  | none => simp [tokenFault]
  | some c => simp [tokenFault, and_comm, eq_comm]

theorem tokenFault_stop_eq_none {o : Option (List UInt8)} :
    tokenFault o .stop = none ↔ ∃ c, o = some c ∧ c.length ≤ ubPacketlen := by
  cases o with
  | none => simp [tokenFault]
  | some c => simp [tokenFault]

theorem tokenFault_assertion {o : Option (List UInt8)} {t : Token UInt8}
    (h : tokenFault o t = some .assertion) : t = .stop := by
  cases t with
  | start => simp [tokenFault] at h
  | stop => rfl
  | lit a => simp [tokenFault_lit_eq_some] at h

theorem tokenFault_outOfBounds {o : Option (List UInt8)} {t : Token UInt8}
    (h : tokenFault o t = some .outOfBounds) :
    ∃ a c, t = .lit a ∧ o = some c ∧ serialBufferlen ≤ c.length := by
  cases t with
  | start => simp [tokenFault] at h
  | stop =>
      cases o with
      | none => simp [tokenFault] at h
      | some c => simp [tokenFault] at h
  | lit a =>
      obtain ⟨-, c, hc⟩ := tokenFault_lit_eq_some.mp h
      exact ⟨a, c, rfl, hc⟩

/-- The only ends of the daemon are a failed assertion and an overrun. -/
theorem tokenFault_cases {o : Option (List UInt8)} {t : Token UInt8} {f : Fault}
    (h : tokenFault o t = some f) : f = .assertion ∨ f = .outOfBounds := by
  cases t with
  | start => simp [tokenFault] at h
  | lit a => exact .inr (tokenFault_lit_eq_some.mp h).1
  | stop =>
      cases o with
      | none => simp [tokenFault] at h; exact .inl h.symm
      | some c => simp [tokenFault] at h; exact .inl h.2.symm

/-! ## Conditions on a stream -/

/-- No frame collects more literals than the buffer holds: those since a start mark,
up to the next mark. -/
def FramesBuffered (ts : List (Token UInt8)) : Prop :=
  ∀ (pre : List (Token UInt8)) (c : List UInt8) (post : List (Token UInt8)),
    ts = pre ++ .start :: (c.map .lit ++ post) → c.length ≤ serialBufferlen

/-- Every end mark closes an open frame, and one that fits a message. -/
def EndsFit (ts : List (Token UInt8)) : Prop :=
  ∀ pre post, ts = pre ++ .stop :: post →
    ∃ (l : List (Token UInt8)) (c : List UInt8),
      pre = l ++ .start :: c.map .lit ∧ c.length ≤ ubPacketlen

/-- Streams as a sender makes them, with any noise: before every end mark there is a
start mark that comes after the previous end mark; at most 100 literals follow a
start mark; at most 50 lie between a start mark and its end mark. -/
structure WellFramed (ts : List (Token UInt8)) : Prop where
  bracketed : Bracketed ts
  buffered : FramesBuffered ts
  fits : ∀ (pre : List (Token UInt8)) (c : List UInt8) (post : List (Token UInt8)),
    ts = pre ++ .start :: (c.map .lit ++ .stop :: post) → c.length ≤ ubPacketlen

theorem FramesBuffered.of_prefix {ts us : List (Token UInt8)} (h : FramesBuffered ts)
    (hp : us <+: ts) : FramesBuffered us := by
  obtain ⟨rest, rfl⟩ := hp
  intro pre c post hus
  exact h pre c (post ++ rest) (by simp [hus])

theorem EndsFit.of_prefix {ts us : List (Token UInt8)} (h : EndsFit ts) (hp : us <+: ts) :
    EndsFit us := by
  obtain ⟨rest, rfl⟩ := hp
  intro pre post hus
  exact h pre (post ++ rest) (by simp [hus])

/-- An end mark is harmless exactly when it closes an open frame that fits. -/
theorem tokenFault_stop_iff {pre : List (Token UInt8)} :
    tokenFault (openAfter none pre) .stop = none ↔
      ∃ (l : List (Token UInt8)) (c : List UInt8),
        pre = l ++ .start :: c.map .lit ∧ c.length ≤ ubPacketlen := by
  rw [tokenFault_stop_eq_none]
  constructor
  · rintro ⟨c, hc, hlen⟩
    obtain ⟨l, hl⟩ := openAfter_none_eq_some.mp hc
    exact ⟨l, c, hl, hlen⟩
  · rintro ⟨l, c, hl, hlen⟩
    exact ⟨c, openAfter_none_eq_some.mpr ⟨l, hl⟩, hlen⟩

/-- A harmless stream has only ends that fit. -/
theorem endsFit_of_harmless {ts : List (Token UInt8)} (h : firstFault none ts = none) :
    EndsFit ts := by
  intro pre post hts
  exact tokenFault_stop_iff.mp (firstFault_none_at h hts).2

/-- An assertion fails only at an end mark that does not fit. -/
theorem not_endsFit_of_assertion {ts : List (Token UInt8)}
    (h : firstFault none ts = some .assertion) : ¬ EndsFit ts := by
  obtain ⟨pre, t, post, hts, -, ht⟩ := firstFault_eq_some h
  obtain rfl := tokenFault_assertion ht
  intro hfit
  rw [tokenFault_stop_iff.mpr (hfit pre post hts)] at ht
  cases ht

/-- The buffer is overrun only by a frame of more than 100 literals, and nothing
harmful comes before that frame. -/
theorem overrun_frame {ts : List (Token UInt8)} (h : firstFault none ts = some .outOfBounds) :
    ∃ (pre : List (Token UInt8)) (c : List UInt8) (post : List (Token UInt8)),
      ts = pre ++ .start :: (c.map .lit ++ post) ∧ firstFault none pre = none
      ∧ serialBufferlen < c.length := by
  obtain ⟨pre, t, post, hts, hpre, ht⟩ := firstFault_eq_some h
  obtain ⟨a, c, rfl, hc, hlen⟩ := tokenFault_outOfBounds ht
  obtain ⟨l, hl⟩ := openAfter_none_eq_some.mp hc
  refine ⟨l, c ++ [a], post, by simp [hts, hl], (firstFault_none_at hpre hl).1, ?_⟩
  rw [List.length_append, List.length_singleton]
  omega

/-- If every frame is buffered and every end fits, no token is harmful. -/
theorem harmless_of_fit {ts : List (Token UInt8)} (hbuf : FramesBuffered ts) (hfit : EndsFit ts) :
    firstFault none ts = none := by
  cases hf : firstFault none ts with
  | none => rfl
  | some f =>
      obtain ⟨pre, t, post, -, -, ht⟩ := firstFault_eq_some hf
      rcases tokenFault_cases ht with rfl | rfl
      · exact absurd hfit (not_endsFit_of_assertion hf)
      · obtain ⟨l, c, r, hts, -, hlen⟩ := overrun_frame hf
        exact absurd (hbuf l c r hts) (by omega)

/-- In a bracketed stream an end mark is preceded by a start mark and literals. -/
theorem WellFramed.endsFit {ts : List (Token UInt8)} (h : WellFramed ts) : EndsFit ts := by
  intro pre post hts
  have hbr : Bracketed (pre ++ [.stop]) := by
    have hall : Bracketed (pre ++ [.stop] ++ post) := by simpa [← hts] using h.bracketed
    exact hall.of_append
  obtain ⟨c, hc⟩ := hbr.open_at_stop
  obtain ⟨l, hl⟩ := openAfter_none_eq_some.mp hc
  exact ⟨l, c, hl, h.fits l c post (by simp [hts, hl])⟩

/-- A stream of at most 100 tokens buffers its frames. -/
theorem framesBuffered_of_length {ts : List (Token UInt8)} (h : ts.length ≤ serialBufferlen) :
    FramesBuffered ts := by
  intro pre c post hts
  have hlen := congrArg List.length hts
  simp only [List.length_append, List.length_cons, List.length_map] at hlen
  omega

/-- A stream the receiver survives without filling its buffer is well framed. -/
theorem wellFramed_of_harmless {ts : List (Token UInt8)} (hbuf : FramesBuffered ts)
    (h : firstFault none ts = none) : WellFramed ts where
  bracketed := by
    intro pre post hts
    obtain ⟨l, c, hl, -⟩ := endsFit_of_harmless h pre post hts
    exact ⟨l, c.map .lit, hl, by simp⟩
  buffered := hbuf
  fits := by
    intro pre c post hts
    have hts' : ts = (pre ++ .start :: c.map .lit) ++ .stop :: post := by simp [hts]
    have hstop := (firstFault_none_at h hts').2
    rw [openAfter_none_eq_some.mpr ⟨pre, rfl⟩, tokenFault_stop_eq_none] at hstop
    obtain ⟨d, hd, hlen⟩ := hstop
    cases hd
    exact hlen

/-! ## What the receiver does -/

/-- From the initial state. -/
theorem serialReadMessages_init (msg : Message) (rs : List ReadResult) :
    StreamSpec false none (bytesRead rs) (serialReadMessages msg serialInit rs) :=
  serialReadMessages_spec rs msg represents_init

/-- **The receiver computes the frame grammar.** -/
theorem serialReadMessages_wellFramed (msg : Message) (rs : List ReadResult)
    (h : WellFramed (lineTokens rs)) :
    ∃ s ms, serialReadMessages msg serialInit rs = .ok (s, ms)
      ∧ ms.map Message.bytes = contents (lineTokens rs)
      ∧ ∀ m ∈ ms, m.len.toNat ≤ ubPacketlen := by
  have hharm : firstFault none (lineTokens rs) = none := harmless_of_fit h.buffered h.endsFit
  obtain ⟨s, ms, hrun, -, hms, hlens⟩ := (serialReadMessages_init msg rs).2 hharm
  exact ⟨s, ms, hrun, by rw [hms, ← frames_eq_contents h.bracketed]; rfl, hlens⟩

/-- The message of the caller, before anything is read. -/
def blankMessage : Message := ⟨0, Vector.replicate ubPacketlen 0⟩

/-- A frame inside noise: restarted once, with a stuffed escape and an escaped
ordinary byte. -/
def noisyLine : List ReadResult :=
  [0x41, 0x5C, 0x31, 0x42, 0x5C, 0x31, 0x5C, 0x5C, 0x5C, 0x43, 0x5C, 0x32, 0x44].map .byte

theorem wellFramed_noisyLine : WellFramed (lineTokens noisyLine) :=
  wellFramed_of_harmless (framesBuffered_of_length (by decide)) (by decide)

theorem serialReadMessages_noisyLine :
    ∃ s ms, serialReadMessages blankMessage serialInit noisyLine = .ok (s, ms)
      ∧ ms.map Message.bytes = contents (lineTokens noisyLine)
      ∧ ∀ m ∈ ms, m.len.toNat ≤ ubPacketlen :=
  serialReadMessages_wellFramed blankMessage noisyLine wellFramed_noisyLine

/-! ### Survival -/

/-- The daemon survives the stream and returns every frame that fits a message. -/
def SurvivesLine (msg : Message) (rs : List ReadResult) : Prop :=
  ∃ s ms, serialReadMessages msg serialInit rs = .ok (s, ms)
    ∧ ms.map Message.bytes = (frames none (lineTokens rs)).filter (·.length ≤ ubPacketlen)

/-- A harmless stream hands over only frames that fit. -/
theorem frames_fit {o : Option (List UInt8)} {ts : List (Token UInt8)}
    (h : firstFault o ts = none) : ∀ c ∈ frames o ts, c.length ≤ ubPacketlen := by
  induction ts generalizing o with
  | nil => simp [frames]
  | cons t ts ih =>
      obtain ⟨ht, hts⟩ : tokenFault o t = none ∧ firstFault (openStep o t) ts = none := by
        simpa [firstFault] using h
      intro c hc
      rw [frames_cons, List.mem_append] at hc
      rcases hc with hc | hc
      · cases t with
        | start => simp [handedOver] at hc
        | lit a => simp [handedOver] at hc
        | stop =>
            obtain ⟨d, rfl, hd⟩ := tokenFault_stop_eq_none.mp ht
            rw [handedOver, Option.mem_toList] at hc
            obtain ⟨hdc, -⟩ := Option.filter_eq_some_iff.mp hc
            cases hdc
            exact hd
      · exact ih hts c hc

/-- **Survival is exactly `EndsFit`**, as long as the buffer is not overrun. -/
theorem serialReadMessages_survives_iff (msg : Message) (rs : List ReadResult)
    (h : FramesBuffered (lineTokens rs)) : SurvivesLine msg rs ↔ EndsFit (lineTokens rs) := by
  obtain ⟨hfault, hok⟩ := serialReadMessages_init msg rs
  constructor
  · rintro ⟨s, ms, hrun, -⟩
    apply endsFit_of_harmless
    cases hf : firstFault none (lineTokens rs) with
    | none => rfl
    | some f =>
        rw [hfault f hf] at hrun
        cases hrun
  · intro hfit
    have hharm := harmless_of_fit h hfit
    obtain ⟨s, ms, hrun, -, hms, -⟩ := hok hharm
    refine ⟨s, ms, hrun, ?_⟩
    rw [hms, List.filter_eq_self.mpr]
    · rfl
    · intro c hc
      simpa using frames_fit hharm c hc

/-- An end mark with no frame open, and a frame after it. -/
def strayEnd : List ReadResult :=
  [0x5C, 0x32, 0x5C, 0x31, 0x42, 0x5C, 0x32].map .byte

/-- The frame after the stray end mark is never read: the daemon is gone. -/
theorem strayEnd_not_survived :
    FramesBuffered (lineTokens strayEnd) ∧ ¬ SurvivesLine blankMessage strayEnd := by
  refine ⟨framesBuffered_of_length (by decide), ?_⟩
  rintro ⟨s, ms, hrun, -⟩
  have hf : firstFault none (lineTokens strayEnd) = some .assertion := by decide
  rw [(serialReadMessages_init blankMessage strayEnd).1 _ hf] at hrun
  cases hrun

theorem serialReadMessages_survives_noisyLine :
    SurvivesLine blankMessage noisyLine ↔ EndsFit (lineTokens noisyLine) :=
  serialReadMessages_survives_iff blankMessage noisyLine (framesBuffered_of_length (by decide))

/-! ### The receive buffer -/

/-- After every prefix of the reads the buffer has only been written inside, and
`fill` points into it or just behind it. -/
def NeverOverrun (msg : Message) (rs : List ReadResult) : Prop :=
  ∀ rs', rs' <+: rs → serialReadMessages msg serialInit rs' ≠ .error .outOfBounds
    ∧ ∀ s ms, serialReadMessages msg serialInit rs' = .ok (s, ms) →
        -1 ≤ s.fill ∧ s.fill ≤ serialBufferlen

/-- No frame collects more than 100 literals while the daemon runs: a frame after an
end mark that does not fit is never collected, as that end mark ends the daemon. -/
def BufferedWhileRunning (ts : List (Token UInt8)) : Prop :=
  ∀ (pre : List (Token UInt8)) (c : List UInt8) (post : List (Token UInt8)),
    ts = pre ++ .start :: (c.map .lit ++ post) → EndsFit pre → c.length ≤ serialBufferlen

theorem lineTokens_prefix {rs rs' : List ReadResult} (h : rs' <+: rs) :
    lineTokens rs' <+: lineTokens rs := by
  obtain ⟨rest, rfl⟩ := h
  simp only [lineTokens, Marks.tokens, bytesRead, List.filterMap_append, Marks.tokensFrom_append]
  exact List.prefix_append _ _

/-- A frame that is still open adds no end mark. -/
theorem EndsFit.append_frame {pre : List (Token UInt8)} (h : EndsFit pre) (c : List UInt8) :
    EndsFit (pre ++ .start :: c.map .lit) := by
  intro l r hlr
  have hnot : Token.stop ∉ (.start :: c.map .lit : List (Token UInt8)) := by simp
  rcases List.append_eq_append_iff.mp hlr with ⟨m, hl, hm⟩ | ⟨m, hpre, hr⟩
  · exact absurd (by rw [hm]; simp) hnot
  · cases m with
    | nil =>
        rw [List.nil_append] at hr
        exact absurd (by rw [← hr]; simp) hnot
    | cons t m =>
        obtain ⟨rfl, -⟩ := List.cons_eq_cons.mp hr
        exact h l m hpre

/-- A frame of more than 100 literals overruns the buffer, if nothing before it ended
the daemon. -/
theorem overrun_of_long_frame {pre post : List (Token UInt8)} {content : List UInt8}
    (hfit : EndsFit pre) (hlen : serialBufferlen < content.length) :
    firstFault none (pre ++ .start :: (content.map .lit ++ post)) = some .outOfBounds := by
  have hsplit : content.map Token.lit = (content.take serialBufferlen).map .lit
      ++ .lit content[serialBufferlen] :: (content.drop (serialBufferlen + 1)).map .lit := by
    rw [← List.map_cons, ← List.map_append, List.cons_getElem_drop_succ, List.take_append_drop]
  have hfull : firstFault none (pre ++ .start :: content.map .lit) ≠ none := by
    intro hnone
    have hts : pre ++ .start :: content.map .lit
        = (pre ++ .start :: (content.take serialBufferlen).map .lit)
          ++ .lit content[serialBufferlen] :: (content.drop (serialBufferlen + 1)).map .lit := by
      rw [hsplit, List.append_assoc, List.cons_append]
    have hlit := (firstFault_none_at hnone hts).2
    rw [openAfter_none_eq_some.mpr ⟨pre, rfl⟩] at hlit
    simp [tokenFault] at hlit
    omega
  rw [show pre ++ .start :: (content.map .lit ++ post)
      = (pre ++ .start :: content.map .lit) ++ post by simp,
    firstFault_append]
  obtain ⟨f, hf⟩ := Option.ne_none_iff_exists'.mp hfull
  obtain ⟨_, _, _, -, -, ht⟩ := firstFault_eq_some hf
  rcases tokenFault_cases ht with rfl | rfl
  · exact absurd (hfit.append_frame content) (not_endsFit_of_assertion hf)
  · rw [hf, Option.some_or]

/-- **The receive buffer is kept exactly when no frame collects more than 100 literals
while the daemon runs.** -/
theorem serialBuffer_never_overrun_iff (msg : Message) (rs : List ReadResult) :
    NeverOverrun msg rs ↔ BufferedWhileRunning (lineTokens rs) := by
  constructor
  · intro h pre c post hts hfit
    by_contra hlen
    have hf : firstFault none (lineTokens rs) = some .outOfBounds := by
      rw [hts]
      exact overrun_of_long_frame hfit (by omega)
    exact (h rs (List.prefix_refl rs)).1 ((serialReadMessages_init msg rs).1 _ hf)
  · intro h rs' hpre
    obtain ⟨hfault, hok⟩ := serialReadMessages_init msg rs'
    cases hf : firstFault none (lineTokens rs') with
    | none =>
        obtain ⟨s, ms, hrun, hrep, -⟩ := hok hf
        refine ⟨by simp [hrun], fun s' ms' hrun' => ?_⟩
        rw [hrun] at hrun'
        cases hrun'
        exact hrep.fill_bounds
    | some f =>
        have hrun := hfault f hf
        refine ⟨fun hout => ?_, by simp [hrun]⟩
        rw [hrun] at hout
        cases hout
        obtain ⟨pre, c, post, hts, hharm, hlen⟩ := overrun_frame hf
        obtain ⟨rest, hrest⟩ := lineTokens_prefix hpre
        have hle := h pre c (post ++ rest) (by rw [← hrest, hts]; simp)
          (endsFit_of_harmless hharm)
        omega

/-- A start mark and 101 literals. -/
def longFrame : List ReadResult :=
  (serialEscape :: serialStart :: List.replicate 101 0x41).map .byte

/-- The last literal is written behind the buffer. -/
theorem longFrame_overruns : ¬ NeverOverrun blankMessage longFrame := by
  intro h
  have htok : lineTokens longFrame
      = [] ++ .start :: ((List.replicate 101 0x41).map .lit ++ []) := by decide
  have hf : firstFault none (lineTokens longFrame) = some .outOfBounds := by
    rw [htok]
    exact overrun_of_long_frame (by intro pre post hts; simp at hts) (by decide)
  exact (h longFrame (List.prefix_refl _)).1
    ((serialReadMessages_init blankMessage longFrame).1 _ hf)

end Ubd
