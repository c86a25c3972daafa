import Mathlib.Data.List.Basic
import Mathlib.Data.List.Induction
import Mathlib.Data.List.TakeWhile
import Mathlib.Data.Option.Basic

/-!
# EscapeFraming — byte stuffing with a start and an end mark

A stream format over any alphabet: an escape symbol introduces either a start
mark, an end mark or a symbol taken literally. This module holds the format
itself: how a stream is cut into tokens, how a payload is stuffed, what the
frames of a token stream are, and the abstract receiver that keeps the open
frame and hands a frame over at its end mark.

The receiver is the object programs refine. `frames_eq_contents` says that on a
bracketed stream it hands over exactly the contents a reader of the format
expects: those between each end mark and the last start mark before it.
-/

namespace EscapeFraming

variable {α : Type}

/-- The three symbols with a meaning of their own. -/
structure Marks (α : Type) where
  esc : α
  start : α
  stop : α
  start_ne_esc : start ≠ esc
  stop_ne_esc : stop ≠ esc
  start_ne_stop : start ≠ stop

inductive Token (α : Type) where
  | start
  | stop
  | lit (a : α)
  deriving DecidableEq, Repr

/-- The symbol of a literal. -/
def Token.lit? : Token α → Option α
  | .lit a => some a
  | _ => none

@[simp] theorem Token.lit?_lit (a : α) : (Token.lit a).lit? = some a := rfl

/-! ## Tokens of a stream -/

section Stuffing

variable [DecidableEq α]

/-- The token an escape and the symbol after it stand for. -/
def Marks.escaped (M : Marks α) (b : α) : Token α :=
  if b = M.start then .start else if b = M.stop then .stop else .lit b

/-- Cut a stream into tokens, left to right. The flag says that the symbol
before was an escape still waiting for its second half; an escape with nothing
after it is no token yet. -/
def Marks.tokensFrom (M : Marks α) : Bool → List α → List (Token α)
  | _, [] => []
  | true, b :: l => M.escaped b :: M.tokensFrom false l
  | false, b :: l =>
      if b = M.esc then M.tokensFrom true l else .lit b :: M.tokensFrom false l

/-- Whether the stream ends between an escape and its second half. -/
def Marks.pendingFrom (M : Marks α) : Bool → List α → Bool
  | e, [] => e
  | true, _ :: l => M.pendingFrom false l
  | false, b :: l => M.pendingFrom (decide (b = M.esc)) l

def Marks.tokens (M : Marks α) (l : List α) : List (Token α) := M.tokensFrom false l

def Marks.pending (M : Marks α) (l : List α) : Bool := M.pendingFrom false l

theorem Marks.tokensFrom_append (M : Marks α) (e : Bool) (l r : List α) :
    M.tokensFrom e (l ++ r) = M.tokensFrom e l ++ M.tokensFrom (M.pendingFrom e l) r := by
  induction l generalizing e with
  | nil => simp [tokensFrom, pendingFrom]
  | cons b l ih =>
      cases e with
      | true => simp [tokensFrom, pendingFrom, ih]
      | false =>
          by_cases hb : b = M.esc
          · simp [tokensFrom, pendingFrom, hb, ih]
          · simp [tokensFrom, pendingFrom, hb, ih]

theorem Marks.pendingFrom_append (M : Marks α) (e : Bool) (l r : List α) :
    M.pendingFrom e (l ++ r) = M.pendingFrom (M.pendingFrom e l) r := by
  induction l generalizing e with
  | nil => rfl
  | cons b l ih =>
      cases e with
      | true => simp [pendingFrom, ih]
      | false => simp [pendingFrom, ih]

theorem Marks.tokens_append {M : Marks α} {l : List α} (h : M.pending l = false) (r : List α) :
    M.tokens (l ++ r) = M.tokens l ++ M.tokens r := by
  rw [tokens, tokensFrom_append, show M.pendingFrom false l = false from h]
  rfl

theorem Marks.pending_append {M : Marks α} {l : List α} (h : M.pending l = false) (r : List α) :
    M.pending (l ++ r) = M.pending r := by
  rw [pending, pendingFrom_append, show M.pendingFrom false l = false from h]
  rfl

/-! ## Stuffing -/

/-- One symbol as it goes on the line: an escape is doubled. -/
def Marks.stuff1 (M : Marks α) (a : α) : List α :=
  if a = M.esc then [M.esc, a] else [a]

def Marks.stuff (M : Marks α) (m : List α) : List α := m.flatMap M.stuff1

/-- A whole frame: start mark, stuffed payload, end mark. -/
def Marks.encode (M : Marks α) (m : List α) : List α :=
  [M.esc, M.start] ++ M.stuff m ++ [M.esc, M.stop]

@[simp] theorem Marks.escaped_start (M : Marks α) : M.escaped M.start = .start := by
  simp [escaped]

@[simp] theorem Marks.escaped_stop (M : Marks α) : M.escaped M.stop = .stop := by
  simp [escaped, M.start_ne_stop.symm]

@[simp] theorem Marks.escaped_esc (M : Marks α) : M.escaped M.esc = .lit M.esc := by
  simp [escaped, M.start_ne_esc.symm, M.stop_ne_esc.symm]

theorem Marks.tokens_stuff1 (M : Marks α) (a : α) :
    M.tokens (M.stuff1 a) = [.lit a] ∧ M.pending (M.stuff1 a) = false := by
  by_cases h : a = M.esc
  · subst h
    simp [stuff1, tokens, pending, tokensFrom, pendingFrom]
  · simp [stuff1, tokens, pending, tokensFrom, pendingFrom, h]

theorem Marks.tokens_stuff (M : Marks α) (m : List α) :
    M.tokens (M.stuff m) = m.map .lit ∧ M.pending (M.stuff m) = false := by
  induction m with
  | nil => exact ⟨rfl, rfl⟩
  | cons a m ih =>
      obtain ⟨ha, hp⟩ := M.tokens_stuff1 a
      have hcons : M.stuff (a :: m) = M.stuff1 a ++ M.stuff m := rfl
      rw [hcons, tokens_append hp, pending_append hp, ha, ih.1, ih.2]
      exact ⟨rfl, rfl⟩

/-- **Tokens of an encoded frame**: one start, the payload literally, one end. -/
theorem Marks.tokens_encode (M : Marks α) (m : List α) :
    M.tokens (M.encode m) = .start :: (m.map .lit ++ [.stop])
      ∧ M.pending (M.encode m) = false := by
  obtain ⟨ht, hp⟩ := M.tokens_stuff m
  have hstart : M.pending [M.esc, M.start] = false := by
    simp [pending, pendingFrom]
  have hbody : M.pending ([M.esc, M.start] ++ M.stuff m) = false := by
    rw [pending_append hstart, hp]
  rw [encode, tokens_append hbody, tokens_append hstart, pending_append hbody, ht]
  simp [tokens, tokensFrom, pending, pendingFrom]

/-- A frame behind an escape that waits: its start mark is read as two literals. -/
theorem Marks.tokensFrom_true_encode (M : Marks α) (m : List α) :
    M.tokensFrom true (M.encode m)
      = .lit M.esc :: .lit M.start :: (m.map .lit ++ [.stop]) := by
  obtain ⟨ht, hp⟩ := M.tokens_stuff m
  have hstop : M.tokens (M.stuff m ++ [M.esc, M.stop]) = m.map .lit ++ [.stop] := by
    rw [tokens_append hp, ht]
    simp [tokens, tokensFrom]
  rw [← hstop]
  simp [encode, tokens, tokensFrom, M.start_ne_esc]

/-- Symbols that are no escape are tokens of their own. -/
theorem Marks.tokens_plain {M : Marks α} {l : List α} (h : M.esc ∉ l) :
    M.tokens l = l.map .lit ∧ M.pending l = false := by
  have hs : M.stuff l = l := by
    induction l with
    | nil => rfl
    | cons a l ih =>
        have ha : a ≠ M.esc := fun hc => h (by simp [hc])
        have hcons : M.stuff (a :: l) = M.stuff1 a ++ M.stuff l := rfl
        rw [hcons, ih (fun hc => h (by simp [hc])), stuff1, if_neg ha]
        rfl
  have := M.tokens_stuff l
  rwa [hs] at this

/-- Only an escape can be left without a token. -/
theorem Marks.pendingFrom_of_tokensFrom_nil {M : Marks α} {e : Bool} {l : List α}
    (h : M.tokensFrom e l = []) (hl : l ≠ []) : M.pendingFrom e l = true := by
  obtain ⟨b, r, rfl⟩ := List.exists_cons_of_ne_nil hl
  cases e with
  | true => simp [tokensFrom] at h
  | false =>
      by_cases hb : b = M.esc
      · cases r with
        | nil => simp [pendingFrom, hb]
        | cons c r => simp [tokensFrom, hb] at h
      · simp [tokensFrom, hb] at h

/-- **A frame that is cut off** shows no end mark: it shows nothing, or a start mark
and the first symbols of its payload. -/
theorem Marks.tokens_take_encode (M : Marks α) {m : List α} {k : Nat}
    (hk : k < (M.encode m).length) :
    M.tokens ((M.encode m).take k) = []
      ∨ ∃ j, M.tokens ((M.encode m).take k) = .start :: (m.take j).map .lit := by
  obtain ⟨htok, hpend⟩ := M.tokens_encode m
  rw [tokens, ← List.take_append_drop k (M.encode m), tokensFrom_append] at htok
  rw [pending, ← List.take_append_drop k (M.encode m), pendingFrom_append] at hpend
  have hdrop : (M.encode m).drop k ≠ [] := by
    rw [ne_eq, List.drop_eq_nil_iff]
    omega
  have hrest : M.tokensFrom (M.pendingFrom false ((M.encode m).take k)) ((M.encode m).drop k)
      ≠ [] := by
    intro hnil
    rw [pendingFrom_of_tokensFrom_nil hnil hdrop] at hpend
    cases hpend
  -- what the cut leaves out ends with the end mark
  obtain ⟨us, t, hus⟩ := (List.eq_nil_or_concat _).resolve_left hrest
  rw [hus, List.concat_eq_append, ← List.append_assoc, ← List.cons_append] at htok
  have hshown : M.tokensFrom false ((M.encode m).take k) <+: .start :: m.map .lit :=
    ⟨us, (List.append_inj' htok rfl).1⟩
  rcases List.prefix_cons_iff.mp hshown with hnil | ⟨r, hr, hpre⟩
  · exact .inl hnil
  · refine .inr ⟨r.length, ?_⟩
    rw [tokens, hr, List.map_take, ← List.prefix_iff_eq_take.mp hpre]

end Stuffing

/-! ## The receiver -/

/-- The open frame after one token: a start opens an empty frame (also inside a
frame), a literal extends the open frame, an end closes it. -/
def openStep (o : Option (List α)) : Token α → Option (List α)
  | .start => some []
  | .stop => none
  | .lit a => o.map (· ++ [a])

/-- The frame open after the tokens `ts`, from the open frame `o`. -/
def openAfter (o : Option (List α)) (ts : List (Token α)) : Option (List α) :=
  ts.foldl openStep o

/-- The frames handed over on the way, empty ones left out. -/
def frames : Option (List α) → List (Token α) → List (List α)
  | _, [] => []
  | o, .stop :: ts => (o.filter (· ≠ [])).toList ++ frames none ts
  | o, t :: ts => frames (openStep o t) ts

@[simp] theorem openAfter_nil (o : Option (List α)) : openAfter o [] = o := rfl

@[simp] theorem openAfter_cons (o : Option (List α)) (t : Token α) (ts : List (Token α)) :
    openAfter o (t :: ts) = openAfter (openStep o t) ts := rfl

theorem openAfter_append (o : Option (List α)) (ts us : List (Token α)) :
    openAfter o (ts ++ us) = openAfter (openAfter o ts) us := by
  simp [openAfter]

theorem frames_append (o : Option (List α)) (ts us : List (Token α)) :
    frames o (ts ++ us) = frames o ts ++ frames (openAfter o ts) us := by
  induction ts generalizing o with
  | nil => simp [frames]
  | cons t ts ih => cases t <;> simp [frames, openStep, ih]

theorem openAfter_lits (o : Option (List α)) (m : List α) :
    openAfter o (m.map .lit) = o.map (· ++ m) := by
  induction m generalizing o with
  | nil => cases o <;> simp
  | cons a m ih => cases o <;> simp [openStep, ih]

theorem frames_lits (o : Option (List α)) (m : List α) : frames o (m.map .lit) = [] := by
  induction m generalizing o with
  | nil => rfl
  | cons a m ih => simp [frames, ih]

/-- The tokens of one frame, after literals that belong to no frame or to one
that is never closed: exactly the frame is handed over. -/
theorem frames_frame (o : Option (List α)) {m : List α} (hm : m ≠ []) (us : List (Token α)) :
    frames o (.start :: (m.map .lit ++ [.stop]) ++ us) = m :: frames none us := by
  have hopen : openAfter (some []) (m.map .lit) = some m := by simp [openAfter_lits]
  simp [frames, openStep, frames_append, frames_lits, hopen, hm, Option.filter]

/-- **What an open frame is**: the literals since a start mark, none of them a
mark. -/
theorem openAfter_none_eq_some {ts : List (Token α)} {c : List α} :
    openAfter none ts = some c ↔ ∃ pre, ts = pre ++ .start :: c.map .lit := by
  constructor
  · intro h
    induction ts using List.reverseRecOn generalizing c with
    | nil => simp at h
    | append_singleton ts t ih =>
        rw [openAfter_append] at h
        cases t with
        | start =>
            have hc : [] = c := by simpa [openStep] using h
            exact ⟨ts, by simp [← hc]⟩
        | stop => simp [openStep] at h
        | lit a =>
            simp only [openAfter_cons, openAfter_nil, openStep, Option.map_eq_some_iff] at h
            obtain ⟨d, hd, rfl⟩ := h
            obtain ⟨pre, rfl⟩ := ih hd
            exact ⟨pre, by simp⟩
  · rintro ⟨pre, rfl⟩
    rw [openAfter_append, openAfter_cons, openAfter_lits]
    simp [openStep]

/-! ## The reader's view of the format -/

section Contents

variable [DecidableEq α]

/-- The literals after the last start mark. -/
def sinceStart (ts : List (Token α)) : Option (List α) :=
  if Token.start ∈ ts then
    some ((ts.reverse.takeWhile (· ≠ .start)).reverse.filterMap Token.lit?)
  else none

/-- The non-empty contents between each end mark and the last start mark before
it, in order. -/
def contents (ts : List (Token α)) : List (List α) :=
  (List.range ts.length).filterMap fun i =>
    if ts[i]? = some .stop then (sinceStart (ts.take i)).filter (· ≠ []) else none

/-- Before every end mark there is a start mark that comes after the previous
end mark, if any. -/
def Bracketed (ts : List (Token α)) : Prop :=
  ∀ pre post, ts = pre ++ .stop :: post →
    ∃ l r, pre = l ++ .start :: r ∧ Token.stop ∉ r

omit [DecidableEq α] in
theorem Bracketed.of_append {ts us : List (Token α)} (h : Bracketed (ts ++ us)) : Bracketed ts := by
  intro pre post hts
  exact h pre (post ++ us) (by simp [hts])

theorem sinceStart_append_start (ts : List (Token α)) : sinceStart (ts ++ [.start]) = some [] := by
  simp [sinceStart]

theorem sinceStart_append_lit (ts : List (Token α)) (a : α) :
    sinceStart (ts ++ [.lit a]) = (sinceStart ts).map (· ++ [a]) := by
  by_cases h : Token.start ∈ ts
  · simp [sinceStart, h]
  · simp [sinceStart, h]

theorem sinceStart_append_lits (ts : List (Token α)) (c : List α) :
    sinceStart (ts ++ c.map .lit) = (sinceStart ts).map (· ++ c) := by
  induction c using List.reverseRecOn with
  | nil => simp
  | append_singleton c a ih =>
      rw [List.map_append, ← List.append_assoc, List.map_singleton, sinceStart_append_lit, ih,
        Option.map_map]
      simp [Function.comp_def]

/-- The open frame is what stands since the last start mark. -/
theorem sinceStart_eq_open {ts : List (Token α)} {c : List α} (h : openAfter none ts = some c) :
    sinceStart ts = some c := by
  obtain ⟨pre, rfl⟩ := openAfter_none_eq_some.mp h
  rw [List.append_cons, sinceStart_append_lits, sinceStart_append_start]
  rfl

omit [DecidableEq α] in
/-- In a bracketed stream a frame is open at every end mark. -/
theorem Bracketed.open_at_stop {ts : List (Token α)} (h : Bracketed (ts ++ [.stop])) :
    ∃ c, openAfter none ts = some c := by
  obtain ⟨l, r, rfl, hr⟩ := h ts [] rfl
  have hgen : ∀ (r : List (Token α)) (c : List α), Token.stop ∉ r →
      ∃ d, openAfter (some c) r = some d := by
    intro r
    induction r with
    | nil => intro c _; exact ⟨c, rfl⟩
    | cons t r ih =>
        intro c hr
        have hr' : Token.stop ∉ r := fun hc => hr (by simp [hc])
        cases t with
        | start => exact ih [] hr'
        | stop => exact absurd (by simp) hr
        | lit a => exact ih (c ++ [a]) hr'
  rw [openAfter_append]
  exact hgen r [] hr

theorem contents_append_singleton (ts : List (Token α)) (t : Token α) :
    contents (ts ++ [t]) = contents ts
      ++ (if t = .stop then ((sinceStart ts).filter (· ≠ [])).toList else []) := by
  have hold : ∀ i ∈ List.range ts.length,
      (if (ts ++ [t])[i]? = some .stop
        then (sinceStart ((ts ++ [t]).take i)).filter (· ≠ []) else none)
      = if ts[i]? = some .stop then (sinceStart (ts.take i)).filter (· ≠ []) else none := by
    intro i hi
    have hlt : i < ts.length := List.mem_range.mp hi
    rw [List.getElem?_append_left hlt, List.take_append_of_le_length hlt.le]
  rw [contents, List.length_append, List.length_singleton, List.range_succ, List.filterMap_append,
    List.filterMap_congr hold]
  congr 1
  by_cases ht : t = .stop
  · simp only [List.filterMap_cons, List.filterMap_nil, List.getElem?_concat_length, ht,
      if_true, List.take_left']
    cases (sinceStart ts).filter (· ≠ []) <;> rfl
  · simp [ht]

/-- **The receiver hands over what the reader expects.** -/
theorem frames_eq_contents {ts : List (Token α)} (h : Bracketed ts) :
    frames none ts = contents ts := by
  induction ts using List.reverseRecOn with
  | nil => rfl
  | append_singleton ts t ih =>
      rw [frames_append, contents_append_singleton, ih h.of_append]
      congr 1
      cases t with
      | start => simp [frames]
      | lit a => simp [frames]
      | stop =>
          obtain ⟨c, hc⟩ := h.open_at_stop
          simp [frames, hc, sinceStart_eq_open hc]

end Contents

end EscapeFraming
