import Mathlib.Data.List.Basic
import Mathlib.Data.List.TakeWhile

/-!
# Output — a text that is put out in pieces

Into memory of a fixed size, piece behind piece, each with a terminator that the next piece
overwrites: `foldlM_append` says when all pieces fit, and what the memory holds then. And to a
stream that takes as much of a piece as it likes: `length_written_iff` says when nothing of the
text is lost.
-/

namespace Output

variable {α φ : Type}

/-! ## Into memory -/

/-- A text and its terminator, written to a place in memory. -/
def place (nul : α) (mem : List α) (pos : Nat) (text : List α) : List α :=
  mem.take pos ++ text ++ nul :: mem.drop (pos + text.length + 1)

/-- Write a text, if it and its terminator fit. -/
def print (nul : α) (x : φ) (mem : List α) (pos : Nat) (text : List α) : Except φ (List α) :=
  if pos + text.length + 1 ≤ mem.length then .ok (place nul mem pos text) else .error x

/-- Write a text and go on behind it, where its terminator is. -/
def append (nul : α) (x : φ) (s : List α × Nat) (text : List α) : Except φ (List α × Nat) :=
  match print nul x s.1 s.2 text with
  | .ok mem => .ok (mem, s.2 + text.length)
  | .error y => .error y

section Memory

variable {nul : α} {x : φ} {mem : List α} {pos : Nat} {text text' : List α}

theorem length_place (h : pos + text.length + 1 ≤ mem.length) :
    (place nul mem pos text).length = mem.length := by
  simp only [place, List.length_append, List.length_take, List.length_cons, List.length_drop]
  omega

/-- The next text overwrites the terminator. -/
theorem place_place (hpos : pos ≤ mem.length) :
    place nul (place nul mem pos text) (pos + text.length) text'
      = place nul mem pos (text ++ text') := by
  have hfront : (mem.take pos ++ text).length = pos + text.length := by
    rw [List.length_append, List.length_take, Nat.min_eq_left hpos]
  have htake : (place nul mem pos text).take (pos + text.length) = mem.take pos ++ text := by
    rw [place, List.take_append_of_le_length (Nat.le_of_eq hfront.symm), ← hfront, List.take_length]
  have hdrop : (place nul mem pos text).drop (pos + text.length + text'.length + 1)
      = mem.drop (pos + (text ++ text').length + 1) := by
    have hsplit : pos + text.length + text'.length + 1
        = (mem.take pos ++ text).length + (text'.length + 1) := by omega
    have hlen : pos + text.length + 1 + text'.length = pos + (text ++ text').length + 1 := by
      rw [List.length_append]
      omega
    rw [place, hsplit, List.drop_length_add_append, List.drop_succ_cons, List.drop_drop, hlen]
  rw [place, htake, hdrop, place, List.append_assoc (mem.take pos)]

/-- What is read back up to the terminator. -/
theorem takeWhile_place [DecidableEq α] (h : nul ∉ text) :
    (place nul mem 0 text).takeWhile (· ≠ nul) = text := by
  have hall : ∀ a ∈ text, decide (a ≠ nul) = true := by
    intro a ha
    refine decide_eq_true ?_
    rintro rfl
    exact h ha
  rw [place, List.take_zero, List.nil_append, List.takeWhile_append_of_pos hall,
    List.takeWhile_cons_of_neg (by simp), List.append_nil]

theorem append_eq : append nul x (mem, pos) text
    = if pos + text.length + 1 ≤ mem.length then .ok (place nul mem pos text, pos + text.length)
      else .error x := by
  unfold append print
  by_cases hfits : pos + text.length + 1 ≤ mem.length
  · simp only [hfits, if_true]
  · simp only [hfits, if_false]

/-- **Pieces behind each other** fit exactly when all of them do with one terminator, and
leave the same memory as the whole text. -/
theorem foldlM_append {texts : List (List α)} (hne : texts ≠ []) :
    texts.foldlM (append nul x) (mem, pos)
      = if pos + texts.flatten.length + 1 ≤ mem.length then
          .ok (place nul mem pos texts.flatten, pos + texts.flatten.length)
        else .error x := by
  induction texts generalizing mem pos with
  | nil => exact absurd rfl hne
  | cons text texts ih =>
      rw [List.foldlM_cons, append_eq, List.flatten_cons, List.length_append]
      by_cases hfirst : pos + text.length + 1 ≤ mem.length
      · rw [if_pos hfirst]
        show texts.foldlM (append nul x) (place nul mem pos text, pos + text.length) = _
        cases texts with
        | nil =>
            simp only [List.flatten_nil, List.append_nil, List.length_nil, Nat.add_zero, hfirst,
              if_true]
            exact List.foldlM_nil ..
        | cons t ts =>
            rw [ih (List.cons_ne_nil t ts), length_place hfirst, place_place (by omega),
              Nat.add_assoc pos]
      · -- a piece that does not fit is the last one
        rw [if_neg hfirst, if_neg (by omega)]
        rfl

end Memory

/-! ## To a stream -/

/-- What has gone out on a stream, and in how many writes. -/
structure Stream (α : Type) where
  written : List α
  writes : Nat

def Stream.fresh : Stream α := ⟨[], 0⟩

/-- A write. Of a piece of length `n`, write number `i` takes `accept i n` elements. -/
def Stream.write (accept : Nat → Nat → Nat) (s : Stream α) (piece : List α) : Stream α :=
  ⟨s.written ++ piece.take (accept s.writes piece.length), s.writes + 1⟩

section Streams

variable {accept : Nat → Nat → Nat}

/-- A write takes as much as the stream likes, and no more than there is. -/
theorem length_write (s : Stream α) (piece : List α) :
    (s.write accept piece).written.length
      = s.written.length + min (accept s.writes piece.length) piece.length := by
  show (s.written ++ piece.take _).length = _
  rw [List.length_append, List.length_take]

/-- No more than the pieces goes out. -/
theorem length_written_le (s : Stream α) (pieces : List (List α)) :
    (pieces.foldl (Stream.write accept) s).written.length
      ≤ s.written.length + pieces.flatten.length := by
  induction pieces generalizing s with
  | nil => exact Nat.le_refl _
  | cons piece pieces ih =>
      have hrest := ih (s.write accept piece)
      rw [length_write] at hrest
      rw [List.foldl_cons, List.flatten_cons, List.length_append]
      omega

/-- Without a short write, the whole text arrives. -/
theorem written_of_whole {s : Stream α} {pieces : List (List α)}
    (h : ∀ i piece, pieces[i]? = some piece → piece.length ≤ accept (s.writes + i) piece.length) :
    (pieces.foldl (Stream.write accept) s).written = s.written ++ pieces.flatten := by
  induction pieces generalizing s with
  | nil => exact (List.append_nil _).symm
  | cons piece pieces ih =>
      have hfirst : (s.write accept piece).written = s.written ++ piece :=
        congrArg (s.written ++ ·) (List.take_of_length_le (h 0 piece rfl))
      rw [List.foldl_cons, List.flatten_cons, ← List.append_assoc, ← hfirst]
      refine ih fun i p hp => ?_
      have hshift : s.writes + 1 + i = s.writes + (i + 1) := by omega
      show p.length ≤ accept (s.writes + 1 + i) p.length
      rw [hshift]
      exact h (i + 1) p hp

/-- **As much as the whole text arrives** exactly when no write is short. -/
theorem length_written_iff (s : Stream α) (pieces : List (List α)) :
    (pieces.foldl (Stream.write accept) s).written.length
        = s.written.length + pieces.flatten.length
      ↔ ∀ i piece, pieces[i]? = some piece → piece.length ≤ accept (s.writes + i) piece.length := by
  constructor
  · intro hall
    induction pieces generalizing s with
    | nil =>
        intro i piece hp
        cases hp
    | cons piece pieces ih =>
        rw [List.foldl_cons, List.flatten_cons, List.length_append] at hall
        have hle := @length_written_le α accept (s.write accept piece) pieces
        have hpiece := @length_write α accept s piece
        -- what one write leaves out, no later one makes up for
        have hrest := ih (s.write accept piece) (by omega)
        intro i p hp
        cases i with
        | zero =>
            cases hp
            show piece.length ≤ accept s.writes piece.length
            omega
        | succ i =>
            have hshift : s.writes + 1 + i = s.writes + (i + 1) := by omega
            have hnext := hrest i p hp
            change p.length ≤ accept (s.writes + 1 + i) p.length at hnext
            rw [hshift] at hnext
            exact hnext
  · intro hwhole
    rw [written_of_whole hwhole, List.length_append]

end Streams

end Output
