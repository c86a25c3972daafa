import Mathlib.Data.List.Basic

/-!
# Delimited — formats whose values say where they end

A reader of such a format takes one value after the other off a stream and needs to know
nothing but the bytes. So values sent one after the other are told apart (`Format.read_encode`),
and it makes no difference in which pieces they come (`Format.feed_pieces`): what was read of
a beginning stays read (`Format.read_prefix`).
-/

namespace Delimited

variable {α β : Type}

structure Format (α β : Type) where
  encode : α → List β
  /-- The first value of a stream, and the rest. -/
  decode : List β → Option (α × List β)
  decode_encode : ∀ a, decode (encode a) = some (a, [])
  /-- What comes behind a value does not change it. -/
  decode_append : ∀ {l : List β} {a : α} {rest : List β} (r : List β),
    decode l = some (a, rest) → decode (l ++ r) = some (a, rest ++ r)
  decode_shorter : ∀ {l : List β} {a : α} {rest : List β},
    decode l = some (a, rest) → rest.length < l.length

namespace Format

variable (F : Format α β)

/-- The values at the beginning of a stream, and what is left when no more value is there. -/
def read (l : List β) : List α × List β :=
  match h : F.decode l with
  | none => ([], l)
  | some (a, rest) =>
      have := F.decode_shorter h
      let (as, left) := read rest
      (a :: as, left)
termination_by l.length

variable {F}

theorem read_none {l : List β} (h : F.decode l = none) : F.read l = ([], l) := by
  rw [read]
  split
  · rfl
  · rename_i hsome
    rw [h] at hsome
    cases hsome

theorem read_some {l rest : List β} {a : α} (h : F.decode l = some (a, rest)) :
    F.read l = (a :: (F.read rest).1, (F.read rest).2) := by
  rw [read]
  split
  · rename_i hnone
    rw [h] at hnone
    cases hnone
  · rename_i hsome
    rw [h] at hsome
    cases hsome
    rfl

theorem decode_nil : F.decode [] = none := by
  cases h : F.decode [] with
  | none => rfl
  | some p => exact absurd (F.decode_shorter h) (Nat.not_lt_zero _)

theorem read_nil : F.read [] = ([], []) := read_none decode_nil

theorem decode_encode_append (a : α) (r : List β) : F.decode (F.encode a ++ r) = some (a, r) :=
  F.decode_append r (F.decode_encode a)

/-- **Values are told apart**, whatever follows them. -/
theorem read_encode_append (as : List α) (r : List β) :
    F.read (as.flatMap F.encode ++ r) = (as ++ (F.read r).1, (F.read r).2) := by
  induction as with
  | nil => rfl
  | cons a as ih =>
      rw [List.flatMap_cons, List.append_assoc, read_some (decode_encode_append a _), ih]
      rfl

theorem read_encode (as : List α) : F.read (as.flatMap F.encode) = (as, []) := by
  have h := read_encode_append (F := F) as []
  rwa [List.append_nil, read_nil, List.append_nil] at h

/-- A stream is read on from where its beginning has led. -/
theorem read_append (l r : List β) :
    F.read (l ++ r)
      = ((F.read l).1 ++ (F.read ((F.read l).2 ++ r)).1, (F.read ((F.read l).2 ++ r)).2) := by
  cases h : F.decode l with
  | none =>
      rw [read_none h]
      rfl
  | some p =>
      obtain ⟨a, rest⟩ := p
      have hshorter := F.decode_shorter h
      rw [read_some h, read_some (F.decode_append r h), read_append rest r]
      rfl
termination_by l.length

/-- **What was read stays read.** -/
theorem read_prefix (l r : List β) : (F.read l).1 <+: (F.read (l ++ r)).1 := by
  rw [read_append]
  exact List.prefix_append _ _

/-- What is left has no value at its beginning. -/
theorem decode_left (l : List β) : F.decode (F.read l).2 = none := by
  cases h : F.decode l with
  | none =>
      rw [read_none h]
      exact h
  | some p =>
      obtain ⟨a, rest⟩ := p
      have hshorter := F.decode_shorter h
      rw [read_some h]
      exact decode_left rest
termination_by l.length

variable (F)

/-- A reader that keeps what it has read, and the bytes it cannot read yet. -/
def feed (q : List α × List β) (piece : List β) : List α × List β :=
  let (as, left) := F.read (q.2 ++ piece)
  (q.1 ++ as, left)

variable {F}

/-- **The pieces do not matter** in which a stream comes. -/
theorem feed_pieces (pieces : List (List β)) :
    pieces.foldl F.feed ([], []) = F.read pieces.flatten := by
  have hfrom : ∀ l : List β, pieces.foldl F.feed (F.read l) = F.read (l ++ pieces.flatten) := by
    induction pieces with
    | nil =>
        intro l
        rw [List.flatten_nil, List.append_nil]
        rfl
    | cons piece pieces ih =>
        intro l
        have hfeed : F.feed (F.read l) piece = F.read (l ++ piece) := (read_append l piece).symm
        rw [List.foldl_cons, hfeed, ih, List.flatten_cons, List.append_assoc]
  have h := hfrom []
  rwa [read_nil, List.nil_append] at h

end Format

end Delimited
