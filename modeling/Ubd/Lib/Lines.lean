import Mathlib.Data.List.Basic

/-!
# Lines — a stream of lines, read symbol by symbol

A stream is cut into pieces at separators. A reader goes through it one symbol at a time,
keeps a state of its own, and at every separator hands on what the piece before it amounts
to, until whoever takes it says that it was the last one. `Reader.reads` gives what is handed
on in the words of the pieces alone.
-/

namespace Lines

variable {α β σ τ φ : Type}

/-! ## Pieces -/

/-- The pieces that a separator ends. What stands behind the last separator is none of them. -/
def completed (sep : α → Bool) (l : List α) : List (List α) := (l.splitOnP sep).dropLast

theorem completed_of_unended {sep : α → Bool} {p : List α} (hp : ∀ x ∈ p, sep x = false) :
    completed sep p = [] := by
  rw [completed, List.splitOnP_eq_singleton hp]
  rfl

theorem completed_append_cons {sep : α → Bool} {p : List α} {s : α}
    (hp : ∀ x ∈ p, sep x = false) (hs : sep s = true) (l : List α) :
    completed sep (p ++ s :: l) = p :: completed sep l := by
  rw [completed, List.splitOnP_append_cons_of_forall_mem hp s hs,
    List.dropLast_cons_of_ne_nil (List.splitOnP_ne_nil sep l)]
  rfl

/-! ## Loops that can end early -/

/-- The elements up to the first with `stop`, and that one. -/
def through (stop : β → Bool) : List β → List β
  | [] => []
  | b :: l => if stop b then [b] else b :: through stop l

/-- A loop over a list. Its body says whether it goes on. -/
def untilLast (f : τ → β → Except φ (τ × Bool)) : τ → List β → Except φ (τ × Bool)
  | t, [] => .ok (t, true)
  | t, b :: l =>
      match f t b with
      | .ok (t, true) => untilLast f t l
      | .ok (t, false) => .ok (t, false)
      | .error x => .error x

section Loop

variable {f : τ → β → Except φ (τ × Bool)} {t t' : τ} {b : β} {l : List β}

theorem untilLast_cons_more (h : f t b = .ok (t', true)) :
    untilLast f t (b :: l) = untilLast f t' l := by
  rw [untilLast, h]

theorem untilLast_cons_last (h : f t b = .ok (t', false)) :
    untilLast f t (b :: l) = .ok (t', false) := by
  rw [untilLast, h]

theorem untilLast_cons_error {x : φ} (h : f t b = .error x) :
    untilLast f t (b :: l) = .error x := by
  rw [untilLast, h]

theorem untilLast_append (l r : List β) : untilLast f t (l ++ r)
    = match untilLast f t l with
      | .ok (t', true) => untilLast f t' r
      | .ok (t', false) => .ok (t', false)
      | .error x => .error x := by
  induction l generalizing t with
  | nil => rfl
  | cons b l ih =>
      rw [List.cons_append]
      match hb : f t b with
      | .ok (t', true) => rw [untilLast_cons_more hb, untilLast_cons_more hb, ih]
      | .ok (t', false) => rw [untilLast_cons_last hb, untilLast_cons_last hb]
      | .error x => rw [untilLast_cons_error hb, untilLast_cons_error hb]

/-- A loop that keeps a list of what it is given is given the elements through the first
with `stop`, and goes on if there is none. -/
theorem untilLast_log {out : τ → List β} {stop : β → Bool}
    (hlog : ∀ t b, ∃ t', f t b = .ok (t', !stop b) ∧ out t' = out t ++ [b]) (t : τ)
    (l : List β) :
    ∃ t', untilLast f t l = .ok (t', !l.any stop) ∧ out t' = out t ++ through stop l := by
  induction l generalizing t with
  | nil => exact ⟨t, rfl, (List.append_nil _).symm⟩
  | cons b l ih =>
      obtain ⟨t₁, hb, hout⟩ := hlog t b
      cases hstop : stop b with
      | true =>
          rw [hstop] at hb
          refine ⟨t₁, ?_, by rw [hout, through, if_pos hstop]⟩
          rw [untilLast_cons_last hb, List.any_cons, hstop]
          rfl
      | false =>
          rw [hstop] at hb
          obtain ⟨t', hrest, hout'⟩ := ih t₁
          refine ⟨t', ?_, ?_⟩
          · rw [untilLast_cons_more hb, hrest, List.any_cons, hstop, Bool.false_or]
          · rw [hout', hout, through, hstop]
            simp

end Loop

/-! ## Readers -/

/-- Hand on what a piece amounts to, if it amounts to anything. -/
def hand (give : τ → β → Except φ (τ × Bool)) (t : τ) : Option β → Except φ (τ × Bool)
  | none => .ok (t, true)
  | some b => give t b

/-- A reader of pieces: `At p s` says that `s` is a state it can have after the symbols `p` of
a piece, and `verdict p` is what a piece amounts to. -/
structure Reader (sep : α → Bool) (verdict : List α → Option β)
    (give : τ → β → Except φ (τ × Bool)) (At : List α → σ → Prop)
    (step : τ × σ → α → Except φ ((τ × σ) × Bool)) : Prop where
  inside : ∀ {p s a} (t : τ), At p s → sep a = false →
    ∃ s', step (t, s) a = .ok ((t, s'), true) ∧ At (p ++ [a]) s'
  ends : ∀ {p s a} (t : τ), At p s → sep a = true →
    ∃ s', At [] s' ∧ step (t, s) a
      = (hand give t (verdict p)).map fun r => ((r.1, s'), r.2)

section Reader

variable {sep : α → Bool} {verdict : List α → Option β} {give : τ → β → Except φ (τ × Bool)}
  {At : List α → σ → Prop} {step : τ × σ → α → Except φ ((τ × σ) × Bool)}

/-- **The rule of readers.** What a reader hands on are the verdicts on the pieces of the
stream, in order. -/
theorem Reader.reads (h : Reader sep verdict give At step) {p : List α} {s : σ} (hat : At p s)
    (hp : ∀ x ∈ p, sep x = false) (t : τ) (l : List α) :
    ∃ p' s', At p' s' ∧ untilLast step (t, s) l
      = (untilLast give t ((completed sep (p ++ l)).filterMap verdict)).map
          fun r => ((r.1, s'), r.2) := by
  induction l generalizing p s t with
  | nil =>
      refine ⟨p, s, hat, ?_⟩
      rw [List.append_nil, completed_of_unended hp]
      rfl
  | cons a l ih =>
      cases hsep : sep a with
      | false =>
          obtain ⟨s₁, hstep, hat₁⟩ := h.inside t hat hsep
          have hp₁ : ∀ x ∈ p ++ [a], sep x = false := by
            simpa [or_imp, forall_and, hsep] using hp
          obtain ⟨p', s', hat', hrest⟩ := ih hat₁ hp₁ t
          refine ⟨p', s', hat', ?_⟩
          rw [untilLast_cons_more hstep, hrest, List.append_assoc, List.singleton_append]
      | true =>
          obtain ⟨s₁, hat₁, hstep⟩ := h.ends t hat hsep
          rw [completed_append_cons hp hsep, List.filterMap_cons]
          cases hv : verdict p with
          | none =>
              rw [hv] at hstep
              obtain ⟨p', s', hat', hrest⟩ := ih hat₁ (by simp) t
              exact ⟨p', s', hat', by rw [untilLast_cons_more hstep, hrest, List.nil_append]⟩
          | some b =>
              rw [hv] at hstep
              -- whoever takes `b` may have had enough
              match hgive : give t b with
              | .ok (t₁, true) =>
                  rw [hand, hgive] at hstep
                  obtain ⟨p', s', hat', hrest⟩ := ih hat₁ (by simp) t₁
                  refine ⟨p', s', hat', ?_⟩
                  rw [untilLast_cons_more hstep, hrest, List.nil_append,
                    untilLast_cons_more hgive]
              | .ok (t₁, false) =>
                  rw [hand, hgive] at hstep
                  refine ⟨[], s₁, hat₁, ?_⟩
                  rw [untilLast_cons_last hstep, untilLast_cons_last hgive]
                  rfl
              | .error x =>
                  rw [hand, hgive] at hstep
                  refine ⟨[], s₁, hat₁, ?_⟩
                  rw [untilLast_cons_error hstep, untilLast_cons_error hgive]
                  rfl

end Reader

end Lines
