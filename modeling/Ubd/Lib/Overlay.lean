import Mathlib.Data.List.Basic
import Mathlib.Data.List.Induction
import Mathlib.Data.List.TakeWhile

/-!
# Overlay — texts written over each other

A memory of fixed size is overwritten from its beginning by one text after the other, each
without a terminator. What is read back is `overlay` of the texts: the last one, and behind it
what longer ones have left. `overlay_eq_iff` says when that is nothing.
-/

namespace Overlay

variable {α : Type}

/-- A text written over what was there. -/
def write (old text : List α) : List α := text ++ old.drop text.length

/-- Texts written over each other. -/
def overlay (texts : List (List α)) : List α := texts.foldl write []

/-- The memory holds this text, and the terminator everywhere behind it. -/
structure Holds (nul : α) (mem text : List α) : Prop where
  memory : mem = text ++ List.replicate (mem.length - text.length) nul
  fits : text.length ≤ mem.length
  plain : nul ∉ text

section Overlay

variable {texts : List (List α)} {t : List α}

theorem length_write (old text : List α) :
    (write old text).length = max old.length text.length := by
  rw [write, List.length_append, List.length_drop]
  omega

theorem overlay_snoc (texts : List (List α)) (t : List α) :
    overlay (texts ++ [t]) = write (overlay texts) t := List.foldl_append

/-- As long as the longest text. -/
theorem length_overlay_le_iff {m : Nat} :
    (overlay texts).length ≤ m ↔ ∀ u ∈ texts, u.length ≤ m := by
  induction texts using List.reverseRecOn with
  | nil => simp [overlay]
  | append_singleton texts t ih =>
      rw [overlay_snoc, length_write, Nat.max_le, ih, List.forall_mem_append,
        List.forall_mem_singleton]

/-- **Nothing is left behind the last text** exactly when no text is longer. -/
theorem overlay_eq_iff (h : texts.getLast? = some t) :
    overlay texts = t ↔ ∀ u ∈ texts, u.length ≤ t.length := by
  obtain ⟨before, rfl⟩ := List.getLast?_eq_some_iff.mp h
  rw [← length_overlay_le_iff, overlay_snoc, length_write, Nat.max_le,
    and_iff_left (Nat.le_refl _), write]
  constructor
  · intro heq
    have hlen := congrArg List.length heq
    rw [List.length_append, List.length_drop] at hlen
    omega
  · intro hle
    rw [List.drop_eq_nil_of_le hle, List.append_nil]

end Overlay

section Memory

variable {nul : α} {mem text t : List α}

theorem Holds.blank (nul : α) (k : Nat) : Holds nul (List.replicate k nul) [] where
  memory := by rw [List.length_replicate]; rfl
  fits := Nat.zero_le _
  plain := List.not_mem_nil

/-- **Writing to memory** is writing over the text it holds. -/
theorem Holds.write (h : Holds nul mem text) (hfits : t.length ≤ mem.length) (hplain : nul ∉ t) :
    Holds nul (write mem t) (write text t) := by
  have hlen := h.fits
  have hmem : (Overlay.write mem t).length = mem.length := by
    rw [length_write]
    omega
  refine ⟨?_, ?_, ?_⟩
  · have hrest : mem.length - text.length - (t.length - text.length)
        = mem.length - (max text.length t.length) := by omega
    have hdrop := congrArg (List.drop t.length) h.memory
    rw [List.drop_append, List.drop_replicate, hrest] at hdrop
    rw [hmem, length_write, Overlay.write, Overlay.write, hdrop, List.append_assoc]
  · rw [hmem, length_write]
    omega
  · rw [Overlay.write, List.mem_append, not_or]
    exact ⟨hplain, fun hin => h.plain (List.mem_of_mem_drop hin)⟩

/-- While there is room behind it, the text is terminated and can be read back. -/
theorem Holds.read [DecidableEq α] (h : Holds nul mem text) (hroom : text.length < mem.length) :
    nul ∈ mem ∧ mem.takeWhile (· ≠ nul) = text := by
  have hall : ∀ a ∈ text, decide (a ≠ nul) = true := by
    intro a ha
    refine decide_eq_true ?_
    rintro rfl
    exact h.plain ha
  obtain ⟨k, hk⟩ : ∃ k, mem.length - text.length = k + 1 := ⟨mem.length - text.length - 1, by omega⟩
  rw [h.memory, hk, List.replicate_succ]
  refine ⟨by simp, ?_⟩
  rw [List.takeWhile_append_of_pos hall, List.takeWhile_cons_of_neg (by simp), List.append_nil]

end Memory

end Overlay
