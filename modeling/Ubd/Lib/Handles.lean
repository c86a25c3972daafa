import Mathlib.Logic.Function.Basic

/-!
# Handles — slots that hold resources

A slot holds a handle to a resource of its own, or nothing. `Sound` says that no slot dangles
and no two share a resource. The rules say how it stays so when the resource of one slot is
given back: the slot is cleared, or gets another one.
-/

namespace Handles

variable {ι η : Type}

/-- Handles in slots are live, and no handle is in two of them. -/
structure Sound (live : η → Prop) (slot : ι → Option η) : Prop where
  live : ∀ i h, slot i = some h → live h
  unique : ∀ i j h, slot i = some h → slot j = some h → i = j

/-- What slot `i` does not hold stays live. -/
def SparesOthers (live live' : η → Prop) (slot : ι → Option η) (i : ι) : Prop :=
  ∀ h, slot i ≠ some h → live h → live' h

variable {live live' : η → Prop} {slot : ι → Option η} {i : ι} {k : η}

/-- What is live may stay live. -/
theorem Sound.mono (h : Sound live slot) (hle : ∀ k, live k → live' k) : Sound live' slot :=
  ⟨fun j k hk => hle k (h.live j k hk), h.unique⟩

theorem Sound.others (h : Sound live slot) (hspares : SparesOthers live live' slot i) {j : ι}
    (hj : j ≠ i) (hk : slot j = some k) : live' k :=
  hspares k (fun hi => hj (h.unique j i k hk hi)) (h.live j k hk)

variable [DecidableEq ι]

/-- **Giving back and clearing.** -/
theorem Sound.clear (h : Sound live slot) (hspares : SparesOthers live live' slot i) :
    Sound live' (Function.update slot i none) where
  live := by
    intro j k hk
    by_cases hj : j = i
    · rw [hj, Function.update_self] at hk
      cases hk
    · rw [Function.update_of_ne hj] at hk
      exact h.others hspares hj hk
  unique := by
    intro j j' k hk hk'
    by_cases hj : j = i
    · rw [hj, Function.update_self] at hk
      cases hk
    · by_cases hj' : j' = i
      · rw [hj', Function.update_self] at hk'
        cases hk'
      · rw [Function.update_of_ne hj] at hk
        rw [Function.update_of_ne hj'] at hk'
        exact h.unique j j' k hk hk'

/-- **Giving back and getting another one**, which no slot holds yet. -/
theorem Sound.replace (h : Sound live slot) (hspares : SparesOthers live live' slot i)
    (hnew : live' k) (hfresh : ∀ j, slot j ≠ some k) :
    Sound live' (Function.update slot i (some k)) where
  live := by
    intro j k' hk
    by_cases hj : j = i
    · rw [hj, Function.update_self] at hk
      cases hk
      exact hnew
    · rw [Function.update_of_ne hj] at hk
      exact h.others hspares hj hk
  unique := by
    intro j j' k' hk hk'
    by_cases hj : j = i
    · by_cases hj' : j' = i
      · rw [hj, hj']
      · rw [hj, Function.update_self] at hk
        rw [Function.update_of_ne hj'] at hk'
        cases hk
        exact absurd hk' (hfresh j')
    · rw [Function.update_of_ne hj] at hk
      by_cases hj' : j' = i
      · rw [hj', Function.update_self] at hk'
        cases hk'
        exact absurd hk (hfresh j)
      · rw [Function.update_of_ne hj'] at hk'
        exact h.unique j j' k' hk hk'

end Handles
