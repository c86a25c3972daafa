import Mathlib.Logic.Function.Basic

/-!
# Leases — addresses on loan

Owners hold addresses for a while. `Exclusive` says that no address is held
twice. A client may keep a route to an owner, an address it was given once and
that the owner may have lost since; `Safe` says that no route of a client leads to
somebody else. Each rule says exactly what granting, dropping or connecting does
to the two.
-/

namespace Leases

variable {ι α : Type}

/-- No address is held by two owners. -/
def Exclusive (holder : ι → Option α) : Prop :=
  ∀ i j a, holder i = some a → holder j = some a → i = j

/-- Where a client's messages for an owner go, no other owner listens. -/
def Safe (holder : ι → Option α) (route : ι → α) (client : ι → Prop) : Prop :=
  ∀ i j, client i → j ≠ i → holder j ≠ some (route i)

variable {holder holder' : ι → Option α} {route : ι → α} {client client' : ι → Prop}

theorem Exclusive.shrink (h : Exclusive holder)
    (hle : ∀ i a, holder' i = some a → holder i = some a) : Exclusive holder' := by
  intro i j a hi hj
  exact h i j a (hle i a hi) (hle j a hj)

theorem Safe.shrink (h : Safe holder route client)
    (hle : ∀ i a, holder' i = some a → holder i = some a) : Safe holder' route client := by
  intro i j hi hne hj
  exact h i j hi hne (hle j _ hj)

/-- Clients may leave. -/
theorem Safe.leave (h : Safe holder route client) (hle : ∀ i, client' i → client i) :
    Safe holder route client' := by
  intro i j hi
  exact h i j (hle i hi)

/-- **A new client** of `x` is right exactly when nobody else listens where it sends. -/
theorem Safe.connect_iff (h : Safe holder route client) {x : ι} :
    Safe holder route (fun i => client i ∨ i = x) ↔ ∀ j, j ≠ x → holder j ≠ some (route x) := by
  constructor
  · intro hs j hj
    exact hs x j (.inr rfl) hj
  · rintro hx i j (hi | rfl) hne
    · exact h i j hi hne
    · exact hx j hne

variable [DecidableEq ι]

/-- An address nobody else holds can be granted. -/
theorem Exclusive.grant (h : Exclusive holder) {x : ι} {a : α}
    (hnew : ∀ j, j ≠ x → holder j ≠ some a) :
    Exclusive (Function.update holder x (some a)) := by
  intro i j b hi hj
  by_cases hix : i = x
  · subst hix
    by_cases hjx : j = i
    · exact hjx.symm
    · rw [Function.update_self] at hi
      rw [Function.update_of_ne hjx] at hj
      cases hi
      exact absurd hj (hnew j hjx)
  · rw [Function.update_of_ne hix] at hi
    by_cases hjx : j = x
    · subst hjx
      rw [Function.update_self] at hj
      cases hj
      exact absurd hi (hnew i hix)
    · rw [Function.update_of_ne hjx] at hj
      exact h i j b hi hj

/-- **Granting an address** under which `x` is also reached keeps all routes right exactly
when no client of another owner still uses it, and no other owner listens where the
clients of `x` now send. -/
theorem Safe.grant_iff (h : Safe holder route client) {x : ι} {a r : α} :
    Safe (Function.update holder x (some a)) (Function.update route x r) client ↔
      (∀ i, i ≠ x → client i → route i ≠ a)
        ∧ (client x → ∀ j, j ≠ x → holder j ≠ some r) := by
  constructor
  · intro hs
    refine ⟨fun i hix hi hroute => ?_, fun hx j hjx hj => ?_⟩
    · have := hs i x hi (Ne.symm hix)
      rw [Function.update_self, Function.update_of_ne hix, hroute] at this
      exact this rfl
    · have := hs x j hx hjx
      rw [Function.update_of_ne hjx, Function.update_self] at this
      exact this hj
  · rintro ⟨hothers, hown⟩ i j hi hne
    by_cases hix : i = x
    · subst hix
      rw [Function.update_of_ne hne, Function.update_self]
      exact hown hi j hne
    · rw [Function.update_of_ne hix]
      by_cases hjx : j = x
      · subst hjx
        rw [Function.update_self]
        intro hj
        exact hothers i hix hi (Option.some.inj hj).symm
      · rw [Function.update_of_ne hjx]
        exact h i j hi hne

end Leases
