import Ubd.Directory.Lifetime
import Ubd.Lib.Runs
import Mathlib.Logic.Function.Basic

/-!
# Directory.Pairs — the table as a map from ids and service types

Services are announced and withdrawn by id and type, and the table is keyed by the two strings
in a row. `directory_pairs_iff` says in which runs the table is the map it stands for.
-/

namespace Ubd

open Runs Lifetimes

/-! ## The map -/

/-- What the directory is for: every service has a json and some time left. -/
abbrev PairMap := ServicePair → Option (CString × Nat)

/-- Updates insert or replace, deletes remove, ticks age. -/
def pairStep (print : Json → CString) (dirttl : Nat) (m : PairMap) : DirEvent → PairMap
  | .update json =>
      match json.updatePair with
      | some p => Function.update m p (some (print json, dirttl))
      | none => m
  | .delete json =>
      match json.deletePair with
      | some p => Function.update m p none
      | none => m
  | .tick => fun p => cellStep dirttl (m p) .tick

/-- A valid command about this service. -/
def DirEvent.Names (p : ServicePair) : DirEvent → Prop
  | .update json => json.updatePair = some p
  | .delete json => json.deletePair = some p
  | .tick => False

/-- **The simulation**: the entries of the table are those of the map, each under its own key. -/
structure Simulates (t : ServiceTable) (m : PairMap) : Prop where
  entries : ∀ p c, m p = some c → (t.lookup (pairKey p)).map Service.content = some c
  covered : ∀ k, k ∈ t → ∃ p, pairKey p = k ∧ m p ≠ none
  own : ∀ p q, m p ≠ none → m q ≠ none → pairKey p = pairKey q → p = q

/-- No other service in the map has the key of this one. -/
def Unshared (m : PairMap) (p : ServicePair) : Prop :=
  ∀ q, q ≠ p → pairKey q = pairKey p → m q = none

section Simulation

variable {t : ServiceTable} {m : PairMap} {p : ServicePair}

theorem simulates_empty : Simulates ∅ fun _ => none where
  entries := fun _ _ h => nomatch h
  covered := fun k hk => absurd hk (AList.notMem_empty k)
  own := fun _ _ h => absurd rfl h

theorem Simulates.update (h : Simulates t m) (hp : Unshared m p) (x : Service) :
    Simulates (t.insert (pairKey p) x) (Function.update m p (some x.content)) where
  entries := by
    intro q c hq
    by_cases hqp : q = p
    · subst hqp
      rw [Function.update_self] at hq
      rw [AList.lookup_insert]
      exact hq
    · rw [Function.update_of_ne hqp] at hq
      have hkey : pairKey q ≠ pairKey p := by
        intro heq
        rw [hp q hqp heq] at hq
        cases hq
      rw [AList.lookup_insert_ne hkey]
      exact h.entries q c hq
  covered := by
    intro k hk
    rcases (AList.mem_insert t).mp hk with rfl | hk
    · exact ⟨p, rfl, by rw [Function.update_self]; exact Option.some_ne_none _⟩
    · obtain ⟨q, hq, hmap⟩ := h.covered k hk
      refine ⟨q, hq, ?_⟩
      by_cases hqp : q = p
      · rw [hqp, Function.update_self]
        exact Option.some_ne_none _
      · rw [Function.update_of_ne hqp]
        exact hmap
  own := by
    have hother : ∀ q, q ≠ p → Function.update m p (some x.content) q ≠ none → m q ≠ none := by
      intro q hqp hq
      rw [Function.update_of_ne hqp] at hq
      exact hq
    intro a b ha hb hkey
    by_cases hap : a = p
    · by_cases hbp : b = p
      · exact hap.trans hbp.symm
      · exact absurd (hp b hbp (hkey.symm.trans (congrArg pairKey hap))) (hother b hbp hb)
    · by_cases hbp : b = p
      · exact absurd (hp a hap (hkey.trans (congrArg pairKey hbp))) (hother a hap ha)
      · exact h.own a b (hother a hap ha) (hother b hbp hb) hkey

theorem Simulates.delete (h : Simulates t m) (hp : Unshared m p) :
    Simulates (t.erase (pairKey p)) (Function.update m p none) where
  entries := by
    intro q c hq
    by_cases hqp : q = p
    · rw [hqp, Function.update_self] at hq
      cases hq
    · rw [Function.update_of_ne hqp] at hq
      have hkey : pairKey q ≠ pairKey p := by
        intro heq
        rw [hp q hqp heq] at hq
        cases hq
      rw [AList.lookup_erase_ne hkey]
      exact h.entries q c hq
  covered := by
    intro k hk
    obtain ⟨hne, hk⟩ := AList.mem_erase.mp hk
    obtain ⟨q, rfl, hmap⟩ := h.covered k hk
    have hqp : q ≠ p := fun heq => hne (congrArg pairKey heq)
    refine ⟨q, rfl, ?_⟩
    rw [Function.update_of_ne hqp]
    exact hmap
  own := by
    have hother : ∀ q, Function.update m p none q ≠ none → m q ≠ none := by
      intro q hq
      by_cases hqp : q = p
      · rw [hqp, Function.update_self] at hq
        exact absurd rfl hq
      · rw [Function.update_of_ne hqp] at hq
        exact hq
    intro a b ha hb
    exact h.own a b (hother a ha) (hother b hb)

/-- A tick is the same on both sides. -/
theorem Simulates.tick {s : DirServer} (h : Simulates s.services m) :
    Simulates (dirserverTick s).services fun p => cellStep s.dirttl (m p) .tick where
  entries := by
    intro p c hp
    rw [tick_lookup s s.dirttl]
    cases hm : m p with
    | none =>
        rw [hm] at hp
        cases hp
    | some c' =>
        rw [h.entries p c' hm]
        rw [hm] at hp
        exact hp
  covered := by
    intro k hk
    obtain ⟨x, hx⟩ := Option.isSome_iff_exists.mp (AList.lookup_isSome.mpr hk)
    have haged := tick_lookup s s.dirttl k
    rw [hx] at haged
    cases hbefore : s.services.lookup k with
    | none =>
        rw [hbefore] at haged
        cases haged
    | some y =>
        obtain ⟨p, rfl, hmap⟩ := h.covered k (AList.lookup_isSome.mp (by rw [hbefore]; rfl))
        obtain ⟨c, hc⟩ := Option.ne_none_iff_exists'.mp hmap
        refine ⟨p, rfl, ?_⟩
        rw [hc, ← h.entries p c hc, ← haged]
        exact Option.some_ne_none _
  own := by
    have hbefore : ∀ p, cellStep s.dirttl (m p) .tick ≠ none → m p ≠ none := by
      intro p hp hnone
      rw [hnone] at hp
      exact hp rfl
    intro p q hp hq
    exact h.own p q (hbefore p hp) (hbefore q hq)

end Simulation

/-! ## Runs of both -/

/-- The server and the map it stands for take one step. -/
def pairedStep (print : Json → CString) (s : DirServer × PairMap) (e : DirEvent) :
    Except Fault (DirServer × PairMap) :=
  .ok (dirserverStep print s.1 e, pairStep print s.1.dirttl s.2 e)

def pairedInit (dirttl : Nat) : DirServer × PairMap := (dirserverInit dirttl, fun _ => none)

/-- A command about a service comes while no other service in the map has its key. -/
def CollisionFree (s : DirServer × PairMap) (e : DirEvent) : Prop :=
  ∀ p, e.Names p → Unshared s.2 p

section Steps

variable {print : Json → CString} {s s' : DirServer × PairMap} {e : DirEvent}

/-- **One step keeps the simulation.** -/
theorem Simulates.step (h : Simulates s.1.services s.2) (hfree : CollisionFree s e)
    (hstep : pairedStep print s e = .ok s') : Simulates s'.1.services s'.2 := by
  cases hstep
  cases e with
  | update json =>
      show Simulates (dirserverUpdateServiceCmd print s.1 json).services
        (pairStep print s.1.dirttl s.2 (.update json))
      rw [pairStep]
      cases hpair : json.updatePair with
      | none =>
          rw [updateServiceCmd_invalid print s.1 hpair]
          exact h
      | some p =>
          rw [updateServiceCmd_services print s.1 hpair]
          exact h.update (hfree p hpair) ⟨print json, s.1.dirttl⟩
  | delete json =>
      show Simulates (dirserverDeleteServiceCmd s.1 json).services
        (pairStep print s.1.dirttl s.2 (.delete json))
      rw [pairStep]
      cases hpair : json.deletePair with
      | none =>
          rw [deleteServiceCmd_invalid s.1 hpair]
          exact h
      | some p =>
          rw [deleteServiceCmd_eq s.1 hpair, deleteService_services]
          exact h.delete (hfree p hpair)
  | tick => exact h.tick

/-- A collision breaks it. -/
theorem Simulates.collisionFree (hstep : pairedStep print s e = .ok s')
    (h' : Simulates s'.1.services s'.2) : CollisionFree s e := by
  cases hstep
  intro p hp q hqp hkey
  by_contra hmap
  cases e with
  | update json =>
      -- both services are in the map now, under one key
      have hnext : pairStep print s.1.dirttl s.2 (.update json)
          = Function.update s.2 p (some (print json, s.1.dirttl)) := by
        rw [pairStep, show json.updatePair = some p from hp]
      refine hqp (h'.own q p ?_ ?_ hkey)
      · show pairStep print s.1.dirttl s.2 (.update json) q ≠ none
        rw [hnext, Function.update_of_ne hqp]
        exact hmap
      · show pairStep print s.1.dirttl s.2 (.update json) p ≠ none
        rw [hnext, Function.update_self]
        exact Option.some_ne_none _
  | delete json =>
      -- the entry of the other service has been deleted
      obtain ⟨c, hc⟩ := Option.ne_none_iff_exists'.mp hmap
      have hpair : json.deletePair = some p := hp
      have hnext : pairStep print s.1.dirttl s.2 (.delete json) q = some c := by
        rw [pairStep, hpair]
        exact (Function.update_of_ne hqp _ _).trans hc
      have hentry := h'.entries q c hnext
      change ((dirserverDeleteServiceCmd s.1 json).services.lookup _).map _ = _ at hentry
      rw [deleteServiceCmd_eq s.1 hpair, deleteService_services, hkey, AList.lookup_erase] at hentry
      cases hentry
  | tick => exact hp

theorem pairedRun_exists (print : Json → CString) (s₀ : DirServer × PairMap)
    (es : List DirEvent) :
    ∃ s, Run (pairedStep print) (fun _ _ => True) s₀ es s := by
  induction es using List.reverseRecOn with
  | nil => exact ⟨s₀, .nil⟩
  | append_singleton es e ih =>
      obtain ⟨s, hs⟩ := ih
      exact ⟨_, .snoc hs trivial rfl⟩

end Steps

/-- **The directory is a map** from ids and service types, throughout a run, if and only if no
command of the run comes while another service with the same key is in the map. -/
theorem directory_pairs_iff (print : Json → CString) (dirttl : Nat) (es : List DirEvent) :
    Always (pairedStep print) (fun _ _ => True) (pairedInit dirttl)
        (fun s => Simulates s.1.services s.2) es
      ↔ EveryStep (pairedStep print) (fun _ _ => True) (pairedInit dirttl) CollisionFree es := by
  obtain ⟨s, hrun⟩ := pairedRun_exists print (pairedInit dirttl) es
  refine hrun.always_iff (I := fun s => Simulates s.1.services s.2) simulates_empty
    (fun _ hs => hs) (fun s e s' hs _ hstep hfree => ?_) (fun s e s' _ _ hstep h' => ?_)
  · exact hs.step hfree hstep
  · exact h'.collisionFree hstep

/-- A service of this id and type. -/
def serviceJson (id serviceType : String) : Json :=
  .object [(cString "id", .string (cString id)), (cString "name", .string (cString id)),
    (cString "url", .string (cString "fd00::1")), (cString "port", .int 2342),
    (cString "service-type", .string (cString serviceType))]

/-- **The switch of `lamp1` and what `lamp` calls a `1switch` have one entry**: the second
announcement overwrites the first. -/
theorem one_entry_for_two :
    ¬ Always (pairedStep flatText) (fun _ _ => True) (pairedInit 30)
      (fun s => Simulates s.1.services s.2)
      [.update (serviceJson "lamp1" "switch"), .update (serviceJson "lamp" "1switch")] := by
  intro hall
  have hrun₁ : Run (pairedStep flatText) (fun _ _ => True) (pairedInit 30)
      [.update (serviceJson "lamp1" "switch")] _ := .snoc .nil trivial rfl
  have hrun₂ := hrun₁.snoc (e := .update (serviceJson "lamp" "1switch")) trivial rfl
  have h := hall _ [] _ (List.append_nil _).symm hrun₂
  have hsame := h.own (cString "lamp1", cString "switch") (cString "lamp", cString "1switch")
    (by decide +kernel) (by decide +kernel) (by decide)
  revert hsame
  decide

end Ubd
