import Mathlib.Data.List.Basic
import Mathlib.Data.List.Induction
import Mathlib.Logic.Relation

/-!
# Exchange — commands, one at a time

A desk takes commands in, works on one at a time and settles each with an outcome.
`Step` is all it may do; whatever refines a desk neither loses a command, nor settles
one twice or out of order. `outcomes` reads the settled commands off a record of
outcomes by number, and `lastOf` finds the last one of an owner.
-/

namespace Exchange

variable {ι κ ω : Type}

structure Desk (κ ω : Type) where
  settled : List (κ × ω)
  flight : Option κ
  waiting : List κ

/-- All commands ever taken in, in order. -/
def Desk.commands (d : Desk κ ω) : List κ := d.settled.map Prod.fst ++ d.flight.toList ++ d.waiting

inductive Step : Desk κ ω → Desk κ ω → Prop
  | enqueue (d : Desk κ ω) (ks : List κ) : Step d { d with waiting := d.waiting ++ ks }
  | start (settled : List (κ × ω)) (k : κ) (ks : List κ) :
      Step ⟨settled, none, k :: ks⟩ ⟨settled, some k, ks⟩
  | settle (settled : List (κ × ω)) (k : κ) (v : ω) (ks : List κ) :
      Step ⟨settled, some k, ks⟩ ⟨settled ++ [(k, v)], none, ks⟩

/-- **Commands are only taken in at the end.** -/
theorem Step.commands {d d' : Desk κ ω} (h : Step d d') : d.commands <+: d'.commands := by
  cases h with
  | enqueue d ks => exact ⟨ks, by simp [Desk.commands]⟩
  | start settled k ks => exact ⟨[], by simp [Desk.commands]⟩
  | settle settled k v ks => exact ⟨[], by simp [Desk.commands]⟩

/-- **What is settled stays settled.** -/
theorem Step.settled {d d' : Desk κ ω} (h : Step d d') : d.settled <+: d'.settled := by
  cases h with
  | enqueue d ks => exact List.prefix_rfl
  | start settled k ks => exact List.prefix_rfl
  | settle settled k v ks => exact List.prefix_append _ _

theorem steps_commands {d d' : Desk κ ω} (h : Relation.ReflTransGen Step d d') :
    d.commands <+: d'.commands := by
  induction h with
  | refl => exact List.prefix_rfl
  | tail _ hstep ih => exact ih.trans hstep.commands

theorem settled_commands (d : Desk κ ω) : d.settled.map Prod.fst <+: d.commands := by
  unfold Desk.commands
  rw [List.append_assoc]
  exact List.prefix_append _ _

/-! ## Outcomes by number -/

/-- The commands that have an outcome, each with its own. -/
def outcomes (ks : List κ) (o : Nat → Option ω) : List (κ × ω) :=
  ks.zipIdx.filterMap fun x => (o x.2).map (x.1, ·)

theorem outcomes_append (ks : List κ) (k : κ) (o : Nat → Option ω) :
    outcomes (ks ++ [k]) o = outcomes ks o ++ ((o ks.length).map (k, ·)).toList := by
  unfold outcomes
  rw [List.zipIdx_append, List.filterMap_append]
  congr 1
  cases h : o ks.length <;> simp [h]

theorem outcomes_congr {ks : List κ} {o o' : Nat → Option ω} (h : ∀ i < ks.length, o i = o' i) :
    outcomes ks o = outcomes ks o' := by
  unfold outcomes
  refine List.filterMap_congr fun x hx => ?_
  have hlt : x.2 < ks.length := by
    have := List.snd_lt_add_of_mem_zipIdx hx
    omega
  rw [h x.2 hlt]

/-- When all have one, no command is left out. -/
theorem outcomes_map_fst {ks : List κ} {o : Nat → Option ω} (h : ∀ i < ks.length, o i ≠ none) :
    (outcomes ks o).map Prod.fst = ks := by
  induction ks using List.reverseRecOn with
  | nil => rfl
  | append_singleton ks k ih =>
      have hk := h ks.length (by simp)
      obtain ⟨v, hv⟩ := Option.ne_none_iff_exists'.mp hk
      rw [outcomes_append, List.map_append, ih fun i hi => h i (by simp; omega), hv]
      rfl

/-! ## Owners -/

section Owners

variable [DecidableEq ι] (owner : κ → Option ι)

/-- The last settled command of an owner. -/
def lastOf (l : List (κ × ω)) (i : ι) : Option (κ × ω) :=
  l.reverse.find? fun x => owner x.1 = some i

theorem lastOf_append (l : List (κ × ω)) (k : κ) (v : ω) (i : ι) :
    lastOf owner (l ++ [(k, v)]) i =
      if owner k = some i then some (k, v) else lastOf owner l i := by
  unfold lastOf
  rw [List.reverse_append, List.reverse_singleton, List.singleton_append, List.find?_cons]
  split_ifs with h <;> simp [h]

end Owners

/-! ## Lists that grow at their end -/

section Appends

variable {P : κ → Prop} {a b c : List κ}

/-- Nothing is done to a list but to add elements with `P` behind it. -/
def Appends (P : κ → Prop) (a b : List κ) : Prop := ∃ ks, b = a ++ ks ∧ ∀ k ∈ ks, P k

theorem Appends.of_eq (h : b = a) : Appends P a b :=
  ⟨[], by rw [h, List.append_nil], fun _ hk => nomatch hk⟩

theorem appends_append {ks : List κ} (h : ∀ k ∈ ks, P k) : Appends P a (a ++ ks) := ⟨ks, rfl, h⟩

theorem Appends.trans (h : Appends P a b) (h' : Appends P b c) : Appends P a c := by
  obtain ⟨ks, rfl, hks⟩ := h
  obtain ⟨ks', rfl, hks'⟩ := h'
  refine ⟨ks ++ ks', List.append_assoc _ _ _, fun k hk => ?_⟩
  rcases List.mem_append.mp hk with hk | hk
  · exact hks k hk
  · exact hks' k hk

/-- Elements in front do not matter. -/
theorem Appends.behind (h : Appends P a b) (l : List κ) : Appends P (l ++ a) (l ++ b) := by
  obtain ⟨ks, rfl, hks⟩ := h
  exact ⟨ks, (List.append_assoc _ _ _).symm, hks⟩

theorem Appends.isPrefix (h : Appends P a b) : a <+: b := by
  obtain ⟨ks, rfl, -⟩ := h
  exact List.prefix_append a ks

theorem Appends.forall_mem (h : Appends P a b) (ha : ∀ k ∈ a, P k) : ∀ k ∈ b, P k := by
  obtain ⟨ks, rfl, hks⟩ := h
  intro k hk
  rcases List.mem_append.mp hk with hk | hk
  · exact ha k hk
  · exact hks k hk

end Appends

end Exchange
