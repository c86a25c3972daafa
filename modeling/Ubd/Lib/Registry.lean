import Mathlib.Data.List.Basic
import Mathlib.Data.List.Induction

/-!
# Registries — keys that commands put in and take out, from many sides

A registry holds keys. A command adds one or deletes one, and its status says whether it did;
it may fail for reasons of its own. What several parties do to it is a history of commands in
the order in which they ran, with their statuses. `History.balance` counts the successes against
what is there. Where commands only fail when there is nothing to do, the last one on a key decides
whether it is there (`History.last`).
-/

namespace Registries

inductive Op where
  | add
  | del
  deriving DecidableEq, Repr

/-- A registry, whatever else is in its state. The status 0 is success. -/
structure Registry (σ κ : Type) where
  has : σ → κ → Prop
  run : σ → Op → κ → σ × Int
  other : ∀ {s op a b}, b ≠ a → (has (run s op a).1 b ↔ has s b)
  added : ∀ {s a}, (run s .add a).2 = 0 → ¬ has s a ∧ has (run s .add a).1 a
  deleted : ∀ {s a}, (run s .del a).2 = 0 → has s a ∧ ¬ has (run s .del a).1 a
  failed : ∀ {s op a}, (run s op a).2 ≠ 0 → (has (run s op a).1 a ↔ has s a)

/-- A command, and how it ended. -/
structure Entry (κ : Type) where
  op : Op
  key : κ
  status : Int
  deriving DecidableEq, Repr

/-- Commands fail for no other reason than that there is nothing to do. -/
structure Registry.Reliable {σ κ : Type} (R : Registry σ κ) : Prop where
  add : ∀ {s a}, ¬ R.has s a → (R.run s .add a).2 = 0
  del : ∀ {s a}, R.has s a → (R.run s .del a).2 = 0

/-- What commands do, one after the other. -/
inductive History {σ κ : Type} (R : Registry σ κ) (s₀ : σ) : List (Entry κ) → σ → Prop
  | nil : History R s₀ [] s₀
  | snoc {l : List (Entry κ)} {s : σ} (before : History R s₀ l s) (op : Op) (a : κ) :
      History R s₀ (l ++ [⟨op, a, (R.run s op a).2⟩]) (R.run s op a).1

/-- How often a command on the key has succeeded. -/
def successes {κ : Type} [DecidableEq κ] (op : Op) (a : κ) (l : List (Entry κ)) : Nat :=
  l.countP fun e => e.op = op ∧ e.key = a ∧ e.status = 0

section History

variable {σ κ : Type} {R : Registry σ κ} {s₀ s : σ} {l : List (Entry κ)} {a : κ}

/-- A key that no command names is left alone. -/
theorem History.untouched (h : History R s₀ l s) (hother : ∀ e ∈ l, e.key ≠ a) :
    R.has s a ↔ R.has s₀ a := by
  induction h with
  | nil => rfl
  | snoc before op b ih =>
      have hb := hother _ (List.mem_append_right _ (List.mem_singleton_self _))
      rw [R.other (Ne.symm hb)]
      exact ih fun e he => hother e (List.mem_append_left _ he)

section Balance

variable [DecidableEq κ]

theorem successes_hit {op : Op} {status : Int} (h : status = 0) :
    successes op a (l ++ [⟨op, a, status⟩]) = successes op a l + 1 := by
  unfold successes
  rw [List.countP_append, List.countP_singleton, if_pos (decide_eq_true ⟨rfl, rfl, h⟩)]

theorem successes_miss {op : Op} {e : Entry κ} (h : ¬ (e.op = op ∧ e.key = a ∧ e.status = 0)) :
    successes op a (l ++ [e]) = successes op a l := by
  unfold successes
  rw [List.countP_append, List.countP_singleton, if_neg (by simpa using h), Nat.add_zero]

open Classical in
/-- **The balance**: a key has come in as often as it has gone, or once more or less often as it
is there now and was before. -/
theorem History.balance (h : History R s₀ l s) (a : κ) :
    successes .add a l + (if R.has s₀ a then 1 else 0)
      = successes .del a l + if R.has s a then 1 else 0 := by
  induction h with
  | nil => simp [successes]
  | @snoc l s before op b ih =>
      by_cases hb : b = a
      · subst hb
        by_cases hok : (R.run s op b).2 = 0
        · cases op with
          | add =>
              obtain ⟨hbefore, hafter⟩ := R.added hok
              have hdel : successes .del b (l ++ [⟨.add, b, (R.run s .add b).2⟩])
                  = successes .del b l := successes_miss fun hall => Op.noConfusion hall.1
              rw [successes_hit hok, hdel]
              simp only [hbefore, hafter, if_true, if_false] at ih ⊢
              omega
          | del =>
              obtain ⟨hbefore, hafter⟩ := R.deleted hok
              have hadd : successes .add b (l ++ [⟨.del, b, (R.run s .del b).2⟩])
                  = successes .add b l := successes_miss fun hall => Op.noConfusion hall.1
              rw [successes_hit hok, hadd]
              simp only [hbefore, hafter, if_true, if_false] at ih ⊢
              omega
        · have hmiss : ∀ op', successes op' b (l ++ [⟨op, b, (R.run s op b).2⟩])
              = successes op' b l := fun op' => successes_miss fun hall => hok hall.2.2
          rw [hmiss, hmiss, ih]
          simp only [R.failed hok]
      · have hmiss : ∀ op', successes op' a (l ++ [⟨op, b, (R.run s op b).2⟩])
            = successes op' a l := fun op' => successes_miss fun hall => hb hall.2.1
        rw [hmiss, hmiss, ih]
        simp only [R.other (Ne.symm hb)]

theorem successes_pos {op : Op} : 0 < successes op a l ↔ ⟨op, a, 0⟩ ∈ l := by
  unfold successes
  rw [List.countP_pos_iff]
  constructor
  · rintro ⟨⟨op', b, status⟩, hmem, h⟩
    obtain ⟨rfl, rfl, rfl⟩ := of_decide_eq_true h
    exact hmem
  · exact fun hmem => ⟨_, hmem, decide_eq_true ⟨rfl, rfl, rfl⟩⟩

theorem successes_mono (op : Op) (a : κ) (l l' : List (Entry κ)) :
    successes op a l ≤ successes op a (l ++ l') := by
  unfold successes
  rw [List.countP_append]
  exact Nat.le_add_right _ _

/-- Where a reliable registry has the key, somebody who wants to be rid of it gets rid of it. -/
theorem History.removed (hR : R.Reliable) (h : History R s₀ l s) (hthere : R.has s₀ a)
    {status : Int} (hdel : ⟨.del, a, status⟩ ∈ l) : 0 < successes .del a l := by
  induction h with
  | nil => cases hdel
  | @snoc l s before op b ih =>
      rcases List.mem_append.mp hdel with hdel | hdel
      · exact Nat.lt_of_lt_of_le (ih hdel) (successes_mono _ _ _ _)
      · obtain ⟨rfl, rfl, -⟩ := Entry.mk.inj (List.mem_singleton.mp hdel)
        by_cases hnow : R.has s a
        · rw [successes_hit (hR.del hnow)]
          exact Nat.succ_pos _
        · -- it has gone before
          have hbalance := before.balance a
          simp only [hthere, hnow, if_true, if_false] at hbalance
          exact Nat.lt_of_lt_of_le (by omega) (successes_mono _ _ _ _)

end Balance

/-! ## Reliable registries -/

/-- A key is there after a command on it if and only if that was to add it. -/
theorem Registry.Reliable.run (hR : R.Reliable) (s : σ) (op : Op) (a : κ) :
    R.has (R.run s op a).1 a ↔ op = .add := by
  by_cases hok : (R.run s op a).2 = 0
  · cases op with
    | add => exact iff_of_true (R.added hok).2 rfl
    | del => exact iff_of_false (R.deleted hok).2 (by simp)
  · rw [R.failed hok]
    cases op with
    | add => exact iff_of_true (not_not.mp fun habsent => hok (hR.add habsent)) rfl
    | del => exact iff_of_false (fun hthere => hok (hR.del hthere)) (by simp)

/-- What the last command on the key was for is so. -/
def Last (a : κ) (l : List (Entry κ)) (op : Op) : Prop :=
  ∃ l₁ l₂ status, l = l₁ ++ ⟨op, a, status⟩ :: l₂ ∧ ∀ e ∈ l₂, e.key ≠ a

/-- **A reliable registry** is as the last command on a key wanted it. -/
theorem History.last (hR : R.Reliable) (h : History R s₀ l s) {op : Op} (hlast : Last a l op) :
    R.has s a ↔ op = .add := by
  induction h with
  | nil =>
      obtain ⟨l₁, l₂, status, hl, -⟩ := hlast
      simp at hl
  | @snoc l s before op' b ih =>
      obtain ⟨l₁, l₂, status, hl, hafter⟩ := hlast
      rcases List.eq_nil_or_concat' l₂ with rfl | ⟨l₃, e, rfl⟩
      · -- the command is the last of all
        obtain ⟨rfl, heq⟩ := List.append_inj' hl rfl
        obtain ⟨rfl, rfl, -⟩ := Entry.mk.inj (List.singleton_inj.mp heq)
        exact hR.run s op' b
      · -- the commands behind it are for other keys
        have hsplit : l ++ [⟨op', b, (R.run s op' b).2⟩]
            = (l₁ ++ ⟨op, a, status⟩ :: l₃) ++ [e] := by
          rw [hl, List.append_assoc]
          rfl
        obtain ⟨hrest, heq⟩ := List.append_inj' hsplit rfl
        have he : e.key ≠ a := hafter e (List.mem_append_right _ (List.mem_singleton_self _))
        rw [← List.singleton_inj.mp heq] at he
        rw [R.other (Ne.symm he)]
        exact ih ⟨l₁, l₃, status, hrest, fun x hx => hafter x (List.mem_append_left _ hx)⟩

/-- Somebody was last. -/
theorem exists_last {e : Entry κ} (he : e ∈ l) : ∃ op, Last e.key l op := by
  induction l using List.reverseRecOn with
  | nil => cases he
  | append_singleton l x ih =>
      by_cases hx : x.key = e.key
      · exact ⟨x.op, l, [], x.status, by rw [← hx], by simp⟩
      · rcases List.mem_append.mp he with he | he
        · obtain ⟨op, l₁, l₂, status, rfl, hafter⟩ := ih he
          refine ⟨op, l₁, l₂ ++ [x], status, by rw [List.append_assoc]; rfl, fun y hy => ?_⟩
          rcases List.mem_append.mp hy with hy | hy
          · exact hafter y hy
          · rw [List.mem_singleton.mp hy]
            exact hx
        · rw [List.mem_singleton.mp he] at hx
          exact absurd rfl hx

end History

end Registries
