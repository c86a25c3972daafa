import Mathlib.Data.List.Basic
import Mathlib.Data.Vector.Basic

/-!
# Filled — an array that is filled from its beginning

A table is an array and a counter; the entries below the counter are in use, and what stands
behind them is never looked at. `Table.used` is the list such a table stands for. Searching is
searching the list, and appending is appending to it.
-/

namespace Filled

variable {α β φ : Type} {k : Nat}

structure Table (α : Type) (k : Nat) where
  entries : Vector α k
  count : Nat

/-- The entries in use. -/
def Table.used (t : Table α k) : List α := t.entries.toList.take t.count

/-- A loop from `i` on over so many entries, for the index of the first that passes. Entries
outside the array are `outside`. -/
def Table.searchFrom (t : Table α k) (outside : φ) (test : α → Except φ Bool) :
    Nat → Nat → Except φ (Option Nat)
  | 0, _ => .ok none
  | left + 1, i =>
      match t.entries[i]? with
      | none => .error outside
      | some a =>
          match test a with
          | .ok true => .ok (some i)
          | .ok false => t.searchFrom outside test left (i + 1)
          | .error x => .error x

/-- The index of the first entry in use that passes the test. -/
def Table.search (t : Table α k) (outside : φ) (test : α → Except φ Bool) :
    Except φ (Option Nat) :=
  t.searchFrom outside test t.count 0

/-- Fill the next entry. -/
def Table.append (t : Table α k) (a : α) : Table α k :=
  ⟨t.entries.setIfInBounds t.count a, t.count + 1⟩

theorem used_length {t : Table α k} (h : t.count ≤ k) : t.used.length = t.count := by
  rw [Table.used, List.length_take, Vector.length_toList]
  exact Nat.min_eq_left h

theorem getElem?_used {t : Table α k} {i : Nat} (hi : i < t.count) :
    t.used[i]? = t.entries[i]? := by
  rw [Table.used, List.getElem?_take_of_lt hi, Vector.getElem?_toList]

/-! ## Searching -/

/-- **Searching the table is searching the list.** -/
theorem search_eq {t : Table α k} (hcount : t.count ≤ k) (outside : φ)
    (test : α → Except φ Bool) (p : α → Bool) (htest : ∀ a ∈ t.used, test a = .ok (p a)) :
    t.search outside test = .ok (t.used.findIdx? p) := by
  have hfrom : ∀ left i, i + left = t.count → t.searchFrom outside test left i
      = .ok (((t.used.drop i).findIdx? p).map (· + i)) := by
    intro left
    induction left with
    | zero =>
        intro i hi
        have hend : t.used.drop i = [] := by
          rw [List.drop_eq_nil_iff, used_length hcount]
          omega
        rw [hend]
        rfl
    | succ left ih =>
        intro i hi
        have hlt : i < t.used.length := by
          rw [used_length hcount]
          omega
        have hentry : t.entries[i]? = some t.used[i] := by
          rw [← getElem?_used (by omega), List.getElem?_eq_getElem hlt]
        rw [Table.searchFrom, hentry, List.drop_eq_getElem_cons hlt, List.findIdx?_cons]
        dsimp only
        rw [htest _ (List.getElem_mem hlt)]
        cases hp : p t.used[i] with
        | true => simp
        | false =>
            dsimp only
            rw [ih (i + 1) (by omega)]
            simp only [Bool.false_eq_true, if_false, Option.map_map]
            congr 2
            funext j
            simp only [Function.comp]
            omega
  have h := hfrom t.count 0 (Nat.zero_add _)
  simpa [Table.search] using h

/-! ## Appending -/

theorem append_used {t : Table α k} (hroom : t.count < k) (a : α) :
    (t.append a).used = t.used ++ [a] := by
  have hlen : t.count < t.entries.toList.length := by simpa using hroom
  have hset : (t.entries.setIfInBounds t.count a).toList = t.entries.toList.set t.count a := by
    apply List.ext_getElem?
    intro i
    rw [Vector.getElem?_toList, Vector.getElem?_setIfInBounds, List.getElem?_set]
    simp
  rw [Table.used, Table.append, Table.used, hset, List.take_add_one,
    List.take_set_of_le (Nat.le_refl _), List.getElem?_set_self hlen]
  rfl

/-- The entries before are the same. -/
theorem append_entries (t : Table α k) (a : α) {i : Nat} (hi : i < t.count) :
    (t.append a).entries[i]? = t.entries[i]? := by
  rw [Table.append, Vector.getElem?_setIfInBounds, if_neg (by omega)]

theorem append_entry {t : Table α k} (hroom : t.count < k) (a : α) :
    (t.append a).entries[t.count]? = some a := by
  rw [Table.append, Vector.getElem?_setIfInBounds, if_pos rfl, if_pos hroom]

/-! ## Unique keys -/

/-- Where the entries have different keys, the search for a key finds the entry with it. -/
theorem findIdx?_key_iff [DecidableEq β] {key : α → β} {l : List α}
    (hkeys : (l.map key).Nodup) {b : β} {i : Nat} :
    l.findIdx? (fun a => decide (key a = b)) = some i ↔ ∃ a, l[i]? = some a ∧ key a = b := by
  rw [List.findIdx?_eq_some_iff_getElem]
  constructor
  · rintro ⟨hi, hkey, -⟩
    exact ⟨l[i], List.getElem?_eq_getElem hi, by simpa using hkey⟩
  · rintro ⟨a, ha, hkey⟩
    obtain ⟨hi, rfl⟩ := List.getElem?_eq_some_iff.mp ha
    refine ⟨hi, by simpa using hkey, fun j hj => ?_⟩
    have hne : key l[j] ≠ key l[i] := by
      intro heq
      have hlen : (l.map key).length = l.length := List.length_map key
      have hj' : j < (l.map key).length := by omega
      have hi' : i < (l.map key).length := by omega
      have hij : (l.map key)[j] = (l.map key)[i] := by
        rw [List.getElem_map, List.getElem_map]
        exact heq
      have := hkeys.getElem_inj_iff.mp hij
      omega
    simpa [← hkey] using hne

end Filled
