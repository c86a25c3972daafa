import Mathlib.Data.UInt
import Mathlib.Data.Vector.Basic
import Ubd.Lib.Output
import Ubd.Lib.Overlay

/-!
# Basics — how the C code can go wrong, and C memory

Functions of the model that can abort, or touch memory they must not, return
`Except Fault`. A fault is the end of the daemon: `ub_assert` calls `exit`, and
what happens after an access outside an object has no meaning at all.
-/

namespace Ubd

inductive Fault where
  /-- `ub_assert` failed. -/
  | assertion
  /-- A read or write outside an array. -/
  | outOfBounds
  /-- A `NULL` pointer was followed. -/
  | nullPointer
  deriving DecidableEq, Repr

/-! ## Sequencing -/

section Sequencing

variable {ε α β : Type}

@[simp] theorem ok_bind (a : α) (f : α → Except ε β) : (Except.ok a >>= f) = f a := rfl

@[simp] theorem error_bind (e : ε) (f : α → Except ε β) :
    ((Except.error e : Except ε α) >>= f) = .error e := rfl

@[simp] theorem bind_ok (x : Except ε α) : (x >>= fun a => Except.ok a) = x := bind_pure x

@[simp] theorem pure_eq_ok (a : α) : (pure a : Except ε α) = .ok a := rfl

theorem bind_eq_ok {x : Except ε α} {f : α → Except ε β} {b : β} :
    (x >>= f) = .ok b ↔ ∃ a, x = .ok a ∧ f a = .ok b := by
  cases x <;> simp

end Sequencing

/-! ## Arrays -/

/-- `memcpy(dst, src, n)`. -/
def memcpy {α : Type} {k : Nat} (dst : Vector α k) (src : List α) (n : Nat) :
    Except Fault (Vector α k) :=
  if h : n ≤ k ∧ n ≤ src.length then
    .ok (Vector.ofFn fun i => if hi : i.val < n then src[i.val] else dst[i])
  else .error .outOfBounds

theorem memcpy_ok {α : Type} {k : Nat} (dst : Vector α k) {src : List α} {n : Nat}
    (hk : n ≤ k) (hn : n ≤ src.length) :
    ∃ v, memcpy dst src n = .ok v ∧ v.toList.take n = src.take n := by
  refine ⟨_, dif_pos ⟨hk, hn⟩, ?_⟩
  apply List.ext_getElem
  · simp [hk, hn]
  · intro i hi _
    have hin : i < n := by
      simp only [List.length_take] at hi
      omega
    simp [hin]

/-- A whole text is written over the beginning. -/
theorem memcpy_write {α : Type} {k : Nat} {dst v : Vector α k} {src : List α}
    (h : memcpy dst src src.length = .ok v) :
    src.length ≤ k ∧ v.toList = Overlay.write dst.toList src := by
  unfold memcpy at h
  split at h
  · rename_i hfits
    cases h
    refine ⟨hfits.1, ?_⟩
    unfold Overlay.write
    apply List.ext_getElem
    · have hlen := hfits.1
      rw [List.length_append, List.length_drop, Vector.length_toList, Vector.length_toList]
      omega
    · intro i hi hi'
      rw [Vector.getElem_toList, Vector.getElem_ofFn]
      split
      · rename_i hin
        rw [List.getElem_append_left hin]
      · rename_i hin
        have hout : src.length ≤ i := Nat.le_of_not_lt hin
        have hback : src.length + (i - src.length) = i := by omega
        rw [List.getElem_append_right hout, List.getElem_drop, Vector.getElem_toList]
        simp only [hback]
        rfl
  · cases h

/-- `a[i] = x`, with an index that may lie anywhere. -/
def store {α : Type} {k : Nat} (a : Vector α k) (i : Int) (x : α) : Except Fault (Vector α k) :=
  if h : 0 ≤ i ∧ i.toNat < k then .ok (a.set i.toNat x) else .error .outOfBounds

theorem store_ok {α : Type} {k n : Nat} (a : Vector α k) (x : α) (h : n < k) :
    store a (n : Int) x = .ok (a.set n x) := by
  simp [store, h]

theorem store_eq_error {α : Type} {k : Nat} (a : Vector α k) {i : Int} (x : α)
    (h : ¬ (0 ≤ i ∧ i < k)) : store a i x = .error .outOfBounds := by
  apply dif_neg
  omega

/-- Storing behind a filled prefix extends it. -/
theorem take_set_succ {α : Type} {k n : Nat} (a : Vector α k) (x : α) (h : n < k) :
    (a.set n x).toList.take (n + 1) = a.toList.take n ++ [x] := by
  have hlen : n < a.toList.length := by simpa using h
  rw [Vector.toList_set, List.take_add_one, List.take_set_of_le (Nat.le_refl n),
    List.getElem?_set_self hlen]
  rfl

/-! ## Tables by their places -/

theorem getElem?_set_some {α : Type} {l : List α} {k j : Nat} {a x y : α}
    (hfound : l[k]? = some a) (h : (l.set k x)[j]? = some y) :
    (j = k ∧ y = x) ∨ (j ≠ k ∧ l[j]? = some y) := by
  by_cases hj : j = k
  · subst hj
    rw [List.getElem?_set_self (List.getElem?_eq_some_iff.mp hfound).1] at h
    exact .inl ⟨rfl, (Option.some.inj h).symm⟩
  · rw [List.getElem?_set_ne (Ne.symm hj)] at h
    exact .inr ⟨hj, h⟩

theorem getElem?_snoc_some {α : Type} {l : List α} {k : Nat} {a x : α}
    (h : (l ++ [a])[k]? = some x) : l[k]? = some x ∨ (k = l.length ∧ x = a) := by
  by_cases hk : k < l.length
  · rw [List.getElem?_append_left hk] at h
    exact .inl h
  · have hlt := (List.getElem?_eq_some_iff.mp h).1
    rw [List.length_append, List.length_singleton] at hlt
    obtain rfl : k = l.length := by omega
    rw [List.getElem?_concat_length] at h
    exact .inr ⟨rfl, (Option.some.inj h).symm⟩

/-- The text a C string function sees: everything before the first NUL. -/
def cstr (s : List UInt8) : List UInt8 := s.takeWhile (· ≠ 0)

/-- `sprintf(buf+pos, ...)` of a text, with its return value. -/
def sprintf (buf : List UInt8) (pos : Nat) (text : List UInt8) :
    Except Fault (List UInt8 × Nat) := do
  let buf ← Output.print 0 .outOfBounds buf pos text
  return (buf, text.length)

theorem sprintf_error {buf text : List UInt8} {pos : Nat} {x : Fault}
    (h : sprintf buf pos text = .error x) : x = .outOfBounds := by
  unfold sprintf Output.print at h
  split at h
  · cases h
  · cases h
    rfl

/-- `pos += sprintf(buf+pos, ...)` -/
theorem sprintf_append (buf : List UInt8) (pos : Nat) (text : List UInt8) :
    (sprintf buf pos text).map (fun r => (r.1, pos + r.2))
      = Output.append 0 .outOfBounds (buf, pos) text := by
  unfold sprintf Output.append
  cases Output.print 0 Fault.outOfBounds buf pos text with
  | error e => rfl
  | ok mem => rfl

end Ubd
