import Mathlib.Data.List.Basic
import Mathlib.Data.List.Induction

/-!
# Lifetimes — what lasts until it has not been renewed for a while

`LastWith` finds the last element of a history with a property, and what came after it. A
cell holds a value that is renewed, dropped, or ages; `cell_iff` says what it holds in
terms of its history.
-/

namespace Lifetimes

variable {α β ν : Type}

/-! ## The last time -/

/-- `x` is the last element of `l` with `H`, and `post` is what came after it. -/
def LastWith (H : α → Prop) (l : List α) (x : α) (post : List α) : Prop :=
  ∃ pre, l = pre ++ x :: post ∧ H x ∧ ∀ y ∈ post, ¬ H y

section LastWith

variable {H : α → Prop} {l post : List α} {x y : α}

theorem LastWith.hit (l : List α) (h : H x) : LastWith H (l ++ [x]) x [] :=
  ⟨l, rfl, h, fun _ hy => nomatch hy⟩

theorem LastWith.miss (h : LastWith H l x post) (hy : ¬ H y) :
    LastWith H (l ++ [y]) x (post ++ [y]) := by
  obtain ⟨pre, rfl, hx, hpost⟩ := h
  refine ⟨pre, by simp, hx, fun z hz => ?_⟩
  rcases List.mem_append.mp hz with hz | hz
  · exact hpost z hz
  · rw [List.mem_singleton.mp hz]
    exact hy

theorem LastWith.miss_all {l' : List α} (h : LastWith H l x post) (hl' : ∀ y ∈ l', ¬ H y) :
    LastWith H (l ++ l') x (post ++ l') := by
  obtain ⟨pre, rfl, hx, hpost⟩ := h
  refine ⟨pre, by simp, hx, fun y hy => ?_⟩
  rcases List.mem_append.mp hy with hy | hy
  · exact hpost y hy
  · exact hl' y hy

theorem LastWith.mem (h : LastWith H l x post) : x ∈ l := by
  obtain ⟨pre, rfl, -⟩ := h
  simp

theorem LastWith.holds (h : LastWith H l x post) : H x := h.choose_spec.2.1

/-- If `H` holds somewhere, it holds a last time. -/
theorem exists_lastWith (h : ∃ y ∈ l, H y) : ∃ x post, LastWith H l x post := by
  induction l using List.reverseRecOn with
  | nil => exact absurd h (by simp)
  | append_singleton l y ih =>
      by_cases hy : H y
      · exact ⟨y, [], .hit l hy⟩
      · obtain ⟨z, hz, hH⟩ := h
        rcases List.mem_append.mp hz with hz | hz
        · obtain ⟨x, post, hlast⟩ := ih ⟨z, hz, hH⟩
          exact ⟨x, post ++ [y], hlast.miss hy⟩
        · rw [List.mem_singleton.mp hz] at hH
          exact absurd hH hy

theorem not_lastWith_nil : ¬ LastWith H [] x post := by
  rintro ⟨pre, hl, -⟩
  simp at hl

/-- The newest element is the last one with `H`, or does not count. -/
theorem lastWith_snoc_iff : LastWith H (l ++ [y]) x post
    ↔ (H y ∧ x = y ∧ post = [])
      ∨ (¬ H y ∧ ∃ post', post = post' ++ [y] ∧ LastWith H l x post') := by
  constructor
  · rintro ⟨pre, hl, hx, hpost⟩
    induction post using List.reverseRecOn with
    | nil =>
        obtain ⟨-, heq⟩ := List.append_inj' hl rfl
        obtain rfl : y = x := by simpa using heq
        exact .inl ⟨hx, rfl, rfl⟩
    | append_singleton post z _ =>
        rw [← List.cons_append, ← List.append_assoc] at hl
        obtain ⟨rfl, heq⟩ := List.append_inj' hl rfl
        obtain rfl : y = z := by simpa using heq
        exact .inr ⟨hpost y (by simp), post, rfl, pre, rfl, hx,
          fun w hw => hpost w (List.mem_append_left _ hw)⟩
  · rintro (⟨hy, rfl, rfl⟩ | ⟨hy, post', rfl, h⟩)
    · exact .hit l hy
    · exact h.miss hy

theorem LastWith.unique {x' : α} {post' : List α} (h : LastWith H l x post)
    (h' : LastWith H l x' post') : x = x' ∧ post = post' := by
  induction l using List.reverseRecOn generalizing post post' with
  | nil => exact absurd h not_lastWith_nil
  | append_singleton l y ih =>
      rcases lastWith_snoc_iff.mp h with ⟨hy, rfl, rfl⟩ | ⟨hy, q, rfl, hq⟩
      · rcases lastWith_snoc_iff.mp h' with ⟨-, rfl, rfl⟩ | ⟨hy', -⟩
        · exact ⟨rfl, rfl⟩
        · exact absurd hy hy'
      · rcases lastWith_snoc_iff.mp h' with ⟨hy', -⟩ | ⟨-, q', rfl, hq'⟩
        · exact absurd hy' hy
        · obtain ⟨rfl, rfl⟩ := ih hq hq'
          exact ⟨rfl, rfl⟩

/-- If `H` has not held in a later part, the last element is in the earlier one. -/
theorem LastWith.earlier {l' : List α} (h : LastWith H (l ++ l') x post)
    (hl' : ∀ y ∈ l', ¬ H y) : ∃ post', post = post' ++ l' := by
  induction l' using List.reverseRecOn generalizing post with
  | nil => exact ⟨post, (List.append_nil post).symm⟩
  | append_singleton l' y ih =>
      rw [← List.append_assoc] at h
      rcases lastWith_snoc_iff.mp h with ⟨hy, -⟩ | ⟨-, q, rfl, hq⟩
      · exact absurd hy (hl' y (by simp))
      · obtain ⟨post', rfl⟩ := ih hq fun z hz => hl' z (List.mem_append_left _ hz)
        exact ⟨post', List.append_assoc _ _ _⟩

/-- If `H` has held just before a later part, the last element is there or in that part. -/
theorem LastWith.later {l' : List α} (h : LastWith H (l ++ [y] ++ l') x post) (hy : H y) :
    ∃ pre, l' = pre ++ post := by
  induction l' using List.reverseRecOn generalizing post with
  | nil =>
      rw [List.append_nil] at h
      rcases lastWith_snoc_iff.mp h with ⟨-, -, rfl⟩ | ⟨hnot, -⟩
      · exact ⟨[], rfl⟩
      · exact absurd hy hnot
  | append_singleton l' z ih =>
      rw [← List.append_assoc] at h
      rcases lastWith_snoc_iff.mp h with ⟨-, -, rfl⟩ | ⟨-, q, rfl, hq⟩
      · exact ⟨l' ++ [z], (List.append_nil _).symm⟩
      · obtain ⟨pre, rfl⟩ := ih hq
        exact ⟨pre, List.append_assoc _ _ _⟩

theorem lastWith_map {K : β → Prop} {f : α → β} {z : β} {post' : List β} :
    LastWith K (l.map f) z post'
      ↔ ∃ x post, z = f x ∧ post' = post.map f ∧ LastWith (fun x => K (f x)) l x post := by
  constructor
  · rintro ⟨pre, hl, hz, hpost⟩
    obtain ⟨a, b, rfl, rfl, hb⟩ := List.map_eq_append_iff.mp hl
    obtain ⟨x, post, rfl, rfl, rfl⟩ := List.map_eq_cons_iff.mp hb
    exact ⟨x, post, rfl, rfl, a, rfl, hz, fun y hy => hpost (f y) (List.mem_map_of_mem hy)⟩
  · rintro ⟨x, post, rfl, rfl, pre, rfl, hx, hpost⟩
    refine ⟨pre.map f, by simp, hx, fun y hy => ?_⟩
    obtain ⟨w, hw, rfl⟩ := List.mem_map.mp hy
    exact hpost w hw

theorem lastWith_congr {K : α → Prop} (h : ∀ y ∈ l, H y ↔ K y) :
    LastWith H l x post ↔ LastWith K l x post := by
  constructor
  · rintro ⟨pre, rfl, hx, hpost⟩
    exact ⟨pre, rfl, (h x (by simp)).mp hx, fun y hy hK => hpost y hy ((h y (by simp [hy])).mpr hK)⟩
  · rintro ⟨pre, rfl, hx, hpost⟩
    exact ⟨pre, rfl, (h x (by simp)).mpr hx, fun y hy hH => hpost y hy ((h y (by simp [hy])).mp hH)⟩

/-- The last of what a list is filtered to. -/
theorem lastWith_filterMap {K : β → Prop} {f : α → Option β} {z : β} :
    (∃ post', LastWith K (l.filterMap f) z post')
      ↔ ∃ x post, f x = some z ∧ LastWith (fun x => ∃ z, f x = some z ∧ K z) l x post := by
  induction l using List.reverseRecOn with
  | nil =>
      exact iff_of_false (fun ⟨_, h⟩ => not_lastWith_nil h) fun ⟨_, _, _, h⟩ => not_lastWith_nil h
  | append_singleton l y ih =>
      rw [List.filterMap_append]
      cases hy : f y with
      | none =>
          have hskip : ¬ ∃ z, f y = some z ∧ K z := by
            rintro ⟨z, hz, -⟩
            rw [hy] at hz
            cases hz
          have hsame : l.filterMap f ++ [y].filterMap f = l.filterMap f := by simp [hy]
          rw [hsame, ih]
          constructor
          · rintro ⟨x, post, hx, hlast⟩
            exact ⟨x, post ++ [y], hx, hlast.miss hskip⟩
          · rintro ⟨x, post, hx, hlast⟩
            rcases lastWith_snoc_iff.mp hlast with ⟨hK, -⟩ | ⟨-, post', -, hlast⟩
            · exact absurd hK hskip
            · exact ⟨x, post', hx, hlast⟩
      | some w =>
          have hmore : l.filterMap f ++ [y].filterMap f = l.filterMap f ++ [w] := by simp [hy]
          rw [hmore]
          by_cases hw : K w
          · constructor
            · rintro ⟨post', hlast⟩
              obtain ⟨rfl, -⟩ := hlast.unique (.hit _ hw)
              exact ⟨y, [], hy, .hit l ⟨z, hy, hw⟩⟩
            · rintro ⟨x, post, hx, hlast⟩
              obtain ⟨rfl, -⟩ := hlast.unique (.hit l ⟨w, hy, hw⟩)
              rw [hy] at hx
              cases hx
              exact ⟨[], .hit _ hw⟩
          · have hskip : ¬ ∃ z, f y = some z ∧ K z := by
              rintro ⟨z, hz, hK⟩
              rw [hy] at hz
              cases hz
              exact hw hK
            constructor
            · rintro ⟨post', hlast⟩
              rcases lastWith_snoc_iff.mp hlast with ⟨hK, -⟩ | ⟨-, post, -, hlast⟩
              · exact absurd hK hw
              · obtain ⟨x, post, hx, hlast⟩ := ih.mp ⟨post, hlast⟩
                exact ⟨x, post ++ [y], hx, hlast.miss hskip⟩
            · rintro ⟨x, post, hx, hlast⟩
              rcases lastWith_snoc_iff.mp hlast with ⟨hK, -⟩ | ⟨-, post, -, hlast⟩
              · exact absurd hK hskip
              · obtain ⟨post', hlast⟩ := ih.mpr ⟨x, post, hx, hlast⟩
                exact ⟨post' ++ [w], hlast.miss hw⟩

/-- The last element is in a later part, or all of that part came after it. -/
theorem LastWith.mem_or_before {l' : List α} (h : LastWith H (l ++ l') x post) :
    x ∈ l' ∨ ∃ post', post = post' ++ l' := by
  induction l' using List.reverseRecOn generalizing post with
  | nil => exact .inr ⟨post, (List.append_nil post).symm⟩
  | append_singleton l' y ih =>
      rw [← List.append_assoc] at h
      rcases lastWith_snoc_iff.mp h with ⟨-, rfl, -⟩ | ⟨-, q, rfl, hq⟩
      · exact .inl (by simp)
      · rcases ih hq with hx | ⟨post', rfl⟩
        · exact .inl (List.mem_append_left _ hx)
        · exact .inr ⟨post', List.append_assoc _ _ _⟩

/-- `H` holds somewhere in every part with more than `n` ticks. -/
def Often (H : α → Prop) (isTick : α → Bool) (n : Nat) (l : List α) : Prop :=
  ∀ a mid b, l = a ++ mid ++ b → n < mid.countP isTick → ∃ y ∈ mid, H y

theorem Often.prefix {isTick : α → Bool} {n : Nat} {l' : List α} (h : Often H isTick n (l ++ l')) :
    Often H isTick n l := by
  intro a mid b hl
  exact h a mid (b ++ l') (by rw [hl, List.append_assoc])

/-- If `H` holds often, it has held not long ago. -/
theorem Often.since {isTick : α → Bool} {n : Nat} {l' : List α} (h : Often H isTick n l')
    (hlast : LastWith H (l ++ [y] ++ l') x post) (hy : H y) : post.countP isTick ≤ n := by
  obtain ⟨pre, rfl⟩ := hlast.later hy
  obtain ⟨-, -, -, hnone⟩ := hlast
  by_contra hlong
  obtain ⟨z, hz, hheld⟩ := h pre post [] (by simp) (Nat.lt_of_not_le hlong)
  exact hnone z hz hheld

end LastWith

/-! ## A cell -/

/-- What can happen to a cell. -/
inductive Signal (ν : Type) where
  | renew (v : ν)
  | drop
  | tick
  | other

/-- The signals that decide what is in the cell. -/
def Signal.Decides : Signal ν → Prop
  | .renew _ => True
  | .drop => True
  | _ => False

def Signal.isTick : Signal ν → Bool
  | .tick => true
  | _ => false

/-- A value that has been renewed stays for `d` ticks. -/
def cellStep (d : Nat) : Option (ν × Nat) → Signal ν → Option (ν × Nat)
  | _, .renew v => some (v, d)
  | _, .drop => none
  | some (v, n), .tick => if n ≤ 1 then none else some (v, n - 1)
  | none, .tick => none
  | c, .other => c

def cell (d : Nat) (l : List (Signal ν)) : Option (ν × Nat) := l.foldl (cellStep d) none

section Cell

variable {d : Nat} {l : List (Signal ν)} {v : ν} {n : Nat}

theorem cell_snoc (l : List (Signal ν)) (s : Signal ν) :
    cell d (l ++ [s]) = cellStep d (cell d l) s := List.foldl_append

/-- The cell as it should be: the last value it was given, unless that was dropped or its time
has run out. -/
def Holds (d : Nat) (l : List (Signal ν)) (v : ν) (n : Nat) : Prop :=
  ∃ post, LastWith Signal.Decides l (.renew v) post ∧ post.countP Signal.isTick + n = d ∧ 0 < n

theorem holds_renew (hd : 1 ≤ d) (v' : ν) : Holds d (l ++ [.renew v']) v n ↔ v = v' ∧ n = d := by
  unfold Holds
  simp only [lastWith_snoc_iff]
  constructor
  · rintro ⟨post, ⟨-, heq, rfl⟩ | ⟨hnot, -⟩, hcount, -⟩
    · cases heq
      exact ⟨rfl, by simpa using hcount⟩
    · exact absurd trivial hnot
  · rintro ⟨rfl, rfl⟩
    exact ⟨[], .inl ⟨trivial, rfl, rfl⟩, by simp, hd⟩

theorem not_holds_drop : ¬ Holds d (l ++ [.drop]) v n := by
  rintro ⟨post, hlast, -⟩
  rcases lastWith_snoc_iff.mp hlast with ⟨-, heq, -⟩ | ⟨hnot, -⟩
  · cases heq
  · exact hnot trivial

/-- A signal that does not decide leaves what was held, and may have counted. -/
theorem holds_snoc {e : Signal ν} (he : ¬ e.Decides) : Holds d (l ++ [e]) v n
    ↔ Holds d l v (n + [e].countP Signal.isTick) ∧ 0 < n := by
  unfold Holds
  simp only [lastWith_snoc_iff]
  constructor
  · rintro ⟨post, ⟨hdecides, -⟩ | ⟨-, q, rfl, hq⟩, hcount, hn⟩
    · exact absurd hdecides he
    · rw [List.countP_append] at hcount
      exact ⟨⟨q, hq, by omega, by omega⟩, hn⟩
  · rintro ⟨⟨q, hq, hcount, -⟩, hn⟩
    refine ⟨q ++ [e], .inr ⟨he, q, rfl, hq⟩, ?_, hn⟩
    rw [List.countP_append]
    omega

theorem holds_tick : Holds d (l ++ [.tick]) v n ↔ Holds d l v (n + 1) ∧ 0 < n :=
  holds_snoc id

theorem holds_other : Holds d (l ++ [.other]) v n ↔ Holds d l v n := by
  rw [holds_snoc id]
  exact and_iff_left_of_imp fun ⟨_, _, _, hn⟩ => hn

/-- **What a cell holds** is decided by its history. -/
theorem cell_iff (hd : 1 ≤ d) : cell d l = some (v, n) ↔ Holds d l v n := by
  induction l using List.reverseRecOn generalizing v n with
  | nil =>
      refine iff_of_false (fun h => nomatch h) ?_
      rintro ⟨post, hlast, -⟩
      exact not_lastWith_nil hlast
  | append_singleton l s ih =>
      rw [cell_snoc]
      cases s with
      | renew v' =>
          rw [holds_renew hd]
          simp only [cellStep, Option.some.injEq, Prod.mk.injEq]
          exact and_congr eq_comm eq_comm
      | drop => exact iff_of_false (fun h => nomatch h) not_holds_drop
      | tick =>
          rw [holds_tick, ← ih]
          cases hcell : cell d l with
          | none => simp [cellStep]
          | some q =>
              obtain ⟨w, m⟩ := q
              simp only [cellStep]
              split
              · simp only [reduceCtorEq, Option.some.injEq, Prod.mk.injEq, false_iff]
                omega
              · simp only [Option.some.injEq, Prod.mk.injEq]
                constructor
                · rintro ⟨rfl, rfl⟩
                  exact ⟨⟨rfl, by omega⟩, by omega⟩
                · rintro ⟨⟨rfl, hm⟩, -⟩
                  exact ⟨rfl, by omega⟩
      | other =>
          rw [holds_other, ← ih]
          cases hcell : cell d l <;> rfl

end Cell

end Lifetimes
