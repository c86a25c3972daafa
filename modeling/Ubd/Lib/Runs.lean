import Mathlib.Data.List.Basic
import Mathlib.Data.List.Induction

/-!
# Runs — executions of a step function that can fail

A system is a step function `σ → ε → Except φ σ` and a guard that says which
events may occur in which states. `Run` is an execution without a failure, with
its events in order. The rules here carry a property of one step to all states
of a run; `Run.always_iff` carries an exact condition on one step to an exact
condition on runs.
-/

namespace Runs

/-! ## Loops -/

section Loops

variable {α β φ : Type} {f : β → α → Except φ β}

theorem foldlM_cons_ok {l : List α} {a : α} {b b'' : β} :
    (a :: l).foldlM f b = .ok b'' ↔ ∃ b', f b a = .ok b' ∧ l.foldlM f b' = .ok b'' := by
  rw [List.foldlM_cons]
  cases f b a with
  | error e => simp [bind, Except.bind]
  | ok b' => simp [bind, Except.bind]

/-- What every turn of a loop keeps, the loop keeps. -/
theorem foldlM_invariant {I : β → Prop} {l : List α} {b b' : β}
    (hstep : ∀ a ∈ l, ∀ b b', I b → f b a = .ok b' → I b') (h : I b)
    (hrun : l.foldlM f b = .ok b') : I b' := by
  induction l generalizing b with
  | nil =>
      cases hrun
      exact h
  | cons a l ih =>
      obtain ⟨c, hc, hrest⟩ := foldlM_cons_ok.mp hrun
      exact ih (fun x hx => hstep x (List.mem_cons_of_mem _ hx))
        (hstep a List.mem_cons_self b c h hc) hrest

/-- A loop fails as one of its turns does. -/
theorem foldlM_error {P : φ → Prop} {l : List α} {b : β} {x : φ}
    (hstep : ∀ b a x, f b a = .error x → P x) (hrun : l.foldlM f b = .error x) : P x := by
  induction l generalizing b with
  | nil => cases hrun
  | cons a l ih =>
      rw [List.foldlM_cons] at hrun
      cases hturn : f b a with
      | error y =>
          rw [hturn] at hrun
          cases hrun
          exact hstep b a x hturn
      | ok c =>
          rw [hturn] at hrun
          exact ih hrun

/-- A loop whose turns succeed under the invariant succeeds. -/
theorem foldlM_total {I : β → Prop} {l : List α} {b : β}
    (hstep : ∀ a ∈ l, ∀ b, I b → ∃ b', f b a = .ok b' ∧ I b') (h : I b) :
    ∃ b', l.foldlM f b = .ok b' ∧ I b' := by
  induction l generalizing b with
  | nil => exact ⟨b, rfl, h⟩
  | cons a l ih =>
      obtain ⟨c, hc, hIc⟩ := hstep a List.mem_cons_self b h
      obtain ⟨b', hb', hIb'⟩ := ih (fun x hx => hstep x (List.mem_cons_of_mem _ hx)) hIc
      exact ⟨b', foldlM_cons_ok.mpr ⟨c, hc, hb'⟩, hIb'⟩

theorem foldlM_append_ok {l l' : List α} {b b'' : β} :
    (l ++ l').foldlM f b = .ok b'' ↔ ∃ b', l.foldlM f b = .ok b' ∧ l'.foldlM f b' = .ok b'' := by
  rw [List.foldlM_append]
  cases l.foldlM f b with
  | error e => simp [bind, Except.bind]
  | ok b' => simp [bind, Except.bind]

/-- A loop that counts through a list is a loop over it. -/
theorem foldlM_range {I : β → Prop} {g : β → Nat → Except φ β} {l : List α} {b : β}
    (hstep : ∀ (b : β) (i : Nat) (a : α), I b → l[i]? = some a → g b i = f b a)
    (hkeep : ∀ b a b', I b → f b a = .ok b' → I b') (h : I b) :
    (List.range l.length).foldlM g b = l.foldlM f b := by
  induction l using List.reverseRecOn with
  | nil => rfl
  | append_singleton l a ih =>
      have hlast : (l ++ [a])[l.length]? = some a := by simp
      have hinit : (List.range l.length).foldlM g b = l.foldlM f b :=
        ih fun b i x hb hx => hstep b i x hb <| by
          rw [List.getElem?_append_left (List.getElem?_eq_some_iff.mp hx).1]
          exact hx
      rw [List.length_append, List.length_singleton, List.range_succ, List.foldlM_append,
        List.foldlM_append, hinit]
      cases hrun : l.foldlM f b with
      | error e => rfl
      | ok c =>
          have hc : I c := foldlM_invariant (fun x _ b b' hb => hkeep b x b' hb) h hrun
          show [l.length].foldlM g c = [a].foldlM f c
          rw [List.foldlM_cons, List.foldlM_cons, hstep c l.length a hc hlast]
          rfl

/-- **The turn of one element**: the turns before and after it are those of others. -/
theorem foldlM_turn {I : β → Prop} {R : β → β → Prop} {l : List α} {a : α} {b b' : β}
    (hrefl : ∀ b, R b b) (htrans : ∀ b c d, R b c → R c d → R b d)
    (hkeep : ∀ b x b', I b → f b x = .ok b' → I b')
    (hother : ∀ b x b', I b → x ≠ a → f b x = .ok b' → R b b')
    (hnodup : l.Nodup) (ha : a ∈ l) (h : I b) (hrun : l.foldlM f b = .ok b') :
    ∃ c c', I c ∧ R b c ∧ f c a = .ok c' ∧ R c' b' := by
  have hrest : ∀ (l : List α) (b b' : β), a ∉ l → I b → l.foldlM f b = .ok b' →
      I b' ∧ R b b' := by
    intro l b b' hl hb hrun
    refine foldlM_invariant (I := fun c => I c ∧ R b c) (fun x hx c c' hc hturn => ?_)
      ⟨hb, hrefl b⟩ hrun
    have hne : x ≠ a := fun heq => hl (heq ▸ hx)
    exact ⟨hkeep c x c' hc.1 hturn, htrans b c c' hc.2 (hother c x c' hc.1 hne hturn)⟩
  obtain ⟨l₁, l₂, rfl⟩ := List.append_of_mem ha
  obtain ⟨c, hfirst, hrun⟩ := foldlM_append_ok.mp hrun
  obtain ⟨c', hturn, hlast⟩ := foldlM_cons_ok.mp hrun
  have hfresh := List.nodup_append.mp hnodup
  have hout₁ : a ∉ l₁ := fun hmem => hfresh.2.2 a hmem a List.mem_cons_self rfl
  have hout₂ : a ∉ l₂ := (List.nodup_cons.mp hfresh.2.1).1
  obtain ⟨hc, hbc⟩ := hrest l₁ b c hout₁ h hfirst
  exact ⟨c, c', hc, hbc, hturn, (hrest l₂ c' b' hout₂ (hkeep c a c' hc hturn) hlast).2⟩

/-- A loop that does another one on the side. -/
theorem foldlM_map {γ : Type} {g : γ → α → Except φ γ} {π : γ → β}
    (hstep : ∀ c a, (g c a).map π = f (π c) a) (l : List α) (c : γ) :
    (l.foldlM g c).map π = l.foldlM f (π c) := by
  induction l generalizing c with
  | nil => rfl
  | cons a l ih =>
      rw [List.foldlM_cons, List.foldlM_cons, ← hstep c a]
      cases g c a with
      | error x => rfl
      | ok c' => exact ih c'

/-- A loop that keeps the elements for which `p` holds at their turn. -/
def logged (f : β → α → Except φ β) (p : β → α → Bool) (q : β × List α) (a : α) :
    Except φ (β × List α) := (f q.1 a).map fun b => (b, if p q.1 a then q.2 ++ [a] else q.2)

/-- **What is kept**, when no turn changes `p` for others. -/
theorem foldlM_logged {I : β → Prop} {p : β → α → Bool} {l : List α} {b b' : β}
    {log log' : List α}
    (hkeep : ∀ b a b', I b → f b a = .ok b' → I b' ∧ ∀ x, x ≠ a → p b' x = p b x)
    (hnodup : l.Nodup) (h : I b) (hrun : l.foldlM (logged f p) (b, log) = .ok (b', log')) :
    log' = log ++ l.filter (p b) := by
  induction l generalizing b log with
  | nil =>
      cases hrun
      exact (List.append_nil _).symm
  | cons a l ih =>
      obtain ⟨hfresh, hrest⟩ := List.nodup_cons.mp hnodup
      obtain ⟨⟨c, log₁⟩, hturn, hrun⟩ := foldlM_cons_ok.mp hrun
      unfold logged at hturn
      cases hf : f b a with
      | error x =>
          rw [hf] at hturn
          cases hturn
      | ok c' =>
          rw [hf] at hturn
          cases hturn
          obtain ⟨hc, hsame⟩ := hkeep b a c h hf
          have hfilter : l.filter (p c) = l.filter (p b) :=
            List.filter_congr fun x hx => hsame x fun heq => hfresh (heq ▸ hx)
          rw [ih hrest hc hrun, hfilter, List.filter_cons]
          split
          · rw [List.append_assoc, List.singleton_append]
          · rfl

/-- `C` holds whenever an element has its turn: of the element and the state before it. -/
def EveryTurn (f : β → α → Except φ β) (C : β → α → Prop) (b : β) (l : List α) : Prop :=
  ∀ pre a post c, l = pre ++ a :: post → pre.foldlM f b = .ok c → C c a

end Loops

/-! ## Runs -/

section Runs

variable {σ ε φ : Type}

inductive Run (step : σ → ε → Except φ σ) (may : σ → ε → Prop) (s₀ : σ) : List ε → σ → Prop
  | nil : Run step may s₀ [] s₀
  | snoc {es : List ε} {s s' : σ} {e : ε} (run : Run step may s₀ es s) (guard : may s e)
      (done : step s e = .ok s') : Run step may s₀ (es ++ [e]) s'

variable {step : σ → ε → Except φ σ} {may : σ → ε → Prop} {s₀ : σ}

/-- **The invariant rule.** -/
theorem Run.invariant {I : σ → Prop} {es : List ε} {s : σ} (h : Run step may s₀ es s)
    (h₀ : I s₀) (hstep : ∀ s e s', I s → may s e → step s e = .ok s' → I s') : I s := by
  induction h with
  | nil => exact h₀
  | snoc _ hguard hdone ih => exact hstep _ _ _ ih hguard hdone

/-- A step whose guard is looked at. -/
def guarded (step : σ → ε → Except φ σ) (may : σ → ε → Prop) [∀ s e, Decidable (may s e)] (x : φ)
    (s : σ) (e : ε) : Except φ σ := if may s e then step s e else .error x

/-- A loop of guarded steps is a run. -/
theorem Run.of_foldlM [∀ s e, Decidable (may s e)] (x : φ) {es : List ε} {s : σ}
    (h : es.foldlM (guarded step may x) s₀ = .ok s) : Run step may s₀ es s := by
  induction es using List.reverseRecOn generalizing s with
  | nil =>
      cases h
      exact .nil
  | append_singleton es e ih =>
      rw [List.foldlM_append] at h
      cases hes : es.foldlM (guarded step may x) s₀ with
      | error y =>
          rw [hes] at h
          cases h
      | ok t =>
          rw [hes] at h
          obtain ⟨s', hdone, hs⟩ := foldlM_cons_ok.mp h
          cases hs
          unfold guarded at hdone
          split at hdone
          · rename_i hmay
            exact .snoc (ih hes) hmay hdone
          · cases hdone

/-- Runs can be found by evaluation. -/
theorem Run.exists_of_eval {P : σ → Prop} [∀ s e, Decidable (may s e)] [DecidablePred P] (x : φ)
    {es : List ε} (h : (es.foldlM (guarded step may x) s₀).toOption.any (P ·) = true) :
    ∃ s, Run step may s₀ es s ∧ P s := by
  cases hrun : es.foldlM (guarded step may x) s₀ with
  | error y =>
      rw [hrun] at h
      cases h
  | ok s =>
      rw [hrun] at h
      exact ⟨s, .of_foldlM x hrun, of_decide_eq_true h⟩

theorem Run.weaken {may' : σ → ε → Prop} {es : List ε} {s : σ} (h : Run step may s₀ es s)
    (hle : ∀ s e, may s e → may' s e) : Run step may' s₀ es s := by
  induction h with
  | nil => exact .nil
  | snoc _ hguard hdone ih => exact .snoc ih (hle _ _ hguard) hdone

theorem Run.snoc_inv {es : List ε} {e : ε} {s' : σ} (h : Run step may s₀ (es ++ [e]) s') :
    ∃ s, Run step may s₀ es s ∧ may s e ∧ step s e = .ok s' := by
  generalize hes : es ++ [e] = l at h
  cases h with
  | nil => simp at hes
  | snoc run guard done =>
      obtain ⟨rfl, heq⟩ := List.append_inj' hes rfl
      cases heq
      exact ⟨_, run, guard, done⟩

theorem Run.nil_inv {s : σ} (h : Run step may s₀ [] s) : s = s₀ := by
  generalize hes : ([] : List ε) = l at h
  cases h with
  | nil => rfl
  | snoc => simp at hes

/-- The events determine the states. -/
theorem Run.unique {es : List ε} {s t : σ} (h : Run step may s₀ es s)
    (h' : Run step may s₀ es t) : s = t := by
  induction h generalizing t with
  | nil => exact h'.nil_inv.symm
  | snoc _ _ hdone ih =>
      obtain ⟨s, hs, -, hdone'⟩ := h'.snoc_inv
      rw [ih hs, hdone'] at hdone
      cases hdone
      rfl

/-- Every prefix of a run is a run. -/
theorem Run.prefix {es fs : List ε} {s : σ} (h : Run step may s₀ (es ++ fs) s) :
    ∃ t, Run step may s₀ es t := by
  induction fs using List.reverseRecOn generalizing s with
  | nil =>
      rw [List.append_nil] at h
      exact ⟨s, h⟩
  | append_singleton fs e ih =>
      rw [← List.append_assoc] at h
      obtain ⟨t, ht, -, -⟩ := h.snoc_inv
      exact ih ht

/-- Every step of a run is taken, from the state that the events before it lead to. -/
theorem Run.step_at {pre post : List ε} {e : ε} {t s : σ} (h : Run step may s₀ (pre ++ e :: post) s)
    (ht : Run step may s₀ pre t) :
    ∃ t', Run step may s₀ (pre ++ [e]) t' ∧ may t e ∧ step t e = .ok t' := by
  rw [List.append_cons] at h
  obtain ⟨t', ht'⟩ := h.prefix
  obtain ⟨t₁, ht₁, hguard, hdone⟩ := ht'.snoc_inv
  obtain rfl := ht.unique ht₁
  exact ⟨t', ht', hguard, hdone⟩

/-- What every step does, every part of a run does. -/
theorem Run.relation {R : σ → σ → Prop} (hrefl : ∀ s, R s s)
    (htrans : ∀ a b c, R a b → R b c → R a c) {pre post : List ε} {t s : σ}
    (hstep : ∀ fs s e s', Run step may s₀ fs s → may s e → step s e = .ok s' → R s s')
    (ht : Run step may s₀ pre t) (hs : Run step may s₀ (pre ++ post) s) : R t s := by
  induction post using List.reverseRecOn generalizing s with
  | nil =>
      rw [List.append_nil] at hs
      rw [ht.unique hs]
      exact hrefl s
  | append_singleton post e ih =>
      rw [← List.append_assoc] at hs
      obtain ⟨s₁, hs₁, hguard, hdone⟩ := hs.snoc_inv
      exact htrans _ _ _ (ih hs₁) (hstep _ _ _ _ hs₁ hguard hdone)

/-- `P` holds in every state of the run of `es`. -/
def Always (step : σ → ε → Except φ σ) (may : σ → ε → Prop) (s₀ : σ) (P : σ → Prop)
    (es : List ε) : Prop :=
  ∀ pre post t, es = pre ++ post → Run step may s₀ pre t → P t

/-- `C` holds of every step of the run of `es`: of the event and the state before it. -/
def EveryStep (step : σ → ε → Except φ σ) (may : σ → ε → Prop) (s₀ : σ) (C : σ → ε → Prop)
    (es : List ε) : Prop :=
  ∀ pre e post t, es = pre ++ e :: post → Run step may s₀ pre t → C t e

theorem EveryStep.prefix {C : σ → ε → Prop} {pre post : List ε}
    (h : EveryStep step may s₀ C (pre ++ post)) : EveryStep step may s₀ C pre := by
  intro pre' e post' t hpre ht
  exact h pre' e (post' ++ post) t (by rw [hpre, List.append_assoc, List.cons_append]) ht

theorem everyStep_nil {C : σ → ε → Prop} : EveryStep step may s₀ C [] := by
  intro pre e post t hes
  simp at hes

/-- One more step. -/
theorem EveryStep.snoc {C : σ → ε → Prop} {es : List ε} {e : ε} (h : EveryStep step may s₀ C es)
    (hlast : ∀ t, Run step may s₀ es t → C t e) : EveryStep step may s₀ C (es ++ [e]) := by
  intro pre e' post t hes ht
  induction post using List.reverseRecOn with
  | nil =>
      obtain ⟨rfl, heq⟩ := List.append_inj' hes rfl
      cases heq
      exact hlast t ht
  | append_singleton post x _ =>
      rw [← List.cons_append, ← List.append_assoc] at hes
      obtain ⟨rfl, -⟩ := List.append_inj' hes rfl
      exact h pre e' post t rfl ht

/-- A condition on all steps is a guard. -/
theorem Run.everyStep_iff {C : σ → ε → Prop} {es : List ε} {s : σ} (h : Run step may s₀ es s) :
    EveryStep step may s₀ C es ↔ Run step (fun s e => may s e ∧ C s e) s₀ es s := by
  constructor
  · intro hC
    induction h with
    | nil => exact .nil
    | @snoc es s s' e run guard done ih =>
        exact .snoc (ih hC.prefix) ⟨guard, hC es e [] s rfl run⟩ done
  · intro hrun pre e post t hes ht
    rw [hes] at hrun
    obtain ⟨t₁, ht₁⟩ := hrun.prefix
    obtain rfl := ht.unique (ht₁.weaken fun _ _ hboth => hboth.1)
    obtain ⟨-, -, hguard, -⟩ := hrun.step_at ht₁
    exact hguard.2

/-- **The exact rule.** Let `P` hold wherever the invariant `I` does, steps that meet `C`
keep `I`, and steps to states with `P` meet `C`. Then `P` holds in all states of a run
exactly when all its steps meet `C`. -/
theorem Run.always_iff {I P : σ → Prop} {C : σ → ε → Prop} {es : List ε} {s : σ}
    (h : Run step may s₀ es s) (h₀ : I s₀) (hP : ∀ s, I s → P s)
    (hkeep : ∀ s e s', I s → may s e → step s e = .ok s' → C s e → I s')
    (honly : ∀ s e s', I s → may s e → step s e = .ok s' → P s' → C s e) :
    Always step may s₀ P es ↔ EveryStep step may s₀ C es := by
  -- both ways the invariant is carried along the run
  have hmeets : ∀ pre t, Run step may s₀ pre t → EveryStep step may s₀ C pre → I t := by
    intro pre t ht hC
    exact (ht.everyStep_iff.mp hC).invariant h₀ fun s e s' hs hguard hdone =>
      hkeep s e s' hs hguard.1 hdone hguard.2
  constructor
  · intro hall
    have hprefix : ∀ pre post, es = pre ++ post → EveryStep step may s₀ C pre := by
      intro pre
      induction pre using List.reverseRecOn with
      | nil =>
          intro post _ pre' e post' t hes
          simp at hes
      | append_singleton pre e ih =>
          intro post hes
          have hC := ih (e :: post) (by simp [hes])
          obtain ⟨t', ht'⟩ : ∃ t', Run step may s₀ (pre ++ [e]) t' := by
            rw [hes] at h
            exact h.prefix
          obtain ⟨t, ht, hguard, hdone⟩ := ht'.snoc_inv
          have he := honly t e t' (hmeets pre t ht hC) hguard hdone
            (hall (pre ++ [e]) post t' hes ht')
          exact ht'.everyStep_iff.mpr (.snoc (ht.everyStep_iff.mp hC) ⟨hguard, he⟩ hdone)
    exact hprefix es [] (List.append_nil es).symm
  · intro hC pre post t hes ht
    rw [hes] at hC
    exact hP t (hmeets pre t ht hC.prefix)

/-! ## Runs with their states -/

/-- A run that keeps, with each event, the state that met it. -/
inductive Traced (step : σ → ε → Except φ σ) (may : σ → ε → Prop) (s₀ : σ) :
    List (σ × ε) → σ → Prop
  | nil : Traced step may s₀ [] s₀
  | snoc {tr : List (σ × ε)} {s s' : σ} {e : ε} (before : Traced step may s₀ tr s)
      (guard : may s e) (done : step s e = .ok s') : Traced step may s₀ (tr ++ [(s, e)]) s'

theorem Run.traced {es : List ε} {s : σ} (h : Run step may s₀ es s) :
    ∃ tr, Traced step may s₀ tr s ∧ tr.map Prod.snd = es := by
  induction h with
  | nil => exact ⟨[], .nil, rfl⟩
  | @snoc es s s' e _ guard done ih =>
      obtain ⟨tr, htr, hes⟩ := ih
      exact ⟨tr ++ [(s, e)], .snoc htr guard done, by rw [List.map_append, hes]; rfl⟩

theorem Traced.run {tr : List (σ × ε)} {s : σ} (h : Traced step may s₀ tr s) :
    Run step may s₀ (tr.map Prod.snd) s := by
  induction h with
  | nil => exact .nil
  | snoc _ guard done ih =>
      rw [List.map_append]
      exact .snoc ih guard done

/-- Every prefix of a history is one. -/
theorem Traced.prefix {tr tr' : List (σ × ε)} {s : σ} (h : Traced step may s₀ (tr ++ tr') s) :
    ∃ t, Traced step may s₀ tr t := by
  generalize htr : tr ++ tr' = l at h
  induction h generalizing tr' with
  | nil =>
      obtain ⟨rfl, -⟩ := List.append_eq_nil_iff.mp htr
      exact ⟨s₀, .nil⟩
  | snoc before guard done ih =>
      induction tr' using List.reverseRecOn with
      | nil =>
          rw [List.append_nil] at htr
          rw [htr]
          exact ⟨_, .snoc before guard done⟩
      | append_singleton tr' q _ =>
          rw [← List.append_assoc] at htr
          obtain ⟨heq, -⟩ := List.append_inj' htr rfl
          exact ih heq

/-- Every step of a history is taken, from the state that is kept with it. -/
theorem Traced.step_at {tr tr' : List (σ × ε)} {q : σ × ε} {s : σ}
    (h : Traced step may s₀ (tr ++ q :: tr') s) :
    Traced step may s₀ tr q.1
      ∧ ∃ s', step q.1 q.2 = .ok s' ∧ Traced step may s₀ (tr ++ [q]) s' := by
  rw [List.append_cons] at h
  obtain ⟨s', hs'⟩ := h.prefix
  generalize htr : tr ++ [q] = l at hs' ⊢
  cases hs' with
  | nil => simp at htr
  | snoc before guard done =>
      obtain ⟨rfl, heq⟩ := List.append_inj' htr rfl
      cases heq
      exact ⟨before, s', done, .snoc before guard done⟩

/-- A guarded step that keeps the history. -/
def tracedStep (step : σ → ε → Except φ σ) (may : σ → ε → Prop) [∀ s e, Decidable (may s e)]
    (x : φ) (q : List (σ × ε) × σ) (e : ε) : Except φ (List (σ × ε) × σ) :=
  (guarded step may x q.2 e).map fun s' => (q.1 ++ [(q.2, e)], s')

theorem Traced.of_foldlM [∀ s e, Decidable (may s e)] (x : φ) {es : List ε}
    {q : List (σ × ε) × σ} (h : es.foldlM (tracedStep step may x) ([], s₀) = .ok q) :
    Traced step may s₀ q.1 q.2 := by
  refine foldlM_invariant (I := fun q => Traced step may s₀ q.1 q.2) (fun e _ q q' hq hturn => ?_)
    .nil h
  unfold tracedStep guarded at hturn
  split at hturn
  · rename_i hmay
    cases hdone : step q.2 e with
    | error y =>
        rw [hdone] at hturn
        cases hturn
    | ok s' =>
        rw [hdone] at hturn
        cases hturn
        exact .snoc hq hmay hdone
  · cases hturn

/-- Histories can be found by evaluation. -/
theorem Traced.exists_of_eval {P : List (σ × ε) → σ → Prop} [∀ s e, Decidable (may s e)]
    [∀ tr s, Decidable (P tr s)] (x : φ) (es : List ε)
    (h : (es.foldlM (tracedStep step may x) ([], s₀)).toOption.any (fun q => P q.1 q.2) = true) :
    ∃ tr s, Traced step may s₀ tr s ∧ P tr s := by
  cases hrun : es.foldlM (tracedStep step may x) ([], s₀) with
  | error y =>
      rw [hrun] at h
      cases h
  | ok q =>
      rw [hrun] at h
      exact ⟨q.1, q.2, .of_foldlM x hrun, of_decide_eq_true h⟩

/-- **The invariant rule for histories**: `I` may talk of all that has happened. -/
theorem Traced.invariant {I : List (σ × ε) → σ → Prop} {tr : List (σ × ε)} {s : σ}
    (h : Traced step may s₀ tr s) (h₀ : I [] s₀)
    (hstep : ∀ tr s e s', I tr s → may s e → step s e = .ok s' → I (tr ++ [(s, e)]) s') :
    I tr s := by
  induction h with
  | nil => exact h₀
  | snoc _ guard done ih => exact hstep _ _ _ _ ih guard done

/-! ## Refinement -/

section Refinement

variable {γ δ ψ : Type} {stepC : γ → δ → Except ψ γ} {mayC : γ → δ → Prop} {c₀ : γ}

/-- A concrete step means an abstract one, or nothing at all. -/
def Means (step : σ → ε → Except φ σ) (may : σ → ε → Prop) (s s' : σ) : Option ε → Prop
  | none => s' = s
  | some e => may s e ∧ step s e = .ok s'

/-- **The refinement rule**: when every concrete step means what its label says, a concrete
history is a run of the labels. -/
theorem Traced.refine (abs : γ → σ) (label : γ → δ → Option ε) {I : γ → Prop} (hI₀ : I c₀)
    (hstep : ∀ c e c', I c → mayC c e → stepC c e = .ok c' →
      I c' ∧ Means step may (abs c) (abs c') (label c e))
    {tr : List (γ × δ)} {c : γ} (h : Traced stepC mayC c₀ tr c) :
    I c ∧ Run step may (abs c₀) (tr.filterMap fun q => label q.1 q.2) (abs c) := by
  induction h with
  | nil => exact ⟨hI₀, .nil⟩
  | @snoc tr c c' e _ guard done ih =>
      obtain ⟨hc, hrun⟩ := ih
      obtain ⟨hc', hmeans⟩ := hstep c e c' hc guard done
      refine ⟨hc', ?_⟩
      rw [List.filterMap_append, List.filterMap_cons]
      cases hlabel : label c e with
      | none =>
          rw [hlabel] at hmeans
          have hsame : abs c' = abs c := hmeans
          rw [hsame, List.filterMap_nil, List.append_nil]
          exact hrun
      | some l =>
          rw [hlabel] at hmeans
          rw [List.filterMap_nil]
          exact .snoc hrun hmeans.1 hmeans.2

end Refinement

end Runs

end Runs
