import Mathlib.Data.List.ReduceOption
import Ubd.Lib.Lifetimes

/-!
# SoftState — what has to be said again and again

A sender, a channel that keeps the order but may lose messages, and a receiver that forgets what
it has not heard for a while. `renewed_lately` says that what is repeated often enough is never
forgotten, and `heard_since` that what is heard was said not long ago.
-/

namespace SoftState

open Lifetimes

variable {μ : Type}

/-! ## The channel -/

/-- All that was sent, how much of it has left the channel, and what was heard at its end:
messages, and the ticks of a clock. -/
structure Channel (μ : Type) where
  sent : List μ
  gone : Nat
  heard : List (Option μ)

inductive Event (μ : Type) where
  | send (ms : List μ)
  /-- The oldest message in the channel is heard. -/
  | arrive
  /-- It is lost. -/
  | lose
  | tick

def Event.messages : Event μ → List μ
  | .send ms => ms
  | _ => []

def Event.isTick : Event μ → Bool
  | .tick => true
  | _ => false

/-- The oldest message in the channel. -/
def Channel.next (c : Channel μ) : Option μ := c.sent[c.gone]?

def Channel.step (c : Channel μ) : Event μ → Channel μ
  | .send ms => { c with sent := c.sent ++ ms }
  | .arrive =>
      match c.next with
      | none => c
      | some m => { c with gone := c.gone + 1, heard := c.heard ++ [some m] }
  | .lose =>
      match c.next with
      | none => c
      | some _ => { c with gone := c.gone + 1 }
  | .tick => { c with heard := c.heard ++ [none] }

def channel (es : List (Event μ)) : Channel μ := es.foldl Channel.step ⟨[], 0, []⟩

section Channel

variable {es fs : List (Event μ)} {e : Event μ} {m : μ}

theorem channel_snoc (es : List (Event μ)) (e : Event μ) :
    channel (es ++ [e]) = (channel es).step e := List.foldl_append

theorem step_sent (c : Channel μ) (e : Event μ) : (c.step e).sent = c.sent ++ e.messages := by
  cases e with
  | send ms => rfl
  | arrive =>
      unfold Channel.step
      cases c.next <;> exact (List.append_nil _).symm
  | lose =>
      unfold Channel.step
      cases c.next <;> exact (List.append_nil _).symm
  | tick => exact (List.append_nil _).symm

theorem channel_sent (es : List (Event μ)) : (channel es).sent = es.flatMap Event.messages := by
  induction es using List.reverseRecOn with
  | nil => rfl
  | append_singleton es e ih => rw [channel_snoc, step_sent, ih, List.flatMap_append,
      List.flatMap_singleton]

theorem channel_sent_append (es fs : List (Event μ)) :
    (channel (es ++ fs)).sent = (channel es).sent ++ fs.flatMap Event.messages := by
  rw [channel_sent, channel_sent, List.flatMap_append]

theorem next_lt {c : Channel μ} (h : c.next = some m) : c.gone < c.sent.length :=
  (List.getElem?_eq_some_iff.mp h).1

/-- Only what was sent can leave. -/
theorem gone_le (es : List (Event μ)) : (channel es).gone ≤ (channel es).sent.length := by
  induction es using List.reverseRecOn with
  | nil => exact Nat.le_refl 0
  | append_singleton es e ih =>
      rw [channel_snoc]
      cases e with
      | send ms =>
          show _ ≤ ((channel es).sent ++ ms).length
          rw [List.length_append]
          exact Nat.le_add_right_of_le ih
      | tick => exact ih
      | arrive =>
          unfold Channel.step
          cases hnext : (channel es).next with
          | none => exact ih
          | some m => exact next_lt hnext
      | lose =>
          unfold Channel.step
          cases hnext : (channel es).next with
          | none => exact ih
          | some m => exact next_lt hnext

/-! ## What is heard -/

/-- What is heard in one step. -/
def Channel.out (c : Channel μ) : Event μ → List (Option μ)
  | .arrive => c.next.toList.map some
  | .tick => [none]
  | _ => []

theorem step_heard (c : Channel μ) (e : Event μ) : (c.step e).heard = c.heard ++ c.out e := by
  cases e with
  | send ms => exact (List.append_nil _).symm
  | tick => rfl
  | arrive =>
      unfold Channel.step Channel.out
      cases c.next with
      | none => exact (List.append_nil _).symm
      | some m => rfl
  | lose =>
      unfold Channel.step
      cases c.next <;> exact (List.append_nil _).symm

theorem out_ticks (c : Channel μ) (e : Event μ) :
    (c.out e).countP Option.isNone = [e].countP Event.isTick := by
  cases e with
  | send ms => rfl
  | tick => rfl
  | lose => rfl
  | arrive =>
      unfold Channel.out
      cases c.next <;> rfl

theorem out_some {c : Channel μ} (h : some m ∈ c.out e) : c.next = some m := by
  cases e with
  | send ms => cases h
  | tick => simp [Channel.out] at h
  | lose => cases h
  | arrive => simpa [Channel.out] using h

theorem out_short (c : Channel μ) (e : Event μ) : (c.out e).length ≤ 1 := by
  cases e with
  | send ms => exact Nat.zero_le 1
  | tick => exact Nat.le_refl 1
  | lose => exact Nat.zero_le 1
  | arrive =>
      unfold Channel.out
      cases c.next <;> simp

theorem step_gone (c : Channel μ) (e : Event μ) : c.gone ≤ (c.step e).gone := by
  cases e with
  | send ms => exact Nat.le_refl _
  | tick => exact Nat.le_refl _
  | arrive =>
      unfold Channel.step
      cases c.next with
      | none => exact Nat.le_refl _
      | some m => exact Nat.le_succ _
  | lose =>
      unfold Channel.step
      cases c.next with
      | none => exact Nat.le_refl _
      | some m => exact Nat.le_succ _

theorem gone_append (es fs : List (Event μ)) : (channel es).gone ≤ (channel (es ++ fs)).gone := by
  induction fs using List.reverseRecOn with
  | nil => simp
  | append_singleton fs e ih =>
      rw [← List.append_assoc, channel_snoc]
      exact Nat.le_trans ih (step_gone _ e)

/-- **What is heard later**: messages that had not yet left the channel, and ticks. -/
theorem heard_append (es fs : List (Event μ)) :
    ∃ out, (channel (es ++ fs)).heard = (channel es).heard ++ out
      ∧ out.countP Option.isNone = fs.countP Event.isTick
      ∧ ∀ m, some m ∈ out → m ∈ (channel (es ++ fs)).sent.drop (channel es).gone := by
  induction fs using List.reverseRecOn with
  | nil => exact ⟨[], by simp, rfl, fun m hm => nomatch hm⟩
  | append_singleton fs e ih =>
      obtain ⟨out, hheard, hticks, hout⟩ := ih
      have hgone := gone_append es fs
      rw [← List.append_assoc, channel_snoc, step_sent,
        List.drop_append_of_le_length (Nat.le_trans hgone (gone_le _))]
      refine ⟨out ++ (channel (es ++ fs)).out e, ?_, ?_, fun m hm => List.mem_append_left _ ?_⟩
      · rw [step_heard, hheard, List.append_assoc]
      · rw [List.countP_append, List.countP_append, hticks, out_ticks]
      · rcases List.mem_append.mp hm with hm | hm
        · exact hout m hm
        · refine List.mem_iff_getElem?.mpr ⟨(channel (es ++ fs)).gone - (channel es).gone, ?_⟩
          rw [List.getElem?_drop, Nat.add_sub_cancel' hgone]
          exact out_some hm

/-- Nothing is heard that was not sent. -/
theorem heard_sent (h : some m ∈ (channel es).heard) : m ∈ (channel es).sent := by
  obtain ⟨out, hheard, -, hout⟩ := heard_append ([] : List (Event μ)) es
  rw [List.nil_append] at hheard hout
  rw [hheard] at h
  exact List.mem_of_mem_drop (hout m h)

/-- Nothing is lost. -/
def Lossless (es : List (Event μ)) : Prop := .lose ∉ es

/-- **Without losses** the messages are heard as they were sent. -/
theorem heard_messages (h : Lossless es) :
    (channel es).heard.reduceOption = (channel es).sent.take (channel es).gone := by
  induction es using List.reverseRecOn with
  | nil => rfl
  | append_singleton es e ih =>
      have hfirst := ih fun hmem => h (List.mem_append_left _ hmem)
      rw [channel_snoc, step_heard, step_sent, List.reduceOption_append, hfirst]
      cases e with
      | send ms => exact (List.append_nil _).trans (List.take_append_of_le_length (gone_le es)).symm
      | tick => simp [Event.messages, Channel.out, Channel.step]
      | lose => exact absurd (List.mem_append_right es (List.mem_singleton_self _)) h
      | arrive =>
          unfold Channel.step Channel.out
          cases hnext : (channel es).next with
          | none => simp [Event.messages]
          | some m =>
              have hlast : (channel es).sent[(channel es).gone]? = some m := hnext
              simp [Event.messages, List.take_add_one, hlast]

/-- The event at which a message was heard. -/
theorem heard_at {h post : List (Option μ)} (hes : (channel es).heard = h ++ some m :: post) :
    ∃ x y, es = x ++ y ∧ (channel x).heard = h ++ [some m] := by
  induction es using List.reverseRecOn generalizing post with
  | nil =>
      have hlen := congrArg List.length hes
      simp [channel] at hlen
  | append_singleton es e ih =>
      by_cases hpost : post = []
      · subst hpost
        exact ⟨es ++ [e], [], (List.append_nil _).symm, hes⟩
      · -- the message was there before the last event, which adds one element at most
        rw [channel_snoc, step_heard, List.append_cons] at hes
        have hlen := congrArg List.length hes
        have hpos := List.length_pos_iff.mpr hpost
        have hshort := out_short (channel es) e
        simp only [List.length_append, List.length_cons, List.length_nil] at hlen
        obtain ⟨post', hpost'⟩ : h ++ [some m] <+: (channel es).heard :=
          List.prefix_of_prefix_length_le ⟨post, rfl⟩ ⟨_, hes⟩ (by simp; omega)
        obtain ⟨x, y, rfl, hx⟩ := ih (hpost'.symm.trans (List.append_cons h (some m) post').symm)
        exact ⟨x, y ++ [e], List.append_assoc _ _ _, hx⟩

end Channel

/-! ## Messages that are repeated -/

section Repeated

variable {About Renews : μ → Prop} {es x y : List (Event μ)} {m : μ} {post : List (Option μ)}
  {n late d : Nat}

/-- No message is in the channel for more than `late` ticks. -/
def Prompt (late : Nat) (es : List (Event μ)) : Prop :=
  ∀ x y z, es = x ++ y ++ z → late < y.countP Event.isTick →
    (channel x).sent.length ≤ (channel (x ++ y)).gone

/-- In more than `n` ticks, what was renewed last is spoken of again. -/
def Repeats (About Renews : μ → Prop) (n : Nat) (es : List (Event μ)) : Prop :=
  ∀ x y z, es = x ++ y ++ z → n < y.countP Event.isTick →
    (∃ m post, LastWith About (channel x).sent m post ∧ Renews m) →
    ∃ m ∈ y.flatMap Event.messages, About m

/-- A part with some of the ticks. -/
theorem exists_ticks {α : Type} {p : α → Bool} {l : List α} (h : n ≤ l.countP p) :
    ∃ a b, l = a ++ b ∧ a.countP p = n := by
  induction l using List.reverseRecOn with
  | nil => exact ⟨[], [], rfl, (Nat.le_zero.mp h).symm⟩
  | append_singleton l e ih =>
      by_cases hl : n ≤ l.countP p
      · obtain ⟨a, b, rfl, ha⟩ := ih hl
        exact ⟨a, b ++ [e], List.append_assoc _ _ _, ha⟩
      · refine ⟨l ++ [e], [], (List.append_nil _).symm, ?_⟩
        have hone : [e].countP p ≤ 1 := List.countP_le_length
        rw [List.countP_append] at h ⊢
        omega

/-- What has left the channel without losses has been heard. -/
theorem heard_between (hloss : Lossless (x ++ y)) {out : List (Option μ)}
    (hout : (channel (x ++ y)).heard = (channel x).heard ++ out) :
    out.reduceOption
      = ((channel (x ++ y)).sent.take (channel (x ++ y)).gone).drop (channel x).gone := by
  have hx : Lossless x := fun hmem => hloss (List.mem_append_left y hmem)
  have hall := heard_messages hloss
  rw [hout, List.reduceOption_append, heard_messages hx] at hall
  rw [← hall, List.drop_append_of_le_length, List.drop_take_self, List.nil_append]
  rw [List.length_take]
  exact Nat.le_min.mpr ⟨Nat.le_refl _, gone_le x⟩

/-- **What is repeated is not forgotten.** If nothing is lost and all comes in time, and the last
that was heard is a renewal, then that was not long ago. -/
theorem renewed_lately (hloss : Lossless es) (hprompt : Prompt late es)
    (hrepeats : Repeats About Renews n es) (hd : n + late + 2 ≤ d)
    (hlast : LastWith (fun o => ∃ m, o = some m ∧ About m) (channel es).heard (some m) post)
    (hm : Renews m) : post.countP Option.isNone < d := by
  by_contra hlong
  obtain ⟨h, hes, ⟨m', hsome, habout⟩, hpost⟩ := hlast
  obtain rfl := Option.some_inj.mp hsome
  obtain ⟨x, z, rfl, hx⟩ := heard_at hes
  obtain ⟨out, hheard, hticks, -⟩ := heard_append x z
  obtain rfl : out = post := by
    rw [hes, hx, List.append_assoc, List.append_cancel_left_eq] at hheard
    simpa using hheard.symm
  have hall := heard_between hloss hheard
  -- nothing else that speaks of it can have left the channel since
  have hquiet : ∀ y z', z = y ++ z' → late < z'.countP Event.isTick →
      ∀ m' ∈ (channel (x ++ y)).sent.drop (channel x).gone, ¬ About m' := by
    rintro y z' rfl hlate m' hm' habout'
    have harrived := hprompt (x ++ y) z' [] (by simp) hlate
    have hsent : (channel (x ++ (y ++ z'))).sent
        = (channel (x ++ y)).sent ++ z'.flatMap Event.messages := by
      rw [← List.append_assoc, channel_sent_append]
    have hgone : (channel x).gone ≤ (channel (x ++ y)).sent.length :=
      Nat.le_trans (gone_append x y) (gone_le _)
    refine hpost (some m') (List.reduceOption_mem_iff.mp ?_) ⟨m', rfl, habout'⟩
    rw [List.append_assoc] at harrived
    rw [hall, hsent, List.take_append, List.take_of_length_le harrived,
      List.drop_append_of_le_length hgone]
    exact List.mem_append_left _ hm'
  obtain ⟨y, z', rfl, hy⟩ : ∃ y z', z = y ++ z' ∧ y.countP Event.isTick = n + 1 :=
    exists_ticks (by omega)
  rw [List.countP_append, hy] at hticks
  -- so it is still the last that was sent, and must have been repeated
  have hrenewed : LastWith About (channel x).sent m ((channel x).sent.drop (channel x).gone) := by
    have hx' : Lossless x := fun hmem => hloss (List.mem_append_left _ hmem)
    have hheard := heard_messages hx'
    rw [hx, List.reduceOption_append, List.reduceOption_singleton] at hheard
    refine ⟨h.reduceOption, ?_, habout, ?_⟩
    · have hsplit := List.take_append_drop (channel x).gone (channel x).sent
      rw [← hheard, List.append_assoc] at hsplit
      exact hsplit.symm
    · have hnone := hquiet [] (y ++ z') rfl (by rw [List.countP_append]; omega)
      rw [List.append_nil] at hnone
      exact hnone
  obtain ⟨m', hm', habout'⟩ := hrepeats x y z' (List.append_assoc _ _ _).symm (by omega)
    ⟨m, _, hrenewed, hm⟩
  refine hquiet y z' rfl (by omega) m' ?_ habout'
  rw [channel_sent_append, List.drop_append_of_le_length (gone_le x)]
  exact List.mem_append_right _ hm'

end Repeated

/-! ## Messages that were sent lately -/

/-- **What is heard was sent lately**, even if messages get lost: all that was sent before has left
the channel. -/
theorem heard_since {x y z : List (Event μ)} {late : Nat} (hprompt : Prompt late (x ++ y ++ z))
    (hlate : late < y.countP Event.isTick) :
    ∃ out, (channel (x ++ y ++ z)).heard = (channel (x ++ y)).heard ++ out
      ∧ out.countP Option.isNone = z.countP Event.isTick
      ∧ ∀ m, some m ∈ out → m ∈ (y ++ z).flatMap Event.messages := by
  obtain ⟨out, hheard, hticks, hout⟩ := heard_append (x ++ y) z
  refine ⟨out, hheard, hticks, fun m hm => ?_⟩
  have hgone := hprompt x y z rfl hlate
  have hmem := hout m hm
  rw [List.append_assoc x y z, channel_sent_append, List.drop_append, List.drop_eq_nil_of_le hgone,
    List.nil_append] at hmem
  exact List.mem_of_mem_drop hmem

end SoftState
