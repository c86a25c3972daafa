import Ubd.Daemon.Pairing

/-!
# Daemon.AllOrNothing — what a failure of `net_createSockets` leaves

`net_createSockets` makes up to 65 objects one after the other and returns at the first that
cannot be made. It closes none of those it has made. `all_or_nothing_iff` says when nothing is
left over all the same.
-/

namespace Ubd

/-- The object behind a handle is open. -/
def Objects.StaysOpen (o : Objects) (h : Handle) : Prop := ∃ x, o.all[h]? = some x ∧ x.isOpen = true

/-- The sockets of all classes and the management socket are open, the services are
registered, and the node is up. -/
structure AllUp (i : NodeId) (n : Node) (s s' : NetState) : Prop where
  sockets : s'.objects.OpenExactly i (s'.net.ports.handles n.classes)
  services : s'.dirclient = dirclientRegisterServices i n s.dirclient
  netup : s'.net.netup = true

/-- No socket of the node is open, nor any that was made on the way; nothing is registered, and
the node is not up. -/
structure NothingLeft (i : NodeId) (s s' : NetState) : Prop where
  sockets : ∀ h, ¬ s'.objects.OpenAt i h
  made : ∀ h, s.objects.all.length ≤ h → ¬ s'.objects.StaysOpen h
  services : s'.dirclient = s.dirclient
  netup : s'.net.netup = false

def AllOrNothing (self : NodeId) (n : Node) (env : NetEnv) (s : NetState) : Prop :=
  AllUp self n s (netCreateSockets self n env s)
    ∨ NothingLeft self s (netCreateSockets self n env s)

section AllOrNothing

variable {self : NodeId} {n : Node} {env : NetEnv} {s : NetState}

/-! ## What the loop leaves -/

/-- The first thing a UDP socket needs is a `GSocket`, and nobody closes it when the bind
fails. -/
theorem netCreateUDPSocket_first (self : NodeId) (n : Node) (env : NetEnv) (c : ClassId)
    (s : NetState) : (netCreateUDPSocket self n env c s).1.objects.all[s.objects.all.length]?
      = some ⟨.socket, true, false⟩ := by
  have hsocket : (s.objects.create .socket).1.all[s.objects.all.length]?
      = some ⟨.socket, true, false⟩ := List.getElem?_concat_length
  have hlt : s.objects.all.length < (s.objects.create .socket).1.all.length :=
    (List.getElem?_eq_some_iff.mp hsocket).1
  unfold netCreateUDPSocket
  dsimp only
  split
  · exact (List.getElem?_append_left hlt).trans hsocket
  · exact hsocket

/-- **The first socket stays open**, wherever the loop returns. -/
theorem netCreateClassSockets_first (self : NodeId) (n : Node) (env : NetEnv) (l : List ClassId)
    (s : NetState) (hclass : ∃ c ∈ l, n.classes c ≠ 0) :
    (netCreateClassSockets self n env l s).1.objects.all[s.objects.all.length]?
      = some ⟨.socket, true, false⟩ := by
  induction l with
  | nil =>
      obtain ⟨c, hc, -⟩ := hclass
      cases hc
  | cons c l ih =>
      unfold netCreateClassSockets
      by_cases hc : n.classes c ≠ 0
      · rw [if_pos hc]
        have hfirst := netCreateUDPSocket_first self n env c s
        cases hudp : netCreateUDPSocket self n env c s with
        | mk s₁ ok =>
            rw [hudp] at hfirst
            dsimp only at hfirst
            have hlt : s.objects.all.length < s₁.objects.all.length :=
              (List.getElem?_eq_some_iff.mp hfirst).1
            cases ok with
            | false => exact hfirst
            | true =>
                -- what comes after it leaves it alone
                have hmakes := netCreateTCPSocket_makes self n env c s₁
                cases htcp : netCreateTCPSocket self n env c s₁ with
                | mk s₂ ok =>
                    rw [htcp] at hmakes
                    have hsecond := (hmakes.kept _ hlt).trans hfirst
                    simp only [htcp]
                    cases ok with
                    | false => exact hsecond
                    | true =>
                        have hrest := netCreateClassSockets_makes self n env l s₂
                        exact (hrest.kept _ (lt_of_lt_of_le hlt hmakes.length)).trans hsecond
      · rw [if_neg hc]
        refine ih ?_
        obtain ⟨c', hmem, hne⟩ := hclass
        rcases List.mem_cons.mp hmem with rfl | hmem
        · exact absurd hne hc
        · exact ⟨c', hmem, hne⟩

/-! ## How it ends -/

/-- Everything is made. -/
theorem allUp_of_can (hcan : n.CanCreate env) (hclosed : ∀ h, ¬ s.objects.OpenAt self h) :
    AllUp self n s (netCreateSockets self n env s) := by
  have hopens := netCreateClassSockets_opens self n classSlots (fun c _ => hcan.1 c)
    (List.nodup_finRange maxClass) [] (fun _ _ => List.not_mem_nil)
    (Objects.openExactly_nil.mpr hclosed)
  have hdirclient := netCreateClassSockets_dirclient self n env classSlots s
  rw [netCreateSockets_classes self hcan.1]
  generalize (netCreateClassSockets self n env classSlots s).1 = s₁ at hopens hdirclient
  have hadd := mgt_opens hopens
  unfold netCreateMgtSocket
  dsimp only
  rw [if_pos hcan.2]
  exact ⟨hadd, by rw [← hdirclient], rfl⟩

/-- Without a class the loop makes nothing. -/
theorem netCreateClassSockets_none (hnone : ∀ c, n.classes c = 0) (l : List ClassId) :
    netCreateClassSockets self n env l s = (s, true) := by
  induction l with
  | nil => rfl
  | cons c l ih =>
      unfold netCreateClassSockets
      rw [if_neg (not_not.mpr (hnone c)), ih]

/-- A management socket that cannot listen is the only one that is released. -/
theorem nothingLeft_of_none (hnone : ∀ c, n.classes c = 0) (hlisten : env.mgtListen = false)
    (hclosed : ∀ h, ¬ s.objects.OpenAt self h) (hdown : s.net.netup = false) :
    NothingLeft self s (netCreateSockets self n env s) := by
  have hmakes := netCreateMgtSocket_makes self n env s
  have hrun : netCreateSockets self n env s = netCreateMgtSocket self n env s := by
    rw [netCreateSockets_classes self fun c hc => absurd (hnone c) hc,
      netCreateClassSockets_none hnone]
  have hcan : ¬ n.CanCreate env := by
    rintro ⟨-, hlisten'⟩
    rw [hlisten] at hlisten'
    cases hlisten'
  obtain ⟨-, hnetup, hdirclient⟩ := netCreateSockets_fails self hcan s
  rw [hrun] at hnetup hdirclient ⊢
  have hlast : (netCreateMgtSocket self n env s).objects.all
      = s.objects.all ++ [⟨.service (.mgt self), false, true⟩] := by
    unfold netCreateMgtSocket
    dsimp only
    rw [hlisten]
    have hnew : (s.objects.create (.service (.mgt self))).1.all[s.objects.all.length]?
        = some ⟨.service (.mgt self), true, false⟩ := List.getElem?_concat_length
    show ((s.objects.create (.service (.mgt self))).1.use _ (some s.objects.all.length)).all = _
    unfold Objects.use
    dsimp only
    rw [hnew]
    simp [Objects.create]
  have hshut : ∀ h, s.objects.all.length ≤ h →
      ¬ (netCreateMgtSocket self n env s).objects.StaysOpen h := by
    rintro h hle ⟨x, hx, hopen⟩
    rw [hlast, List.getElem?_append_right hle] at hx
    obtain ⟨hlt, rfl⟩ := List.getElem?_eq_some_iff.mp hx
    simp at hopen
  refine ⟨fun h hopen => ?_, hshut, hdirclient, hnetup.trans hdown⟩
  · obtain ⟨howner, x, hx, hisOpen⟩ := Objects.openAt_iff.mp hopen
    by_cases hlt : h < s.objects.all.length
    · -- it was there before, and open
      have hkind : s.objects.kindAt h = some (s.objects.all[h]).kind := by
        rw [Objects.kindAt, List.getElem?_eq_getElem hlt]
        rfl
      rw [hmakes.work.owner h _ hkind] at howner
      rw [hmakes.kept h hlt] at hx
      exact hclosed h (Objects.openAt_iff.mpr ⟨howner, x, hx, hisOpen⟩)
    · exact hshut h (Nat.le_of_not_lt hlt) ⟨x, hx, hisOpen⟩

/-- **`net_createSockets` is all or nothing** exactly when every socket can be made, or the
node has no class. -/
theorem all_or_nothing_iff (self : NodeId) (n : Node) (env : NetEnv) (s : NetState)
    (hclosed : ∀ h, ¬ s.objects.OpenAt self h) (hdown : s.net.netup = false) :
    AllOrNothing self n env s ↔ n.CanCreate env ∨ ∀ c, n.classes c = 0 := by
  constructor
  · rintro (hall | hnothing)
    · refine .inl (by_contra fun hcan => ?_)
      have hup := hall.netup
      rw [(netCreateSockets_fails self hcan s).2.1, hdown] at hup
      cases hup
    · refine .inr fun c => by_contra fun hc => ?_
      -- the socket of the first class is still there
      have hfirst := netCreateClassSockets_first self n env classSlots s
        ⟨c, List.mem_finRange c, hc⟩
      have hlt := (List.getElem?_eq_some_iff.mp hfirst).1
      have hlast : (netCreateSockets self n env s).objects.all[s.objects.all.length]?
          = some ⟨.socket, true, false⟩ := by
        unfold netCreateSockets
        cases hrun : netCreateClassSockets self n env classSlots s with
        | mk s₁ ok =>
            rw [hrun] at hfirst hlt
            cases ok with
            | false => exact hfirst
            | true => exact ((netCreateMgtSocket_makes self n env s₁).kept _ hlt).trans hfirst
      exact hnothing.made _ le_rfl ⟨_, hlast, rfl⟩
  · intro hcan
    by_cases hmade : n.CanCreate env
    · exact .inl (allUp_of_can hmade hclosed)
    · have hnone := hcan.resolve_left hmade
      have hlisten : env.mgtListen = false := by
        rw [Bool.eq_false_iff]
        exact fun hlisten => hmade ⟨fun c hc => absurd (hnone c) hc, hlisten⟩
      exact .inr (nothingLeft_of_none hnone hlisten hclosed hdown)

end AllOrNothing

/-- A node with one class, in slot 0. -/
def oneSlot : Node := { Node.zero with classes := fun i => if i = ClassId.first then 10 else 0 }

/-- The network side of a node that has none yet. -/
def NetState.zero : NetState := ⟨.zero, .empty, ⟨[], []⟩⟩

theorem zero_closed (self : NodeId) (h : Handle) : ¬ NetState.zero.objects.OpenAt self h := by
  intro hopen
  exact absurd hopen.lt (Nat.not_lt_zero h)

/-- **A TCP port that is taken** leaves the UDP socket of its class open. -/
theorem taken_port_leaves_socket :
    ¬ ∀ (self : NodeId) (n : Node) (env : NetEnv) (s : NetState),
      (∀ h, ¬ s.objects.OpenAt self h) → s.net.netup = false → AllOrNothing self n env s := by
  intro hall
  have hpair := hall ⟨0, by decide⟩ oneSlot ⟨none, fun _ => true, fun _ => false, true⟩
    .zero (zero_closed _) rfl
  rcases hpair with hup | hleft
  · cases hup.netup
  · exact hleft.made 0 (Nat.le_refl _) ⟨⟨.socket, true, false⟩, rfl, rfl⟩

theorem all_or_nothing_iff_one : (∀ h, ¬ NetState.zero.objects.OpenAt ⟨0, by decide⟩ h)
    ∧ NetState.zero.net.netup = false
    ∧ (AllOrNothing ⟨0, by decide⟩ oneSlot liveEnv .zero
      ↔ oneSlot.CanCreate liveEnv ∨ ∀ c, oneSlot.classes c = 0) :=
  ⟨zero_closed _, rfl, all_or_nothing_iff ⟨0, by decide⟩ oneSlot liveEnv .zero
    (zero_closed _) rfl⟩

end Ubd
