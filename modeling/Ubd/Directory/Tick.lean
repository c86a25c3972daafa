import Ubd.Directory.Server

/-!
# Directory.Tick — `dirserver_tick`, in any order

A hash table may hand out its entries in another order each time an iteration starts.
`tick_terminates` says that the tick ends whatever these orders are, after one pass more than
there are services to expire, and that what it leaves does not depend on them.
-/

namespace Ubd

/-- The orders of a hash table: iteration `i`, started over `t`, visits the entries in the
order `visit i t`. -/
structure HashOrder where
  visit : Nat → ServiceTable → List ServiceEntry
  perm : ∀ i t, (visit i t).Perm t.entries

/-! ## The two loops -/

/-- The first loop: every service that the iterator comes to is changed in place. -/
def decrementLoop (order : List ServiceEntry) (t : ServiceTable) : ServiceTable :=
  order.foldl (fun t e => t.insert e.1 e.2.decrement) t

/-- The second loop: iteration `pass` deletes the first service it finds without time, and the
next one starts. With the table comes the number of the pass that found nothing. -/
def sweepLoop (order : HashOrder) : Nat → Nat → DirServer → Option (DirServer × Nat)
  | 0, _, _ => none
  | fuel + 1, pass, s =>
      match (order.visit pass s.services).find? fun e => e.2.ttl = 0 with
      | none => some (s, pass)
      | some e => sweepLoop order fuel (pass + 1) (dirserverDeleteService s e.1)

/-- `dirserver_tick`, with `fuel` for the `while(TRUE)`. The first loop is iteration 0. -/
def dirserverTickIn (order : HashOrder) (fuel : Nat) (s : DirServer) : Option (DirServer × Nat) :=
  sweepLoop order fuel 1
    { s with services := decrementLoop (order.visit 0 s.services) s.services }

/-! ## What they do -/

section Loops

variable {t : ServiceTable} {s : DirServer}

theorem decrementLoop_lookup {order : List ServiceEntry} (horder : order.NodupKeys) (k : CString) :
    (decrementLoop order t).lookup k
      = ((order.dlookup k).map Service.decrement).or (t.lookup k) := by
  induction order generalizing t with
  | nil => rfl
  | cons e order ih =>
      obtain ⟨key, x⟩ := e
      obtain ⟨hfresh, hrest⟩ := List.nodupKeys_cons.mp horder
      unfold decrementLoop at ih ⊢
      rw [List.foldl_cons, ih hrest]
      by_cases hk : k = key
      · subst hk
        rw [List.dlookup_eq_none.mpr hfresh, List.dlookup_cons_eq, AList.lookup_insert]
        rfl
      · rw [List.dlookup_cons_ne _ _ hk, AList.lookup_insert_ne hk]

/-- **The first loop ages every service once**, in whatever order. -/
theorem decrementLoop_entries {order : List ServiceEntry} (horder : order.Perm t.entries) :
    (decrementLoop order t).entries.Perm t.decrement.entries := by
  have hkeys : order.NodupKeys := (List.perm_nodupKeys horder).mpr t.nodupKeys
  refine List.lookup_ext (AList.nodupKeys _) (AList.nodupKeys _) fun k x => ?_
  change x ∈ (decrementLoop order t).lookup k ↔ x ∈ t.decrement.lookup k
  rw [decrementLoop_lookup hkeys, List.perm_dlookup k hkeys horder, decrement_lookup]
  change x ∈ ((t.lookup k).map Service.decrement).or (t.lookup k) ↔ _
  cases t.lookup k <;> rfl

/-- A deletion takes one entry out. -/
theorem entries_perm_erase {e : ServiceEntry} (he : e ∈ t.entries) :
    t.entries.Perm (e :: (t.erase e.1).entries) := by
  obtain ⟨x, l₁, l₂, -, hentries, herase⟩ := List.exists_of_kerase (List.mem_keys_of_mem he)
  have hx : x = e.2 := t.nodupKeys.eq_of_mk_mem (by rw [hentries]; simp) he
  change (t.erase e.1).entries = l₁ ++ l₂ at herase
  rw [herase, hentries, hx]
  exact List.perm_middle

/-- How many services of a table have no time left. -/
def ServiceTable.dead (t : ServiceTable) : Nat := t.entries.countP fun e => e.2.ttl = 0

/-- A pass finds one of the services without time, whichever its order puts first. -/
theorem visit_find (order : HashOrder) (pass : Nat) (t : ServiceTable) :
    (t.dead = 0 ∧ (order.visit pass t).find? (fun e => e.2.ttl = 0) = none)
      ∨ ∃ e ∈ t.entries, e.2.ttl = 0
        ∧ (order.visit pass t).find? (fun e => e.2.ttl = 0) = some e := by
  have hvisited : ∀ e, e ∈ order.visit pass t ↔ e ∈ t.entries := fun e =>
    (order.perm pass t).mem_iff
  cases hfind : (order.visit pass t).find? fun e => e.2.ttl = 0 with
  | none =>
      refine .inl ⟨List.countP_eq_zero.mpr fun e he => ?_, rfl⟩
      exact List.find?_eq_none.mp hfind e ((hvisited e).mpr he)
  | some e =>
      have htime : e.2.ttl = 0 := by simpa using List.find?_some hfind
      exact .inr ⟨e, (hvisited e).mp (List.mem_of_find?_eq_some hfind), htime, rfl⟩

/-- Without dead services, all are kept. -/
theorem filter_of_dead (h : t.dead = 0) : t.entries.filter (fun e => e.2.ttl ≠ 0) = t.entries := by
  refine List.filter_eq_self.mpr fun e he => ?_
  simpa using List.countP_eq_zero.mp h e he

/-- Deleting a dead service: there is one less, and those with time are kept. -/
theorem deleteService_dead {e : ServiceEntry} (he : e ∈ s.services.entries) (htime : e.2.ttl = 0) :
    (dirserverDeleteService s e.1).services.dead + 1 = s.services.dead
      ∧ ((dirserverDeleteService s e.1).services.entries.filter fun e => e.2.ttl ≠ 0).Perm
        (s.services.entries.filter fun e => e.2.ttl ≠ 0) := by
  have hperm := entries_perm_erase he
  have hcount := hperm.countP_eq fun e => decide (e.2.ttl = 0)
  have hfilter := hperm.filter fun e => decide (e.2.ttl ≠ 0)
  rw [List.countP_cons_of_pos (by simpa using htime)] at hcount
  rw [List.filter_cons_of_neg (by simpa using htime)] at hfilter
  rw [deleteService_services s e.1]
  exact ⟨hcount.symm, hfilter.symm⟩

theorem deleteService_sent (s : DirServer) (key : CString) :
    (dirserverDeleteService s key).sent = s.sent := by
  unfold dirserverDeleteService
  split <;> rfl

/-- **The second loop ends**, one pass after all services without time are gone. Every pass
but the last takes one of them. -/
theorem sweepLoop_ends (order : HashOrder) (s : DirServer) (pass : Nat) :
    ∃ s', (∀ fuel, s.services.dead < fuel →
        sweepLoop order fuel pass s = some (s', pass + s.services.dead))
      ∧ s'.services.entries.Perm (s.services.entries.filter fun e => e.2.ttl ≠ 0)
      ∧ s'.sent = s.sent ∧ s'.dirttl = s.dirttl := by
  generalize hdead : s.services.dead = n
  induction n generalizing s pass with
  | zero =>
      refine ⟨s, fun fuel hfuel => ?_, ?_, rfl, rfl⟩
      · obtain ⟨fuel, rfl⟩ := Nat.exists_eq_succ_of_ne_zero hfuel.ne'
        rcases visit_find order pass s.services with ⟨-, hnone⟩ | ⟨e, he, htime, -⟩
        · rw [sweepLoop, hnone]
          rfl
        · have hless := (deleteService_dead he htime).1
          omega
      · rw [filter_of_dead hdead]
  | succ n ih =>
      rcases visit_find order pass s.services with ⟨hnone, -⟩ | ⟨e, he, htime, hfind⟩
      · omega
      · obtain ⟨hless, hkept⟩ := deleteService_dead he htime
        obtain ⟨s', hrun, hentries, hsent, hdirttl⟩ :=
          ih (dirserverDeleteService s e.1) (pass + 1) (by omega)
        refine ⟨s', fun fuel hfuel => ?_, hentries.trans hkept,
          hsent.trans (deleteService_sent s e.1), hdirttl.trans (deleteService_dirttl s e.1)⟩
        obtain ⟨fuel, rfl⟩ := Nat.exists_eq_succ_of_ne_zero (Nat.ne_of_gt (Nat.zero_lt_of_lt hfuel))
        rw [sweepLoop, hfind]
        refine (hrun fuel (by omega)).trans ?_
        rw [Nat.add_assoc, Nat.add_comm 1]

end Loops

/-! ## The tick -/

/-- How many services expire with the next tick. -/
def ServiceTable.expiring (t : ServiceTable) : Nat := t.entries.countP fun e => e.2.ttl ≤ 1

/-- What the next tick leaves: the services with two seconds or more, a second older. -/
def ServiceTable.survivors (t : ServiceTable) : List ServiceEntry :=
  (t.entries.filter fun e => 2 ≤ e.2.ttl).map fun e => ⟨e.1, ⟨e.2.json, e.2.ttl - 1⟩⟩

section Tick

variable {t : ServiceTable}

theorem decrement_ttl (x : Service) : x.decrement.ttl = x.ttl - 1 := by
  unfold Service.decrement
  split_ifs with h
  · rfl
  · omega

theorem decrement_eq (x : Service) : x.decrement = ⟨x.json, x.ttl - 1⟩ := by
  unfold Service.decrement
  split_ifs with h
  · rfl
  · obtain ⟨json, ttl⟩ := x
    have hzero : ttl = 0 := not_not.mp h
    subst hzero
    rfl

theorem decrement_dead (t : ServiceTable) : t.decrement.dead = t.expiring := by
  unfold ServiceTable.dead ServiceTable.expiring ServiceTable.decrement
  rw [List.countP_map]
  refine List.countP_congr fun e _ => ?_
  show decide (e.2.decrement.ttl = 0) = true ↔ _
  rw [decrement_ttl]
  simp only [decide_eq_true_eq]
  omega

theorem decrement_survivors (t : ServiceTable) :
    t.decrement.entries.filter (fun e => e.2.ttl ≠ 0) = t.survivors := by
  unfold ServiceTable.survivors ServiceTable.decrement
  rw [List.filter_map]
  have hfilter : ∀ e ∈ t.entries,
      ((fun e : ServiceEntry => decide (e.2.ttl ≠ 0)) ∘ Sigma.map id fun _ => Service.decrement) e
        = decide (2 ≤ e.2.ttl) := by
    intro e _
    show decide (e.2.decrement.ttl ≠ 0) = _
    rw [decrement_ttl]
    exact decide_eq_decide.mpr (by omega)
  rw [List.filter_congr hfilter]
  refine List.map_congr_left fun e _ => ?_
  show (⟨e.1, e.2.decrement⟩ : ServiceEntry) = _
  rw [decrement_eq]

end Tick

/-- **The directory tick terminates and expires exactly the right services**, whatever orders
the hash table chooses: those with two seconds or more stay, with a second less, and one pass
more is made than there are others. The tick in the order of the table does the same. -/
theorem tick_terminates (order : HashOrder) (s : DirServer) :
    ∃ s', (∀ fuel, s.services.expiring < fuel →
        dirserverTickIn order fuel s = some (s', s.services.expiring + 1))
      ∧ s'.services.entries.Perm s.services.survivors
      ∧ (∀ k, s'.services.lookup k = (dirserverTick s).services.lookup k)
      ∧ s'.sent = s.sent ∧ s'.dirttl = s.dirttl := by
  have hloop := decrementLoop_entries (order.perm 0 s.services)
  have hdead : ServiceTable.dead (decrementLoop (order.visit 0 s.services) s.services)
      = s.services.expiring :=
    (hloop.countP_eq _).trans (decrement_dead s.services)
  obtain ⟨s', hrun, hentries, hsent, hdirttl⟩ := sweepLoop_ends order
    { s with services := decrementLoop (order.visit 0 s.services) s.services } 1
  rw [hdead] at hrun
  have hsurvivors : s'.services.entries.Perm (s.services.decrement.entries.filter (·.2.ttl ≠ 0)) :=
    hentries.trans (hloop.filter _)
  refine ⟨s', fun fuel hfuel => ?_, ?_, fun k => ?_, hsent, hdirttl⟩
  · rw [Nat.add_comm]
    exact hrun fuel hfuel
  · rw [← decrement_survivors]
    exact hsurvivors
  · unfold dirserverTick
    rw [sweep_lookup (Nat.lt_succ_self _)]
    ext x
    rw [← Option.mem_def, AList.mem_lookup_iff, hsurvivors.mem_iff, List.mem_filter,
      ← AList.mem_lookup_iff, Option.mem_def, Option.filter_eq_some_iff]

/-- A service with a second left goes, one with two stays. -/
example : ServiceTable.survivors (((∅ : ServiceTable).insert [0x61] ⟨[], 1⟩).insert [0x62] ⟨[], 2⟩)
    = [⟨[0x62], ⟨[], 1⟩⟩] := by decide

end Ubd
