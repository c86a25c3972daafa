import Ubd.Directory.Server

/-!
# Directory.Lifetime — how long a service is listed

Seen from one key, every event of a run is a signal to one cell.
-/

namespace Ubd

open Lifetimes

/-- A valid update for this key. -/
def DirEvent.Updates (k : CString) : DirEvent → Prop
  | .update json => json.updatePair.map pairKey = some k
  | _ => False

/-- A valid delete for this key. -/
def DirEvent.Deletes (k : CString) : DirEvent → Prop
  | .delete json => json.deletePair.map pairKey = some k
  | _ => False

def DirEvent.isTick : DirEvent → Bool
  | .tick => true
  | _ => false

def DirEvent.signal (print : Json → CString) (k : CString) : DirEvent → Signal CString
  | .update json => if json.updatePair.map pairKey = some k then .renew (print json) else .other
  | .delete json => if json.deletePair.map pairKey = some k then .drop else .other
  | .tick => .tick

/-- The server after a run. -/
def dirserverRun (print : Json → CString) (dirttl : Nat) (es : List DirEvent) : DirServer :=
  es.foldl (dirserverStep print) (dirserverInit dirttl)

/-- `json` is the last update for `k` in the run, and `k` has not been deleted since. -/
def LastUpdate (k : CString) (es : List DirEvent) (json : Json) (post : List DirEvent) : Prop :=
  LastWith (DirEvent.Updates k) es (.update json) post ∧ ∀ e ∈ post, ¬ e.Deletes k

section Runs

variable {print : Json → CString} {d : Nat} {es post : List DirEvent} {k : CString}

theorem dirserverRun_snoc (es : List DirEvent) (e : DirEvent) :
    dirserverRun print d (es ++ [e]) = dirserverStep print (dirserverRun print d es) e :=
  List.foldl_append

theorem dirserverRun_dirttl (es : List DirEvent) : (dirserverRun print d es).dirttl = d := by
  induction es using List.reverseRecOn with
  | nil => rfl
  | append_singleton es e ih => rw [dirserverRun_snoc, dirserverStep_dirttl, ih]

/-- **One step**, seen from one key. -/
theorem step_lookup (s : DirServer) (e : DirEvent) (k : CString) :
    ((dirserverStep print s e).services.lookup k).map Service.content
      = cellStep s.dirttl ((s.services.lookup k).map Service.content) (e.signal print k) := by
  have hother : ∀ c : Option (CString × Nat), cellStep s.dirttl c .other = c := by
    intro c
    cases c <;> rfl
  cases e with
  | update json =>
      show ((dirserverUpdateServiceCmd print s json).services.lookup k).map _ = _
      cases hpair : json.updatePair with
      | none =>
          rw [updateServiceCmd_invalid print s hpair, DirEvent.signal, hpair]
          exact (hother _).symm
      | some p =>
          rw [updateServiceCmd_services print s hpair, DirEvent.signal, hpair]
          simp only [Option.map_some, Option.some_inj]
          split_ifs with hk
          · rw [hk, AList.lookup_insert]
            rfl
          · rw [AList.lookup_insert_ne (Ne.symm hk), hother]
  | delete json =>
      show ((dirserverDeleteServiceCmd s json).services.lookup k).map _ = _
      cases hpair : json.deletePair with
      | none =>
          rw [deleteServiceCmd_invalid s hpair, DirEvent.signal, hpair]
          exact (hother _).symm
      | some p =>
          rw [deleteServiceCmd_eq s hpair, deleteService_services, DirEvent.signal, hpair]
          simp only [Option.map_some, Option.some_inj]
          split_ifs with hk
          · rw [hk, AList.lookup_erase]
            rfl
          · rw [AList.lookup_erase_ne (Ne.symm hk), hother]
  | tick => exact tick_lookup s s.dirttl k

/-- **An entry of the table is a cell.** -/
theorem lookup_cell (es : List DirEvent) (k : CString) :
    ((dirserverRun print d es).services.lookup k).map Service.content
      = cell d (es.map (DirEvent.signal print k)) := by
  induction es using List.reverseRecOn with
  | nil => rfl
  | append_singleton es e ih =>
      rw [dirserverRun_snoc, step_lookup, dirserverRun_dirttl, ih, List.map_append]
      exact (cell_snoc _ _).symm

theorem signal_decides {e : DirEvent} :
    (e.signal print k).Decides ↔ e.Updates k ∨ e.Deletes k := by
  cases e with
  | update json =>
      by_cases hk : json.updatePair.map pairKey = some k
      · rw [DirEvent.signal, if_pos hk]
        exact iff_of_true trivial (.inl hk)
      · rw [DirEvent.signal, if_neg hk]
        exact iff_of_false id fun h => h.elim hk id
  | delete json =>
      by_cases hk : json.deletePair.map pairKey = some k
      · rw [DirEvent.signal, if_pos hk]
        exact iff_of_true trivial (.inr hk)
      · rw [DirEvent.signal, if_neg hk]
        exact iff_of_false id fun h => h.elim id hk
  | tick => exact iff_of_false id fun h => h.elim id id

theorem signal_renew {e : DirEvent} {v : CString} :
    e.signal print k = .renew v ↔ ∃ json, e = .update json ∧ e.Updates k ∧ v = print json := by
  constructor
  · intro h
    cases e with
    | update json =>
        rw [DirEvent.signal] at h
        split_ifs at h with hk
        cases h
        exact ⟨json, rfl, hk, rfl⟩
    | delete json =>
        rw [DirEvent.signal] at h
        split_ifs at h
    | tick => cases h
  · rintro ⟨json, rfl, hk, rfl⟩
    exact if_pos hk

theorem signal_isTick (e : DirEvent) : (e.signal print k).isTick = e.isTick := by
  cases e with
  | update json =>
      rw [DirEvent.signal]
      split_ifs <;> rfl
  | delete json =>
      rw [DirEvent.signal]
      split_ifs <;> rfl
  | tick => rfl

/-- The last event that decides is an update if and only if nothing was deleted since. -/
theorem lastUpdate_iff (print : Json → CString) {json : Json} : LastUpdate k es json post
    ↔ (DirEvent.update json).Updates k
      ∧ LastWith (fun e => (e.signal print k).Decides) es (.update json) post := by
  simp only [signal_decides]
  constructor
  · rintro ⟨⟨pre, rfl, hk, hpost⟩, hdeletes⟩
    refine ⟨hk, pre, rfl, .inl hk, fun e he => ?_⟩
    rintro (hupdates | hdelete)
    · exact hpost e he hupdates
    · exact hdeletes e he hdelete
  · rintro ⟨hk, pre, rfl, -, hpost⟩
    exact ⟨⟨pre, rfl, hk, fun e he hupdates => hpost e he (.inl hupdates)⟩,
      fun e he hdelete => hpost e he (.inr hdelete)⟩

/-- What the table holds under a key. -/
theorem lookup_iff (hd : 1 ≤ d) (service : Service) :
    (dirserverRun print d es).services.lookup k = some service
      ↔ ∃ json post, LastUpdate k es json post ∧ service.json = print json
        ∧ post.countP DirEvent.isTick + service.ttl = d ∧ 0 < service.ttl := by
  have hcontent : (dirserverRun print d es).services.lookup k = some service
      ↔ cell d (es.map (DirEvent.signal print k)) = some (service.json, service.ttl) := by
    rw [← lookup_cell]
    cases (dirserverRun print d es).services.lookup k with
    | none => exact iff_of_false (fun h => nomatch h) (fun h => nomatch h)
    | some x =>
        obtain ⟨json, ttl⟩ := x
        obtain ⟨json', ttl'⟩ := service
        simp [Service.content]
  have hticks : ∀ post : List DirEvent,
      (post.map (DirEvent.signal print k)).countP Signal.isTick = post.countP DirEvent.isTick := by
    intro post
    rw [List.countP_map]
    congr 1
    funext e
    exact signal_isTick e
  rw [hcontent, cell_iff hd]
  constructor
  · rintro ⟨_, hlast, hcount, hpos⟩
    obtain ⟨e, post, hrenew, rfl, hlast⟩ := lastWith_map.mp hlast
    obtain ⟨json, rfl, hk, hjson⟩ := signal_renew.mp hrenew.symm
    rw [hticks] at hcount
    exact ⟨json, post, (lastUpdate_iff print).mpr ⟨hk, hlast⟩, hjson, hcount, hpos⟩
  · rintro ⟨json, post, hlast, hjson, hcount, hpos⟩
    obtain ⟨hk, hlast⟩ := (lastUpdate_iff print).mp hlast
    refine ⟨post.map (DirEvent.signal print k), lastWith_map.mpr
      ⟨.update json, post, ?_, rfl, hlast⟩, ?_, hpos⟩
    · exact (signal_renew.mpr ⟨json, rfl, hk, hjson⟩).symm
    · rw [hticks]
      exact hcount

/-- When the table holds a key. -/
theorem mem_iff (hd : 1 ≤ d) : k ∈ (dirserverRun print d es).services
    ↔ ∃ json post, LastUpdate k es json post ∧ post.countP DirEvent.isTick < d := by
  rw [← AList.lookup_isSome, Option.isSome_iff_exists]
  simp only [lookup_iff hd]
  constructor
  · rintro ⟨service, json, post, hlast, -, hcount, hpos⟩
    exact ⟨json, post, hlast, by omega⟩
  · rintro ⟨json, post, hlast, hcount⟩
    exact ⟨⟨print json, d - post.countP DirEvent.isTick⟩, json, post, hlast, rfl,
      by dsimp only; omega, by dsimp only; omega⟩

/-- Updates that are never `d` ticks apart keep a service listed. -/
theorem mem_of_often (hd : 1 ≤ d) {e : DirEvent} (he : e.Updates k)
    (hkept : ∀ e ∈ post, ¬ e.Deletes k)
    (hoften : Often (DirEvent.Updates k) DirEvent.isTick (d - 1) post) :
    k ∈ (dirserverRun print d (es ++ [e] ++ post)).services := by
  obtain ⟨x, post', hlast⟩ :
      ∃ x post', LastWith (DirEvent.Updates k) (es ++ [e] ++ post) x post' := by
    induction post using List.reverseRecOn with
    | nil =>
        rw [List.append_nil]
        exact ⟨e, [], .hit es he⟩
    | append_singleton post y ih =>
        obtain ⟨x, post', hlast⟩ :=
          ih (fun z hz => hkept z (List.mem_append_left _ hz)) hoften.prefix
        rw [← List.append_assoc]
        by_cases hy : y.Updates k
        · exact ⟨y, [], .hit _ hy⟩
        · exact ⟨x, _, hlast.miss hy⟩
  have hupdates := hlast.holds
  obtain ⟨json, rfl⟩ : ∃ json, x = .update json := by
    cases x with
    | update json => exact ⟨json, rfl⟩
    | delete json => exact hupdates.elim
    | tick => exact hupdates.elim
  obtain ⟨pre, hpost⟩ := hlast.later he
  refine (mem_iff hd).mpr ⟨json, post', ⟨hlast, fun y hy => hkept y ?_⟩, ?_⟩
  · rw [hpost]
    exact List.mem_append_right _ hy
  · have hrecent := hoften.since hlast he
    omega

end Runs

/-- **Service lifetime is exact.** A key is in the table if and only if it has been updated and
not deleted since, fewer than `d` ticks ago; its json is that of the last update. Whoever is
updated again before `d` ticks have passed stays, and the same update once more only restarts
the lifetime. -/
theorem service_lifetime (print : Json → CString) (d : Nat) (hd : 1 ≤ d) (es : List DirEvent)
    (k : CString) :
    (k ∈ (dirserverRun print d es).services
        ↔ ∃ json post, LastUpdate k es json post ∧ post.countP DirEvent.isTick < d)
      ∧ (∀ service, (dirserverRun print d es).services.lookup k = some service →
        ∃ json post, LastUpdate k es json post ∧ service.json = print json
          ∧ post.countP DirEvent.isTick + service.ttl = d)
      ∧ (∀ e post, e.Updates k → (∀ y ∈ post, ¬ y.Deletes k) →
        Often (DirEvent.Updates k) DirEvent.isTick (d - 1) post →
        k ∈ (dirserverRun print d (es ++ [e] ++ post)).services)
      ∧ ∀ json service, (DirEvent.update json).Updates k →
        (dirserverRun print d es).services.lookup k = some service → service.json = print json →
        dirserverRun print d (es ++ [.update json])
          = { dirserverRun print d es with
              services := (dirserverRun print d es).services.insert k ⟨service.json, d⟩ } := by
  refine ⟨mem_iff hd, fun service hfound => ?_, fun e post he hkept hoften =>
    mem_of_often hd he hkept hoften, fun json service hk hfound hsame => ?_⟩
  · obtain ⟨json, post, hlast, hjson, hcount, -⟩ := (lookup_iff hd service).mp hfound
    exact ⟨json, post, hlast, hjson, hcount⟩
  · obtain ⟨p, hp, rfl⟩ := Option.map_eq_some_iff.mp hk
    rw [dirserverRun_snoc]
    refine (updateServiceCmd_same print (dirserverRun print d es) hp hfound hsame).trans ?_
    show (⟨_, _, _⟩ : DirServer) = ⟨_, _, (dirserverRun print d es).dirttl⟩
    rw [dirserverRun_dirttl]

/-- A lamp, as it is announced. -/
def lampJson : Json :=
  .object [(cString "name", .string (cString "Lamp")), (cString "id", .string (cString "a")),
    (cString "url", .string (cString "fd00::1")), (cString "port", .int 2323),
    (cString "service-type", .string (cString "moodlamp")), (cString "tcp", .boolean true),
    (cString "udp", .boolean true), (cString "multicast", .boolean false)]

/-- With a lifetime of two seconds, the lamp is listed for one. -/
theorem service_lifetime_lamp :
    cString "amoodlamp" ∈ (dirserverRun flatText 2 [.update lampJson, .tick]).services
      ∧ cString "amoodlamp"
        ∉ (dirserverRun flatText 2 [.update lampJson, .tick, .tick]).services := by
  have hupdates : (DirEvent.update lampJson).Updates (cString "amoodlamp") := by
    show lampJson.updatePair.map pairKey = some (cString "amoodlamp")
    decide
  have htick : ¬ DirEvent.tick.Updates (cString "amoodlamp") := id
  constructor
  · refine (service_lifetime flatText 2 (by decide) _ _).1.mpr
      ⟨lampJson, [.tick], ⟨LastWith.miss (.hit [] hupdates) htick, fun e he => ?_⟩, by decide⟩
    rw [List.mem_singleton.mp he]
    exact id
  · intro hmem
    obtain ⟨json, post, ⟨hlast, -⟩, hcount⟩ :=
      (service_lifetime flatText 2 (by decide) _ _).1.mp hmem
    obtain ⟨-, rfl⟩ := hlast.unique
      (LastWith.miss (LastWith.miss (.hit [] hupdates) htick) htick)
    revert hcount
    decide

end Ubd
