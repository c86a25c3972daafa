import Mathlib.Data.List.AList
import Ubd.Directory.Json
import Ubd.Lib.Lifetimes

/-!
# Directory.Server — `directory-server.c`

The services that have been announced, by id and service type, each with the seconds it has
left. An entry of the table is a cell that updates renew, deletes drop and ticks age:
`service_lifetime` says which services the table holds after any run.
-/

namespace Ubd

open Lifetimes

/-! ## The state -/

/-- `struct service` -/
structure Service where
  json : CString
  ttl : Nat
  deriving DecidableEq, Repr

/-- The hash table `services`. -/
abbrev ServiceTable := AList fun _ : CString => Service

/-- An entry of the table, as an iterator hands it out. -/
abbrev ServiceEntry := Sigma fun _ : CString => Service

/-- What goes out to the multicast group. -/
inductive DirNotice where
  /-- `dirserver_announce`, to the group itself or to port 2323 of it -/
  | directory
  /-- `dirserver_announceUpdate` -/
  | updatedService
  deriving DecidableEq, Repr

structure DirServer where
  services : ServiceTable
  sent : List DirNotice
  /-- `config.dirttl`, as the `uint32_t` that `ttl` is set to -/
  dirttl : Nat

/-- `dirserver_init` -/
def dirserverInit (dirttl : Nat) : DirServer := ⟨∅, [], dirttl⟩

/-! ## The commands -/

/-- `enum commandlist` -/
inductive DirCommand where
  | noCommand
  | discoverDirectory
  | updateService
  | deleteService
  deriving DecidableEq, Repr

/-- `dirserver_parseCommand` -/
def dirserverParseCommand (cmd : CString) : DirCommand :=
  if cmd = cString "discover-directory" then .discoverDirectory
  else if cmd = cString "update-service" then .updateService
  else if cmd = cString "delete-service" then .deleteService
  else .noCommand

/-- `dirserver_announce`, which ignores all that the command asks for. -/
def dirserverAnnounce (s : DirServer) (src : Bool) : DirServer :=
  { s with sent := s.sent ++ .directory :: if src then [.directory] else [] }

/-- `dirserver_announceUpdate` -/
def dirserverAnnounceUpdate (s : DirServer) : DirServer :=
  { s with sent := s.sent ++ [.updatedService] }

/-- `dirserver_deleteService` -/
def dirserverDeleteService (s : DirServer) (key : CString) : DirServer :=
  match s.services.lookup key with
  | none => s
  | some _ => { s with services := s.services.erase key }

/-- `dirserver_deleteServiceCmd` -/
def dirserverDeleteServiceCmd (s : DirServer) (json : Json) : DirServer :=
  match dirserverGetJsonString json "id" none, dirserverGetJsonString json "service-type" none with
  | some id, some serviceType => dirserverDeleteService s (id ++ serviceType)
  | _, _ => s

/-- `dirserver_updateServiceCmd`. A service that is there is changed in place. -/
def dirserverUpdateServiceCmd (print : Json → CString) (s : DirServer) (json : Json) : DirServer :=
  let serviceType := dirserverGetJsonString json "service-type" none
  let url := dirserverGetJsonString json "url" none
  let id := dirserverGetJsonString json "id" none
  let name := dirserverGetJsonString json "name" none
  let port := dirserverGetJsonInt json "port" 0
  match serviceType, url, id, name with
  | some serviceType, some _, some id, some _ =>
      if port < 1 ∨ port > 65635 then s
      else
        let key := id ++ serviceType
        match s.services.lookup key with
        | none =>
            dirserverAnnounceUpdate
              { s with services := s.services.insert key ⟨print json, s.dirttl⟩ }
        | some service =>
            let service := { service with ttl := s.dirttl }
            if service.json ≠ print json then
              dirserverAnnounceUpdate
                { s with services := s.services.insert key { service with json := print json } }
            else { s with services := s.services.insert key service }
  | _, _, _, _ => s

/-- `dirserver_newMCData`. The case of `DELETE_SERVICE` falls through to one that does
nothing. -/
def dirserverNewMCData (c : JsonC) (s : DirServer) (data : CString) (src : Bool) :
    Except Fault DirServer :=
  match c.parse data with
  | .null => .error .assertion
  | json =>
      match json.objectGet (cString "cmd") with
      | .string cmd =>
          let rest := json.objectDel (cString "cmd")
          match dirserverParseCommand (upToNul cmd) with
          | .discoverDirectory => .ok (dirserverAnnounce s src)
          | .updateService => .ok (dirserverUpdateServiceCmd c.print s rest)
          | .deleteService => .ok (dirserverDeleteServiceCmd s rest)
          | .noCommand => .ok s
      | _ => .ok s

/-! ## The tick -/

/-- `if( service->ttl ) service->ttl--;` -/
def Service.decrement (x : Service) : Service :=
  if x.ttl ≠ 0 then { x with ttl := x.ttl - 1 } else x

/-- The first loop of `dirserver_tick`. -/
def ServiceTable.decrement (t : ServiceTable) : ServiceTable where
  entries := t.entries.map (.map id fun _ => Service.decrement)
  nodupKeys := t.nodupKeys.map₂ _ _

/-- The second loop of `dirserver_tick`: the first service without time is deleted, and the
search starts again. -/
def dirserverSweep : Nat → DirServer → DirServer
  | 0, s => s
  | rounds + 1, s =>
      match s.services.entries.find? fun e => e.2.ttl = 0 with
      | none => s
      | some e => dirserverSweep rounds (dirserverDeleteService s e.1)

/-- `dirserver_tick`. Every round of the second loop but the last deletes a service. -/
def dirserverTick (s : DirServer) : DirServer :=
  let s := { s with services := s.services.decrement }
  dirserverSweep (s.services.entries.length + 1) s

/-! ## What the commands do to the table -/

/-- A service, as its id and its type. -/
abbrev ServicePair := CString × CString

/-- `g_strdup_printf("%s%s", id, service_type)` -/
def pairKey (p : ServicePair) : CString := p.1 ++ p.2

/-- The service that a valid update is about. -/
def Json.updatePair (json : Json) : Option ServicePair :=
  match dirserverGetJsonString json "service-type" none, dirserverGetJsonString json "url" none,
    dirserverGetJsonString json "id" none, dirserverGetJsonString json "name" none with
  | some serviceType, some _, some id, some _ =>
      if 1 ≤ dirserverGetJsonInt json "port" 0 ∧ dirserverGetJsonInt json "port" 0 ≤ 65635 then
        some (id, serviceType)
      else none
  | _, _, _, _ => none

/-- The service that a valid delete is about. -/
def Json.deletePair (json : Json) : Option ServicePair :=
  match dirserverGetJsonString json "id" none, dirserverGetJsonString json "service-type" none with
  | some id, some serviceType => some (id, serviceType)
  | _, _ => none

section Commands

variable (print : Json → CString) (s : DirServer) {json : Json} {p : ServicePair}

theorem updateServiceCmd_invalid (h : json.updatePair = none) :
    dirserverUpdateServiceCmd print s json = s := by
  unfold Json.updatePair at h
  unfold dirserverUpdateServiceCmd
  dsimp only
  split at h
  · split_ifs at h with hport
    rw [if_pos (by omega)]
  · rfl

/-- A valid update, whatever the table held before. -/
theorem updateServiceCmd_services (h : json.updatePair = some p) :
    (dirserverUpdateServiceCmd print s json).services
      = s.services.insert (pairKey p) ⟨print json, s.dirttl⟩ := by
  unfold Json.updatePair at h
  unfold dirserverUpdateServiceCmd
  dsimp only
  split at h
  · split_ifs at h with hport
    cases h
    rw [if_neg (by omega)]
    unfold pairKey
    cases s.services.lookup _ with
    | none => rfl
    | some service =>
        dsimp only
        split_ifs with hsame
        · rfl
        · simp only [ne_eq, not_not] at hsame
          rw [← hsame]
  · cases h

@[simp] theorem updateServiceCmd_dirttl (json : Json) :
    (dirserverUpdateServiceCmd print s json).dirttl = s.dirttl := by
  unfold dirserverUpdateServiceCmd dirserverAnnounceUpdate
  dsimp only
  split
  · split_ifs
    · rfl
    · cases s.services.lookup _ with
      | none => rfl
      | some service =>
          dsimp only
          split_ifs <;> rfl
  · rfl

/-- The same announcement once more is not news. -/
theorem updateServiceCmd_same {service : Service} (h : json.updatePair = some p)
    (hfound : s.services.lookup (pairKey p) = some service) (hsame : service.json = print json) :
    dirserverUpdateServiceCmd print s json
      = { s with services := s.services.insert (pairKey p) ⟨service.json, s.dirttl⟩ } := by
  unfold Json.updatePair at h
  unfold dirserverUpdateServiceCmd
  dsimp only
  split at h
  · split_ifs at h with hport
    cases h
    unfold pairKey at hfound
    rw [if_neg (by omega), hfound]
    dsimp only
    rw [if_neg (by simpa using hsame)]
    rfl
  · cases h

theorem deleteService_services (key : CString) :
    (dirserverDeleteService s key).services = s.services.erase key := by
  unfold dirserverDeleteService
  cases h : s.services.lookup key with
  | none =>
      apply AList.ext
      exact (List.kerase_of_notMem_keys (AList.lookup_eq_none.mp h)).symm
  | some _ => rfl

@[simp] theorem deleteService_dirttl (key : CString) :
    (dirserverDeleteService s key).dirttl = s.dirttl := by
  unfold dirserverDeleteService
  split <;> rfl

theorem deleteServiceCmd_invalid (h : json.deletePair = none) :
    dirserverDeleteServiceCmd s json = s := by
  unfold Json.deletePair at h
  unfold dirserverDeleteServiceCmd
  split at h
  · cases h
  · rfl

theorem deleteServiceCmd_eq (h : json.deletePair = some p) :
    dirserverDeleteServiceCmd s json = dirserverDeleteService s (pairKey p) := by
  unfold Json.deletePair at h
  unfold dirserverDeleteServiceCmd
  split at h
  · cases h
    rfl
  · cases h

end Commands

/-! ## What a tick does -/

theorem decrement_lookup (t : ServiceTable) (k : CString) :
    t.decrement.lookup k = (t.lookup k).map Service.decrement :=
  List.dlookup_map₂ k

/-- The second loop deletes what has no time left, and nothing else. -/
theorem sweep_lookup {rounds : Nat} {s : DirServer} (hrounds : s.services.entries.length < rounds)
    (k : CString) : (dirserverSweep rounds s).services.lookup k
      = (s.services.lookup k).filter (·.ttl ≠ 0) := by
  induction rounds generalizing s with
  | zero => exact absurd hrounds (Nat.not_lt_zero _)
  | succ rounds ih =>
      unfold dirserverSweep
      split
      · rename_i hnone
        have hlast : ∀ x, s.services.lookup k = some x → x.ttl ≠ 0 := by
          intro x hx
          have hmem := List.find?_eq_none.mp hnone ⟨k, x⟩ (AList.mem_lookup_iff.mp hx)
          simpa using hmem
        cases hx : s.services.lookup k with
        | none => rfl
        | some x => rw [Option.filter_some, if_pos (by simpa using hlast x hx)]
      · rename_i e hsome
        have hmem : e ∈ s.services.entries := List.mem_of_find?_eq_some hsome
        have htime : e.2.ttl = 0 := by simpa using List.find?_some hsome
        have hfound : s.services.lookup e.1 = some e.2 := AList.mem_lookup_iff.mpr hmem
        have hshort : (s.services.erase e.1).entries.length < rounds := by
          have hkey : e.1 ∈ s.services.entries.keys :=
            AList.lookup_isSome.mp (by rw [hfound]; rfl)
          obtain ⟨_, l₁, l₂, -, hentries, herase⟩ := List.exists_of_kerase hkey
          have herased : (s.services.erase e.1).entries = l₁ ++ l₂ := herase
          rw [hentries] at hrounds
          rw [herased]
          simp only [List.length_append, List.length_cons] at hrounds ⊢
          omega
        rw [ih (by rw [deleteService_services]; exact hshort), deleteService_services]
        by_cases hk : k = e.1
        · rw [hk, AList.lookup_erase, hfound, Option.filter_some, if_neg (by simp [htime])]
          rfl
        · rw [AList.lookup_erase_ne hk]

theorem sweep_dirttl (rounds : Nat) (s : DirServer) :
    (dirserverSweep rounds s).dirttl = s.dirttl := by
  induction rounds generalizing s with
  | zero => rfl
  | succ rounds ih =>
      unfold dirserverSweep
      split
      · rfl
      · rw [ih, deleteService_dirttl]

/-- What is in an entry: the json and the time left. -/
def Service.content (x : Service) : CString × Nat := (x.json, x.ttl)

/-- **A tick** ages every entry. -/
theorem tick_lookup (s : DirServer) (d : Nat) (k : CString) :
    ((dirserverTick s).services.lookup k).map Service.content
      = cellStep d ((s.services.lookup k).map Service.content) .tick := by
  unfold dirserverTick
  rw [sweep_lookup (Nat.lt_succ_self _), decrement_lookup]
  cases s.services.lookup k with
  | none => rfl
  | some x =>
      obtain ⟨json, ttl⟩ := x
      simp only [Option.map_some, Service.decrement, Service.content, cellStep, Option.filter_some]
      by_cases hlast : ttl ≤ 1
      · have hzero : (if ttl ≠ 0 then (⟨json, ttl - 1⟩ : Service) else ⟨json, ttl⟩).ttl = 0 := by
          split_ifs
          · show ttl - 1 = 0
            omega
          · show ttl = 0
            omega
        rw [if_pos hlast, if_neg (by simpa using hzero)]
        rfl
      · rw [if_neg hlast, if_pos (show ttl ≠ 0 by omega), if_pos]
        · rfl
        · simp only [ne_eq, decide_not, Bool.not_eq_true', decide_eq_false_iff_not]
          omega

/-! ## Runs -/

inductive DirEvent where
  /-- `dirserver_updateServiceCmd` -/
  | update (json : Json)
  /-- `dirserver_deleteServiceCmd` -/
  | delete (json : Json)
  /-- `dirserver_tick` -/
  | tick

def dirserverStep (print : Json → CString) (s : DirServer) : DirEvent → DirServer
  | .update json => dirserverUpdateServiceCmd print s json
  | .delete json => dirserverDeleteServiceCmd s json
  | .tick => dirserverTick s

theorem dirserverStep_dirttl (print : Json → CString) (s : DirServer) (e : DirEvent) :
    (dirserverStep print s e).dirttl = s.dirttl := by
  cases e with
  | update json => exact updateServiceCmd_dirttl print s json
  | delete json =>
      show (dirserverDeleteServiceCmd s json).dirttl = s.dirttl
      unfold dirserverDeleteServiceCmd
      split
      · exact deleteService_dirttl s _
      · rfl
  | tick => exact sweep_dirttl _ _

end Ubd
