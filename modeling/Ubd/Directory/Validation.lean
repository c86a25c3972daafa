import Ubd.Directory.Lifetime

/-!
# Directory.Validation — what the server lets in

Whoever is in the multicast group can send a datagram to the directory server. What is not JSON,
or no command, or a command with a field missing, is to be ignored; `ub_assert` stands before all
this. An update is to have four strings and a port, where the source has written the greatest
port as 65635.
-/

namespace Ubd

open Lifetimes

/-! ## `dirserver_read` -/

/-- What `json_tokener_parse` returns. `NULL` is `Json.null`. -/
inductive Parsed where
  | json (json : Json)
  /-- An error pointer, as `is_error` knows it. -/
  | error

/-- json-c, with the two ways it has to refuse a text. -/
structure Tokener where
  parse : CString → Parsed
  print : Json → CString

/-- `dirserver_newMCData` on a value that is not `NULL` -/
def dirserverCommand (print : Json → CString) (s : DirServer) (json : Json) (src : Bool) :
    DirServer :=
  match json.objectGet (cString "cmd") with
  | .string cmd =>
      let rest := json.objectDel (cString "cmd")
      match dirserverParseCommand (upToNul cmd) with
      | .discoverDirectory => dirserverAnnounce s src
      | .updateService => dirserverUpdateServiceCmd print s rest
      | .deleteService => dirserverDeleteServiceCmd s rest
      | .noCommand => s
  | _ => s

/-- `dirserver_newMCData`, from the parser's answer on -/
def dirserverParsed (print : Json → CString) (s : DirServer) (src : Bool) :
    Parsed → Except Fault DirServer
  -- `ub_assert(json != NULL)`
  | .json .null => .error .assertion
  | .error => .ok s
  | .json json => .ok (dirserverCommand print s json src)

/-- `dirserver_newMCData` of a json-c that has no error pointers -/
theorem dirserverNewMCData_eq (c : JsonC) (s : DirServer) (data : CString) (src : Bool) :
    dirserverNewMCData c s data src = dirserverParsed c.print s src (.json (c.parse data)) := by
  unfold dirserverNewMCData dirserverParsed dirserverCommand
  cases c.parse data with
  | null => rfl
  | boolean | int | double | string | array => rfl
  | object fields =>
      dsimp only
      generalize (Json.object fields).objectGet (cString "cmd") = field
      cases field with
      | string cmd =>
          dsimp only
          cases dirserverParseCommand (upToNul cmd) <;> rfl
      | null | boolean | int | double | array | object => rfl

/-- `dirserver_read` when there is something to be read: one byte of the 1500 is left for the
NUL. The dump of the datagram for the log (`debug_hexdump`) is left out. -/
def dirserverRead (c : Tokener) (s : DirServer) (datagram : List UInt8) (src : Bool) :
    Except Fault DirServer :=
  let received := datagram.take 1499
  if received = [] then .ok s
  else dirserverParsed c.print s src (c.parse (upToNul (received ++ [0])))

/-! ## Well-formed commands -/

namespace Json

/-- The value is an object whose field `cmd` names this command. -/
def IsCommand (json : Json) (command : DirCommand) : Prop :=
  ∃ cmd, json.objectGet (cString "cmd") = .string cmd
    ∧ dirserverParseCommand (upToNul cmd) = command

/-- The fields of a command, without `cmd`. -/
def rest (json : Json) : Json := json.objectDel (cString "cmd")

def HasString (json : Json) (field : String) : Prop :=
  ∃ s, json.objectGet (cString field) = .string s

/-- The field `port` is an integer between these. -/
def HasPort (json : Json) (lo hi : Int) : Prop :=
  ∃ i, json.objectGet (cString "port") = .int i ∧ lo ≤ i ∧ i ≤ hi

/-- The four strings of an update. -/
def HasStrings (json : Json) : Prop :=
  json.HasString "service-type" ∧ json.HasString "url" ∧ json.HasString "id"
    ∧ json.HasString "name"

/-- **A well-formed update**: four strings, and a port there is. -/
def WellFormed (json : Json) : Prop := json.HasStrings ∧ json.HasPort 1 65535

/-- An update whose port there is not, but is accepted. -/
def PortBeyond (json : Json) : Prop := json.HasStrings ∧ json.HasPort 65536 65635

theorem isCommand_unique {json : Json} {a b : DirCommand} (ha : json.IsCommand a)
    (hb : json.IsCommand b) : a = b := by
  obtain ⟨cmd, hcmd, rfl⟩ := ha
  obtain ⟨cmd', hcmd', rfl⟩ := hb
  rw [hcmd] at hcmd'
  cases hcmd'
  rfl

theorem getJsonString_isSome (json : Json) (field : String) :
    (∃ s, dirserverGetJsonString json field none = some s) ↔ json.HasString field := by
  unfold dirserverGetJsonString HasString
  cases json.objectGet (cString field) <;> simp

theorem getJsonInt_between (json : Json) :
    (1 ≤ dirserverGetJsonInt json "port" 0 ∧ dirserverGetJsonInt json "port" 0 ≤ 65635)
      ↔ json.HasPort 1 65635 := by
  unfold dirserverGetJsonInt HasPort
  cases json.objectGet (cString "port") with
  | int i =>
      -- what is cut off lies outside all the same
      simp only [int.injEq, exists_eq_left']
      omega
  | null | boolean | double | string | array | object => simp

/-- **What the code accepts** as an update. -/
theorem updatePair_isSome (json : Json) :
    (∃ p, json.updatePair = some p) ↔ json.HasStrings ∧ json.HasPort 1 65635 := by
  simp only [HasStrings, ← getJsonString_isSome, ← getJsonInt_between]
  unfold updatePair
  constructor
  · rintro ⟨p, hp⟩
    split at hp
    · rename_i serviceType url id name hserviceType hurl hid hname
      split_ifs at hp with hport
      exact ⟨⟨⟨_, hserviceType⟩, ⟨_, hurl⟩, ⟨_, hid⟩, ⟨_, hname⟩⟩, hport⟩
    · cases hp
  · rintro ⟨⟨⟨serviceType, hserviceType⟩, ⟨url, hurl⟩, ⟨id, hid⟩, ⟨name, hname⟩⟩, hport⟩
    simp only [hserviceType, hurl, hid, hname]
    exact ⟨_, if_pos hport⟩

/-- What is accepted is well-formed, or has a port there is not. -/
theorem updatePair_cases (json : Json) :
    (∃ p, json.updatePair = some p) ↔ json.WellFormed ∨ json.PortBeyond := by
  rw [updatePair_isSome]
  constructor
  · rintro ⟨hstrings, i, hi, hlo, hhi⟩
    by_cases hport : i ≤ 65535
    · exact .inl ⟨hstrings, i, hi, hlo, hport⟩
    · exact .inr ⟨hstrings, i, hi, by omega, hhi⟩
  · rintro (⟨hstrings, i, hi, hlo, hhi⟩ | ⟨hstrings, i, hi, hlo, hhi⟩)
    · exact ⟨hstrings, i, hi, hlo, by omega⟩
    · exact ⟨hstrings, i, hi, by omega, hhi⟩

theorem PortBeyond.not_wellFormed {json : Json} (h : json.PortBeyond) : ¬ json.WellFormed := by
  rintro ⟨-, i, hi, -, hhi⟩
  obtain ⟨-, j, hj, hlo, -⟩ := h
  rw [hi] at hj
  cases hj
  omega

theorem updatePair_none {json : Json} (hbad : ¬ json.WellFormed) (hport : ¬ json.PortBeyond) :
    json.updatePair = none := by
  rw [Option.eq_none_iff_forall_ne_some]
  intro p hp
  exact ((updatePair_cases json).mp ⟨p, hp⟩).elim hbad hport

end Json

/-! ## What a command does -/

section Commands

variable (print : Json → CString) (s : DirServer) (src : Bool) {json : Json}

theorem dirserverCommand_update (h : json.IsCommand .updateService) :
    dirserverCommand print s json src = dirserverUpdateServiceCmd print s json.rest := by
  obtain ⟨cmd, hcmd, hparse⟩ := h
  unfold dirserverCommand
  simp only [hcmd, hparse, Json.rest]

theorem dirserverCommand_delete (h : json.IsCommand .deleteService) :
    dirserverCommand print s json src = dirserverDeleteServiceCmd s json.rest := by
  obtain ⟨cmd, hcmd, hparse⟩ := h
  unfold dirserverCommand
  simp only [hcmd, hparse, Json.rest]

/-- Nothing else has to do with the table. -/
theorem dirserverCommand_other (hupdate : ¬ json.IsCommand .updateService)
    (hdelete : ¬ json.IsCommand .deleteService) :
    (dirserverCommand print s json src).services = s.services := by
  unfold dirserverCommand
  split
  · rename_i cmd hcmd
    dsimp only
    split
    · rfl
    · rename_i hparse
      exact absurd ⟨cmd, hcmd, hparse⟩ hupdate
    · rename_i hparse
      exact absurd ⟨cmd, hcmd, hparse⟩ hdelete
    · rfl
  · rfl

end Commands

/-! ## Any datagram -/

/-- The datagram is a well-formed update, or a delete with its two strings. -/
def Tokener.Valid (c : Tokener) (datagram : List UInt8) : Prop :=
  ∃ json, c.parse (upToNul datagram) = .json json
    ∧ ((json.IsCommand .updateService ∧ json.rest.WellFormed)
      ∨ (json.IsCommand .deleteService ∧ json.rest.HasString "id"
        ∧ json.rest.HasString "service-type"))

/-- No assertion fails; and what is not valid leaves the table as it is. -/
def AcceptsSafely (c : Tokener) (s : DirServer) (datagram : List UInt8) (src : Bool) : Prop :=
  ∃ s', dirserverRead c s datagram src = .ok s'
    ∧ (¬ c.Valid datagram → ∀ k, s'.services.lookup k = s.services.lookup k)

/-- The service is listed as this update would list it. -/
def DirServer.ListedAs (s : DirServer) (print : Json → CString) (json : Json) : Prop :=
  ∃ p, json.updatePair = some p ∧ s.services.lookup (pairKey p) = some ⟨print json, s.dirttl⟩

/-- The text does not come back as `NULL`; and it is not an update with a port there is not,
unless that changes nothing. -/
def Tokener.Harmless (c : Tokener) (s : DirServer) (datagram : List UInt8) : Prop :=
  c.parse (upToNul datagram) ≠ .json .null
    ∧ ∀ json, c.parse (upToNul datagram) = .json json → json.IsCommand .updateService →
      json.rest.PortBeyond → s.ListedAs c.print json.rest

section Datagrams

variable {c : Tokener} {s : DirServer} {datagram : List UInt8} {src : Bool}

theorem upToNul_append_nul (bs : List UInt8) : upToNul (bs ++ [0]) = upToNul bs := by
  unfold upToNul
  rw [List.takeWhile_append]
  split
  · rename_i hall
    rw [(List.takeWhile_prefix _).eq_of_length hall]
    simp
  · rfl

theorem dirserverRead_eq (hlo : 1 ≤ datagram.length) (hhi : datagram.length ≤ 1499) :
    dirserverRead c s datagram src
      = dirserverParsed c.print s src (c.parse (upToNul datagram)) := by
  unfold dirserverRead
  dsimp only
  rw [List.take_of_length_le hhi, if_neg (List.ne_nil_of_length_pos hlo), upToNul_append_nul]

/-- A value that is not `NULL` is taken as a command. -/
theorem dirserverParsed_json {json : Json} (h : json ≠ .null) :
    dirserverParsed c.print s src (.json json) = .ok (dirserverCommand c.print s json src) := by
  cases json with
  | null => exact absurd rfl h
  | boolean | int | double | string | array | object => rfl

/-- An update that is accepted changes the table, unless the service is listed so already. -/
theorem updateServiceCmd_unchanged {json : Json} {p : ServicePair}
    (h : json.updatePair = some p) :
    (∀ k, (dirserverUpdateServiceCmd c.print s json).services.lookup k = s.services.lookup k)
      ↔ s.ListedAs c.print json := by
  rw [updateServiceCmd_services c.print s h]
  constructor
  · intro hsame
    refine ⟨p, h, ?_⟩
    rw [← hsame, AList.lookup_insert]
  · rintro ⟨q, hq, hlisted⟩ k
    rw [h] at hq
    cases hq
    by_cases hk : k = pairKey p
    · rw [hk, AList.lookup_insert, hlisted]
    · rw [AList.lookup_insert_ne hk]

/-- A command that is not valid leaves the table, unless its port is one that there is not. -/
theorem dirserverCommand_invalid {json : Json}
    (hupdate : json.IsCommand .updateService → ¬ json.rest.WellFormed)
    (hdelete : json.IsCommand .deleteService →
      ¬ (json.rest.HasString "id" ∧ json.rest.HasString "service-type"))
    (hport : json.IsCommand .updateService → json.rest.PortBeyond → s.ListedAs c.print json.rest)
    (k : CString) : (dirserverCommand c.print s json src).services.lookup k
      = s.services.lookup k := by
  by_cases hu : json.IsCommand .updateService
  · rw [dirserverCommand_update c.print s src hu]
    by_cases hbeyond : json.rest.PortBeyond
    · obtain ⟨p, hp⟩ := (Json.updatePair_cases json.rest).mpr (.inr hbeyond)
      exact (updateServiceCmd_unchanged hp).mpr (hport hu hbeyond) k
    · rw [updateServiceCmd_invalid c.print s (Json.updatePair_none (hupdate hu) hbeyond)]
  · by_cases hd : json.IsCommand .deleteService
    · rw [dirserverCommand_delete c.print s src hd]
      have hpair : json.rest.deletePair = none := by
        have hmissing := hdelete hd
        rw [← Json.getJsonString_isSome, ← Json.getJsonString_isSome] at hmissing
        unfold Json.deletePair
        split
        · rename_i id serviceType hid hserviceType
          exact absurd ⟨⟨id, hid⟩, ⟨serviceType, hserviceType⟩⟩ hmissing
        · rfl
      rw [deleteServiceCmd_invalid s hpair]
    · rw [dirserverCommand_other c.print s src hu hd]

end Datagrams

/-- **Any datagram is taken safely** exactly if json-c does not return `NULL` for its text, and
it is no update with a port there is not that changes something. -/
theorem datagram_safe_iff (c : Tokener) (s : DirServer) (datagram : List UInt8) (src : Bool)
    (hlo : 1 ≤ datagram.length) (hhi : datagram.length ≤ 1499) :
    AcceptsSafely c s datagram src ↔ c.Harmless s datagram := by
  unfold AcceptsSafely Tokener.Harmless
  rw [dirserverRead_eq hlo hhi]
  cases hparse : c.parse (upToNul datagram) with
  | error =>
      refine iff_of_true ⟨s, rfl, fun _ _ => rfl⟩ ⟨(fun h => nomatch h), fun json h => nomatch h⟩
  | json json =>
      by_cases hnull : json = .null
      · subst hnull
        refine iff_of_false ?_ fun h => h.1 rfl
        rintro ⟨s', hrun, -⟩
        cases hrun
      · have hrun : dirserverParsed c.print s src (.json json) = _ := dirserverParsed_json hnull
        constructor
        · rintro ⟨s', hs', hsame⟩
          rw [hrun] at hs'
          cases hs'
          refine ⟨fun h => hnull (by cases h; rfl), fun json' hjson hupdate hbeyond => ?_⟩
          cases hjson
          obtain ⟨p, hp⟩ := (Json.updatePair_cases json.rest).mpr (.inr hbeyond)
          have hinvalid : ¬ c.Valid datagram := by
            rintro ⟨json', hjson', ⟨-, hwell⟩ | ⟨hdelete, -⟩⟩
            · rw [hparse] at hjson'
              cases hjson'
              exact hbeyond.not_wellFormed hwell
            · rw [hparse] at hjson'
              cases hjson'
              cases Json.isCommand_unique hupdate hdelete
          have hunchanged := hsame hinvalid
          rw [dirserverCommand_update c.print s src hupdate] at hunchanged
          exact (updateServiceCmd_unchanged hp).mp hunchanged
        · rintro ⟨-, hport⟩
          refine ⟨_, hrun, fun hinvalid k => dirserverCommand_invalid (fun hupdate hwell => ?_)
            (fun hdelete hstrings => ?_) (hport json rfl) k⟩
          · exact hinvalid ⟨json, hparse, .inl ⟨hupdate, hwell⟩⟩
          · exact hinvalid ⟨json, hparse, .inr ⟨hdelete, hstrings⟩⟩

/-- A json-c that knows two texts. -/
def twoTexts (text : CString) (json : Json) : Tokener where
  parse := fun data =>
    if data = cString "null" then .json .null
    else if data = text then .json json
    else .error
  print := flatText

/-- The bytes of the JSON value `null`. -/
def nullDatagram : List UInt8 := cString "null"

/-- The word `discover` is no JSON. -/
theorem datagram_safe_iff_word : AcceptsSafely (twoTexts (flatText lampJson) lampJson)
    (dirserverInit 30) (cString "discover") true := by
  refine (datagram_safe_iff _ _ _ _ (by decide +kernel) (by decide +kernel)).mpr ?_
  have hparse : (twoTexts (flatText lampJson) lampJson).parse (upToNul (cString "discover"))
      = .error := by
    unfold twoTexts
    dsimp only
    rw [if_neg (by decide +kernel), if_neg (by decide +kernel)]
  unfold Tokener.Harmless
  rw [hparse]
  exact ⟨(fun h => nomatch h), fun json h => nomatch h⟩

/-- **The datagram `null`** ends the directory server. -/
theorem null_datagram_aborts : ¬ ∀ (c : Tokener) (s : DirServer) (datagram : List UInt8)
    (src : Bool), c.parse (cString "null") = .json .null → 1 ≤ datagram.length →
      datagram.length ≤ 1499 → AcceptsSafely c s datagram src := by
  intro hall
  obtain ⟨s', hrun, -⟩ := hall (twoTexts (flatText lampJson) lampJson) (dirserverInit 30)
    nullDatagram true rfl (by decide +kernel) (by decide +kernel)
  have hnull : dirserverRead (twoTexts (flatText lampJson) lampJson) (dirserverInit 30)
      nullDatagram true = .error .assertion := by rfl
  rw [hnull] at hrun
  cases hrun

/-! ## Runs of commands -/

/-- What comes to the server: a command, as the fields of its JSON object, or a tick. -/
inductive DirInput where
  | command (fields : List (CString × Json)) (src : Bool)
  | tick

def inputStep (print : Json → CString) (s : DirServer) : DirInput → DirServer
  | .command fields src => dirserverCommand print s (.object fields) src
  | .tick => dirserverTick s

/-- The server after a run. -/
def inputRun (print : Json → CString) (dirttl : Nat) (es : List DirInput) : DirServer :=
  es.foldl (inputStep print) (dirserverInit dirttl)

/-- What an input is for the table. -/
def DirInput.events : DirInput → List DirEvent
  | .command fields _ =>
      match (Json.object fields).objectGet (cString "cmd") with
      | .string cmd =>
          match dirserverParseCommand (upToNul cmd) with
          | .updateService => [.update (Json.object fields).rest]
          | .deleteService => [.delete (Json.object fields).rest]
          | .discoverDirectory => []
          | .noCommand => []
      | _ => []
  | .tick => [.tick]

/-- The input is an update, with these fields besides `cmd`. -/
def DirInput.IsUpdate (e : DirInput) (json : Json) : Prop :=
  ∃ fields src, e = .command fields src ∧ (Json.object fields).IsCommand .updateService
    ∧ json = (Json.object fields).rest

/-- In every state every entry is that of the last update for it, which is well-formed; and an
update that is not changes nothing and announces nothing. -/
structure OnlyWellFormed (print : Json → CString) (dirttl : Nat) (es : List DirInput) : Prop where
  stored : ∀ pre post k service, es = pre ++ post →
    (inputRun print dirttl pre).services.lookup k = some service →
    ∃ json since, LastUpdate k (pre.flatMap DirInput.events) json since
      ∧ service.json = print json ∧ json.WellFormed
  rejected : ∀ pre e post json, es = pre ++ e :: post → e.IsUpdate json → ¬ json.WellFormed →
    inputRun print dirttl (pre ++ [e]) = inputRun print dirttl pre

section Inputs

variable {print : Json → CString} {d : Nat} {es : List DirInput} {e : DirInput}

theorem inputRun_snoc (es : List DirInput) (e : DirInput) :
    inputRun print d (es ++ [e]) = inputStep print (inputRun print d es) e :=
  List.foldl_append

/-- An input is one event for the table, or none. -/
theorem inputStep_cases (s : DirServer) (e : DirInput) :
    (e.events = [] ∧ (inputStep print s e).services = s.services)
      ∨ ∃ x, e.events = [x] ∧ inputStep print s e = dirserverStep print s x := by
  cases e with
  | tick => exact .inr ⟨.tick, rfl, rfl⟩
  | command fields src =>
      unfold DirInput.events inputStep dirserverCommand
      dsimp only
      generalize (Json.object fields).objectGet (cString "cmd") = field
      cases field with
      | string cmd =>
          dsimp only
          cases dirserverParseCommand (upToNul cmd) with
          | updateService => exact .inr ⟨.update _, rfl, rfl⟩
          | deleteService => exact .inr ⟨.delete _, rfl, rfl⟩
          | discoverDirectory | noCommand => exact .inl ⟨rfl, rfl⟩
      | null | boolean | int | double | array | object => exact .inl ⟨rfl, rfl⟩

theorem DirInput.IsUpdate.events {json : Json} (h : e.IsUpdate json) :
    e.events = [.update json] := by
  obtain ⟨fields, src, rfl, ⟨cmd, hcmd, hparse⟩, rfl⟩ := h
  unfold DirInput.events
  simp only [hcmd, hparse]

theorem DirInput.IsUpdate.step {json : Json} (h : e.IsUpdate json) (s : DirServer) :
    inputStep print s e = dirserverUpdateServiceCmd print s json := by
  obtain ⟨fields, src, rfl, hcommand, rfl⟩ := h
  exact dirserverCommand_update print s src hcommand

/-- An update for the table comes from one that was received. -/
theorem isUpdate_of_mem {json : Json} (h : DirEvent.update json ∈ es.flatMap DirInput.events) :
    ∃ e ∈ es, e.IsUpdate json := by
  obtain ⟨e, he, hmem⟩ := List.mem_flatMap.mp h
  refine ⟨e, he, ?_⟩
  cases e with
  | tick => cases List.mem_singleton.mp hmem
  | command fields src =>
      unfold DirInput.events at hmem
      dsimp only at hmem
      split at hmem
      · rename_i cmd hcmd
        split at hmem
        · rename_i hparse
          cases List.mem_singleton.mp hmem
          exact ⟨fields, src, rfl, ⟨cmd, hcmd, hparse⟩, rfl⟩
        · cases List.mem_singleton.mp hmem
        · cases hmem
        · cases hmem
      · cases hmem

/-- An entry comes from the step, or was there before it. -/
theorem dirserverStep_entry {s : DirServer} {x : DirEvent} {k : CString} {service : Service}
    (h : (dirserverStep print s x).services.lookup k = some service) :
    (∃ json, x = .update json ∧ x.Updates k ∧ service.json = print json)
      ∨ ((¬ x.Updates k ∧ ¬ x.Deletes k)
        ∧ ∃ old, s.services.lookup k = some old ∧ service.json = old.json) := by
  have hcell := @step_lookup print s x k
  rw [h, Option.map_some] at hcell
  cases hsignal : x.signal print k with
  | renew text =>
      rw [hsignal] at hcell
      obtain ⟨json, rfl, hupdates, rfl⟩ := signal_renew.mp hsignal
      refine .inl ⟨json, rfl, hupdates, ?_⟩
      cases hold : s.services.lookup k <;> rw [hold] at hcell <;>
        exact congrArg Prod.fst (Option.some.inj hcell)
  | drop =>
      rw [hsignal] at hcell
      cases hold : s.services.lookup k <;> rw [hold] at hcell <;> cases hcell
  | tick | other =>
      have hneither : ¬ (x.Updates k ∨ x.Deletes k) := by
        rw [← @signal_decides print, hsignal]
        exact id
      refine .inr ⟨not_or.mp hneither, ?_⟩
      rw [hsignal] at hcell
      cases hold : s.services.lookup k with
      | none =>
          rw [hold] at hcell
          cases hcell
      | some old =>
          refine ⟨old, rfl, ?_⟩
          rw [hold] at hcell
          simp only [Option.map_some, Service.content, cellStep] at hcell
          first
            | exact congrArg Prod.fst (Option.some.inj hcell)
            | split_ifs at hcell
              exact congrArg Prod.fst (Option.some.inj hcell)

/-- **Every entry** is that of the last update for it. -/
theorem lookup_lastUpdate (es : List DirInput) (k : CString) (service : Service)
    (h : (inputRun print d es).services.lookup k = some service) :
    ∃ json since, LastUpdate k (es.flatMap DirInput.events) json since
      ∧ service.json = print json := by
  induction es using List.reverseRecOn generalizing service with
  | nil => cases h
  | append_singleton es e ih =>
      rw [inputRun_snoc] at h
      rw [List.flatMap_append, List.flatMap_singleton]
      rcases @inputStep_cases print (inputRun print d es) e with
        ⟨hnone, hsame⟩ | ⟨x, hx, hstep⟩
      · rw [hsame] at h
        rw [hnone, List.append_nil]
        exact ih service h
      · rw [hstep] at h
        rw [hx]
        rcases dirserverStep_entry h with ⟨json, rfl, hupdates, hjson⟩ | ⟨hother, old, hold, hjson⟩
        · exact ⟨json, [], ⟨.hit _ hupdates, fun y hy => nomatch hy⟩, hjson⟩
        · obtain ⟨json, since, ⟨hlast, hkept⟩, htext⟩ := ih old hold
          refine ⟨json, since ++ [x], ⟨hlast.miss hother.1, fun y hy => ?_⟩, hjson.trans htext⟩
          rcases List.mem_append.mp hy with hy | hy
          · exact hkept y hy
          · rw [List.mem_singleton.mp hy]
            exact hother.2

end Inputs

/-- **Only well-formed services are listed**, and no others leave a trace, if and only if no
update has a port from 65536 to 65635. -/
theorem listed_wellFormed_iff (print : Json → CString) (dirttl : Nat) (es : List DirInput) :
    OnlyWellFormed print dirttl es
      ↔ ∀ e ∈ es, ∀ json, e.IsUpdate json → ¬ json.PortBeyond := by
  constructor
  · rintro ⟨hstored, hrejected⟩ e he json hupdate hbeyond
    obtain ⟨pre, post, rfl⟩ := List.append_of_mem he
    obtain ⟨p, hp⟩ := (Json.updatePair_cases json).mpr (.inr hbeyond)
    -- its entry is there right after it
    have hlisted : (inputRun print dirttl (pre ++ [e])).services.lookup (pairKey p)
        = some ⟨print json, (inputRun print dirttl pre).dirttl⟩ := by
      rw [inputRun_snoc, hupdate.step, updateServiceCmd_services print _ hp, AList.lookup_insert]
    obtain ⟨json', since, ⟨hlast, -⟩, -, hwell⟩ := hstored (pre ++ [e]) post (pairKey p) _
      (by simp) hlisted
    have hupdates : (DirEvent.update json).Updates (pairKey p) := by
      show json.updatePair.map pairKey = some (pairKey p)
      rw [hp]
      rfl
    rw [List.flatMap_append, List.flatMap_singleton, hupdate.events] at hlast
    obtain ⟨heq, -⟩ := hlast.unique (.hit _ hupdates)
    cases heq
    exact hbeyond.not_wellFormed hwell
  · intro hports
    refine ⟨fun pre post k service hes hfound => ?_, fun pre e post json hes hupdate hbad => ?_⟩
    · obtain ⟨json, since, hlast, hjson⟩ := lookup_lastUpdate pre k service hfound
      refine ⟨json, since, hlast, hjson, ?_⟩
      obtain ⟨before, hevents, hupdates, -⟩ := hlast.1
      have hmem : DirEvent.update json ∈ pre.flatMap DirInput.events := by
        rw [hevents]
        simp
      obtain ⟨e, he, hupdate⟩ := isUpdate_of_mem hmem
      obtain ⟨p, hp, -⟩ := Option.map_eq_some_iff.mp hupdates
      refine ((Json.updatePair_cases json).mp ⟨p, hp⟩).resolve_right (hports e ?_ json hupdate)
      rw [hes]
      exact List.mem_append_left _ he
    · have hport := hports e (by rw [hes]; simp) json hupdate
      rw [inputRun_snoc, hupdate.step,
        updateServiceCmd_invalid print _ (Json.updatePair_none hbad hport)]

/-- A lamp that is announced to be at port 65600, which is none. -/
def portBeyondFields : List (CString × Json) :=
  [(cString "cmd", .string (cString "update-service")),
    (cString "service-type", .string (cString "moodlamp")), (cString "url", .string (cString "u")),
    (cString "id", .string (cString "a")), (cString "name", .string (cString "n")),
    (cString "port", .int 65600)]

/-- **Port 65600 is listed.** -/
theorem port_beyond_listed : ¬ ∀ (print : Json → CString) (dirttl : Nat) (es : List DirInput),
    OnlyWellFormed print dirttl es := by
  intro hall
  have hupdate : (DirInput.command portBeyondFields true).IsUpdate
      (Json.object portBeyondFields).rest :=
    ⟨portBeyondFields, true, rfl, ⟨cString "update-service", rfl, by decide +kernel⟩, rfl⟩
  have hport : (Json.object portBeyondFields).rest.objectGet (cString "port") = .int 65600 := rfl
  have hbad : ¬ (Json.object portBeyondFields).rest.WellFormed := by
    rintro ⟨-, i, hi, -, hhi⟩
    rw [hport] at hi
    cases hi
    omega
  have hsame := (hall flatText 30 [.command portBeyondFields true]).rejected [] _ [] _ rfl
    hupdate hbad
  have hempty : (inputRun flatText 30 []).services.entries.length = 0 := rfl
  have hlisted : (inputRun flatText 30
      ([] ++ [DirInput.command portBeyondFields true])).services.entries.length = 1 := by
    decide +kernel
  rw [hsame, hempty] at hlisted
  cases hlisted

end Ubd
