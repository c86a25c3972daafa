import Ubd.Daemon.Groups
import Ubd.Daemon.Roster
import Ubd.Directory.Lifetime
import Ubd.Directory.Withdrawn
import Ubd.Lib.Exchange
import Ubd.Lib.SoftState

/-!
# Directory.Network — the client, the network and the server

The directory client of the daemon, whose messages go to a multicast group, and the server that
listens there. Messages may be late and may get lost, but stay in order. `Directory.heard` says
that the table of the server is that of the messages it has heard.
-/

namespace Ubd

open Runs Lifetimes SoftState Exchange

/-! ## What is announced -/

/-- What the client sends. -/
inductive Announcement where
  | node (m : DirMessage)
  /-- By `dirclient_registerMulticastGroup`. -/
  | group (g : MulticastGroup)
  deriving DecidableEq

/-- What is compiled in and configured: json-c, how addresses are written, those of nodes and
those that `address6db_getMulticastAddr` makes of the names of groups, and the groups. -/
structure DirSetup where
  jsonC : JsonC
  text : NetAddr → CString
  groupText : CString → CString
  groups : List MulticastGroup

/-- The message of `dirclient_registerMulticastGroup`. -/
def dirclientRegisterMulticastGroup (w : DirSetup) (g : MulticastGroup) : Json :=
  .object [(cString "cmd", .newString (cString "update-service")),
    (cString "name", .newString g.hostname), (cString "id", .newString g.name),
    (cString "url", .newString (w.groupText g.name)),
    (cString "port", .int (classesGetServicePort g.cls)),
    (cString "service-type", .newString (cString (classesGetClassName g.cls))),
    (cString "tcp", .boolean false), (cString "udp", .boolean true),
    (cString "multicast", .boolean true)]

def Announcement.json (w : DirSetup) : Announcement → Except Fault Json
  | .node m => m.json w.text
  | .group g => .ok (dirclientRegisterMulticastGroup w g)

/-- A datagram arrives at the server. -/
def DirSetup.receive (w : DirSetup) (s : DirServer) (a : Announcement) :
    Except Fault DirServer := do
  let json ← a.json w
  dirserverNewMCData w.jsonC s (w.jsonC.print json) true

/-! ## The system -/

structure Directory where
  daemon : Daemon
  channel : Channel Announcement
  server : DirServer

inductive DirectoryEvent where
  | client (e : AnnounceEvent)
  /-- The oldest datagram on the way is received. -/
  | arrives
  /-- It gets lost. -/
  | lost
  /-- `dirserver_tick` -/
  | second

/-- What the client sends in a step. In a tick of its own it sends all it has in its table, the
groups too. -/
def DirSetup.sends (w : DirSetup) (d d' : Daemon) (e : AnnounceEvent) : List Announcement :=
  let nodes := (d'.dirclient.sent.drop d.dirclient.sent.length).map .node
  match e with
  | .resend => w.groups.map .group ++ nodes
  | .daemon _ => nodes

/-- The groups are announced when they are configured. -/
def DirSetup.init (w : DirSetup) (dirttl : Nat) (d : Daemon) : Directory where
  daemon := d
  channel := SoftState.channel [.send (w.groups.map .group)]
  server := dirserverInit dirttl

def DirSetup.step (w : DirSetup) (s : Directory) : DirectoryEvent → Except Fault Directory
  | .client e => do
      let d ← announceStep s.daemon e
      return { s with
        daemon := d
        channel := s.channel.step (.send (w.sends s.daemon d e)) }
  | .arrives =>
      match s.channel.next with
      | none => .ok s
      | some a => do
          let server ← w.receive s.server a
          return { s with channel := s.channel.step .arrive, server := server }
  | .lost => .ok { s with channel := s.channel.step .lose }
  | .second =>
      .ok { s with channel := s.channel.step .tick, server := dirserverTick s.server }

def DirectoryEvent.isSecond : DirectoryEvent → Bool
  | .second => true
  | _ => false

def DirectoryEvent.client? : DirectoryEvent → Option AnnounceEvent
  | .client e => some e
  | _ => none

/-! ## What an announcement is about -/

def DirMessage.pair : DirMessage → ServicePair
  | .updateService serviceType _ id _ _ => (upToNul id, cString serviceType)
  | .deleteService serviceType id => (upToNul id, cString serviceType)

def DirMessage.isUpdate : DirMessage → Bool
  | .updateService .. => true
  | .deleteService .. => false

def MulticastGroup.pair (g : MulticastGroup) : ServicePair :=
  (upToNul g.name, cString (classesGetClassName g.cls))

def Announcement.key : Announcement → CString
  | .node m => pairKey m.pair
  | .group g => pairKey g.pair

def Announcement.isUpdate : Announcement → Bool
  | .node m => m.isUpdate
  | .group _ => true

/-- What the client really sends: a node that is announced has an address. -/
inductive DirMessage.Genuine (n : Node) : DirMessage → Prop
  | update (i : ClassId) (adr : n.netadr ≠ none) : Genuine n (updateMessage n i)
  | delete (i : ClassId) : Genuine n (deleteMessage n i)

def Announcement.Genuine : Announcement → Prop
  | .node m => ∃ n, m.Genuine n
  | .group _ => True

/-- json-c reads the datagram back as it was. -/
def DirSetup.Faithful (w : DirSetup) (a : Announcement) : Prop :=
  ∀ json, a.json w = .ok json → w.jsonC.parse (w.jsonC.print json) = json

/-- What the server makes of it. -/
def Announcement.event (w : DirSetup) (a : Announcement) : DirEvent :=
  let json := ((a.json w).toOption.getD .null).objectDel (cString "cmd")
  if a.isUpdate then .update json else .delete json

section Events

variable {w : DirSetup} {a : Announcement} {n : Node} {i : ClassId} {addr : NetAddr} {k : CString}

theorem updateMessage_event (hadr : n.netadr = some addr) :
    (Announcement.node (updateMessage n i)).event w = .update (serviceEntry w.text addr n i) := by
  have hjson : (updateMessage n i).json w.text = .ok (.object ((cString "cmd",
      .newString (cString "update-service")) :: serviceFields w.text addr n i)) := by
    unfold updateMessage DirMessage.json
    rw [hadr]
    rfl
  show DirEvent.update ((((updateMessage n i).json w.text).toOption.getD .null).objectDel _) = _
  rw [hjson]
  rfl

/-- What the server keeps of a group. -/
def groupEntry (w : DirSetup) (g : MulticastGroup) : Json :=
  (dirclientRegisterMulticastGroup w g).objectDel (cString "cmd")

theorem groupEntry_updatePair (w : DirSetup) (g : MulticastGroup) :
    (groupEntry w g).updatePair = some g.pair := by
  obtain ⟨hlo, hhi⟩ := servicePort_range g.cls
  have hport : dirserverGetJsonInt (groupEntry w g) "port" 0 = classesGetServicePort g.cls := by
    show max (-2 ^ 31) (min (classesGetServicePort g.cls : Int) (2 ^ 31 - 1)) = _
    omega
  have htype : dirserverGetJsonString (groupEntry w g) "service-type" none
      = some (cString (classesGetClassName g.cls)) := by
    show some (upToNul (upToNul _)) = _
    rw [upToNul_upToNul, upToNul_className]
  have hid : dirserverGetJsonString (groupEntry w g) "id" none = some (upToNul g.name) := by
    show some (upToNul (upToNul _)) = _
    rw [upToNul_upToNul]
  have hurl : dirserverGetJsonString (groupEntry w g) "url" none
      = some (upToNul (upToNul (w.groupText g.name))) := rfl
  have hname : dirserverGetJsonString (groupEntry w g) "name" none
      = some (upToNul (upToNul g.hostname)) := rfl
  unfold Json.updatePair
  rw [htype, hid, hurl, hname, hport]
  dsimp only
  rw [if_pos (by omega)]
  rfl

theorem deleteMessage_deletePair : (Json.object [(cString "id", .newString n.id),
    (cString "service-type", .newString (cString (classesGetClassName (n.classes i))))]).deletePair
      = some (servicePair n i) := by
  show some (upToNul (upToNul _), upToNul (upToNul _)) = some (servicePair n i)
  rw [upToNul_upToNul, upToNul_upToNul, upToNul_className]
  rfl

/-- **The server accepts** what the client sends. -/
theorem receive_genuine (hgenuine : a.Genuine) (hfaithful : w.Faithful a) (s : DirServer) :
    w.receive s a = .ok (dirserverStep w.jsonC.print s (a.event w)) := by
  cases a with
  | node m =>
      obtain ⟨n, hm⟩ := hgenuine
      cases hm with
      | update i adr =>
          obtain ⟨addr, hadr⟩ := Option.ne_none_iff_exists'.mp adr
          rw [updateMessage_event hadr]
          exact receive_update hadr hfaithful s
      | delete i =>
          have hparse : Faithful w.jsonC w.text (deleteMessage n i) := hfaithful
          refine (receive_delete hparse s).trans (congrArg Except.ok ?_)
          exact (deleteServiceCmd_eq s deleteMessage_deletePair).symm
  | group g =>
      show dirserverNewMCData w.jsonC s _ true = _
      unfold dirserverNewMCData
      rw [hfaithful _ rfl]
      rfl

theorem event_updates (hgenuine : a.Genuine) :
    (a.event w).Updates k ↔ a.isUpdate = true ∧ a.key = k := by
  cases a with
  | node m =>
      obtain ⟨n, hm⟩ := hgenuine
      cases hm with
      | update i adr =>
          obtain ⟨addr, hadr⟩ := Option.ne_none_iff_exists'.mp adr
          rw [updateMessage_event hadr]
          show (serviceEntry w.text addr n i).updatePair.map pairKey = some k ↔ _
          rw [serviceEntry_updatePair, Option.map_some, Option.some_inj]
          exact (and_iff_right rfl).symm
      | delete i => exact iff_of_false id fun h => nomatch h.1
  | group g =>
      show (groupEntry w g).updatePair.map pairKey = some k ↔ _
      rw [groupEntry_updatePair, Option.map_some, Option.some_inj]
      exact (and_iff_right rfl).symm

theorem event_deletes (hgenuine : a.Genuine) :
    (a.event w).Deletes k ↔ a.isUpdate = false ∧ a.key = k := by
  cases a with
  | node m =>
      obtain ⟨n, hm⟩ := hgenuine
      cases hm with
      | update i adr =>
          obtain ⟨addr, hadr⟩ := Option.ne_none_iff_exists'.mp adr
          rw [updateMessage_event hadr]
          exact iff_of_false id fun h => nomatch h.1
      | delete i =>
          show Option.map pairKey (Json.deletePair _) = some k ↔ _
          refine (congrArg (fun o => Option.map pairKey o = some k)
            (deleteMessage_deletePair (n := n) (i := i))).to_iff.trans ?_
          rw [Option.map_some, Option.some_inj]
          exact (and_iff_right rfl).symm
  | group g => exact iff_of_false id fun h => nomatch h.1

/-- Every announcement is about one key. -/
theorem event_about (hgenuine : a.Genuine) :
    (a.event w).Updates k ∨ (a.event w).Deletes k ↔ a.key = k := by
  rw [event_updates hgenuine, event_deletes hgenuine]
  cases a.isUpdate <;> simp

end Events

/-! ## Names of classes -/

/-- The names in `classes.c`. -/
def classNames : List String :=
  ["unknown class", "hid", "digitaloutput", "digitalinput", "moodlamp", "switch"]

theorem className_mem (cls : UInt8) : classesGetClassName cls ∈ classNames := by
  unfold classesGetClassName
  split_ifs <;> decide

/-- No name ends another one. -/
theorem classNames_suffix :
    ∀ s ∈ classNames, ∀ t ∈ classNames, cString s <:+ cString t → s = t := by
  decide

/-- **So a key says which service it is.** -/
theorem pairKey_inj {x y : CString} {s t : String} (hs : s ∈ classNames) (ht : t ∈ classNames)
    (h : pairKey (x, cString s) = pairKey (y, cString t)) : x = y ∧ s = t := by
  have hx : cString s <:+ pairKey (y, cString t) := by
    rw [← h]
    exact List.suffix_append _ _
  have hy : cString t <:+ pairKey (y, cString t) := List.suffix_append _ _
  have hname : s = t := by
    rcases List.suffix_or_suffix_of_suffix hx hy with hsuffix | hsuffix
    · exact classNames_suffix s hs t ht hsuffix
    · exact (classNames_suffix t ht s hs hsuffix).symm
  subst hname
  exact ⟨List.append_cancel_right h, rfl⟩

/-! ## What the client sends -/

/-- A message of a node that has had an address. -/
def Daemon.Knows (d : Daemon) (m : DirMessage) : Prop :=
  ∃ n x, m.Genuine n ∧ (d.nodes x).busadr ≠ 0 ∧ (d.nodes x).id = n.id

/-- The client only speaks of such nodes. -/
structure Speaks (d : Daemon) : Prop where
  announcing : Announcing d
  sent : ∀ m ∈ d.dirclient.sent, d.Knows m
  entries : ∀ k m, (k, m) ∈ d.dirclient.services → d.Knows m

section Client

variable {d d' : Daemon} {x : NodeId} {m : DirMessage}

theorem isUpdate_iff : m.isUpdate = true ↔ ∃ type id, m.Announces type id := by
  cases m with
  | updateService => exact iff_of_true rfl ⟨_, _, rfl, rfl⟩
  | deleteService => exact iff_of_false (fun h => nomatch h) fun ⟨_, _, h⟩ => h

theorem Daemon.Knows.keeps (h : d.Knows m)
    (hassigned : ∀ i, (d.nodes i).busadr ≠ 0 → (d'.nodes i).busadr ≠ 0)
    (hid : ∀ i, (d.nodes i).busadr ≠ 0 → (d'.nodes i).id = (d.nodes i).id) : d'.Knows m := by
  obtain ⟨n, x, hm, hadr, hx⟩ := h
  exact ⟨n, x, hm, hassigned x hadr, (hid x hadr).trans hx⟩

theorem Speaks.keeps (h : Speaks d) (hannouncing : Announcing d')
    (hassigned : ∀ i, (d.nodes i).busadr ≠ 0 → (d'.nodes i).busadr ≠ 0)
    (hid : ∀ i, (d.nodes i).busadr ≠ 0 → (d'.nodes i).id = (d.nodes i).id)
    (hsent : ∀ m ∈ d'.dirclient.sent, m ∈ d.dirclient.sent ∨ d'.Knows m)
    (hentries : ∀ k m, (k, m) ∈ d'.dirclient.services →
      (k, m) ∈ d.dirclient.services ∨ d'.Knows m) : Speaks d' where
  announcing := hannouncing
  sent := fun m hm => (hsent m hm).elim (fun hold => (h.sent m hold).keeps hassigned hid) id
  entries := fun k m hm =>
    (hentries k m hm).elim (fun hold => (h.entries k m hold).keeps hassigned hid) id

/-- A turn of `mgt_checkTimeout` only withdraws. -/
theorem Speaks.check (h : Speaks d) (hturn : mgtCheckNode d x = .ok d') : Speaks d'
    ∧ Appends (fun m => m.isUpdate = false) d.dirclient.sent d'.dirclient.sent := by
  have hquiet := (mgtCheckNode_expired hturn).2
  have hid : ∀ i, (d'.nodes i).id = (d.nodes i).id := mgtCheckNode_body.ids hturn
  rcases mgtCheckNode_dirclient hturn with ⟨hout, hremoved⟩ | ⟨-, hsame⟩
  · have hsent := removeServices_sent x (d.nodes x) d.dirclient
    rw [← hremoved] at hsent
    refine ⟨h.keeps (h.announcing.check hturn) hquiet.assigned (fun i _ => hid i)
      (fun m hm => ?_) (fun k m hm => ?_), ?_⟩
    · rw [hsent] at hm
      rcases List.mem_append.mp hm with hm | hm
      · exact .inl hm
      · obtain ⟨i, -, rfl⟩ := List.mem_map.mp hm
        have hadr := hquiet.assigned x (h.announcing.settled.timesOut hout)
        exact .inr ⟨d.nodes x, x, .delete i, hadr, hid x⟩
    · rw [hremoved, mem_removeServices] at hm
      exact .inl hm.1
    · rw [hsent]
      refine appends_append fun m hm => ?_
      obtain ⟨i, -, rfl⟩ := List.mem_map.mp hm
      rfl
  · refine ⟨h.keeps (h.announcing.check hturn) hquiet.assigned (fun i _ => hid i)
      (fun m hm => .inl ?_) (fun k m hm => .inl ?_), .of_eq (congrArg DirClient.sent hsame)⟩
    · rw [← hsame]
      exact hm
    · rw [← hsame]
      exact hm

/-- A turn of `mgt_tick` only announces. -/
theorem Speaks.configure {env : NodeId → NetEnv} (h : Speaks d)
    (hturn : mgtConfigureNode env d x = .ok d') : Speaks d'
    ∧ Appends (fun m => m.isUpdate = true) d.dirclient.sent d'.dirclient.sent := by
  have hquiet := (mgtConfigureNode_expired hturn).2
  have hid : ∀ i, (d'.nodes i).id = (d.nodes i).id := (mgtConfigureNode_body env).ids hturn
  rcases mgtConfigureNode_dirclient hturn with ⟨hup, hregistered⟩ | ⟨-, hsame⟩
  · have hsent := registerServices_sent x (d.nodes x) d.dirclient
    rw [← hregistered] at hsent
    -- who is connected to ubnetd has had an address
    have hadr := hquiet.assigned x (h.announcing.settled.wired.touched x (.inl hup.1.1))
    have hknows : ∀ i, d'.Knows (updateMessage (d.nodes x) i) :=
      fun i => ⟨d.nodes x, x, .update i hup.1.2.2, hadr, hid x⟩
    refine ⟨h.keeps (h.announcing.configure hturn) hquiet.assigned (fun i _ => hid i)
      (fun m hm => ?_) (fun k m hm => ?_), ?_⟩
    · rw [hsent] at hm
      rcases List.mem_append.mp hm with hm | hm
      · exact .inl hm
      · obtain ⟨i, -, rfl⟩ := List.mem_map.mp hm
        exact .inr (hknows i)
    · rw [hregistered] at hm
      by_cases hk : k.1 = x
      · obtain ⟨y, i⟩ := k
        dsimp only at hk
        subst hk
        rw [registerServices_entries] at hm
        split_ifs at hm with hclass
        · rw [hm]
          exact .inr (hknows i)
        · exact .inl hm
      · exact .inl ((registerServices_others hk).mp hm)
    · rw [hsent]
      refine appends_append fun m hm => ?_
      obtain ⟨i, -, rfl⟩ := List.mem_map.mp hm
      rfl
  · refine ⟨h.keeps (h.announcing.configure hturn) hquiet.assigned (fun i _ => hid i)
      (fun m hm => .inl ?_) (fun k m hm => .inl ?_), .of_eq (congrArg DirClient.sent hsame)⟩
    · rw [← hsame]
      exact hm
    · rw [← hsame]
      exact hm

/-- **What a step sends**: withdrawals first, then announcements. -/
theorem Speaks.step {e : AnnounceEvent} (h : Speaks d) (hstep : announceStep d e = .ok d') :
    Speaks d' ∧ ∃ ms, Appends (fun m => m.isUpdate = false) d.dirclient.sent ms
      ∧ Appends (fun m => m.isUpdate = true) ms d'.dirclient.sent := by
  have hannouncing := h.announcing.step hstep
  cases e with
  | resend =>
      cases hstep
      refine ⟨⟨hannouncing, fun m hm => ?_, h.entries⟩, d.dirclient.sent, .of_eq rfl,
        appends_append fun m hm => ?_⟩
      · rcases List.mem_append.mp hm with hm | hm
        · exact h.sent m hm
        · obtain ⟨⟨k, m⟩, hentry, rfl⟩ := List.mem_map.mp hm
          exact h.entries k m hentry
      · obtain ⟨⟨k, m⟩, hentry, rfl⟩ := List.mem_map.mp hm
        obtain ⟨-, type, hannounces⟩ := h.announcing.entries k m hentry
        exact isUpdate_iff.mpr ⟨type, _, hannounces⟩
  | daemon e =>
      by_cases he : ∃ env, e = .main (.tick env)
      · obtain ⟨env, rfl⟩ := he
        obtain ⟨d₁, hcheck, hconfigure⟩ := bind_eq_ok.mp hstep
        obtain ⟨hfirst, hdeletes⟩ := forEachNode_invariant
          (I := fun e => Speaks e
            ∧ Appends (fun m : DirMessage => m.isUpdate = false) d.dirclient.sent e.dirclient.sent)
          (fun e x e' he hturn =>
            ⟨(he.1.check hturn).1, he.2.trans (he.1.check hturn).2⟩) ⟨h, .of_eq rfl⟩ hcheck
        obtain ⟨hlast, hupdates⟩ := forEachNode_invariant
          (I := fun e => Speaks e
            ∧ Appends (fun m : DirMessage => m.isUpdate = true) d₁.dirclient.sent e.dirclient.sent)
          (fun e x e' he hturn =>
            ⟨(he.1.configure hturn).1, he.2.trans (he.1.configure hturn).2⟩)
          ⟨hfirst, .of_eq rfl⟩ hconfigure
        exact ⟨hlast, d₁.dirclient.sent, hdeletes, hupdates⟩
      · have hsame : d'.dirclient = d.dirclient :=
          daemonStep_dirclient (fun env heq => he ⟨env, heq⟩) hstep
        refine ⟨h.keeps hannouncing (fun i => daemonStep_assigned h.announcing.settled.wired hstep)
          (fun i => h.announcing.settled.keeps_id hstep) (fun m hm => .inl ?_)
          (fun k m hm => .inl ?_), d.dirclient.sent, .of_eq rfl,
          .of_eq (congrArg DirClient.sent hsame)⟩
        · rw [← hsame]
          exact hm
        · rw [← hsame]
          exact hm

theorem configured_speaks {nodetimeout : Int} {cs : List NodeConfig} {d : Daemon}
    (h : configured nodetimeout cs = .ok d) : Speaks d := by
  have hclient := configured_dirclient h
  refine ⟨(configured_announcing h).1, fun m hm => ?_, fun k m hm => ?_⟩
  · rw [hclient] at hm
    cases hm
  · rw [hclient] at hm
    cases hm

end Client

/-! ## Runs of the system -/

/-- **What a step does.** -/
inductive DirSetup.Steps (w : DirSetup) (s : Directory) : DirectoryEvent → Directory → Prop
  | client {e : AnnounceEvent} {d : Daemon} (done : announceStep s.daemon e = .ok d) :
      Steps w s (.client e)
        ⟨d, s.channel.step (.send (w.sends s.daemon d e)), s.server⟩
  | idle (nothing : s.channel.next = none) : Steps w s .arrives s
  | arrives {a : Announcement} {server : DirServer} (next : s.channel.next = some a)
      (received : w.receive s.server a = .ok server) :
      Steps w s .arrives ⟨s.daemon, s.channel.step .arrive, server⟩
  | lost : Steps w s .lost ⟨s.daemon, s.channel.step .lose, s.server⟩
  | second : Steps w s .second ⟨s.daemon, s.channel.step .tick, dirserverTick s.server⟩

/-- An announcement that the client has in its own log. -/
def Announcement.message? : Announcement → Option DirMessage
  | .node m => some m
  | .group _ => none

/-- What was sent is what the client has sent, and the groups. -/
structure DirSetup.Sound (w : DirSetup) (s : Directory) : Prop where
  speaks : Speaks s.daemon
  nodes : s.channel.sent.filterMap Announcement.message? = s.daemon.dirclient.sent
  groups : ∀ g, .group g ∈ s.channel.sent ↔ g ∈ w.groups

/-- What the server hears. -/
def DirSetup.heard (w : DirSetup) : Option Announcement → DirEvent
  | none => .tick
  | some a => a.event w

section System

variable {w : DirSetup} {s s' : Directory} {e : DirectoryEvent} {es : List DirectoryEvent}
  {dirttl : Nat} {d₀ : Daemon}

theorem DirSetup.step_steps (h : w.step s e = .ok s') : w.Steps s e s' := by
  cases e with
  | client e =>
      obtain ⟨d, hd, h⟩ := bind_eq_ok.mp h
      cases h
      exact .client hd
  | arrives =>
      unfold DirSetup.step at h
      cases hnext : s.channel.next with
      | none =>
          rw [hnext] at h
          cases h
          exact .idle hnext
      | some a =>
          rw [hnext] at h
          obtain ⟨server, hreceive, h⟩ := bind_eq_ok.mp h
          cases h
          exact .arrives hnext hreceive
  | lost =>
      cases h
      exact .lost
  | second =>
      cases h
      exact .second

theorem DirSetup.Sound.genuine (h : w.Sound s) {a : Announcement} (ha : a ∈ s.channel.sent) :
    a.Genuine := by
  cases a with
  | group g => exact trivial
  | node m =>
      have hm : m ∈ s.daemon.dirclient.sent := by
        rw [← h.nodes]
        exact List.mem_filterMap.mpr ⟨_, ha, rfl⟩
      obtain ⟨n, -, hgenuine, -⟩ := h.speaks.sent m hm
      exact ⟨n, hgenuine⟩

/-- The server takes whatever arrives. -/
theorem DirSetup.Sound.arrives (h : w.Sound s) (hfaithful : ∀ a ∈ s.channel.sent, w.Faithful a) :
    ∃ s', w.step s .arrives = .ok s' := by
  unfold DirSetup.step
  cases hnext : s.channel.next with
  | none => exact ⟨s, rfl⟩
  | some a =>
      have ha : a ∈ s.channel.sent := List.mem_of_getElem? hnext
      dsimp only
      rw [receive_genuine (h.genuine ha) (hfaithful a ha)]
      exact ⟨_, rfl⟩

theorem sends_messages {d d' : Daemon} (h : d.dirclient.sent <+: d'.dirclient.sent)
    (e : AnnounceEvent) : d'.dirclient.sent
      = d.dirclient.sent ++ (w.sends d d' e).filterMap Announcement.message? := by
  have hnodes : ∀ ms : List DirMessage,
      (ms.map Announcement.node).filterMap Announcement.message? = ms := by
    intro ms
    rw [List.filterMap_map]
    exact List.filterMap_some
  have hgroups : ∀ gs : List MulticastGroup,
      (gs.map Announcement.group).filterMap Announcement.message? = [] := by
    intro gs
    rw [List.filterMap_map]
    exact List.filterMap_eq_nil_iff.mpr fun _ _ => rfl
  obtain ⟨ms, hms⟩ := h
  unfold DirSetup.sends
  rw [← hms, List.drop_left]
  cases e with
  | daemon e => rw [hnodes]
  | resend => rw [List.filterMap_append, hgroups, hnodes, List.nil_append]

theorem group_mem_sends {d d' : Daemon} {e : AnnounceEvent} {g : MulticastGroup}
    (h : .group g ∈ w.sends d d' e) : g ∈ w.groups := by
  have hnodes : ∀ ms : List DirMessage, Announcement.group g ∉ ms.map .node := by
    intro ms hmem
    obtain ⟨m, -, heq⟩ := List.mem_map.mp hmem
    cases heq
  unfold DirSetup.sends at h
  cases e with
  | daemon e => exact absurd h (hnodes _)
  | resend =>
      rcases List.mem_append.mp h with h | h
      · simpa using h
      · exact absurd h (hnodes _)

theorem DirSetup.Sound.step (h : w.Sound s) (hstep : w.step s e = .ok s') : w.Sound s' := by
  have hsame : ∀ f : Event Announcement, f.messages = [] →
      (s.channel.step f).sent = s.channel.sent := by
    intro f hf
    rw [step_sent, hf, List.append_nil]
  cases DirSetup.step_steps hstep with
  | @client e d done =>
      obtain ⟨hspeaks, ms, hdeletes, hupdates⟩ := h.speaks.step done
      refine ⟨hspeaks, ?_, fun g => ⟨fun hg => ?_, fun hg =>
        List.mem_append_left _ ((h.groups g).mpr hg)⟩⟩
      · rw [sends_messages (hdeletes.isPrefix.trans hupdates.isPrefix) e, ← h.nodes]
        exact List.filterMap_append
      · rcases List.mem_append.mp hg with hg | hg
        · exact (h.groups g).mp hg
        · exact group_mem_sends hg
  | idle => exact h
  | arrives =>
      have hsent := hsame .arrive rfl
      refine ⟨h.speaks, ?_, fun g => ?_⟩ <;> rw [hsent]
      · exact h.nodes
      · exact h.groups g
  | lost =>
      have hsent := hsame .lose rfl
      refine ⟨h.speaks, ?_, fun g => ?_⟩ <;> rw [hsent]
      · exact h.nodes
      · exact h.groups g
  | second => exact ⟨h.speaks, h.nodes, h.groups⟩

theorem DirSetup.Sound.init (h : Speaks d₀) (hclient : d₀.dirclient.sent = []) :
    w.Sound (w.init dirttl d₀) := by
  refine ⟨h, ?_, fun g => ?_⟩
  · show (w.groups.map Announcement.group).filterMap _ = d₀.dirclient.sent
    rw [hclient, List.filterMap_map]
    exact List.filterMap_eq_nil_iff.mpr fun _ _ => rfl
  · show Announcement.group g ∈ w.groups.map Announcement.group ↔ _
    simp

/-- **The server** is what it has heard. -/
theorem Directory.heard (hsound : w.Sound (w.init dirttl d₀))
    (hrun : Run w.step (fun _ _ => True) (w.init dirttl d₀) es s)
    (hfaithful : ∀ a ∈ s.channel.sent, w.Faithful a) :
    s.server = dirserverRun w.jsonC.print dirttl (s.channel.heard.map w.heard) := by
  suffices h : w.Sound s ∧ ((∀ a ∈ s.channel.sent, w.Faithful a) →
      s.server = dirserverRun w.jsonC.print dirttl (s.channel.heard.map w.heard)) from
    h.2 hfaithful
  refine hrun.invariant (I := fun s => w.Sound s ∧ ((∀ a ∈ s.channel.sent, w.Faithful a) →
    s.server = dirserverRun w.jsonC.print dirttl (s.channel.heard.map w.heard)))
    ⟨hsound, fun _ => rfl⟩ fun s e s' hs _ hstep => ?_
  obtain ⟨hs, hserver⟩ := hs
  refine ⟨hs.step hstep, fun hfaithful => ?_⟩
  have hone : ∀ (f : Event Announcement) (o : Option Announcement), s.channel.out f = [o] →
      (∀ a ∈ s.channel.sent, w.Faithful a) →
      dirserverStep w.jsonC.print s.server (w.heard o)
        = dirserverRun w.jsonC.print dirttl ((s.channel.step f).heard.map w.heard) := by
    intro f o hf hold
    rw [step_heard, hf, List.map_append, List.map_singleton, dirserverRun_snoc, ← hserver hold]
  cases DirSetup.step_steps hstep with
  | client done => exact hserver fun a ha => hfaithful a (List.mem_append_left _ ha)
  | idle => exact hserver hfaithful
  | @arrives a server next received =>
      have hold : ∀ a ∈ s.channel.sent, w.Faithful a := by
        intro b hb
        refine hfaithful b ?_
        show b ∈ (s.channel.step .arrive).sent
        rw [step_sent]
        exact List.mem_append_left _ hb
      have ha : a ∈ s.channel.sent := List.mem_of_getElem? next
      rw [receive_genuine (hs.genuine ha) (hold a ha)] at received
      cases received
      refine hone .arrive (some a) ?_ hold
      unfold Channel.out
      rw [next]
      rfl
  | lost =>
      have hold : ∀ a ∈ s.channel.sent, w.Faithful a := by
        intro b hb
        refine hfaithful b ?_
        show b ∈ (s.channel.step .lose).sent
        rw [step_sent]
        exact List.mem_append_left _ hb
      show s.server = _
      rw [step_heard]
      exact (hserver hold).trans (by simp [Channel.out])
  | second => exact hone .tick none rfl hfaithful

end System

end Ubd
