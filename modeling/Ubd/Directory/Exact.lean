import Ubd.Directory.Network
import Ubd.Directory.Offered

/-!
# Directory.Exact — the directory lists what is there

`directory_exact` puts the client, the network and the server together: if nothing gets lost and
all comes in time, the table of the server is that of the groups and of the nodes that are up.
`directory_sound` is about a network that loses messages: who is not announced any more is
forgotten all the same.
-/

namespace Ubd

open Runs Lifetimes SoftState Exchange

/-! ## The channel of a run -/

/-- What the client says if it takes this step. -/
def DirSetup.toSay (w : DirSetup) (d : Daemon) (e : AnnounceEvent) : List Announcement :=
  match announceStep d e with
  | .ok d' => w.sends d d' e
  | .error _ => []

/-- What a step is for the channel. -/
def DirSetup.label (w : DirSetup) (s : Directory) : DirectoryEvent → Event Announcement
  | .client e => .send (w.toSay s.daemon e)
  | .arrives => .arrive
  | .lost => .lose
  | .second => .tick

/-- The events of the channel in a history. -/
def DirSetup.labels (w : DirSetup) (tr : List (Directory × DirectoryEvent)) :
    List (Event Announcement) :=
  .send (w.groups.map .group) :: tr.map fun q => w.label q.1 q.2

/-- A history of the system. -/
abbrev DirSetup.History (w : DirSetup) (dirttl : Nat) (d₀ : Daemon)
    (tr : List (Directory × DirectoryEvent)) (s : Directory) : Prop :=
  Traced w.step (fun _ _ => True) (w.init dirttl d₀) tr s

/-- No message is on the way for more than `late` seconds. -/
def DirSetup.Prompt (w : DirSetup) (dirttl : Nat) (d₀ : Daemon) (late : Nat)
    (es : List DirectoryEvent) : Prop :=
  ∀ x y z u v, es = x ++ y ++ z → Run w.step (fun _ _ => True) (w.init dirttl d₀) x u →
    Run w.step (fun _ _ => True) (w.init dirttl d₀) (x ++ y) v →
    late < y.countP DirectoryEvent.isSecond → u.channel.sent.length ≤ v.channel.gone

/-- Whenever a second has passed, nothing is on the way. -/
def OnTime (s : Directory) (e : DirectoryEvent) : Prop :=
  e.isSecond = true → s.channel.sent.length ≤ s.channel.gone

instance (s : Directory) (e : DirectoryEvent) : Decidable (OnTime s e) :=
  inferInstanceAs (Decidable (_ → _))

/-- The events of the client. -/
def clientEvents (es : List DirectoryEvent) : List AnnounceEvent :=
  es.filterMap DirectoryEvent.client?

section Histories

variable {w : DirSetup} {dirttl late n : Nat} {d₀ : Daemon} {s s' : Directory}
  {e : DirectoryEvent} {es : List DirectoryEvent} {tr tr' : List (Directory × DirectoryEvent)}

theorem says_eq {d d' : Daemon} {c : AnnounceEvent} (h : announceStep d c = .ok d') :
    w.toSay d c = w.sends d d' c := by
  unfold DirSetup.toSay
  rw [h]

theorem step_label (h : w.step s e = .ok s') : s'.channel = s.channel.step (w.label s e) := by
  cases DirSetup.step_steps h with
  | client done =>
      show s.channel.step (.send _) = s.channel.step (.send (w.toSay s.daemon _))
      rw [says_eq done]
  | idle nothing =>
      show s.channel = s.channel.step .arrive
      unfold Channel.step
      rw [nothing]
  | arrives next received => rfl
  | lost => rfl
  | second => rfl

/-- **The channel** is that of the events. -/
theorem history_channel (h : w.History dirttl d₀ tr s) : s.channel = channel (w.labels tr) := by
  induction h with
  | nil => rfl
  | snoc _ _ done ih =>
      unfold DirSetup.labels
      rw [List.map_append, List.map_singleton, ← List.cons_append, channel_snoc, step_label done,
        ih]
      rfl

theorem labels_append :
    w.labels (tr ++ tr') = w.labels tr ++ tr'.map fun q => w.label q.1 q.2 := by
  unfold DirSetup.labels
  rw [List.map_append, List.cons_append]

theorem label_isTick (s : Directory) (e : DirectoryEvent) :
    (w.label s e).isTick = e.isSecond := by
  cases e <;> rfl

theorem labels_ticks (tr : List (Directory × DirectoryEvent)) :
    (tr.map fun q => w.label q.1 q.2).countP Event.isTick
      = (tr.map Prod.snd).countP DirectoryEvent.isSecond := by
  rw [List.countP_map, List.countP_map]
  exact congrArg (List.countP · tr) (funext fun q => label_isTick q.1 q.2)

theorem labels_lossless (h : DirectoryEvent.lost ∉ tr.map Prod.snd) : Lossless (w.labels tr) := by
  intro hmem
  rcases List.mem_cons.mp hmem with heq | hmem
  · cases heq
  · obtain ⟨⟨s, e⟩, hq, heq⟩ := List.mem_map.mp hmem
    refine h (List.mem_map.mpr ⟨(s, e), hq, ?_⟩)
    dsimp only at heq ⊢
    cases e with
    | lost => rfl
    | _ => cases heq

/-- A part of the events of the channel, as one of the history. -/
theorem labels_split {x y z : List (Event Announcement)} (h : w.labels tr = x ++ y ++ z)
    (hx : x ≠ []) : ∃ a b c, tr = a ++ b ++ c ∧ x = w.labels a
      ∧ y = b.map fun q => w.label q.1 q.2 := by
  obtain ⟨f, x, rfl⟩ := List.exists_cons_of_ne_nil hx
  obtain ⟨rfl, htr⟩ := List.cons.inj h
  obtain ⟨ab, c, rfl, hab, -⟩ := List.map_eq_append_iff.mp htr
  obtain ⟨a, b, rfl, rfl, rfl⟩ := List.map_eq_append_iff.mp hab
  exact ⟨a, b, c, rfl, rfl, rfl⟩

theorem labels_prompt (hprompt : w.Prompt dirttl d₀ late (tr.map Prod.snd))
    (h : w.History dirttl d₀ tr s) : SoftState.Prompt late (w.labels tr) := by
  intro x y z hxyz hlate
  by_cases hx : x = []
  · subst hx
    exact Nat.zero_le _
  · obtain ⟨a, b, c, rfl, rfl, rfl⟩ := labels_split hxyz hx
    obtain ⟨v, hv⟩ := h.prefix
    obtain ⟨u, hu⟩ := hv.prefix
    rw [← labels_append, ← history_channel hu, ← history_channel hv]
    rw [labels_ticks] at hlate
    refine hprompt (a.map Prod.snd) (b.map Prod.snd) (c.map Prod.snd) u v (by simp) hu.run ?_ hlate
    rw [← List.map_append]
    exact hv.run

/-- **The client's own run.** -/
theorem history_client (h : w.History dirttl d₀ tr s) :
    Run announceStep (fun _ _ => True) d₀ (clientEvents (tr.map Prod.snd)) s.daemon := by
  have hmeans : ∀ s e s', w.step s e = .ok s' →
      Means announceStep (fun _ _ => True) s.daemon s'.daemon e.client? := by
    intro s e s' hdone
    cases DirSetup.step_steps hdone with
    | client done => exact ⟨trivial, done⟩
    | idle => rfl
    | arrives => rfl
    | lost => rfl
    | second => rfl
  unfold clientEvents
  rw [List.filterMap_map]
  exact (h.refine Directory.daemon (fun _ e => e.client?) (I := fun _ => True) trivial
    fun s e s' _ _ hdone => ⟨trivial, hmeans s e s' hdone⟩).2

/-- More and more is sent, and more and more leaves the channel. -/
theorem channel_grows {fs : List DirectoryEvent} {t : Directory}
    (ht : Run w.step (fun _ _ => True) (w.init dirttl d₀) es t)
    (hs : Run w.step (fun _ _ => True) (w.init dirttl d₀) (es ++ fs) s) :
    t.channel.gone ≤ s.channel.gone ∧ t.channel.sent.length ≤ s.channel.sent.length := by
  refine Run.relation (R := fun a b : Directory => a.channel.gone ≤ b.channel.gone
    ∧ a.channel.sent.length ≤ b.channel.sent.length) (fun _ => ⟨Nat.le_refl _, Nat.le_refl _⟩)
    (fun a b c hab hbc => ⟨Nat.le_trans hab.1 hbc.1, Nat.le_trans hab.2 hbc.2⟩)
    (fun es a e b _ _ hdone => ?_) ht hs
  rw [step_label hdone, step_sent, List.length_append]
  exact ⟨step_gone _ _, Nat.le_add_right _ _⟩

/-- Messages that leave the channel within a second are not late. -/
theorem prompt_of_onTime (h : Run w.step OnTime (w.init dirttl d₀) es s) :
    w.Prompt dirttl d₀ 0 es := by
  induction h with
  | nil =>
      intro x y z u v hes hu hv hlate
      obtain ⟨hxy, -⟩ := List.append_eq_nil_iff.mp hes.symm
      rw [(List.append_eq_nil_iff.mp hxy).2] at hlate
      cases hlate
  | @snoc es s s' e run guard done ih =>
      have hs : Run w.step (fun _ _ => True) (w.init dirttl d₀) es s :=
        run.weaken fun _ _ _ => trivial
      have hs' := hs.snoc trivial done
      have hgone : s.channel.gone ≤ s'.channel.gone := (channel_grows hs hs').1
      intro x y z u v hes hu hv hlate
      rcases List.eq_nil_or_concat' z with rfl | ⟨z, e', rfl⟩
      · rcases List.eq_nil_or_concat' y with rfl | ⟨y, e', rfl⟩
        · cases hlate
        · rw [List.append_nil, ← List.append_assoc] at hes
          obtain ⟨rfl, heq⟩ := List.append_inj' hes rfl
          cases heq
          rw [← List.append_assoc] at hv
          rw [hv.unique hs']
          refine Nat.le_trans ?_ hgone
          by_cases he : e.isSecond = true
          · exact Nat.le_trans (channel_grows hu hs).2 (guard he)
          · -- the second is an earlier one
            rw [List.countP_append, List.countP_singleton, if_neg he] at hlate
            exact ih x y [] u s (List.append_nil _).symm hu hs hlate
      · rw [← List.append_assoc] at hes
        exact ih x y z u v (List.append_inj' hes rfl).1 hu hv hlate

end Histories

/-! ## What stands -/

/-- The last that was said about this key is an update. -/
def Stands (k : CString) (as : List Announcement) : Prop :=
  ∃ a post, LastWith (fun a => a.key = k) as a post ∧ a.isUpdate = true

/-- No node has the name of a group. -/
def DirSetup.Apart (w : DirSetup) (s : Directory) : Prop :=
  ∀ g ∈ w.groups, ∀ i, (s.daemon.nodes i).busadr ≠ 0 → (s.daemon.nodes i).id ≠ upToNul g.name

/-- What holds in every state of a run, if these nodes are up. -/
structure DirSetup.Reached (w : DirSetup) (up : NodeId → Prop) (s : Directory) : Prop where
  sound : w.Sound s
  rostered : Rostered s.daemon
  mirrors : Mirrors s.daemon up
  apart : w.Apart s

section Standing

variable {w : DirSetup} {s : Directory} {up : NodeId → Prop} {k : CString} {i : NodeId}
  {type : String} {a : Announcement} {dirttl : Nat}

theorem upToNul_plain {t : CString} (h : (0 : UInt8) ∉ t) : upToNul t = t := by
  refine List.takeWhile_eq_self_iff.mpr fun b hb => ?_
  have hne : b ≠ 0 := fun heq => h (heq ▸ hb)
  simpa using hne

theorem DirMessage.Concerns.key {m : DirMessage} {id : CString} (h : m.Concerns type id) :
    pairKey m.pair = pairKey (upToNul id, cString type) := by
  rcases h with h | rfl
  · cases m with
    | updateService =>
        obtain ⟨rfl, rfl⟩ := h
        rfl
    | deleteService => exact h.elim
  · rfl

/-- What is said about a node is said about this node alone, and not about a group. -/
theorem DirSetup.Reached.key_iff (h : w.Reached up s) (hi : (s.daemon.nodes i).busadr ≠ 0)
    (htype : type ∈ classNames) (ha : a ∈ s.channel.sent) :
    a.key = pairKey (upToNul (s.daemon.nodes i).id, cString type)
      ↔ ∃ m, a.message? = some m ∧ m.Concerns type (s.daemon.nodes i).id := by
  have hid := upToNul_plain (h.rostered.slots i).1.1
  change upToNul (s.daemon.nodes i).id = (s.daemon.nodes i).id at hid
  constructor
  · intro hkey
    cases a with
    | group g =>
        obtain ⟨hname, -⟩ := pairKey_inj (className_mem g.cls) htype hkey
        rw [hid] at hname
        exact absurd hname.symm (h.apart g ((h.sound.groups g).mp ha) i hi)
    | node m =>
        have hm : m ∈ s.daemon.dirclient.sent := by
          rw [← h.sound.nodes]
          exact List.mem_filterMap.mpr ⟨_, ha, rfl⟩
        obtain ⟨n, x, hgenuine, -, hx⟩ := h.sound.speaks.sent m hm
        have hn : upToNul n.id = n.id := by
          rw [← hx]
          exact upToNul_plain (h.rostered.slots x).1.1
        cases hgenuine with
        | update j adr =>
            obtain ⟨hown, hname⟩ := pairKey_inj (className_mem (n.classes j)) htype hkey
            rw [hn, hid] at hown
            exact ⟨_, rfl, .inl ⟨hname, hown⟩⟩
        | delete j =>
            obtain ⟨hown, hname⟩ := pairKey_inj (className_mem (n.classes j)) htype hkey
            rw [hn, hid] at hown
            refine ⟨_, rfl, .inr ?_⟩
            unfold deleteMessage
            rw [hown, hname]
  · rintro ⟨m, hm, hconcerns⟩
    cases a with
    | group g => cases hm
    | node m' =>
        cases hm
        exact hconcerns.key

theorem DirSetup.Reached.stands_node (h : w.Reached up s) (hi : (s.daemon.nodes i).busadr ≠ 0)
    (htype : type ∈ classNames) :
    Stands (pairKey (upToNul (s.daemon.nodes i).id, cString type)) s.channel.sent
      ↔ Outstanding s.daemon.dirclient.sent type (s.daemon.nodes i).id := by
  unfold Stands Outstanding
  rw [← h.sound.nodes]
  constructor
  · rintro ⟨a, post, hlast, hupdate⟩
    rw [lastWith_congr fun b hb => h.key_iff hi htype hb] at hlast
    obtain ⟨m, hm, hconcerns⟩ := hlast.holds
    obtain ⟨post', hlast'⟩ := lastWith_filterMap.mpr ⟨a, post, hm, hlast⟩
    refine ⟨m, post', hlast', hconcerns.resolve_right fun hdelete => ?_⟩
    cases a with
    | group g => cases hm
    | node m' =>
        cases hm
        rw [hdelete] at hupdate
        cases hupdate
  · rintro ⟨m, post', hlast', hannounces⟩
    obtain ⟨a, post, hm, hlast⟩ := lastWith_filterMap.mp ⟨post', hlast'⟩
    rw [← lastWith_congr fun b hb => h.key_iff hi htype hb] at hlast
    refine ⟨a, post, hlast, ?_⟩
    cases a with
    | group g => rfl
    | node m' =>
        cases hm
        exact isUpdate_iff.mpr ⟨_, _, hannounces⟩

/-- **What stands**: the groups, and what nodes that are up offer. -/
theorem DirSetup.Reached.stands_iff (h : w.Reached up s) : Stands k s.channel.sent
    ↔ (∃ g ∈ w.groups, pairKey g.pair = k)
      ∨ ∃ i slot, up i ∧ (s.daemon.nodes i).classes slot ≠ 0
        ∧ pairKey (servicePair (s.daemon.nodes i) slot) = k := by
  constructor
  · rintro ⟨a, post, hlast, hupdate⟩
    have ha := hlast.mem
    have hkey := hlast.holds
    cases a with
    | group g => exact .inl ⟨g, (h.sound.groups g).mp ha, hkey⟩
    | node m =>
        have hm : m ∈ s.daemon.dirclient.sent := by
          rw [← h.sound.nodes]
          exact List.mem_filterMap.mpr ⟨_, ha, rfl⟩
        obtain ⟨n, x, hgenuine, hadr, hx⟩ := h.sound.speaks.sent m hm
        cases hgenuine with
        | delete j => cases hupdate
        | update j adr =>
            change pairKey (upToNul n.id, cString (classesGetClassName (n.classes j))) = k at hkey
            have hout : Outstanding s.daemon.dirclient.sent (classesGetClassName (n.classes j))
                (s.daemon.nodes x).id := by
              rw [← h.stands_node hadr (className_mem _), hx, hkey]
              exact ⟨_, post, hlast, hupdate⟩
            by_cases hup : up x
            · obtain ⟨slot, hclass, hname⟩ := ((h.mirrors.tells x hup).types _).mp hout
              refine .inr ⟨x, slot, hup, hclass, ?_⟩
              unfold servicePair
              rw [hname, hx, hkey]
            · exact absurd hout ((h.mirrors.silent x hadr hup).2 _)
  · rintro (⟨g, hg, hkey⟩ | ⟨i, slot, hup, hclass, rfl⟩)
    · obtain ⟨a, post, hlast⟩ := exists_lastWith (l := s.channel.sent)
        (H := fun a => a.key = k) ⟨.group g, (h.sound.groups g).mpr hg, hkey⟩
      refine ⟨a, post, hlast, ?_⟩
      cases a with
      | group g' => rfl
      | node m =>
          -- no node has the name of the group
          have hm : m ∈ s.daemon.dirclient.sent := by
            rw [← h.sound.nodes]
            exact List.mem_filterMap.mpr ⟨_, hlast.mem, rfl⟩
          obtain ⟨n, x, hgenuine, hadr, hx⟩ := h.sound.speaks.sent m hm
          have hn : upToNul n.id = n.id := by
            rw [← hx]
            exact upToNul_plain (h.rostered.slots x).1.1
          have hsame : upToNul n.id = upToNul g.name := by
            have hboth := hlast.holds.trans hkey.symm
            cases hgenuine with
            | update j => exact (pairKey_inj (className_mem _) (className_mem _) hboth).1
            | delete j => exact (pairKey_inj (className_mem _) (className_mem _) hboth).1
          refine absurd ?_ (h.apart g hg x hadr)
          rw [hx, ← hn, hsame]
    · exact (h.stands_node (h.mirrors.assigned i hup) (className_mem _)).mpr
        (((h.mirrors.tells i hup).types _).mpr ⟨slot, hclass, rfl⟩)

/-- **What stands is said again** in the tick of the client. -/
theorem DirSetup.Reached.resent (h : w.Reached up s) (hstands : Stands k s.channel.sent) :
    ∃ a ∈ w.toSay s.daemon .resend, a.key = k := by
  rw [says_eq (show announceStep s.daemon .resend = .ok _ from rfl)]
  unfold DirSetup.sends
  dsimp only
  rcases h.stands_iff.mp hstands with ⟨g, hg, hkey⟩ | ⟨i, slot, hup, hclass, rfl⟩
  · exact ⟨.group g, List.mem_append_left _ (List.mem_map_of_mem hg), hkey⟩
  · have htells := h.mirrors.tells i hup
    obtain ⟨m, hm⟩ := htells.entries slot hclass
    obtain ⟨-, hannounces⟩ := htells.entry slot m hm
    refine ⟨.node m, List.mem_append_right _ (List.mem_map_of_mem ?_),
      DirMessage.Concerns.key (.inl hannounces)⟩
    show m ∈ (s.daemon.dirclient.sent ++ s.daemon.dirclient.services.map Prod.snd).drop _
    rw [List.drop_left]
    exact List.mem_map_of_mem hm

/-- **The server lists** what was updated last, and not long ago. -/
theorem Directory.listed_iff (hd : 1 ≤ dirttl)
    (hserver : s.server = dirserverRun w.jsonC.print dirttl (s.channel.heard.map w.heard))
    (hgenuine : ∀ a, some a ∈ s.channel.heard → a.Genuine) : k ∈ s.server.services
    ↔ ∃ a post, LastWith (fun o => ∃ a, o = some a ∧ a.key = k) s.channel.heard (some a) post
      ∧ a.isUpdate = true ∧ post.countP Option.isNone < dirttl := by
  have hdecides : ∀ o ∈ s.channel.heard, ((w.heard o).signal w.jsonC.print k).Decides
      ↔ ∃ a, o = some a ∧ a.key = k := by
    intro o ho
    rw [signal_decides]
    cases o with
    | none => exact iff_of_false (fun h => h.elim id id) fun ⟨a, ha, _⟩ => nomatch ha
    | some a =>
        refine (event_about (hgenuine a ho)).trans ⟨fun hkey => ⟨a, rfl, hkey⟩, ?_⟩
        rintro ⟨b, hb, hkey⟩
        cases hb
        exact hkey
  have htick : ∀ post : List (Option Announcement),
      (post.map w.heard).countP DirEvent.isTick = post.countP Option.isNone := by
    intro post
    rw [List.countP_map]
    refine congrArg (List.countP · post) (funext fun o => ?_)
    cases o with
    | none => rfl
    | some a =>
        show (a.event w).isTick = false
        unfold Announcement.event
        dsimp only
        split <;> rfl
  rw [hserver, mem_iff hd]
  simp only [lastUpdate_iff w.jsonC.print, lastWith_map]
  constructor
  · rintro ⟨json, _, ⟨hupdates, o, post, ho, rfl, hlast⟩, hcount⟩
    rw [htick] at hcount
    cases o with
    | none => cases ho
    | some a =>
        refine ⟨a, post, (lastWith_congr hdecides).mp hlast, ?_, hcount⟩
        rw [ho] at hupdates
        exact ((event_updates (hgenuine a hlast.mem)).mp hupdates).1
  · rintro ⟨a, post, hlast, hupdate, hcount⟩
    have ha := hgenuine a hlast.mem
    obtain ⟨b, hb, hkey⟩ := hlast.holds
    cases hb
    have hupdates := (event_updates (w := w) ha).mpr ⟨hupdate, hkey⟩
    obtain ⟨json, hjson⟩ : ∃ json, a.event w = .update json := by
      unfold Announcement.event
      dsimp only
      rw [if_pos hupdate]
      exact ⟨_, rfl⟩
    refine ⟨json, post.map w.heard, ⟨?_, some a, post, hjson.symm, rfl,
      (lastWith_congr hdecides).mpr hlast⟩, ?_⟩
    · rw [← hjson]
      exact hupdates
    · rw [htick]
      exact hcount

end Standing

/-! ## Runs -/

/-- A network that loses nothing and is not too late, a client that is not too slow, and nodes
that keep their classes. -/
structure DirSetup.Reliable (w : DirSetup) (dirttl : Nat) (d₀ : Daemon) (n late : Nat)
    (es : List DirectoryEvent) : Prop where
  lossless : .lost ∉ es
  resends : Often (· = .client .resend) DirectoryEvent.isSecond n es
  prompt : w.Prompt dirttl d₀ late es
  stays : ClassesStay d₀ (clientEvents es)

section Reached

variable {w : DirSetup} {dirttl late n : Nat} {nodetimeout : Int} {cs : List NodeConfig}
  {d₀ d : Daemon} {s u : Directory} {es : List DirectoryEvent} {as as' : List AnnounceEvent}
  {tr tr' : List (Directory × DirectoryEvent)} {k : CString}

theorem clientEvents_append (es fs : List DirectoryEvent) :
    clientEvents (es ++ fs) = clientEvents es ++ clientEvents fs := List.filterMap_append

theorem run_announcing (h₀ : configured nodetimeout cs = .ok d₀)
    (hrun : Run announceStep (fun _ _ => True) d₀ as d) : Announcing d :=
  hrun.invariant (configured_announcing h₀).1 fun _ _ _ hs _ hstep => hs.step hstep

theorem run_rostered (h₀ : configured nodetimeout cs = .ok d₀)
    (hplain : ∀ c ∈ cs, (0 : UInt8) ∉ c.id ∧ (0 : UInt8) ∉ c.hostname)
    (hrun : Run announceStep (fun _ _ => True) d₀ as d) : Rostered d := by
  refine (hrun.invariant (I := fun d => Announcing d ∧ Rostered d)
    ⟨(configured_announcing h₀).1, configured_rostered hplain h₀⟩ fun s e s' hs _ hstep => ?_).2
  refine ⟨hs.1.step hstep, ?_⟩
  cases e with
  | daemon e => exact hs.2.step hs.1.settled.wired hstep
  | resend =>
      cases hstep
      exact ⟨hs.2.slots, hs.2.name, hs.2.version⟩

/-- Nodes that have had an address keep their ids. -/
theorem run_ids (h₀ : configured nodetimeout cs = .ok d₀) {d' : Daemon}
    (hrun : Run announceStep (fun _ _ => True) d₀ as d)
    (hrun' : Run announceStep (fun _ _ => True) d₀ (as ++ as') d') (i : NodeId)
    (hi : (d.nodes i).busadr ≠ 0) :
    (d'.nodes i).busadr ≠ 0 ∧ (d'.nodes i).id = (d.nodes i).id := by
  refine Run.relation (R := fun a b => (a.nodes i).busadr ≠ 0 →
    (b.nodes i).busadr ≠ 0 ∧ (b.nodes i).id = (a.nodes i).id) (fun _ ha => ⟨ha, rfl⟩)
    (fun a b c hab hbc ha => ?_) (fun fs s e s' hs _ hstep ha => ?_) hrun hrun' hi
  · obtain ⟨hb, hid⟩ := hab ha
    obtain ⟨hc, hid'⟩ := hbc hb
    exact ⟨hc, hid'.trans hid⟩
  · have hannouncing := run_announcing h₀ hs
    refine ⟨announceStep_assigned hannouncing ha hstep, ?_⟩
    cases e with
    | daemon e => exact hannouncing.settled.keeps_id hstep ha
    | resend =>
        cases hstep
        rfl

theorem history_apart (h₀ : configured nodetimeout cs = .ok d₀)
    (hu : w.History dirttl d₀ tr u) (h : w.History dirttl d₀ (tr ++ tr') s) (hs : w.Apart s) :
    w.Apart u := by
  have hlater := history_client h
  rw [List.map_append, clientEvents_append] at hlater
  intro g hg i hi heq
  obtain ⟨hadr, hid⟩ := run_ids h₀ (history_client hu) hlater i hi
  exact hs g hg i hadr (hid.trans heq)

theorem configured_sound (h₀ : configured nodetimeout cs = .ok d₀) :
    w.Sound (w.init dirttl d₀) :=
  .init (configured_speaks h₀) (congrArg DirClient.sent (configured_dirclient h₀))

theorem history_sound (h₀ : configured nodetimeout cs = .ok d₀) (h : w.History dirttl d₀ tr s) :
    w.Sound s :=
  h.run.invariant (configured_sound h₀) fun _ _ _ hs _ hstep => hs.step hstep

theorem history_reached (h₀ : configured nodetimeout cs = .ok d₀)
    (hplain : ∀ c ∈ cs, (0 : UInt8) ∉ c.id ∧ (0 : UInt8) ∉ c.hostname)
    (h : w.History dirttl d₀ tr s) (hstays : ClassesStay d₀ (clientEvents (tr.map Prod.snd)))
    (hapart : w.Apart s) :
    w.Reached (Offered d₀ (clientEvents (tr.map Prod.snd))) s where
  sound := history_sound h₀ h
  rostered := run_rostered h₀ hplain (history_client h)
  mirrors := run_mirrors (configured_announcing h₀).1
    (fun i => (configured_silent h₀ i).2.2) (history_client h) hstays
  apart := hapart

/-- **What stands is repeated**, if the client is not too slow. -/
theorem history_repeats (h₀ : configured nodetimeout cs = .ok d₀)
    (hplain : ∀ c ∈ cs, (0 : UInt8) ∉ c.id ∧ (0 : UInt8) ∉ c.hostname)
    (h : w.History dirttl d₀ tr s) (hstays : ClassesStay d₀ (clientEvents (tr.map Prod.snd)))
    (hapart : w.Apart s)
    (hresends : Often (· = .client .resend) DirectoryEvent.isSecond n (tr.map Prod.snd)) :
    Repeats (fun a : Announcement => a.key = k) (fun a => a.isUpdate = true) n (w.labels tr) := by
  rintro x y z hxyz hticks ⟨m, post, hlast, hm⟩
  have hx : x ≠ [] := by
    rintro rfl
    exact not_lastWith_nil hlast
  obtain ⟨a, b, c, rfl, rfl, rfl⟩ := labels_split hxyz hx
  rw [labels_ticks] at hticks
  obtain ⟨_, hmem, rfl⟩ := hresends (a.map Prod.snd) (b.map Prod.snd) (c.map Prod.snd)
    (by simp) hticks
  obtain ⟨⟨u, e⟩, hmem, he⟩ := List.mem_map.mp hmem
  dsimp only at he
  subst he
  obtain ⟨b₁, b₂, rfl⟩ := List.append_of_mem hmem
  have hwhole : a ++ (b₁ ++ (u, .client .resend) :: b₂) ++ c
      = a ++ b₁ ++ (u, .client .resend) :: (b₂ ++ c) := by simp
  rw [hwhole] at h hstays
  have hu := h.step_at.1
  rw [List.map_append, List.flatMap_append]
  by_cases hany : ∃ m ∈ (b₁.map fun q => w.label q.1 q.2).flatMap Event.messages, m.key = k
  · obtain ⟨m', hm', hkey⟩ := hany
    exact ⟨m', List.mem_append_left _ hm', hkey⟩
  · -- nothing has been said about it when the client has its tick
    have hstands : Stands k u.channel.sent := by
      refine ⟨m, post ++ (b₁.map fun q => w.label q.1 q.2).flatMap Event.messages, ?_, hm⟩
      rw [history_channel hu, labels_append, channel_sent_append]
      exact hlast.miss_all fun m' hm' hkey => hany ⟨m', hm', hkey⟩
    rw [List.map_append, clientEvents_append] at hstays
    have hreached := history_reached h₀ hplain hu hstays.prefix (history_apart h₀ hu h hapart)
    obtain ⟨m', hm', hkey⟩ := hreached.resent hstands
    refine ⟨m', List.mem_append_right _ ?_, hkey⟩
    rw [List.map_cons, List.flatMap_cons]
    exact List.mem_append_left _ hm'

/-- What the client says about a node stands when it has been said. -/
theorem DirSetup.Reached.said (h : w.Reached (Offered d₀ as) s) {e : AnnounceEvent} {d : Daemon}
    (hspeaks : Speaks d) (hstep : announceStep d e = .ok s.daemon) {a : Announcement}
    (ha : a ∈ w.toSay d e) (hupdate : a.isUpdate = true) :
    (∃ g ∈ w.groups, a = .group g) ∨ Stands a.key s.channel.sent := by
  obtain ⟨-, ms, hdeletes, us, hsent, hus⟩ := hspeaks.step hstep
  rw [says_eq hstep] at ha
  cases a with
  | group g => exact .inl ⟨g, group_mem_sends ha, rfl⟩
  | node m =>
      right
      obtain ⟨ds, rfl, hds⟩ := hdeletes
      have hm : m ∈ us := by
        have hmessage : m ∈ ds ++ us := by
          have hprefix : d.dirclient.sent <+: s.daemon.dirclient.sent :=
            ⟨ds ++ us, by rw [hsent, List.append_assoc]⟩
          have hall := sends_messages (w := w) hprefix e
          rw [hsent, List.append_assoc, List.append_cancel_left_eq] at hall
          rw [hall]
          exact List.mem_filterMap.mpr ⟨_, ha, rfl⟩
        rcases List.mem_append.mp hmessage with hm | hm
        · have hdelete : m.isUpdate = false := hds m hm
          rw [show m.isUpdate = true from hupdate] at hdelete
          cases hdelete
        · exact hm
      have hlogged : m ∈ s.daemon.dirclient.sent := by
        rw [hsent]
        exact List.mem_append_right _ hm
      obtain ⟨n, x, hgenuine, hadr, hx⟩ := h.sound.speaks.sent m hlogged
      cases hgenuine with
      | delete j => cases hupdate
      | update j adr =>
          have hout : Outstanding s.daemon.dirclient.sent (classesGetClassName (n.classes j))
              (s.daemon.nodes x).id := by
            rw [hsent, outstanding_updates fun m hm => isUpdate_iff.mp (hus m hm)]
            exact .inr ⟨_, hm, rfl, hx.symm⟩
          have hstands := (h.stands_node hadr (className_mem _)).mpr hout
          rw [hx] at hstands
          exact hstands

/-- Every announcement of a part of a history has been said in one of its steps. -/
theorem history_said {a b : List (Directory × DirectoryEvent)} {m : Announcement}
    (h : w.History dirttl d₀ (a ++ b) s)
    (hm : m ∈ (b.map fun q => w.label q.1 q.2).flatMap Event.messages) :
    ∃ b₁ b₂ u v e, b = b₁ ++ (u, .client e) :: b₂ ∧ w.History dirttl d₀ (a ++ b₁) u
      ∧ announceStep u.daemon e = .ok v.daemon
      ∧ w.History dirttl d₀ (a ++ (b₁ ++ [(u, .client e)])) v ∧ m ∈ w.toSay u.daemon e := by
  obtain ⟨f, hf, hmf⟩ := List.mem_flatMap.mp hm
  obtain ⟨⟨u, e⟩, hq, rfl⟩ := List.mem_map.mp hf
  obtain ⟨b₁, b₂, rfl⟩ := List.append_of_mem hq
  rw [← List.append_assoc] at h
  obtain ⟨hu, v, hdone, hv⟩ := h.step_at
  rw [List.append_assoc] at hv
  cases e with
  | arrives => cases hmf
  | lost => cases hmf
  | second => cases hmf
  | client e =>
      refine ⟨b₁, b₂, u, v, e, rfl, hu, ?_, hv, hmf⟩
      cases DirSetup.step_steps hdone with
      | client done => exact done

/-- What the table holds has been heard lately. -/
theorem history_heard (h₀ : configured nodetimeout cs = .ok d₀) (h : w.History dirttl d₀ tr s)
    (hfaithful : ∀ a ∈ s.channel.sent, w.Faithful a) (hd : 1 ≤ dirttl) : k ∈ s.server.services
    ↔ ∃ a post, LastWith (fun o => ∃ a, o = some a ∧ a.key = k) (channel (w.labels tr)).heard
        (some a) post
      ∧ a.isUpdate = true ∧ post.countP Option.isNone < dirttl := by
  have hserver := Directory.heard (configured_sound h₀) h.run hfaithful
  have hchannel := history_channel h
  have hgenuine : ∀ a, some a ∈ s.channel.heard → a.Genuine := by
    intro a ha
    rw [hchannel] at ha
    refine (history_sound h₀ h).genuine ?_
    rw [hchannel]
    exact heard_sent ha
  rw [← hchannel]
  exact Directory.listed_iff hd hserver hgenuine

/-- The table of a server that has heard all there was. -/
theorem history_listed (h₀ : configured nodetimeout cs = .ok d₀)
    (hplain : ∀ c ∈ cs, (0 : UInt8) ∉ c.id ∧ (0 : UInt8) ∉ c.hostname)
    (h : w.History dirttl d₀ tr s) (hfaithful : ∀ a ∈ s.channel.sent, w.Faithful a)
    (hapart : w.Apart s) (hreliable : w.Reliable dirttl d₀ n late (tr.map Prod.snd))
    (hd : n + late + 2 ≤ dirttl) (hidle : s.channel.next = none) :
    k ∈ s.server.services ↔ Stands k s.channel.sent := by
  have hchannel := history_channel h
  have hlossless : Lossless (w.labels tr) := labels_lossless hreliable.lossless
  have hall : (channel (w.labels tr)).heard.filterMap id = s.channel.sent := by
    have hgone : s.channel.sent.length ≤ s.channel.gone := List.getElem?_eq_none_iff.mp hidle
    have hmessages := heard_messages hlossless
    rw [← hchannel, List.take_of_length_le hgone] at hmessages
    rw [← hchannel]
    exact hmessages
  rw [history_heard h₀ h hfaithful (by omega)]
  unfold Stands
  rw [← hall]
  constructor
  · rintro ⟨a, post, hlast, hupdate, -⟩
    obtain ⟨post', hlast'⟩ := (lastWith_filterMap (f := id)).mpr ⟨some a, post, rfl, hlast⟩
    exact ⟨a, post', hlast', hupdate⟩
  · rintro ⟨a, post', hlast', hupdate⟩
    obtain ⟨o, post, rfl, hlast⟩ := lastWith_filterMap.mp ⟨post', hlast'⟩
    refine ⟨a, post, hlast, hupdate, ?_⟩
    exact renewed_lately hlossless (labels_prompt hreliable.prompt h)
      (history_repeats h₀ hplain h hreliable.stays hapart hreliable.resends) hd hlast hupdate

end Reached

/-- **The directory is exact.** If nothing gets lost or comes late, the client repeats itself often
enough, nodes on offer keep their classes and no node has the name of a group: once all messages
have arrived, the table holds the groups and what the nodes offer whose sockets have been made and
whose time has not run out since, and nothing else. -/
theorem directory_exact (w : DirSetup) (nodetimeout : Int) (dirttl n late : Nat)
    (cs : List NodeConfig) (d₀ : Daemon) (es : List DirectoryEvent) (s : Directory)
    (h₀ : configured nodetimeout cs = .ok d₀)
    (hplain : ∀ c ∈ cs, (0 : UInt8) ∉ c.id ∧ (0 : UInt8) ∉ c.hostname)
    (hrun : Run w.step (fun _ _ => True) (w.init dirttl d₀) es s)
    (hfaithful : ∀ a ∈ s.channel.sent, w.Faithful a) (hapart : w.Apart s)
    (hreliable : w.Reliable dirttl d₀ n late es) (hd : n + late + 2 ≤ dirttl)
    (hidle : s.channel.next = none) (k : CString) :
    k ∈ s.server.services ↔ (∃ g ∈ w.groups, pairKey g.pair = k)
      ∨ ∃ i slot, Offered d₀ (clientEvents es) i ∧ (s.daemon.nodes i).classes slot ≠ 0
        ∧ pairKey (servicePair (s.daemon.nodes i) slot) = k := by
  obtain ⟨tr, h, rfl⟩ := hrun.traced
  rw [history_listed h₀ hplain h hfaithful hapart hreliable hd hidle]
  exact (history_reached h₀ hplain h hreliable.stays hapart).stands_iff

/-! A day of one lamp, with one group. -/

def everyLamp : MulticastGroup := ⟨cString "all", cString "All lamps", 23, 0x80⟩

def lampAnnouncements : List Announcement :=
  [.group everyLamp, .node (.updateService "moodlamp" (some (.freeAddr [0x61])) [0x61] [0x61] 2323)]

/-- How things are written. -/
def lampTexts : DirSetup where
  jsonC := ⟨fun _ => .null, flatText⟩
  text := addressText
  groupText := id
  groups := [everyLamp]

/-- With a json-c that can read no more than that. -/
def lampNetwork : DirSetup :=
  let objects := lampAnnouncements.map fun a => (a.json lampTexts).toOption.getD .null
  { lampTexts with
    jsonC := ⟨fun text => (objects[(objects.map flatText).idxOf text]?).getD .null, flatText⟩ }

theorem lampNetwork_faithful : ∀ a ∈ lampAnnouncements, lampNetwork.Faithful a := by
  have hread : ∀ (k : Nat) (json : Json),
      (lampAnnouncements.map fun a => (a.json lampTexts).toOption.getD .null)[k]? = some json →
      ((lampAnnouncements.map fun a => (a.json lampTexts).toOption.getD .null).map
        flatText).idxOf (flatText json) = k →
      lampNetwork.jsonC.parse (lampNetwork.jsonC.print json) = json := by
    intro k json hk hfirst
    show (_[_]?).getD .null = json
    rw [show lampNetwork.jsonC.print json = flatText json from rfl, hfirst, hk]
    rfl
  intro a ha json hjson
  rcases List.mem_cons.mp ha with rfl | ha
  · cases hjson
    exact hread 0 _ rfl (by decide +kernel)
  · cases List.mem_singleton.mp ha
    cases hjson
    exact hread 1 _ rfl (by decide +kernel)

/-- The lamp is discovered, comes up and is announced twice. -/
def lampDay : List DirectoryEvent :=
  [.client (.daemon (.packet (discoverPacket [0x61]) .connected)),
    .client (.daemon (.main (.tick fun _ => liveEnv))), .arrives, .arrives, .client .resend,
    .arrives, .arrives]

theorem lampDay_stays : ClassesStay (nodesInit 1) (clientEvents lampDay) := by
  refine classesStay_cons fun p connect hmem => ?_
  rcases hmem with _ | ⟨_, _ | ⟨_, hmem⟩⟩
  cases hmem

theorem lampDay_faithful {s : Directory}
    (h : s.channel.sent = lampAnnouncements ++ lampAnnouncements) :
    ∀ a ∈ s.channel.sent, lampNetwork.Faithful a := by
  intro a ha
  rw [h] at ha
  exact lampNetwork_faithful a ((List.mem_append.mp ha).elim id id)

theorem lampDay_offered : Offered (nodesInit 1) (clientEvents lampDay) ⟨0, by decide⟩ := by
  obtain ⟨t, ht, hconnected, hadr⟩ : ∃ t, Run announceStep (fun _ _ => True) (nodesInit 1)
      [.daemon (.packet (discoverPacket [0x61]) .connected)] t
        ∧ (t.nodes ⟨0, by decide⟩).ubnetd ≠ none ∧ (t.nodes ⟨0, by decide⟩).netadr ≠ none := by
    apply Run.exists_of_eval Fault.assertion
    decide +kernel
  refine ⟨[.daemon (.packet (discoverPacket [0x61]) .connected)], _, [.resend], t, rfl, ht,
    ⟨_, rfl, ⟨hconnected, rfl, hadr⟩, fun _ _ => ⟨rfl, rfl⟩, rfl⟩, ?_⟩
  intro mid e' post' t' hpost _
  rcases mid with _ | ⟨a, mid⟩
  · cases hpost
    rintro ⟨env, heq, -⟩
    cases heq
  · simp at hpost

/-- After two seconds the group and the lamp are listed. -/
theorem directory_exact_lamp : ∃ s, Run lampNetwork.step (fun _ _ => True)
      (lampNetwork.init 4 (nodesInit 1)) (lampDay ++ [.second, .second]) s
    ∧ cString "allmoodlamp" ∈ s.server.services ∧ cString "amoodlamp" ∈ s.server.services := by
  obtain ⟨s, htimely, hsent, hidle, hapart, hclass, hid⟩ : ∃ s, Run lampNetwork.step OnTime
      (lampNetwork.init 4 (nodesInit 1)) (lampDay ++ [.second, .second]) s
        ∧ s.channel.sent = lampAnnouncements ++ lampAnnouncements ∧ s.channel.next = none
        ∧ (∀ g ∈ [everyLamp], ∀ i, (s.daemon.nodes i).busadr ≠ 0 →
          (s.daemon.nodes i).id ≠ upToNul g.name)
        ∧ (s.daemon.nodes ⟨0, by decide⟩).classes .first = 23
        ∧ (s.daemon.nodes ⟨0, by decide⟩).id = [0x61] := by
    apply Run.exists_of_eval Fault.assertion
    decide +kernel
  have hs : Run lampNetwork.step (fun _ _ => True) _ _ s := htimely.weaken fun _ _ _ => trivial
  have hfaithful := lampDay_faithful hsent
  have hreliable : lampNetwork.Reliable 4 (nodesInit 1) 2 0 (lampDay ++ [.second, .second]) := by
    refine ⟨by simp [lampDay], fun a mid b hes hlong => ?_,
      prompt_of_onTime htimely, lampDay_stays⟩
    have htotal : 2 = (a ++ mid ++ b).countP DirectoryEvent.isSecond :=
      congrArg (List.countP DirectoryEvent.isSecond) hes
    rw [List.countP_append, List.countP_append] at htotal
    omega
  have hexact := directory_exact lampNetwork 1 4 2 0 [] (nodesInit 1) _ s rfl (by simp) hs
    hfaithful hapart hreliable (by decide) hidle
  refine ⟨s, hs, (hexact _).mpr (.inl ⟨everyLamp, List.mem_singleton_self _, by decide⟩),
    (hexact _).mpr (.inr ⟨⟨0, by decide⟩, .first, lampDay_offered, ?_, ?_⟩)⟩
  · rw [hclass]
    decide
  · unfold servicePair
    rw [hclass, hid]
    decide

/-- **Nothing else is listed, whatever gets lost**: while nodes on offer keep their classes, no node
has the name of a group and no message is under way for more than `late` seconds, the server takes
all that the client sends, if json-c reads what it writes; and once `late` and then `dirttl` seconds
have passed, what is in the table is a group or has been offered in this time. -/
theorem directory_sound (w : DirSetup) (nodetimeout : Int) (dirttl late : Nat)
    (cs : List NodeConfig) (d₀ : Daemon) (es : List DirectoryEvent) (s : Directory)
    (h₀ : configured nodetimeout cs = .ok d₀)
    (hplain : ∀ c ∈ cs, (0 : UInt8) ∉ c.id ∧ (0 : UInt8) ∉ c.hostname)
    (hrun : Run w.step (fun _ _ => True) (w.init dirttl d₀) es s)
    (hfaithful : ∀ a ∈ s.channel.sent, w.Faithful a) (hapart : w.Apart s)
    (hstays : ClassesStay d₀ (clientEvents es)) (hprompt : w.Prompt dirttl d₀ late es)
    (hd : 1 ≤ dirttl) :
    (∃ s', w.step s .arrives = .ok s') ∧ ∀ x y z, es = x ++ y ++ z →
      late < y.countP DirectoryEvent.isSecond → dirttl ≤ z.countP DirectoryEvent.isSecond →
      ∀ k ∈ s.server.services, (∃ g ∈ w.groups, pairKey g.pair = k)
        ∨ ∃ p q v i slot, y ++ z = p ++ q
          ∧ Run w.step (fun _ _ => True) (w.init dirttl d₀) (x ++ p) v
          ∧ Offered d₀ (clientEvents (x ++ p)) i ∧ (v.daemon.nodes i).classes slot ≠ 0
          ∧ pairKey (servicePair (v.daemon.nodes i) slot) = k := by
  obtain ⟨tr, h, rfl⟩ := hrun.traced
  refine ⟨(history_sound h₀ h).arrives hfaithful, fun x y z htr hlate hlong k hk => ?_⟩
  obtain ⟨ab, c, rfl, hab, rfl⟩ := List.map_eq_append_iff.mp htr
  obtain ⟨a, b, rfl, rfl, rfl⟩ := List.map_eq_append_iff.mp hab
  have hprompt' := labels_prompt hprompt h
  rw [labels_append, labels_append] at hprompt'
  obtain ⟨out, hheard, hticks, hout⟩ := heard_since hprompt' (by rw [labels_ticks]; exact hlate)
  rw [labels_ticks] at hticks
  rw [history_heard h₀ h hfaithful hd, labels_append, labels_append, hheard] at hk
  obtain ⟨m, post, hlast, hupdate, hcount⟩ := hk
  obtain ⟨m', hm', hkey⟩ := hlast.holds
  cases hm'
  -- the update is too young to be older than the last part
  have hsaid : m ∈ ((b ++ c).map fun q => w.label q.1 q.2).flatMap Event.messages := by
    rw [List.map_append]
    refine hout m (hlast.mem_or_before.resolve_right ?_)
    rintro ⟨post', rfl⟩
    rw [List.countP_append] at hcount
    omega
  obtain ⟨b₁, b₂, u, v, e, hsplit, hu, hstep, hv, hmf⟩ :=
    history_said (by rw [← List.append_assoc]; exact h) hsaid
  have hwhole : a ++ b ++ c = a ++ (b₁ ++ [(u, .client e)]) ++ b₂ := by
    rw [List.append_assoc, hsplit]
    simp
  rw [hwhole] at h hstays
  rw [List.map_append, clientEvents_append] at hstays
  have hreached' := history_reached h₀ hplain hv hstays.prefix (history_apart h₀ hv h hapart)
  have hspeaks := (history_sound h₀ hu).speaks
  rcases hreached'.said hspeaks hstep hmf hupdate with ⟨g, hg, rfl⟩ | hstands
  · exact .inl ⟨g, hg, hkey⟩
  · rw [hkey, hreached'.stands_iff] at hstands
    refine hstands.imp_right ?_
    rintro ⟨i, slot, hup, hclass, hslot⟩
    refine ⟨(b₁ ++ [(u, DirectoryEvent.client e)]).map Prod.snd, b₂.map Prod.snd, v, i, slot,
      ?_, ?_, ?_, hclass, hslot⟩
    · rw [← List.map_append, ← List.map_append, hsplit]
      simp
    · rw [← List.map_append]
      exact hv.run
    · rw [← List.map_append]
      exact hup

/-- The second time, the announcement of the group gets lost. -/
def lossyDay : List DirectoryEvent :=
  [.second, .client .resend, .lost, .arrives, .second]

/-- A second later the lamp is listed still. -/
theorem directory_sound_lamp : ∃ s, Run lampNetwork.step (fun _ _ => True)
      (lampNetwork.init 2 (nodesInit 1)) (lampDay.take 4 ++ [.second] ++ lossyDay) s
    ∧ (∃ s', lampNetwork.step s .arrives = .ok s') ∧ cString "amoodlamp" ∈ s.server.services
    ∧ ((∃ g ∈ lampNetwork.groups, pairKey g.pair = cString "amoodlamp")
      ∨ ∃ p q v i slot, [.second] ++ lossyDay = p ++ q
        ∧ Run lampNetwork.step (fun _ _ => True) (lampNetwork.init 2 (nodesInit 1))
          (lampDay.take 4 ++ p) v
        ∧ Offered (nodesInit 1) (clientEvents (lampDay.take 4 ++ p)) i
        ∧ (v.daemon.nodes i).classes slot ≠ 0
        ∧ pairKey (servicePair (v.daemon.nodes i) slot) = cString "amoodlamp") := by
  obtain ⟨s, htimely, hsent, hlisted, hapart⟩ : ∃ s, Run lampNetwork.step OnTime
      (lampNetwork.init 2 (nodesInit 1)) (lampDay.take 4 ++ [.second] ++ lossyDay) s
        ∧ s.channel.sent = lampAnnouncements ++ lampAnnouncements
        ∧ cString "amoodlamp" ∈ s.server.services
        ∧ ∀ g ∈ [everyLamp], ∀ i, (s.daemon.nodes i).busadr ≠ 0 →
          (s.daemon.nodes i).id ≠ upToNul g.name := by
    apply Run.exists_of_eval Fault.assertion
    decide +kernel
  have hs : Run lampNetwork.step (fun _ _ => True) _ _ s := htimely.weaken fun _ _ _ => trivial
  have hfaithful := lampDay_faithful hsent
  obtain ⟨harrives, hbacked⟩ := directory_sound lampNetwork 1 2 0 [] (nodesInit 1) _ s rfl (by simp)
    hs hfaithful hapart lampDay_stays (prompt_of_onTime htimely) (by decide)
  exact ⟨s, hs, harrives, hlisted,
    hbacked (lampDay.take 4) [.second] lossyDay rfl (by decide) (by decide) _ hlisted⟩

end Ubd
