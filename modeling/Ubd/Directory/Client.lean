import Ubd.Daemon.Net
import Ubd.Directory.Server
import Ubd.Lib.Runs

/-!
# Directory.Client — what the server makes of the client's messages

The messages of `directory-client.c`, as the JSON objects they are sent as, received one after
the other by `dirserver_newMCData`. `client_server_agree` says that a node that registers and is
removed leaves the table of the server as it was.
-/

namespace Ubd

open Runs

/-! ## The messages -/

/-- What is printed and sent. Without an address `json_object_new_string` gets `NULL`. -/
def DirMessage.json (text : NetAddr → CString) : DirMessage → Except Fault Json
  | .updateService serviceType url id name port =>
      match url with
      | none => .error .nullPointer
      | some addr => .ok (.object [(cString "cmd", .newString (cString "update-service")),
          (cString "name", .newString name), (cString "id", .newString id),
          (cString "url", .newString (text addr)), (cString "port", .int port),
          (cString "service-type", .newString (cString serviceType)),
          (cString "tcp", .boolean true), (cString "udp", .boolean true),
          (cString "multicast", .boolean false)])
  | .deleteService serviceType id => .ok (.object [(cString "cmd",
      .newString (cString "delete-service")), (cString "id", .newString id),
      (cString "service-type", .newString (cString serviceType))])

/-- `dirclient_addService`, of which only the message is needed here. -/
def updateMessage (n : Node) (classid : ClassId) : DirMessage :=
  .updateService (classesGetClassName (n.classes classid)) n.netadr n.id n.name
    (classesGetServicePort (n.classes classid))

/-- `dirclient_removeService`, likewise. -/
def deleteMessage (n : Node) (classid : ClassId) : DirMessage :=
  .deleteService (classesGetClassName (n.classes classid)) n.id

/-- The slots that services are announced for. -/
def Node.classids (n : Node) : List ClassId := classSlots.filter (n.classes · ≠ 0)

theorem mem_classids {n : Node} {i : ClassId} : i ∈ n.classids ↔ n.classes i ≠ 0 := by
  unfold Node.classids classSlots
  simp

/-- A loop over slots that sends a message for each. -/
theorem foldl_sent {f : DirClient → ClassId → DirClient} {m : ClassId → DirMessage}
    (hone : ∀ c i, (f c i).sent = c.sent ++ [m i]) (is : List ClassId) (c : DirClient) :
    (is.foldl f c).sent = c.sent ++ is.map m := by
  induction is generalizing c with
  | nil => simp
  | cons i is ih =>
      rw [List.foldl_cons, ih, hone]
      simp

theorem registerServices_sent (self : NodeId) (n : Node) (c : DirClient) :
    (dirclientRegisterServices self n c).sent = c.sent ++ n.classids.map (updateMessage n) :=
  foldl_sent (fun _ _ => rfl) _ c

theorem removeServices_sent (self : NodeId) (n : Node) (c : DirClient) :
    (dirclientRemoveServices self n c).sent = c.sent ++ n.classids.map (deleteMessage n) :=
  foldl_sent (fun _ _ => rfl) _ c

/-! ## Receiving them -/

/-- A message arrives. -/
def dirserverReceive (c : JsonC) (text : NetAddr → CString) (s : DirServer) (m : DirMessage) :
    Except Fault DirServer := do
  let json ← m.json text
  dirserverNewMCData c s (c.print json) true

/-- json-c reads the message back as it was. -/
def Faithful (c : JsonC) (text : NetAddr → CString) (m : DirMessage) : Prop :=
  ∀ json, m.json text = .ok json → c.parse (c.print json) = json

/-- The pair that a slot is announced and withdrawn under. -/
def servicePair (n : Node) (i : ClassId) : ServicePair :=
  (upToNul n.id, cString (classesGetClassName (n.classes i)))

/-- What an announcement says besides its command. -/
def serviceFields (text : NetAddr → CString) (addr : NetAddr) (n : Node) (i : ClassId) :
    List (CString × Json) :=
  [(cString "name", .newString n.name), (cString "id", .newString n.id),
    (cString "url", .newString (text addr)),
    (cString "port", .int (classesGetServicePort (n.classes i))),
    (cString "service-type", .newString (cString (classesGetClassName (n.classes i)))),
    (cString "tcp", .boolean true), (cString "udp", .boolean true),
    (cString "multicast", .boolean false)]

/-- What the server keeps of an announcement: all but the command. -/
def serviceEntry (text : NetAddr → CString) (addr : NetAddr) (n : Node) (i : ClassId) : Json :=
  .object (serviceFields text addr n i)

section Receiving

variable {c : JsonC} {text : NetAddr → CString} {n : Node} {addr : NetAddr} {i : ClassId}

theorem servicePort_range (cls : UInt8) :
    1 ≤ classesGetServicePort cls ∧ classesGetServicePort cls ≤ 65635 := by
  unfold classesGetServicePort
  split_ifs <;> decide

theorem upToNul_className (cls : UInt8) :
    upToNul (cString (classesGetClassName cls)) = cString (classesGetClassName cls) := by
  unfold classesGetClassName
  split_ifs <;> decide

/-- Classes with one name have one port. -/
theorem servicePort_of_className {cls cls' : UInt8}
    (h : classesGetClassName cls = classesGetClassName cls') :
    classesGetServicePort cls = classesGetServicePort cls' := by
  unfold classesGetClassName at h
  unfold classesGetServicePort
  split_ifs at h ⊢ <;> first | rfl | exact absurd h (by decide)

/-- The server accepts what the client announces, under the pair of the slot. -/
theorem serviceEntry_updatePair (text : NetAddr → CString) (addr : NetAddr) (n : Node)
    (i : ClassId) : (serviceEntry text addr n i).updatePair = some (servicePair n i) := by
  obtain ⟨hlo, hhi⟩ := servicePort_range (n.classes i)
  have hport : dirserverGetJsonInt (serviceEntry text addr n i) "port" 0
      = classesGetServicePort (n.classes i) := by
    show max (-2 ^ 31) (min (classesGetServicePort (n.classes i) : Int) (2 ^ 31 - 1)) = _
    omega
  have htype : dirserverGetJsonString (serviceEntry text addr n i) "service-type" none
      = some (cString (classesGetClassName (n.classes i))) := by
    show some (upToNul (upToNul _)) = _
    rw [upToNul_upToNul, upToNul_className]
  have hid : dirserverGetJsonString (serviceEntry text addr n i) "id" none
      = some (upToNul n.id) := by
    show some (upToNul (upToNul _)) = _
    rw [upToNul_upToNul]
  have hurl : dirserverGetJsonString (serviceEntry text addr n i) "url" none
      = some (upToNul (upToNul (text addr))) := rfl
  have hname : dirserverGetJsonString (serviceEntry text addr n i) "name" none
      = some (upToNul (upToNul n.name)) := rfl
  unfold Json.updatePair
  rw [htype, hid, hurl, hname, hport]
  dsimp only
  rw [if_pos (by omega)]
  rfl

/-- An announcement is received. -/
theorem receive_update (hadr : n.netadr = some addr) (hparse : Faithful c text (updateMessage n i))
    (s : DirServer) : dirserverReceive c text s (updateMessage n i)
      = .ok (dirserverUpdateServiceCmd c.print s (serviceEntry text addr n i)) := by
  have hjson : (updateMessage n i).json text = .ok (.object ((cString "cmd",
      .newString (cString "update-service")) :: serviceFields text addr n i)) := by
    unfold updateMessage DirMessage.json
    rw [hadr]
    rfl
  unfold dirserverReceive
  rw [hjson, ok_bind]
  unfold dirserverNewMCData
  rw [hparse _ hjson]
  rfl

/-- A withdrawal is received. -/
theorem receive_delete (hparse : Faithful c text (deleteMessage n i)) (s : DirServer) :
    dirserverReceive c text s (deleteMessage n i)
      = .ok (dirserverDeleteService s (pairKey (servicePair n i))) := by
  unfold dirserverReceive
  rw [show (deleteMessage n i).json text = .ok _ from rfl, ok_bind]
  unfold dirserverNewMCData
  rw [hparse _ rfl]
  show Except.ok (dirserverDeleteServiceCmd s (.object [(cString "id", .newString n.id),
    (cString "service-type", .newString (cString (classesGetClassName (n.classes i))))])) = _
  rw [deleteServiceCmd_eq s]
  show some (upToNul (upToNul _), upToNul (upToNul _)) = some (servicePair n i)
  rw [upToNul_upToNul, upToNul_upToNul, upToNul_className]
  rfl

/-- Two slots have one key if and only if their classes have one name. -/
theorem pairKey_servicePair_iff {j : ClassId} :
    pairKey (servicePair n i) = pairKey (servicePair n j)
      ↔ classesGetClassName (n.classes i) = classesGetClassName (n.classes j) := by
  unfold pairKey servicePair
  rw [List.append_cancel_left_eq]
  exact cString_injective.eq_iff

/-- Then they have one entry. -/
theorem serviceEntry_of_key {j : ClassId}
    (h : pairKey (servicePair n i) = pairKey (servicePair n j)) :
    serviceEntry text addr n i = serviceEntry text addr n j := by
  have hname := pairKey_servicePair_iff.mp h
  unfold serviceEntry serviceFields
  rw [hname, servicePort_of_className hname]

/-- **Messages in a row**, of which each decides the entry of its own slot and leaves the others
alone. -/
theorem receive_all {m : ClassId → DirMessage} {entry : ClassId → Option Service} {dirttl : Nat}
    (hentry : ∀ i j, pairKey (servicePair n i) = pairKey (servicePair n j) → entry i = entry j)
    {is : List ClassId} (hone : ∀ i ∈ is, ∀ s : DirServer, s.dirttl = dirttl →
      ∃ s', dirserverReceive c text s (m i) = .ok s' ∧ s'.dirttl = dirttl
        ∧ s'.services.lookup (pairKey (servicePair n i)) = entry i
        ∧ ∀ k, pairKey (servicePair n i) ≠ k → s'.services.lookup k = s.services.lookup k)
    (s : DirServer) (hs : s.dirttl = dirttl) :
    ∃ s', (is.map m).foldlM (dirserverReceive c text) s = .ok s'
      ∧ (∀ i ∈ is, s'.services.lookup (pairKey (servicePair n i)) = entry i)
      ∧ ∀ k, (∀ i ∈ is, pairKey (servicePair n i) ≠ k) →
        s'.services.lookup k = s.services.lookup k := by
  induction is generalizing s with
  | nil => exact ⟨s, rfl, fun _ hi => (nomatch hi), fun _ _ => rfl⟩
  | cons i is ih =>
      obtain ⟨s₁, hfirst, hs₁, hfound, hkept⟩ := hone i (List.mem_cons_self ..) s hs
      obtain ⟨s', hrest, hentries, hothers⟩ :=
        ih (fun j hj => hone j (List.mem_cons_of_mem i hj)) s₁ hs₁
      refine ⟨s', ?_, fun j hj => ?_, fun k hk => ?_⟩
      · rw [List.map_cons]
        exact foldlM_cons_ok.mpr ⟨s₁, hfirst, hrest⟩
      · rcases List.mem_cons.mp hj with rfl | hj
        · -- a later slot may have the same key
          by_cases hlater : ∃ l ∈ is, pairKey (servicePair n l) = pairKey (servicePair n j)
          · obtain ⟨l, hl, hkey⟩ := hlater
            rw [← hkey, hentries l hl, hentry l j hkey]
          · rw [hothers _ fun l hl heq => hlater ⟨l, hl, heq⟩, hfound]
        · exact hentries j hj
      · rw [hothers k fun l hl => hk l (List.mem_cons_of_mem i hl),
          hkept k (hk i (List.mem_cons_self ..))]

/-- Announcements in a row: each slot has its entry, and nothing else changes. -/
theorem receive_updates (hadr : n.netadr = some addr) {is : List ClassId}
    (hparse : ∀ i ∈ is, Faithful c text (updateMessage n i)) (s : DirServer) :
    ∃ s', (is.map (updateMessage n)).foldlM (dirserverReceive c text) s = .ok s'
      ∧ (∀ i ∈ is, s'.services.lookup (pairKey (servicePair n i))
        = some ⟨c.print (serviceEntry text addr n i), s.dirttl⟩)
      ∧ ∀ k, (∀ i ∈ is, pairKey (servicePair n i) ≠ k) →
        s'.services.lookup k = s.services.lookup k := by
  refine receive_all (fun i j hkey => by rw [serviceEntry_of_key hkey])
    (fun i hi s₁ hs₁ => ⟨_, receive_update hadr (hparse i hi) s₁, ?_, ?_, fun k hk => ?_⟩) s rfl
  · exact (updateServiceCmd_dirttl c.print s₁ _).trans hs₁
  · rw [updateServiceCmd_services c.print s₁ (serviceEntry_updatePair text addr n i),
      AList.lookup_insert, hs₁]
  · rw [updateServiceCmd_services c.print s₁ (serviceEntry_updatePair text addr n i),
      AList.lookup_insert_ne (Ne.symm hk)]

/-- Withdrawals in a row. -/
theorem receive_deletes {is : List ClassId}
    (hparse : ∀ i ∈ is, Faithful c text (deleteMessage n i)) (s : DirServer) :
    ∃ s', (is.map (deleteMessage n)).foldlM (dirserverReceive c text) s = .ok s'
      ∧ (∀ i ∈ is, s'.services.lookup (pairKey (servicePair n i)) = none)
      ∧ ∀ k, (∀ i ∈ is, pairKey (servicePair n i) ≠ k) →
        s'.services.lookup k = s.services.lookup k := by
  refine receive_all (fun _ _ _ => rfl)
    (fun i hi s₁ hs₁ => ⟨_, receive_delete (hparse i hi) s₁, ?_, ?_, fun k hk => ?_⟩) s rfl
  · exact (deleteService_dirttl s₁ _).trans hs₁
  · rw [deleteService_services, AList.lookup_erase]
  · rw [deleteService_services, AList.lookup_erase_ne (Ne.symm hk)]

end Receiving

/-- The server rejects no field of the message. -/
def Accepted (text : NetAddr → CString) (m : DirMessage) : Prop :=
  ∃ json p, m.json text = .ok json ∧ (json.objectDel (cString "cmd")).updatePair = some p

theorem updateMessage_accepted (text : NetAddr → CString) {n : Node} {addr : NetAddr}
    (hadr : n.netadr = some addr) (i : ClassId) : Accepted text (updateMessage n i) := by
  refine ⟨.object ((cString "cmd", .newString (cString "update-service"))
    :: serviceFields text addr n i), servicePair n i, ?_, ?_⟩
  · unfold updateMessage DirMessage.json
    rw [hadr]
    rfl
  · exact serviceEntry_updatePair text addr n i

/-- **Client and server agree.** When a node registers, every message is accepted and the table
gets one entry for each class name of the node. When it is removed, the table is the old one. -/
theorem client_server_agree (c : JsonC) (text : NetAddr → CString) (self : NodeId) (n : Node)
    (addr : NetAddr) (dc dc' : DirClient) (s : DirServer) (hadr : n.netadr = some addr)
    (hfaithful : ∀ i, n.classes i ≠ 0 →
      Faithful c text (updateMessage n i) ∧ Faithful c text (deleteMessage n i))
    (hnew : ∀ i, n.classes i ≠ 0 → pairKey (servicePair n i) ∉ s.services) :
    ∃ ms ms' s₁ s₂, (dirclientRegisterServices self n dc).sent = dc.sent ++ ms
      ∧ (dirclientRemoveServices self n dc').sent = dc'.sent ++ ms'
      ∧ ms.foldlM (dirserverReceive c text) s = .ok s₁
      ∧ ms'.foldlM (dirserverReceive c text) s₁ = .ok s₂
      ∧ (∀ m ∈ ms, Accepted text m)
      ∧ (∀ i, n.classes i ≠ 0 → s₁.services.lookup (pairKey (servicePair n i))
        = some ⟨c.print (serviceEntry text addr n i), s.dirttl⟩)
      ∧ (∀ i j, pairKey (servicePair n i) = pairKey (servicePair n j)
        ↔ classesGetClassName (n.classes i) = classesGetClassName (n.classes j))
      ∧ (∀ k, (∀ i, n.classes i ≠ 0 → pairKey (servicePair n i) ≠ k) →
        s₁.services.lookup k = s.services.lookup k)
      ∧ ∀ k, s₂.services.lookup k = s.services.lookup k := by
  obtain ⟨s₁, hrun₁, hentries, hothers⟩ :=
    receive_updates hadr (fun i (hi : i ∈ n.classids) => (hfaithful i (mem_classids.mp hi)).1) s
  obtain ⟨s₂, hrun₂, hgone, hothers₂⟩ :=
    receive_deletes (fun i (hi : i ∈ n.classids) => (hfaithful i (mem_classids.mp hi)).2) s₁
  refine ⟨_, _, s₁, s₂, registerServices_sent self n dc, removeServices_sent self n dc', hrun₁,
    hrun₂, fun m hm => ?_, fun i hi => hentries i (mem_classids.mpr hi),
    fun i j => pairKey_servicePair_iff,
    fun k hk => hothers k fun i hi => hk i (mem_classids.mp hi), fun k => ?_⟩
  · obtain ⟨i, -, rfl⟩ := List.mem_map.mp hm
    exact updateMessage_accepted text hadr i
  · by_cases hk : ∃ i ∈ n.classids, pairKey (servicePair n i) = k
    · obtain ⟨i, hi, rfl⟩ := hk
      rw [hgone i hi, AList.lookup_eq_none.mpr (hnew i (mem_classids.mp hi))]
    · have hkey : ∀ i ∈ n.classids, pairKey (servicePair n i) ≠ k :=
        fun i hi heq => hk ⟨i, hi, heq⟩
      rw [hothers₂ k hkey, hothers k hkey]

/-- A lamp that has two more classes, of which nobody knows the names. -/
def lampNode : Node :=
  { Node.zero with
    id := cString "a"
    name := cString "Lamp"
    netadr := some (.fromString (cString "fd00::1"))
    classes := fun i => if i.val = 0 then 23 else if i.val ≤ 2 then 97 + UInt8.ofNat i.val else 0 }

/-- Address texts are what they were made from. -/
def addressText : NetAddr → CString
  | .fromString s => s
  | .freeAddr _ => []

/-- The objects that are sent for the lamp. -/
def lampObjects : List Json :=
  (lampNode.classids.map (updateMessage lampNode)
    ++ lampNode.classids.map (deleteMessage lampNode)).map
      fun m => (m.json addressText).toOption.getD .null

/-- A json-c that can read no more than that. -/
def lampJsonC : JsonC where
  parse text := (lampObjects[(lampObjects.map flatText).idxOf text]?).getD .null
  print := flatText

theorem lampJsonC_faithful {m : DirMessage} {json : Json} {k : Nat}
    (hjson : m.json addressText = .ok json) (hk : lampObjects[k]? = some json)
    (hfirst : (lampObjects.map flatText).idxOf (flatText json) = k) :
    Faithful lampJsonC addressText m := by
  intro json' hjson'
  obtain rfl := Except.ok.inj (hjson.symm.trans hjson')
  show (lampObjects[(lampObjects.map flatText).idxOf (flatText json)]?).getD .null = json
  rw [hfirst, hk]
  rfl

/-- The lamp has two entries for its three classes, and leaves none behind. -/
theorem client_server_agree_lamp :
    ∃ ms ms' s₁ s₂,
      (dirclientRegisterServices ⟨0, by decide⟩ lampNode ⟨[], []⟩).sent = ms
      ∧ (dirclientRemoveServices ⟨0, by decide⟩ lampNode ⟨[], []⟩).sent = ms'
      ∧ ms.foldlM (dirserverReceive lampJsonC addressText) (dirserverInit 30) = .ok s₁
      ∧ ms'.foldlM (dirserverReceive lampJsonC addressText) s₁ = .ok s₂
      ∧ cString "amoodlamp" ∈ s₁.services ∧ cString "aunknown class" ∈ s₁.services
      ∧ ∀ k, s₂.services.lookup k = none := by
  have hslots : ∀ i : ClassId, lampNode.classes i ≠ 0 →
      i = ⟨0, by decide⟩ ∨ i = ⟨1, by decide⟩ ∨ i = ⟨2, by decide⟩ := by
    decide
  have hfaithful : ∀ i, lampNode.classes i ≠ 0 →
      Faithful lampJsonC addressText (updateMessage lampNode i)
        ∧ Faithful lampJsonC addressText (deleteMessage lampNode i) := by
    intro i hclass
    rcases hslots i hclass with rfl | rfl | rfl
    · exact ⟨lampJsonC_faithful (k := 0) rfl rfl (by decide +kernel),
        lampJsonC_faithful (k := 3) rfl rfl (by decide +kernel)⟩
    all_goals exact ⟨lampJsonC_faithful (k := 1) rfl rfl (by decide +kernel),
        lampJsonC_faithful (k := 4) rfl rfl (by decide +kernel)⟩
  obtain ⟨ms, ms', s₁, s₂, hms, hms', hrun₁, hrun₂, -, hentries, -, -, hold⟩ :=
    client_server_agree lampJsonC addressText ⟨0, by decide⟩ lampNode
      (.fromString (cString "fd00::1")) ⟨[], []⟩ ⟨[], []⟩ (dirserverInit 30) rfl hfaithful
      fun i _ => AList.notMem_empty _
  refine ⟨ms, ms', s₁, s₂, hms, hms', hrun₁, hrun₂, ?_, ?_, hold⟩
  · have hlamp := hentries ⟨0, by decide⟩ (by decide)
    rw [show pairKey (servicePair lampNode ⟨0, by decide⟩) = cString "amoodlamp" by decide] at hlamp
    exact AList.lookup_isSome.mp (by rw [hlamp]; rfl)
  · have hunknown := hentries ⟨1, by decide⟩ (by decide)
    rw [show pairKey (servicePair lampNode ⟨1, by decide⟩) = cString "aunknown class" by decide]
      at hunknown
    exact AList.lookup_isSome.mp (by rw [hunknown]; rfl)

end Ubd
