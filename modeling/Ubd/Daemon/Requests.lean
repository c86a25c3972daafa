import Ubd.Daemon.Exhaustion
import Ubd.Daemon.Plugged
import Ubd.Lib.Handles

/-!
# Daemon.Requests — the connections to ubnetd

A node that asks ubnetd for an address keeps the connection until the answer is there. The
handle in `n->ubnetd` is closed when the node is registered again, and only replaced if the new
connection can be made: `connections_valid_iff` says when it never dangles.
-/

namespace Ubd

open Runs

/-! ## The connections of all nodes -/

structure Interfaces where
  objects : Objects
  ubnetd : NodeId → Option Handle
  addressed : NodeId → Bool

def Daemon.interfaces (d : Daemon) : Interfaces where
  objects := d.objects
  ubnetd := fun n => (d.nodes n).ubnetd
  addressed := fun n => (d.nodes n).netadr.isSome

/-- `address6_createAddress` for node `x` -/
def Interfaces.create (i : Interfaces) (x : NodeId) (connect : UbnetdConnect) : Interfaces :=
  let objects := i.objects.drop (i.ubnetd x)
  let addressed := Function.update i.addressed x true
  match connect with
  | .socketFails => ⟨objects, i.ubnetd, addressed⟩
  | .connectFails => ⟨(objects.create .socket).1, i.ubnetd, addressed⟩
  | .connected =>
      ⟨(objects.create .socket).1, Function.update i.ubnetd x (some (objects.create .socket).2),
        addressed⟩

/-- `interface_getConfiguredAddress` for node `x` -/
def Interfaces.poll (i : Interfaces) (x : NodeId) (env : NetEnv) : Interfaces :=
  match i.ubnetd x, env.ubnetd with
  | some h, some _ => ⟨i.objects.drop (some h), Function.update i.ubnetd x none, i.addressed⟩
  | _, _ => i

/-! ## What is valid -/

/-- A socket that has neither been closed nor released. -/
def Objects.Opened (o : Objects) (h : Handle) : Prop := o.all[h]? = some ⟨.socket, true, false⟩

/-- An open socket that belongs to no node. -/
def Objects.Connected (o : Objects) (h : Handle) : Prop := o.Opened h ∧ o.ownerAt h = none

/-- Of what belongs to no node, nothing has been used after its release. -/
def Objects.Faultless (o : Objects) : Prop := ∀ h ∈ o.misused, o.ownerAt h ≠ none

/-- Every connection is an open socket of its own. -/
structure Interfaces.Valid (i : Interfaces) : Prop where
  sound : Handles.Sound i.objects.Connected i.ubnetd
  faultless : i.objects.Faultless

section Valid

variable {o o' : Objects} {h k : Handle} {i : Interfaces} {x : NodeId} {env : NetEnv}

theorem Objects.Connected.lt (hh : o.Connected h) : h < o.all.length :=
  (List.getElem?_eq_some_iff.mp hh.1).1

/-! ### Dropping a handle -/

/-- Dropping a handle spares all others. -/
theorem connected_drop (hne : k ≠ h) (hk : o.Connected k) : (o.drop (some h)).Connected k :=
  ⟨(o.all_drop_ne hne).trans hk.1, (o.ownerAt_drop _).trans hk.2⟩

theorem Objects.Released.not_opened (hh : o.Released h) : ¬ o.Opened h := by
  intro hopen
  obtain ⟨x, hx, hr⟩ := hh
  rw [hopen] at hx
  cases hx
  cases hr

theorem faultless_drop (hfaultless : o.Faultless) (hh : o.Connected h) :
    (o.drop (some h)).Faultless := by
  intro k hk
  rw [o.misused_drop hh.1 rfl] at hk
  rw [o.ownerAt_drop]
  exact hfaultless k hk

/-- Dropping the connection of a node spares the others. -/
theorem spares_drop (i : Interfaces) (x : NodeId) :
    Handles.SparesOthers i.objects.Connected (i.objects.drop (i.ubnetd x)).Connected
      i.ubnetd x := by
  intro k hne hk
  cases hx : i.ubnetd x with
  | none => exact hk
  | some h =>
      refine connected_drop ?_ hk
      rintro rfl
      exact hne hx

theorem Interfaces.Valid.dropped (hi : i.Valid) (x : NodeId) :
    (i.objects.drop (i.ubnetd x)).Faultless := by
  cases hx : i.ubnetd x with
  | none => exact hi.faultless
  | some h => exact faultless_drop hi.faultless (hi.sound.live x h hx)

/-! ### Making a socket -/

/-- A new socket is nobody's. -/
theorem connected_create (o : Objects) : (o.create .socket).1.Connected o.all.length :=
  ⟨List.getElem?_concat_length, o.create_socket.2⟩

/-- What was there before a socket is made. -/
theorem opened_create_iff (hlt : k < o.all.length) :
    (o.create .socket).1.Opened k ↔ o.Opened k := by
  rw [o.create_eq_add]
  unfold Objects.Opened
  rw [o.all_add_left hlt]

theorem Objects.Connected.create (hk : o.Connected k) : (o.create .socket).1.Connected k := by
  refine ⟨(opened_create_iff hk.lt).mpr hk.1, ?_⟩
  rw [o.create_eq_add, o.ownerAt_add_left (by simp) hk.lt]
  exact hk.2

theorem faultless_create (h : o.Faultless) : (o.create .socket).1.Faultless := by
  intro k hk
  obtain ⟨kind, hkind⟩ := Objects.kindAt_of_owner (h k hk)
  rw [o.create_eq_add, o.ownerAt_add_left (by simp) (Objects.lt_of_kindAt hkind)]
  exact h k hk

/-! ### The two functions -/

/-- The new connection takes the place of the old one. -/
theorem Interfaces.Valid.connected (hi : i.Valid) (x : NodeId) : (i.create x .connected).Valid := by
  refine ⟨hi.sound.replace (fun k hne hk => (spares_drop i x k hne hk).create)
    (connected_create _) fun j hj => ?_, faultless_create (hi.dropped x)⟩
  -- the new handle is behind all others
  have hlt := (hi.sound.live j _ hj).lt
  have hlength : (i.objects.drop (i.ubnetd x)).all.length = i.objects.all.length :=
    i.objects.length_drop _
  exact absurd (hlength ▸ hlt) (Nat.lt_irrefl _)

theorem Interfaces.Valid.create (hi : i.Valid) {connect : UbnetdConnect}
    (h : connect = .connected ∨ i.ubnetd x = none) : (i.create x connect).Valid := by
  cases connect with
  | connected => exact hi.connected x
  | socketFails =>
      have hnone : i.ubnetd x = none := h.resolve_left fun hconnect => nomatch hconnect
      unfold Interfaces.create
      rw [hnone]
      exact ⟨hi.sound, hi.faultless⟩
  | connectFails =>
      have hnone : i.ubnetd x = none := h.resolve_left fun hconnect => nomatch hconnect
      unfold Interfaces.create
      rw [hnone]
      exact ⟨hi.sound.mono fun k hk => hk.create, faultless_create hi.faultless⟩

/-- The connection is lost, and not replaced. -/
theorem Interfaces.Valid.lost (hi : i.Valid) {connect : UbnetdConnect}
    (hconnect : connect ≠ .connected) (hx : i.ubnetd x = some h) :
    (i.create x connect).ubnetd x = some h ∧ (i.create x connect).objects.Released h := by
  have hreleased := i.objects.drop_released (hi.sound.live x h hx).1
  unfold Interfaces.create
  rw [hx]
  cases connect with
  | connected => exact absurd rfl hconnect
  | socketFails => exact ⟨hx, hreleased⟩
  | connectFails => exact ⟨hx, hreleased.create .socket⟩

/-- **Asking for an address** leaves every connection open exactly if the new one can be made,
or there was none before. -/
theorem Interfaces.Valid.create_iff (hi : i.Valid) (x : NodeId) (connect : UbnetdConnect) :
    (∀ n h, (i.create x connect).ubnetd n = some h → (i.create x connect).objects.Opened h)
      ↔ connect = .connected ∨ i.ubnetd x = none := by
  constructor
  · intro hopen
    by_contra hnot
    obtain ⟨hconnect, hsome⟩ := not_or.mp hnot
    obtain ⟨h, hx⟩ := Option.ne_none_iff_exists'.mp hsome
    obtain ⟨hstays, hreleased⟩ := hi.lost hconnect hx
    exact hreleased.not_opened (hopen x h hstays)
  · intro h n k hk
    exact ((hi.create h).sound.live n k hk).1

/-- **Reading the answer** keeps the connections valid. -/
theorem Interfaces.Valid.poll (hi : i.Valid) (x : NodeId) (env : NetEnv) :
    (i.poll x env).Valid := by
  have hspares := spares_drop i x
  have hfaultless := hi.dropped x
  unfold Interfaces.poll
  cases hx : i.ubnetd x with
  | none => exact hi
  | some h =>
      rw [hx] at hspares hfaultless
      cases env.ubnetd with
      | none => exact hi
      | some buf => exact ⟨hi.sound.clear hspares, hfaultless⟩

/-! ### Everything else -/

/-- What nodes do to objects of their own is beside the connections. -/
structure Objects.Beside (o o' : Objects) : Prop where
  connected : ∀ h, o.Connected h → o'.Connected h
  faultless : o.Faultless → o'.Faultless
  released : ∀ h, o.Released h → o'.Released h

theorem Objects.Beside.refl (o : Objects) : o.Beside o :=
  ⟨fun _ h => h, fun h => h, fun _ h => h⟩

theorem Objects.Beside.trans {o'' : Objects} (h : o.Beside o') (h' : o'.Beside o'') :
    o.Beside o'' :=
  ⟨fun k hk => h'.connected k (h.connected k hk), fun hk => h'.faultless (h.faultless hk),
    fun k hk => h'.released k (h.released k hk)⟩

theorem beside_drop (j : Option Handle) (hown : ∀ h, j = some h → o.ownerAt h ≠ none) :
    o.Beside (o.drop j) where
  connected := by
    intro k hk
    cases j with
    | none => exact hk
    | some h =>
        refine connected_drop ?_ hk
        rintro rfl
        exact hown k rfl hk.2
  faultless := by
    intro hfaultless k hk
    rw [o.ownerAt_drop]
    rcases o.mem_misused_drop hk with hk | hk
    · exact hfaultless k hk
    · exact hown k hk
  released := fun k hk => o.released_drop hk

theorem beside_drops (l : List (Option Handle)) (o : Objects)
    (hown : ∀ h, some h ∈ l → o.ownerAt h ≠ none) : o.Beside (l.foldl Objects.drop o) := by
  induction l generalizing o with
  | nil => exact .refl o
  | cons j l ih =>
      refine (beside_drop j fun h hj => hown h (by simp [hj])).trans
        (ih (o.drop j) fun h hh => ?_)
      rw [o.ownerAt_drop]
      exact hown h (List.mem_cons_of_mem j hh)

theorem Interfaces.Valid.beside (hi : i.Valid) (h : i.objects.Beside o) :
    Interfaces.Valid { i with objects := o } :=
  ⟨hi.sound.mono h.connected, h.faultless hi.faultless⟩

end Valid

/-! ## Packets -/

section Packets

variable {d d' : Daemon} {p : UbPacket} {connect : UbnetdConnect}

/-- Writing to a node. -/
theorem interfaces_setNode (d : Daemon) (n : NodeId) (f : Node → Node) :
    (d.setNode n f).interfaces = ⟨d.objects,
      Function.update d.interfaces.ubnetd n (f (d.nodes n)).ubnetd,
      Function.update d.interfaces.addressed n (f (d.nodes n)).netadr.isSome⟩ := by
  unfold Daemon.interfaces
  congr 1
  · funext m
    by_cases hm : m = n
    · rw [hm, setNode_self, Function.update_self]
    · rw [setNode_of_ne d n f hm, Function.update_of_ne hm]
  · funext m
    by_cases hm : m = n
    · rw [hm, setNode_self, Function.update_self]
    · rw [setNode_of_ne d n f hm, Function.update_of_ne hm]

/-- Writing other fields to it. -/
theorem interfaces_of_same (d : Daemon) (n : NodeId) {f : Node → Node}
    (hubnetd : (f (d.nodes n)).ubnetd = (d.nodes n).ubnetd)
    (hnetadr : (f (d.nodes n)).netadr = (d.nodes n).netadr) :
    (d.setNode n f).interfaces = d.interfaces := by
  rw [interfaces_setNode, hubnetd, hnetadr]
  have hub : Function.update d.interfaces.ubnetd n (d.nodes n).ubnetd = d.interfaces.ubnetd :=
    Function.update_eq_self n _
  have hadr : Function.update d.interfaces.addressed n (d.nodes n).netadr.isSome
      = d.interfaces.addressed := Function.update_eq_self n _
  rw [hub, hadr]
  rfl

theorem interfaces_addNode (d : Daemon) (n : NodeId) :
    (nodesAddNode d n).interfaces = d.interfaces := by
  refine interfaces_of_same d n (nodesSetNameFromID_ubnetd _) ?_
  rw [nodesSetNameFromID_net]

theorem interfaces_queue (d : Daemon) (ms : List MessageStream) :
    (d.queue ms).interfaces = d.interfaces := rfl

/-- Working on the network side of a node. -/
theorem interfaces_onNet (d : Daemon) (n : NodeId) (f : NetState → NetState) :
    (d.onNet n f).interfaces = ⟨(f (d.netAt n)).objects,
      Function.update d.interfaces.ubnetd n (f (d.netAt n)).net.ubnetd,
      Function.update d.interfaces.addressed n (f (d.netAt n)).net.netadr.isSome⟩ := by
  have hset := interfaces_setNode d n fun x => { x with toNodeNet := (f (d.netAt n)).net }
  unfold Daemon.interfaces at hset ⊢
  rw [Interfaces.mk.injEq] at hset
  exact congrArg₂ (Interfaces.mk _) hset.2.1 hset.2.2

/-- A new node keeps its connection, but not its address. -/
theorem LooksUp.interfaces {id : CString} {x : NodeId} (h : LooksUp d id x d') :
    ∃ addressed, d'.interfaces
      = { d.interfaces with addressed := Function.update d.interfaces.addressed x addressed } := by
  cases h with
  | known found => exact ⟨_, congrArg (Interfaces.mk _ _) (Function.update_eq_self x _).symm⟩
  | new unknown free =>
      refine ⟨false, ?_⟩
      rw [interfaces_addNode]
      refine (interfaces_of_same _ x rfl rfl).trans ((interfaces_setNode d x _).trans ?_)
      exact congrArg₂ (Interfaces.mk _) (Function.update_eq_self x _) rfl

/-- Asking for an address. -/
theorem interfaces_createAddress (d : Daemon) (x : NodeId) (id : CString)
    (connect : UbnetdConnect) : (d.onNet x (address6CreateAddress id connect)).interfaces
      = d.interfaces.create x connect := by
  have hadr : ((d.nodes x).netadr.or (some (.freeAddr id))).isSome = true := by
    cases (d.nodes x).netadr <;> rfl
  rw [interfaces_onNet]
  cases connect with
  | socketFails =>
      refine congrArg₂ (Interfaces.mk _) (Function.update_eq_self x _) ?_
      exact congrArg (Function.update _ x) hadr
  | connectFails =>
      refine congrArg₂ (Interfaces.mk _) (Function.update_eq_self x _) ?_
      exact congrArg (Function.update _ x) hadr
  | connected => exact congrArg (Interfaces.mk _ _) (congrArg (Function.update _ x) hadr)

/-- Whether there was an address before does not matter. -/
theorem Interfaces.create_addressed (i : Interfaces) (x : NodeId) (addressed : Bool)
    (connect : UbnetdConnect) :
    Interfaces.create { i with addressed := Function.update i.addressed x addressed } x connect
      = i.create x connect := by
  unfold Interfaces.create
  rw [Function.update_idem]

theorem registered_interfaces (d : Daemon) (x : NodeId) (adr : Int) (type : NodeType)
    (connect : UbnetdConnect) :
    (d.registered x adr type connect).interfaces = d.interfaces.create x connect := by
  unfold Daemon.registered
  refine (interfaces_of_same _ x rfl rfl).trans ?_
  rw [interfaces_createAddress, interfaces_of_same d x rfl rfl]

/-- **Registering** asks ubnetd for an address of the node, if there is a slot for it. -/
theorem mgtRegisterNode_interfaces {id : CString} {type : NodeType} {busadr : UInt8}
    {o : Option NodeId} (hwired : Wired d) (hid : id.length ≤ maxId)
    (h : mgtRegisterNode d id type busadr connect = .ok (d', o)) :
    d.slots.target id = o
      ∧ d'.interfaces = o.elim d.interfaces (d.interfaces.create · connect) := by
  have htarget : d.slots.target id = o := by
    rcases mgtRegisterNode_spec d hid hwired.assigned.free type busadr connect with
      ⟨htarget, hreg⟩ | ⟨d₁, x, htarget, hreg, -⟩
    · cases hreg.symm.trans h
      exact htarget
    · cases hreg.symm.trans h
      exact htarget
  refine ⟨htarget, ?_⟩
  rcases mgtRegisterNode_cases h with ⟨rfl, rfl⟩ | ⟨d₁, x, adr, hlook, rfl, rfl⟩
  · rfl
  · obtain ⟨addressed, hsame⟩ := hlook.interfaces
    rw [registered_interfaces, hsame]
    exact d.interfaces.create_addressed x addressed connect

/-- The node that a packet registers. -/
def registering (d : Daemon) (p : UbPacket) : Option NodeId :=
  if p.kind = 0x44 then
    if p.len.toNat ≤ maxId then d.slots.target (packetId p 7) else none
  else if p.kind = 0x42 then d.slots.target (packetId p 5)
  else none

theorem busmgtDiscover_interfaces (hwired : Wired d) (h : busmgtDiscover d p connect = .ok d') :
    d'.interfaces = (if p.len.toNat ≤ maxId then d.slots.target (packetId p 7) else none).elim
      d.interfaces (d.interfaces.create · connect) := by
  cases busmgtDiscover_discovers h with
  | ignored long =>
      rw [if_neg (Nat.not_le_of_lt long)]
      rfl
  | full fits created =>
      rw [if_pos (le_trans fits.2 (by decide)), mgtCreateNode_target hwired.assigned.free created]
      rfl
  | @discovered d₁ x fits created address =>
      obtain ⟨htarget, hcreate⟩ :=
        mgtRegisterNode_interfaces hwired (packetId_length p 7) created
      rw [if_pos (le_trans fits.2 (by decide)), htarget, ← hcreate, interfaces_queue]
      exact interfaces_of_same d₁ x rfl rfl

theorem busmgtBridge_interfaces (hwired : Wired d) (h : busmgtBridge d p connect = .ok d') :
    d'.interfaces = (d.slots.target (packetId p 5)).elim d.interfaces
      (d.interfaces.create · connect) := by
  obtain ⟨d₁, o, n, -, created, -, rfl⟩ := busmgtBridge_writes h
  obtain ⟨htarget, hcreate⟩ := mgtRegisterNode_interfaces hwired (packetId_length p 5) created
  rw [htarget, ← hcreate, interfaces_queue]
  exact interfaces_of_same d₁ n rfl rfl

/-- **What a packet does to the connections**: that of the node it registers is made anew. -/
theorem busmgtInpacket_interfaces (hwired : Wired d) (h : busmgtInpacket d p connect = .ok d') :
    d'.interfaces = (registering d p).elim d.interfaces (d.interfaces.create · connect) := by
  unfold registering
  unfold busmgtInpacket at h
  split_ifs at h with hD hI hV hA hB
  · rw [if_pos hD]
    exact busmgtDiscover_interfaces hwired h
  · rw [if_neg hD, if_neg (by rw [hI]; decide)]
    rcases busmgtIdentify_writes h with ⟨x, -, rfl⟩ | rfl | rfl
    · exact (interfaces_queue _ _).trans (interfaces_of_same d x rfl rfl)
    · rfl
    · rfl
  · rw [if_neg hD, if_neg (by rw [hV]; decide)]
    obtain ⟨n, version, -, -, rfl⟩ := busmgtVersion_sets h
    exact interfaces_of_same d n rfl rfl
  · rw [if_neg hD, if_neg (by rw [hA]; decide)]
    rcases busmgtAlive_cases h with ⟨-, rfl⟩ | ⟨n, -, rfl⟩
    · rfl
    · exact interfaces_of_same d n rfl rfl
  · rw [if_neg hD, if_pos hB]
    exact busmgtBridge_interfaces hwired h
  · cases h
    rw [if_neg hD, if_neg hB]
    rfl

end Packets

/-! ## Everything on the other side -/

section Main

variable {d d' : Daemon}

theorem listenRegister_interfaces (d : Daemon) (n : NodeId) (classid : ClassId)
    (out : Gpointer) : (listenRegister d n classid out).interfaces = d.interfaces :=
  interfaces_of_same d n rfl rfl

theorem listenUnregister_interfaces (d : Daemon) (n : NodeId) (classid : ClassId)
    (out : Gpointer) : (listenUnregister d n classid out).interfaces = d.interfaces :=
  interfaces_of_same d n rfl rfl

theorem tcpRequest_interfaces {c : Connection} {r : Request} (h : tcpRequest c d r = .ok d') :
    d'.interfaces = d.interfaces := by
  cases r with
  | command cmd =>
      obtain ⟨ms, rfl, -⟩ := tcpCallback_queues h
      rfl
  | listen =>
      cases h
      exact listenRegister_interfaces d c.n c.classid c.out

/-- Clients have nothing to do with ubnetd. -/
theorem Serves.interfaces {e : MainEvent} (h : Serves d e d') : d'.interfaces = d.interfaces := by
  cases h with
  | unknown | deaf | closed | failed | management | fails => rfl
  | @command service n classid listening => exact listenRegister_interfaces d n classid _
  | @reads k buf c nb d₁ found reading run =>
      have hread : d₁.interfaces = d.interfaces :=
        tcpListenerRead_relation (R := fun a b => b.interfaces = a.interfaces) (fun _ => rfl)
          (fun _ _ _ h h' => h'.trans h) (fun _ _ _ => tcpRequest_interfaces) run
      exact hread
  | @closes k c found reading => exact listenUnregister_interfaces d c.n c.classid c.out

end Main

/-! ## The tick -/

section Tick

variable {d d' : Daemon} {n : NodeId} {env : NodeId → NetEnv}

/-- A turn of `mgt_checkTimeout` drops what belongs to its node. -/
theorem Checked.interfaces (h : Checked n d d') (hwired : d.WiredAt n) :
    d.objects.Beside d'.objects ∧ d'.interfaces = { d.interfaces with objects := d'.objects } := by
  refine ⟨?_, ?_⟩
  · by_cases hout : (d.nodes n).TimesOut
    · rw [h.closed hout]
      refine beside_drops _ _ fun k hk hnone => ?_
      rw [hwired.ports.handles_owner hk] at hnone
      cases hnone
    · rw [h.kept hout]
      exact .refl _
  · have hnet : ∀ m, (d'.nodes m).toNodeNet = (d.nodes m).toNodeNet := by
      intro m
      by_cases hm : m = n
      · rw [hm]
        exact h.net
      · rw [h.others m hm]
    refine congrArg₂ (Interfaces.mk _) (funext fun m => ?_) (funext fun m => ?_)
    · exact congrArg NodeNet.ubnetd (hnet m)
    · exact congrArg (fun net : NodeNet => net.netadr.isSome) (hnet m)

/-- Nothing is used that is released, and the address stays. -/
def UsesOwn (s s' : NetState) : Prop :=
  s'.objects.misused = s.objects.misused ∧ s'.net.netadr = s.net.netadr

theorem UsesOwn.trans {a b c : NetState} (h : UsesOwn a b) (h' : UsesOwn b c) : UsesOwn a c :=
  ⟨h'.1.trans h.1, h'.2.trans h.2⟩

/-- Making the sockets of a node. -/
theorem netCreateSockets_uses (self : NodeId) (n : Node) (env : NetEnv) (s : NetState) :
    UsesOwn s (netCreateSockets self n env s) := by
  have hservice : ∀ (o : Objects) (sd : SocketRef),
      ((o.create (.service sd)).1.unref (some (o.create (.service sd)).2)).misused = o.misused :=
    fun o sd => Objects.misused_use _ (f := fun x => { x with isOpen := false, released := true })
      (x := ⟨.service sd, true, false⟩) List.getElem?_concat_length rfl
  refine netCreateSockets_relation (R := UsesOwn) (fun _ _ _ => UsesOwn.trans)
    (netCreateClassSockets_relation (R := UsesOwn) (fun _ => ⟨rfl, rfl⟩)
      (fun _ _ _ => UsesOwn.trans) ?_ ?_ _) ?_ s
  · intro c s
    unfold netCreateUDPSocket
    dsimp only
    split <;> exact ⟨rfl, rfl⟩
  · intro c s
    unfold netCreateTCPSocket
    dsimp only
    split
    · exact ⟨rfl, rfl⟩
    · exact ⟨hservice _ _, rfl⟩
  · intro s
    unfold netCreateMgtSocket
    dsimp only
    split
    · exact ⟨rfl, rfl⟩
    · exact ⟨hservice _ _, rfl⟩

theorem netCreateSockets_beside (self : NodeId) (n : Node) (env : NetEnv) (s : NetState) :
    s.objects.Beside (netCreateSockets self n env s).objects := by
  have hmakes := netCreateSockets_makes self n env s
  refine ⟨fun k hk => ⟨(hmakes.kept k hk.lt).trans hk.1, ?_⟩, fun hfaultless k hk => ?_,
    fun k hk => ?_⟩
  · have hkind : s.objects.kindAt k = some .socket := Objects.kindAt_eq_some.mpr ⟨_, hk.1, rfl⟩
    exact (hmakes.work.owner k _ hkind).trans hk.2
  · rw [(netCreateSockets_uses self n env s).1] at hk
    obtain ⟨kind, hkind⟩ := Objects.kindAt_of_owner (hfaultless k hk)
    rw [hmakes.work.owner k kind hkind]
    exact hfaultless k hk
  · obtain ⟨x, hx, hr⟩ := hk
    exact ⟨x, (hmakes.kept k (List.getElem?_eq_some_iff.mp hx).1).trans hx, hr⟩

theorem interfaces_getConfiguredAddress (d : Daemon) (n : NodeId) (env : NetEnv) :
    (d.onNet n fun s => (interfaceGetConfiguredAddress env s).1).interfaces
      = d.interfaces.poll n env := by
  have hub : Function.update d.interfaces.ubnetd n (d.nodes n).ubnetd = d.interfaces.ubnetd :=
    Function.update_eq_self n _
  have hadr : Function.update d.interfaces.addressed n (d.nodes n).netadr.isSome
      = d.interfaces.addressed := Function.update_eq_self n _
  rw [interfaces_onNet]
  unfold interfaceGetConfiguredAddress Interfaces.poll Daemon.netAt
  change _ = match (d.nodes n).ubnetd, env.ubnetd with
    | some h, some _ => (⟨d.objects.drop (some h), Function.update d.interfaces.ubnetd n none,
        d.interfaces.addressed⟩ : Interfaces)
    | _, _ => d.interfaces
  dsimp only
  cases (d.nodes n).ubnetd with
  | none => exact congrArg₂ (Interfaces.mk _) hub hadr
  | some h =>
      cases env.ubnetd with
      | none => exact congrArg₂ (Interfaces.mk _) hub hadr
      | some buf => exact congrArg (Interfaces.mk _ _) hadr

/-- A turn of `mgt_tick` reads the answer, and then makes objects of its node. -/
theorem mgtConfigureNode_interfaces (h : mgtConfigureNode env d n = .ok d') :
    (d.interfaces.poll n (env n)).objects.Beside d'.objects
      ∧ d'.interfaces = { d.interfaces.poll n (env n) with objects := d'.objects } := by
  rw [← interfaces_getConfiguredAddress d n (env n)]
  rcases mgtConfigureNode_cases h with ⟨-, rfl⟩ | ⟨-, rfl⟩
  · rw [interfaces_onNet, interfaces_onNet]
    dsimp only
    rw [(netCreateSockets_own n _ _ _).1, (netCreateSockets_uses n _ _ _).2]
    exact ⟨netCreateSockets_beside n _ _ _, rfl⟩
  · exact ⟨.refl _, rfl⟩

/-- **The rule for connections in a tick**: what is kept by whatever is beside them, and by
reading an answer, the tick keeps. -/
theorem mgtTick_interfaces {I : Interfaces → Prop} {env : NodeId → NetEnv}
    (hbeside : ∀ i o, I i → i.objects.Beside o → I { i with objects := o })
    (hpoll : ∀ i n, I i → I (i.poll n (env n))) (hplugged : Plugged d) (h : I d.interfaces)
    (hrun : mgtTick d env = .ok d') : I d'.interfaces := by
  refine (mgtTick_invariant (I := fun e => Plugged e ∧ I e.interfaces)
    (fun e n e' he hturn => ?_) (fun e n e' he hturn => ?_) ⟨hplugged, h⟩ hrun).2
  · refine ⟨he.1.turn (mgtCheckNode_turnBody e n e' he.1 hturn), ?_⟩
    obtain ⟨hbesides, hinterfaces⟩ := (mgtCheckNode_checked hturn).interfaces (he.1.wired n)
    rw [hinterfaces]
    exact hbeside _ _ he.2 hbesides
  · refine ⟨he.1.turn (mgtConfigureNode_turnBody env e n e' he.1 hturn), ?_⟩
    obtain ⟨hbesides, hinterfaces⟩ := mgtConfigureNode_interfaces hturn
    rw [hinterfaces]
    exact hbeside _ _ (hpoll _ n he.2) hbesides

end Tick

/-! ## Over whole runs -/

/-- Every connection to ubnetd is an open socket, and nothing that belongs to no node has been
used after its release. -/
structure ConnectionsValid (d : Daemon) : Prop where
  opened : ∀ n h, (d.nodes n).ubnetd = some h → d.objects.Opened h
  unused : d.objects.Faultless

/-- A node that is registered while its connection is pending gets a new one. -/
def Reconnects (d : Daemon) : DaemonEvent → Prop
  | .packet p connect =>
      ∀ x ∈ registering d p, (d.nodes x).ubnetd ≠ none → connect = .connected
  | _ => True

instance (d : Daemon) (e : DaemonEvent) : Decidable (Reconnects d e) :=
  match e with
  | .packet p connect => inferInstanceAs (Decidable
      (∀ x ∈ registering d p, (d.nodes x).ubnetd ≠ none → connect = .connected))
  | .main _ | .take => isTrue trivial

/-- What holds in all states as long as connections are replaced. -/
structure Requesting (d : Daemon) : Prop where
  wired : Wired d
  plugged : Plugged d
  valid : d.interfaces.Valid

section Runs

variable {d d' : Daemon} {e : DaemonEvent}

theorem Requesting.connectionsValid (h : Requesting d) : ConnectionsValid d :=
  ⟨fun n k hk => (h.valid.sound.live n k hk).1, h.valid.faultless⟩

/-- A tick keeps the connections valid. -/
theorem mgtTick_valid {env : NodeId → NetEnv} (hplugged : Plugged d) (hvalid : d.interfaces.Valid)
    (h : mgtTick d env = .ok d') : d'.interfaces.Valid :=
  mgtTick_interfaces (I := Interfaces.Valid) (fun _ _ hi hbeside => hi.beside hbeside)
    (fun _ n hi => hi.poll n (env n)) hplugged hvalid h

/-- A packet keeps the connections valid exactly if it does not lose one. -/
theorem busmgtInpacket_valid_iff {p : UbPacket} {connect : UbnetdConnect} (h : Requesting d)
    (hstep : busmgtInpacket d p connect = .ok d') :
    (Reconnects d (.packet p connect) → d'.interfaces.Valid)
      ∧ (ConnectionsValid d' → Reconnects d (.packet p connect)) := by
  have hinterfaces := busmgtInpacket_interfaces h.wired hstep
  show ((∀ x ∈ registering d p, (d.nodes x).ubnetd ≠ none → connect = .connected) → _)
    ∧ (_ → ∀ x ∈ registering d p, (d.nodes x).ubnetd ≠ none → connect = .connected)
  cases hreg : registering d p with
  | none =>
      rw [hreg] at hinterfaces
      refine ⟨fun _ => ?_, fun _ x hx => nomatch hx⟩
      rw [hinterfaces]
      exact h.valid
  | some x =>
      rw [hreg] at hinterfaces
      change d'.interfaces = d.interfaces.create x connect at hinterfaces
      have hiff : (∀ y ∈ some x, (d.nodes y).ubnetd ≠ none → connect = .connected)
          ↔ connect = .connected ∨ d.interfaces.ubnetd x = none := by
        simp only [Option.mem_some_iff, forall_eq']
        exact not_imp_comm.trans or_iff_not_imp_left.symm
      refine ⟨fun hC => ?_, fun hP => ?_⟩
      · rw [hinterfaces]
        exact h.valid.create (hiff.mp hC)
      · refine hiff.mpr ((h.valid.create_iff x connect).mp fun n k hk => ?_)
        rw [← hinterfaces] at hk ⊢
        exact hP.opened n k hk

/-- **A step** keeps the connections valid exactly if it does not lose one. -/
theorem Requesting.step_iff (h : Requesting d) (hstep : daemonStep d e = .ok d') :
    (Reconnects d e → Requesting d') ∧ (ConnectionsValid d' → Reconnects d e) := by
  have hwired := h.wired.step hstep
  have hplugged := h.plugged.step h.wired hstep
  cases e with
  | packet p connect =>
      obtain ⟨hkeep, honly⟩ := busmgtInpacket_valid_iff h hstep
      exact ⟨fun hC => ⟨hwired, hplugged, hkeep hC⟩, honly⟩
  | take =>
      cases hstep
      exact ⟨fun _ => ⟨hwired, hplugged, h.valid⟩, fun _ => trivial⟩
  | main e =>
      refine ⟨fun _ => ⟨hwired, hplugged, ?_⟩, fun _ => trivial⟩
      by_cases htick : ∃ env, e = .tick env
      · obtain ⟨env, rfl⟩ := htick
        exact mgtTick_valid h.plugged h.valid hstep
      · rw [(mainStep_serves hstep fun env heq => htick ⟨env, heq⟩).interfaces]
        exact h.valid

theorem configured_requesting {nodetimeout : Int} {cs : List NodeConfig}
    (h : configured nodetimeout cs = .ok d) : Requesting d := by
  have hsocketless := configured_socketless h
  have hnone : ∀ n k, d.interfaces.ubnetd n ≠ some k := by
    intro n k hk
    exact nomatch (hsocketless.ubnetd n).symm.trans hk
  refine ⟨(configured_wired h).1, hsocketless.plugged.1, ⟨fun n k hk => ?_, fun n _ k hk => ?_⟩, ?_⟩
  · exact absurd hk (hnone n k)
  · exact absurd hk (hnone n k)
  · intro k hk
    change k ∈ d.objects.misused at hk
    rw [hsocketless.objects] at hk
    cases hk

end Runs

/-- **When the connections to ubnetd are valid in every state of a run**: when each time that a
node is registered while its connection is pending, the new connection can be made. -/
theorem connections_valid_iff {nodetimeout : Int} {cs : List NodeConfig} {d₀ d : Daemon}
    {es : List DaemonEvent} (hconfigured : configured nodetimeout cs = .ok d₀)
    (hrun : Run daemonStep (fun _ _ => True) d₀ es d) :
    Always daemonStep (fun _ _ => True) d₀ ConnectionsValid es
      ↔ EveryStep daemonStep (fun _ _ => True) d₀ Reconnects es :=
  hrun.always_iff (configured_requesting hconfigured) (fun _ hs => hs.connectionsValid)
    (fun _ _ _ hs _ hstep => (hs.step_iff hstep).1) (fun _ _ _ hs _ hstep => (hs.step_iff hstep).2)

/-- The first node is discovered, and ubnetd is asked with these outcomes. -/
def asking (connects : List UbnetdConnect) : List DaemonEvent :=
  connects.map fun connect => .packet (newcomer 0) connect

/-- A node is discovered twice. -/
theorem connections_valid_iff_twice : configured 30 [] = .ok (nodesInit 30)
    ∧ (∃ d, Run daemonStep (fun _ _ => True) (nodesInit 30) (asking [.connected, .connected]) d)
    ∧ Always daemonStep (fun _ _ => True) (nodesInit 30) ConnectionsValid
      (asking [.connected, .connected]) := by
  obtain ⟨d, hrun, -⟩ : ∃ d, Run daemonStep (fun s e => True ∧ Reconnects s e) (nodesInit 30)
      (asking [.connected, .connected]) d ∧ d.objects.all.length = 2 := by
    apply Run.exists_of_eval Fault.assertion
    decide +kernel
  have hrun' : Run daemonStep (fun _ _ => True) (nodesInit 30)
      (asking [.connected, .connected]) d := hrun.weaken fun _ _ _ => trivial
  exact ⟨rfl, ⟨d, hrun'⟩,
    (@connections_valid_iff 30 [] (nodesInit 30) d _ rfl hrun').mpr (hrun'.everyStep_iff.mpr hrun)⟩

/-- **A connection dangles** when the node is discovered again and ubnetd is not there; when
it is discovered a third time, the socket is closed and released once more. -/
theorem failed_request_dangles : configured 30 [] = .ok (nodesInit 30)
    ∧ (∃ d, Run daemonStep (fun _ _ => True) (nodesInit 30) (asking [.connected, .connectFails]) d
      ∧ ¬ ConnectionsValid d)
    ∧ ∃ d, Run daemonStep (fun _ _ => True) (nodesInit 30)
        (asking [.connected, .connectFails, .connected]) d
      ∧ d.objects.misused = [0, 0] ∧ d.objects.ownerAt 0 = none := by
  refine ⟨rfl, ?_, ?_⟩
  · obtain ⟨d, hrun, hub, hreleased⟩ : ∃ d, Run daemonStep (fun _ _ => True) (nodesInit 30)
        (asking [.connected, .connectFails]) d ∧ (d.nodes ⟨0, by decide⟩).ubnetd = some 0
        ∧ (d.objects.all[0]?).map Object.released = some true := by
      apply Run.exists_of_eval Fault.assertion
      decide +kernel
    refine ⟨d, hrun, fun hvalid => ?_⟩
    rw [hvalid.opened _ 0 hub] at hreleased
    cases hreleased
  · apply Run.exists_of_eval Fault.assertion
    decide +kernel

end Ubd
