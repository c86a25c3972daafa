import Ubd.Daemon.Requests

/-!
# Daemon.Confirmations — sockets for confirmed addresses

Here the daemon runs together with ubnetd, which answers a request on its connection at some
time, or closes it, or does nothing. `sockets_confirmed_iff` says when `net_createSockets` is
only called for an address that ubnetd has confirmed.
-/

namespace Ubd

open Runs

/-! ## Calls of `net_createSockets` -/

/-- `interface_getConfiguredAddress` returns an address. -/
def configures (env : NodeId → NetEnv) (d : Daemon) (n : NodeId) : Bool :=
  (interfaceGetConfiguredAddress (env n) (d.netAt n)).2.isSome

/-- The loop of `mgt_tick` at `i`, with the calls it makes. -/
def mgtConfigureCalls (env : NodeId → NetEnv) (q : Daemon × List NodeId) (i : Nat) :
    Except Fault (Daemon × List NodeId) :=
  match nodesGetNode q.1 i with
  | none => .error .nullPointer
  | some n => logged (mgtConfigureNode env) (configures env) q n

/-- `mgt_tick`, with the nodes for which it calls `net_createSockets`. -/
def mgtTickCalls (d : Daemon) (env : NodeId → NetEnv) : Except Fault (Daemon × List NodeId) := do
  let d ← mgtCheckTimeout d
  (List.range (nodesGetNodeCount d)).foldlM (mgtConfigureCalls env) (d, [])

/-! ## The other end -/

/-- What ubnetd has done with a connection. -/
inductive Peer where
  | waiting
  | answered (buf : UInt8)
  | closed
  deriving DecidableEq, Repr

/-- `connection_handler` of `ubnetd.c`. `receive` returns all 17 bytes or nothing; `rc` is what
setting or removing the address returns. -/
def connectionHandler (received : Option (Vector UInt8 17)) (rc : Int) : Peer :=
  match received with
  | none => .closed
  | some buf =>
      if buf.get 0 ≠ 0x41 ∧ buf.get 0 ≠ 0x44 then .closed
      else if rc = 0 then .answered 0x41
      else .answered 0x4E

/-- A call of `net_createSockets`: the connection that the latest `interface_createAddress` of
the node has opened, and what ubnetd has done with it. -/
structure Call where
  n : NodeId
  connection : Option Handle
  peer : Option Peer
  deriving DecidableEq

/-- The daemon and the other ends of its connections. -/
structure WithUbnetd where
  daemon : Daemon
  peers : Handle → Peer
  /-- What the latest `interface_createAddress` of a node has opened. -/
  latest : NodeId → Option Handle
  calls : List Call

/-- What a tick meets outside. -/
structure World where
  /-- What is in the buffer before `g_socket_receive`, which does not write it at the end of
  the stream. -/
  buf : NodeId → UInt8
  /-- What is read from a socket that has been released. -/
  stale : NodeId → Option UInt8
  udpBind : NodeId → ClassId → Bool
  tcpListen : NodeId → ClassId → Bool
  mgtListen : NodeId → Bool

inductive UbnetdEvent where
  /-- Anything but a tick. -/
  | daemon (e : DaemonEvent)
  /-- `connection_handler` has run on a connection. -/
  | handled (h : Handle) (received : Option (Vector UInt8 17)) (rc : Int)
  | tick (world : World)

/-- Has the object been released? -/
def Objects.isReleased (o : Objects) (h : Handle) : Bool := (o.all[h]?).any Object.released

/-- What `g_socket_receive` leaves in the buffer, once the socket is readable. -/
def WithUbnetd.received (s : WithUbnetd) (world : World) (n : NodeId) (h : Handle) :
    Option UInt8 :=
  if s.daemon.objects.isReleased h then world.stale n
  else
    match s.peers h with
    | .waiting => none
    | .answered buf => some buf
    | .closed => some (world.buf n)

def WithUbnetd.env (s : WithUbnetd) (world : World) (n : NodeId) : NetEnv where
  ubnetd := (s.daemon.nodes n).ubnetd.bind (s.received world n)
  udpBind := world.udpBind n
  tcpListen := world.tcpListen n
  mgtListen := world.mgtListen n

/-- Node `x` has asked for an address. -/
def WithUbnetd.asked (s : WithUbnetd) (x : NodeId) (connect : UbnetdConnect) (d : Daemon) :
    WithUbnetd :=
  match connect, (d.nodes x).ubnetd with
  | .connected, some h =>
      { s with
        daemon := d
        peers := Function.update s.peers h .waiting
        latest := Function.update s.latest x (some h) }
  | _, _ => { s with daemon := d, latest := Function.update s.latest x none }

/-- An event has led to daemon `d`. -/
def WithUbnetd.follow (s : WithUbnetd) (e : DaemonEvent) (d : Daemon) : WithUbnetd :=
  match e with
  | .packet p connect =>
      match registering s.daemon p with
      | some x => s.asked x connect d
      | none => { s with daemon := d }
  | _ => { s with daemon := d }

def WithUbnetd.call (s : WithUbnetd) (n : NodeId) : Call :=
  ⟨n, s.latest n, (s.latest n).map s.peers⟩

def ubnetdStep (s : WithUbnetd) : UbnetdEvent → Except Fault WithUbnetd
  | .daemon e => (daemonStep s.daemon e).map (s.follow e)
  | .handled h received rc =>
      .ok (if s.peers h = .waiting then
        { s with peers := Function.update s.peers h (connectionHandler received rc) }
      else s)
  | .tick world => (mgtTickCalls s.daemon (s.env world)).map fun q =>
      { s with daemon := q.1, calls := s.calls ++ q.2.map s.call }

/-- A tick reads what ubnetd has sent. -/
def mayHappen (_ : WithUbnetd) : UbnetdEvent → Prop
  | .daemon (.main (.tick _)) => False
  | _ => True

/-- Before anything has been asked. -/
def Daemon.unasked (d : Daemon) : WithUbnetd := ⟨d, fun _ => .waiting, fun _ => none, []⟩

/-! ## The tick and its calls -/

section Calls

variable {d d' : Daemon} {env : NodeId → NetEnv} {n : NodeId} {ns : List NodeId}

/-- Keeping the calls changes nothing. -/
theorem mgtTickCalls_fst (d : Daemon) (env : NodeId → NetEnv) :
    (mgtTickCalls d env).map Prod.fst = mgtTick d env := by
  unfold mgtTickCalls mgtTick
  cases mgtCheckTimeout d with
  | error x => rfl
  | ok d₁ =>
      refine foldlM_map (fun q i => ?_) _ _
      unfold mgtConfigureCalls
      cases nodesGetNode q.1 i with
      | none => rfl
      | some n =>
          unfold logged
          cases mgtConfigureNode env q.1 n <;> rfl

theorem configures_iff : configures env d n = true ↔ (d.nodes n).Answered (env n) :=
  Option.isSome_iff_ne_none.trans (interfaceGetConfiguredAddress_snd (env n) (d.netAt n))

theorem answered_congr {x y : Node} {e : NetEnv} (h : x.toNodeNet = y.toNodeNet) :
    x.Answered e ↔ y.Answered e := by
  unfold Node.Answered
  rw [h]

/-- A turn does not change who else has an answer. -/
theorem configures_others (hturn : NodeTurn n d d') {m : NodeId} (hm : m ≠ n) :
    configures env d' m = configures env d m := by
  rw [Bool.eq_iff_iff, configures_iff, configures_iff, hturn.others m hm]

/-- The timeouts close sockets, and that is all they do to the network side. -/
theorem mgtCheckTimeout_net (h : Plugged d) (hrun : mgtCheckTimeout d = .ok d') :
    Plugged d' ∧ ∀ n, (d'.nodes n).toNodeNet = (d.nodes n).toNodeNet
      ∧ (d'.nodes n).free = (d.nodes n).free := by
  refine forEachNode_invariant (I := fun a => Plugged a ∧ ∀ n,
    (a.nodes n).toNodeNet = (d.nodes n).toNodeNet ∧ (a.nodes n).free = (d.nodes n).free)
    (fun a n a' ha hturn => ?_) ⟨h, fun _ => ⟨rfl, rfl⟩⟩ hrun
  have hchecked := mgtCheckNode_checked hturn
  refine ⟨ha.1.turn (mgtCheckNode_turnBody a n a' ha.1 hturn), fun m => ?_⟩
  by_cases hm : m = n
  · rw [hm]
    exact ⟨hchecked.net.trans (ha.2 n).1, hchecked.free.trans (ha.2 n).2⟩
  · rw [hchecked.others m hm]
    exact ha.2 m

theorem logged_turn {q q' : Daemon × List NodeId} (h : Plugged q.1)
    (hturn : logged (mgtConfigureNode env) (configures env) q n = .ok q') :
    NodeTurn n q.1 q'.1 := by
  unfold logged at hturn
  cases hf : mgtConfigureNode env q.1 n with
  | error x =>
      rw [hf] at hturn
      cases hturn
  | ok e =>
      rw [hf] at hturn
      cases hturn
      exact mgtConfigureNode_turnBody env q.1 n e h hf

/-- The loop goes through the slots in use. -/
theorem configureLoop_visits (h : Plugged d) :
    (List.range (nodesGetNodeCount d)).foldlM (mgtConfigureCalls env) (d, [])
      = (usedSlots d).foldlM (logged (mgtConfigureNode env) (configures env)) (d, []) := by
  rw [nodesGetNodeCount_eq]
  refine foldlM_range (I := fun q => Plugged q.1 ∧ usedSlots q.1 = usedSlots d)
    (fun q i n hq hi => ?_) (fun q n q' hq hturn => ?_) ⟨h, rfl⟩
  · have hget : nodesGetNode q.1 i = some n := by
      rw [nodesGetNode_eq]
      show (usedSlots q.1)[i]? = some n
      rw [hq.2]
      exact hi
    unfold mgtConfigureCalls
    rw [hget]
  · have hbody := logged_turn hq.1 hturn
    refine ⟨hq.1.turn hbody, Eq.trans ?_ hq.2⟩
    unfold usedSlots
    simp only [hbody.free_all]

/-- **For whom a tick calls `net_createSockets`**: for the nodes in use that ubnetd has
answered. -/
theorem mgtTickCalls_calls (h : Plugged d) (hrun : mgtTickCalls d env = .ok (d', ns)) :
    ns.Nodup ∧ ∀ n, n ∈ ns ↔ (d.nodes n).free = false ∧ (d.nodes n).Answered (env n) := by
  obtain ⟨d₁, hcheck, hconfigure⟩ := bind_eq_ok.mp hrun
  obtain ⟨hd₁, hnet⟩ := mgtCheckTimeout_net h hcheck
  rw [configureLoop_visits hd₁] at hconfigure
  have hcalls : ns = [] ++ (usedSlots d₁).filter (configures env d₁) := by
    refine foldlM_logged (I := Plugged) (fun a n a' ha hturn => ?_) (nodup_usedSlots d₁) hd₁
      hconfigure
    have hbody := mgtConfigureNode_turnBody env a n a' ha hturn
    exact ⟨ha.turn hbody, fun m hm => configures_others hbody hm⟩
  rw [hcalls, List.nil_append]
  refine ⟨(nodup_usedSlots d₁).filter _, fun n => ?_⟩
  rw [List.mem_filter, mem_usedSlots, configures_iff, answered_congr (hnet n).1, (hnet n).2]

end Calls

/-! ## What becomes of the connections -/

/-- Connections stay as they are, or are read and closed. -/
structure Interfaces.Reads (i i' : Interfaces) : Prop where
  kept : ∀ n h, i'.ubnetd n = some h → i.ubnetd n = some h
  addressed : i'.addressed = i.addressed
  released : ∀ h, i.objects.Released h → i'.objects.Released h
  connected : ∀ n h, i.ubnetd n = some h → i.objects.Connected h →
    (i'.ubnetd n = some h ∧ i'.objects.Connected h)
      ∨ (i'.ubnetd n = none ∧ i'.objects.Released h)

/-- What is known of the connections: whose they are, and that only the one that has been opened
last can be open. -/
structure Interfaces.Tracked (i : Interfaces) (latest : NodeId → Option Handle) : Prop where
  unique : ∀ n m h, i.ubnetd n = some h → i.ubnetd m = some h → n = m
  latest : ∀ n h, i.ubnetd n = some h → (latest n = some h ∧ i.objects.Connected h)
    ∨ (latest n = none ∧ i.objects.Released h)
  addressed : ∀ n, i.ubnetd n ≠ none → i.addressed n = true

section Tracking

variable {i i' i'' : Interfaces} {latest : NodeId → Option Handle} {n x : NodeId} {h k : Handle}
  {o : Objects}

theorem Interfaces.Reads.refl (i : Interfaces) : i.Reads i :=
  ⟨fun _ _ h => h, rfl, fun _ h => h, fun _ _ hub hh => .inl ⟨hub, hh⟩⟩

theorem Interfaces.Reads.trans (h : i.Reads i') (h' : i'.Reads i'') : i.Reads i'' where
  kept := fun n k hk => h.kept n k (h'.kept n k hk)
  addressed := h'.addressed.trans h.addressed
  released := fun k hk => h'.released k (h.released k hk)
  connected := by
    intro n k hub hk
    rcases h.connected n k hub hk with ⟨hub', hk'⟩ | ⟨hnone, hreleased⟩
    · exact h'.connected n k hub' hk'
    · refine .inr ⟨?_, h'.released k hreleased⟩
      cases hub'' : i''.ubnetd n with
      | none => rfl
      | some k' =>
          rw [h'.kept n k' hub''] at hnone
          cases hnone

theorem reads_beside (h : i.objects.Beside o) : i.Reads { i with objects := o } :=
  ⟨fun _ _ h => h, rfl, h.released, fun _ k hub hk => .inl ⟨hub, h.connected k hk⟩⟩

/-- Reading an answer. -/
theorem reads_poll (hunique : ∀ n m h, i.ubnetd n = some h → i.ubnetd m = some h → n = m)
    (x : NodeId) (env : NetEnv) : i.Reads (i.poll x env) := by
  unfold Interfaces.poll
  cases hx : i.ubnetd x with
  | none => exact .refl i
  | some k =>
      cases env.ubnetd with
      | none => exact .refl i
      | some buf =>
          refine ⟨fun n h hn => ?_, rfl, fun h hh => i.objects.released_drop hh,
            fun n h hn hh => ?_⟩
          · by_cases hnx : n = x
            · rw [hnx] at hn
              dsimp only at hn
              rw [Function.update_self] at hn
              cases hn
            · dsimp only at hn
              rw [Function.update_of_ne hnx] at hn
              exact hn
          · dsimp only
            by_cases hnx : n = x
            · subst hnx
              rw [hx] at hn
              cases hn
              rw [Function.update_self]
              exact .inr ⟨rfl, i.objects.drop_released hh.1⟩
            · rw [Function.update_of_ne hnx]
              refine .inl ⟨hn, connected_drop (fun heq => hnx ?_) hh⟩
              exact hunique n x h hn (heq ▸ hx)

theorem Interfaces.Tracked.reads (h : i.Tracked latest) (hreads : i.Reads i') :
    i'.Tracked latest where
  unique := fun n m k hn hm => h.unique n m k (hreads.kept n k hn) (hreads.kept m k hm)
  latest := by
    intro n k hk
    rcases h.latest n k (hreads.kept n k hk) with ⟨hlatest, hconnected⟩ | ⟨hlatest, hreleased⟩
    · rcases hreads.connected n k (hreads.kept n k hk) hconnected with ⟨-, hk'⟩ | ⟨hnone, -⟩
      · exact .inl ⟨hlatest, hk'⟩
      · rw [hk] at hnone
        cases hnone
    · exact .inr ⟨hlatest, hreads.released k hreleased⟩
  addressed := by
    intro n hn
    rw [hreads.addressed]
    refine h.addressed n fun hnone => hn ?_
    cases hub : i'.ubnetd n with
    | none => rfl
    | some k =>
        rw [hreads.kept n k hub] at hnone
        cases hnone

/-! ### Asking anew -/

theorem Interfaces.Tracked.made (h : i.Tracked latest) (hk : i.ubnetd n = some k) :
    ∃ y, i.objects.all[k]? = some y := by
  rcases h.latest n k hk with ⟨-, hconnected⟩ | ⟨-, y, hy, -⟩
  · exact ⟨_, hconnected.1⟩
  · exact ⟨y, hy⟩

/-- Dropping the connection of `x` is nothing to the others. -/
theorem Interfaces.Tracked.drop_others (h : i.Tracked latest) (hn : n ≠ x)
    (hk : i.ubnetd n = some k) :
    (latest n = some k ∧ (i.objects.drop (i.ubnetd x)).Connected k)
      ∨ (latest n = none ∧ (i.objects.drop (i.ubnetd x)).Released k) := by
  rcases h.latest n k hk with ⟨hlatest, hconnected⟩ | ⟨hlatest, hreleased⟩
  · refine .inl ⟨hlatest, spares_drop i x k (fun hx => hn (h.unique n x k hk hx)) hconnected⟩
  · exact .inr ⟨hlatest, i.objects.released_drop hreleased⟩

theorem Interfaces.Tracked.drop_self (h : i.Tracked latest) (hk : i.ubnetd x = some k) :
    (i.objects.drop (i.ubnetd x)).Released k := by
  obtain ⟨y, hy⟩ := h.made hk
  rw [hk]
  exact i.objects.drop_released hy

/-- What has been released stays so. -/
theorem released_create (i : Interfaces) (x : NodeId) (connect : UbnetdConnect)
    (hh : i.objects.Released h) : (i.create x connect).objects.Released h := by
  have hdrop := i.objects.released_drop (i := i.ubnetd x) hh
  cases connect with
  | socketFails => exact hdrop
  | connectFails => exact hdrop.create .socket
  | connected => exact hdrop.create .socket

/-- Asking needs an address. -/
theorem Interfaces.Tracked.addressed_update (h : i.Tracked latest)
    (hn : n ≠ x → i.ubnetd n ≠ none) : Function.update i.addressed x true n = true := by
  by_cases hnx : n = x
  · rw [hnx, Function.update_self]
  · rw [Function.update_of_ne hnx]
    exact h.addressed n (hn hnx)

/-- The old connection is lost. -/
theorem Interfaces.Tracked.lost (h : i.Tracked latest) {connect : UbnetdConnect}
    (hconnect : connect ≠ .connected) :
    (i.create x connect).Tracked (Function.update latest x none) := by
  have hsame : (i.create x connect).ubnetd = i.ubnetd := by
    cases connect with
    | connected => exact absurd rfl hconnect
    | socketFails | connectFails => rfl
  have hmore : ∀ {k}, ((i.objects.drop (i.ubnetd x)).Connected k →
      (i.create x connect).objects.Connected k)
      ∧ ((i.objects.drop (i.ubnetd x)).Released k → (i.create x connect).objects.Released k) := by
    intro k
    cases connect with
    | connected => exact absurd rfl hconnect
    | socketFails => exact ⟨id, id⟩
    | connectFails => exact ⟨Objects.Connected.create, fun hk => hk.create .socket⟩
  have hadr : (i.create x connect).addressed = Function.update i.addressed x true := by
    cases connect <;> rfl
  refine ⟨?_, fun n k hk => ?_, fun n hn => ?_⟩
  · rw [hsame]
    exact h.unique
  · rw [hsame] at hk
    by_cases hnx : n = x
    · subst hnx
      rw [Function.update_self]
      exact .inr ⟨rfl, hmore.2 (h.drop_self hk)⟩
    · rw [Function.update_of_ne hnx]
      exact (h.drop_others hnx hk).imp (And.imp_right hmore.1) (And.imp_right hmore.2)
  · rw [hsame] at hn
    rw [hadr]
    exact h.addressed_update fun _ => hn

/-- The new connection takes its place. -/
theorem Interfaces.Tracked.replaced (h : i.Tracked latest) (x : NodeId) :
    (i.create x .connected).ubnetd x = some i.objects.all.length
      ∧ (i.create x .connected).Tracked
        (Function.update latest x (some i.objects.all.length)) := by
  have hlength : (i.objects.drop (i.ubnetd x)).all.length = i.objects.all.length :=
    i.objects.length_drop _
  have hnew : (i.create x .connected).ubnetd
      = Function.update i.ubnetd x (some i.objects.all.length) := by
    rw [← hlength]
    rfl
  have hfresh : ∀ n, i.ubnetd n ≠ some i.objects.all.length := by
    intro n hn
    obtain ⟨y, hy⟩ := h.made hn
    exact absurd (List.getElem?_eq_some_iff.mp hy).1 (Nat.lt_irrefl _)
  -- that no two nodes share it does not depend on what is open
  have hbefore : Handles.Sound (fun _ => True) i.ubnetd := ⟨fun _ _ _ => trivial, h.unique⟩
  have hafter : Handles.Sound (fun _ => True)
      (Function.update i.ubnetd x (some i.objects.all.length)) :=
    hbefore.replace (fun _ _ _ => trivial) trivial hfresh
  refine ⟨by rw [hnew, Function.update_self], ?_, fun n k hk => ?_, fun n hn => ?_⟩
  · rw [hnew]
    exact hafter.unique
  · rw [hnew] at hk
    by_cases hnx : n = x
    · rw [hnx, Function.update_self] at hk
      rw [hnx, Function.update_self]
      refine .inl ⟨hk, ?_⟩
      cases hk
      rw [← hlength]
      exact connected_create _
    · rw [Function.update_of_ne hnx] at hk ⊢
      exact (h.drop_others hnx hk).imp (And.imp_right Objects.Connected.create)
        (And.imp_right fun hk' => hk'.create .socket)
  · rw [hnew] at hn
    refine h.addressed_update fun hnx => ?_
    rw [Function.update_of_ne hnx] at hn
    exact hn

end Tracking

/-! ## Over whole runs -/

/-- Sockets are only created when ubnetd has answered `A` on the connection of the latest
request, and once for each such answer. -/
structure Confirmed (s : WithUbnetd) : Prop where
  answered : ∀ c ∈ s.calls, ∃ h, c.connection = some h ∧ c.peer = some (.answered 0x41)
  once : (s.calls.map Call.connection).Nodup

/-- No `A` gets into the buffer by chance: neither is it there when ubnetd has closed the
connection, nor is it read from a socket that has been released. -/
def NoStrayAnswer (s : WithUbnetd) : UbnetdEvent → Prop
  | .tick world => ∀ n, (s.daemon.nodes n).free = false →
      ∀ h ∈ (s.daemon.nodes n).ubnetd,
        if s.daemon.objects.isReleased h then world.stale n ≠ some 0x41
        else s.peers h = .closed → world.buf n ≠ 0x41
  | _ => True

instance (s : WithUbnetd) (e : UbnetdEvent) : Decidable (NoStrayAnswer s e) :=
  match e with
  | .tick world => inferInstanceAs (Decidable (∀ n, (s.daemon.nodes n).free = false →
      ∀ h ∈ (s.daemon.nodes n).ubnetd,
        if s.daemon.objects.isReleased h then world.stale n ≠ some 0x41
        else s.peers h = .closed → world.buf n ≠ 0x41))
  | .daemon _ | .handled _ _ _ => isTrue trivial

instance (s : WithUbnetd) (e : UbnetdEvent) : Decidable (mayHappen s e) :=
  match e with
  | .daemon (.main (.tick _)) => isFalse id
  | .daemon (.main (.accept _)) | .daemon (.main (.read _ _)) | .daemon (.main (.close _))
  | .daemon (.main (.readError _)) | .daemon (.packet _ _) | .daemon .take | .handled _ _ _
  | .tick _ => isTrue trivial

/-- What holds in all states as long as no answer goes astray. -/
structure Confirming (s : WithUbnetd) : Prop where
  wired : Wired s.daemon
  plugged : Plugged s.daemon
  tracked : s.daemon.interfaces.Tracked s.latest
  confirmed : Confirmed s
  released : ∀ c ∈ s.calls, ∀ h, c.connection = some h → s.daemon.objects.Released h

section Ticks

variable {d d' : Daemon} {env : NodeId → NetEnv} {n : NodeId}

/-- **What a tick does to the connections.** -/
theorem mgtTick_reads (h : Plugged d)
    (hunique : ∀ n m h, d.interfaces.ubnetd n = some h → d.interfaces.ubnetd m = some h → n = m)
    (hrun : mgtTick d env = .ok d') : d.interfaces.Reads d'.interfaces := by
  refine mgtTick_interfaces (I := d.interfaces.Reads)
    (fun i o hi hbeside => hi.trans (reads_beside hbeside)) (fun i x hi => ?_) h (.refl _) hrun
  refine hi.trans (reads_poll (fun n m h hn hm => ?_) x (env x))
  exact hunique n m h (hi.kept n h hn) (hi.kept m h hm)

/-- A connection that has been read is closed. -/
theorem mgtTick_answered (h : Plugged d) (hn : (d.nodes n).free = false)
    (hans : (d.nodes n).Answered (env n)) (hrun : mgtTick d env = .ok d') :
    d'.interfaces.ubnetd n = none := by
  obtain ⟨d₁, d₂, d₃, d₄, ⟨-, hsame₁, hcheck⟩, ⟨-, hsame₃, hturn⟩, hsame₄⟩ :=
    mgtTick_turns h hn hrun
  have hchecked := mgtCheckNode_checked hcheck
  have hnet : (d₃.nodes n).toNodeNet = (d.nodes n).toNodeNet := by
    rw [hsame₃.node, hchecked.net, hsame₁.node]
  obtain ⟨k, hk⟩ := Option.ne_none_iff_exists'.mp hans.1
  have hk₃ : d₃.interfaces.ubnetd n = some k := (congrArg NodeNet.ubnetd hnet).trans hk
  obtain ⟨-, hinterfaces⟩ := mgtConfigureNode_interfaces hturn
  have hpoll : d₄.interfaces.ubnetd n = none := by
    rw [hinterfaces]
    unfold Interfaces.poll
    rw [hk₃, hans.2.1]
    dsimp only
    rw [Function.update_self]
  rw [← hpoll]
  exact congrArg (fun x : Node => x.ubnetd) hsame₄.node

end Ticks

section Steps

variable {s s' : WithUbnetd} {world : World} {n : NodeId} {k : Handle} {o : Objects}

theorem Objects.Released.isReleased (h : o.Released k) : o.isReleased k = true := by
  obtain ⟨x, hx, hr⟩ := h
  unfold Objects.isReleased
  rw [hx]
  exact hr

theorem Objects.Connected.isReleased (h : o.Connected k) : o.isReleased k = false := by
  have hopen : o.all[k]? = some ⟨.socket, true, false⟩ := h.1
  unfold Objects.isReleased
  rw [hopen]
  rfl

/-- A connection is open if it is the latest, and released if the latest request failed. -/
theorem Confirming.connection (h : Confirming s) (hk : (s.daemon.nodes n).ubnetd = some k) :
    (s.latest n = some k ∧ s.daemon.objects.Connected k ∧ s.daemon.objects.isReleased k = false)
      ∨ (s.latest n = none ∧ s.daemon.objects.isReleased k = true) :=
  (h.tracked.latest n k hk).imp
    (fun hconnected => ⟨hconnected.1, hconnected.2, hconnected.2.isReleased⟩)
    (fun hreleased => ⟨hreleased.1, hreleased.2.isReleased⟩)

/-- Who has an answer: whoever reads an `A`. -/
theorem Confirming.answered_iff (h : Confirming s) :
    (s.daemon.nodes n).Answered (s.env world n)
      ↔ ∃ k, (s.daemon.nodes n).ubnetd = some k ∧ s.received world n k = some 0x41 := by
  have henv : (s.env world n).ubnetd
      = (s.daemon.nodes n).ubnetd.bind (s.received world n) := rfl
  unfold Node.Answered
  rw [henv]
  constructor
  · rintro ⟨-, hbind, -⟩
    exact Option.bind_eq_some_iff.mp hbind
  · rintro ⟨k, hk, hreceived⟩
    have hub : (s.daemon.nodes n).ubnetd ≠ none := by
      rw [hk]
      exact Option.some_ne_none k
    refine ⟨hub, ?_, ?_⟩
    · rw [hk]
      exact hreceived
    · exact Option.isSome_iff_ne_none.mp (h.tracked.addressed n hub)

/-- A node that reads an `A`, and no stray one, has got it on its latest connection. -/
theorem Confirming.confirmed_call (h : Confirming s) (hC : NoStrayAnswer s (.tick world))
    (hn : (s.daemon.nodes n).free = false) (hk : (s.daemon.nodes n).ubnetd = some k)
    (hreceived : s.received world n k = some 0x41) :
    s.latest n = some k ∧ s.peers k = .answered 0x41 ∧ s.daemon.objects.Connected k := by
  have hchance := hC n hn k hk
  unfold WithUbnetd.received at hreceived
  rcases h.connection hk with ⟨hlatest, hconnected, hopen⟩ | ⟨-, hreleased⟩
  · rw [hopen, if_neg Bool.false_ne_true] at hchance hreceived
    refine ⟨hlatest, ?_, hconnected⟩
    cases hpeer : s.peers k with
    | waiting =>
        rw [hpeer] at hreceived
        cases hreceived
    | answered buf =>
        rw [hpeer] at hreceived
        rw [Option.some.inj hreceived]
    | closed =>
        rw [hpeer] at hreceived
        exact absurd (Option.some.inj hreceived) (hchance hpeer)
  · rw [hreleased, if_pos rfl] at hchance hreceived
    exact absurd hreceived hchance

/-- A stray `A` is not confirmed. -/
theorem Confirming.noStray (h : Confirming s)
    (hcall : ∀ n k, (s.daemon.nodes n).free = false → (s.daemon.nodes n).ubnetd = some k →
      s.received world n k = some 0x41 → ∃ h, (s.call n).connection = some h
        ∧ (s.call n).peer = some (.answered 0x41)) : NoStrayAnswer s (.tick world) := by
  intro n hn k hk
  have hthis := hcall n k hn hk
  unfold WithUbnetd.received at hthis
  rcases h.connection hk with ⟨hlatest, -, hopen⟩ | ⟨hlatest, hreleased⟩
  · rw [hopen, if_neg Bool.false_ne_true] at hthis ⊢
    intro hclosed hbuf
    rw [hclosed] at hthis
    obtain ⟨-, -, hpeer⟩ := hthis (congrArg some hbuf)
    unfold WithUbnetd.call at hpeer
    rw [hlatest, Option.map_some, hclosed] at hpeer
    cases hpeer
  · rw [hreleased, if_pos rfl] at hthis ⊢
    intro hstale
    obtain ⟨h', hconnection, -⟩ := hthis hstale
    exact nomatch hlatest.symm.trans hconnection

theorem map_eq_ok {α β : Type} {f : α → β} {x : Except Fault α} {y : β}
    (h : x.map f = .ok y) : ∃ a, x = .ok a ∧ f a = y := by
  cases x with
  | error e => cases h
  | ok a => exact ⟨a, rfl, Except.ok.inj h⟩

/-- The calls of a tick, and what they are about. -/
theorem ubnetdStep_tick (h : Confirming s) (hstep : ubnetdStep s (.tick world) = .ok s') :
    ∃ (d' : Daemon) (ns : List NodeId), mgtTick s.daemon (s.env world) = .ok d'
      ∧ s' = { s with daemon := d', calls := s.calls ++ ns.map s.call } ∧ ns.Nodup
      ∧ ∀ n, n ∈ ns ↔ (s.daemon.nodes n).free = false
        ∧ (s.daemon.nodes n).Answered (s.env world n) := by
  obtain ⟨⟨d', ns⟩, hcalls, hs'⟩ := map_eq_ok hstep
  have hrun := mgtTickCalls_fst s.daemon (s.env world)
  rw [hcalls] at hrun
  obtain ⟨hnodup, hmem⟩ := mgtTickCalls_calls h.plugged hcalls
  exact ⟨d', ns, hrun.symm, hs'.symm, hnodup, hmem⟩

/-- New calls are about different connections, and not about those of calls before. -/
theorem Confirming.once (h : Confirming s) {ns : List NodeId} (hnodup : ns.Nodup)
    (hlatest : ∀ n ∈ ns, ∃ k, (s.daemon.nodes n).ubnetd = some k ∧ s.latest n = some k
      ∧ s.daemon.objects.Connected k) :
    ((s.calls ++ ns.map s.call).map Call.connection).Nodup := by
  rw [List.map_append, List.map_map]
  refine List.nodup_append.mpr ⟨h.confirmed.once, ?_, fun o ho o' ho' heq => ?_⟩
  · refine List.Nodup.map_on (fun n hn m hm heq => ?_) hnodup
    obtain ⟨k, hub, hk, -⟩ := hlatest n hn
    obtain ⟨k', hub', hk', -⟩ := hlatest m hm
    have hsame : some k = some k' := hk.symm.trans (Eq.trans heq hk')
    exact h.tracked.unique n m k hub (Option.some.inj hsame ▸ hub')
  · obtain ⟨c, hc, rfl⟩ := List.mem_map.mp ho
    obtain ⟨n, hn, rfl⟩ := List.mem_map.mp ho'
    obtain ⟨k, -, hk, hconnected⟩ := hlatest n hn
    exact (h.released c hc k (Eq.trans heq hk)).not_opened hconnected.1

/-- **A tick** creates sockets for confirmed addresses only, if no answer goes astray. -/
theorem Confirming.tick (h : Confirming s) (hC : NoStrayAnswer s (.tick world))
    (hstep : ubnetdStep s (.tick world) = .ok s') : Confirming s' := by
  obtain ⟨d', ns, hrun, rfl, hnodup, hmem⟩ := ubnetdStep_tick h hstep
  have hreads := mgtTick_reads h.plugged h.tracked.unique hrun
  have hcall : ∀ n ∈ ns, ∃ k, (s.daemon.nodes n).ubnetd = some k ∧ s.latest n = some k
      ∧ s.peers k = .answered 0x41 ∧ s.daemon.objects.Connected k := by
    intro n hn
    obtain ⟨hused, hans⟩ := (hmem n).mp hn
    obtain ⟨k, hk, hreceived⟩ := h.answered_iff.mp hans
    exact ⟨k, hk, h.confirmed_call hC hused hk hreceived⟩
  refine ⟨h.wired.step (e := .main (.tick (s.env world))) hrun, mgtTick_plugged h.plugged hrun,
    h.tracked.reads hreads, ⟨fun c hc => ?_, ?_⟩, fun c hc k hk => ?_⟩
  · rcases List.mem_append.mp hc with hc | hc
    · exact h.confirmed.answered c hc
    · obtain ⟨n, hn, rfl⟩ := List.mem_map.mp hc
      obtain ⟨k, -, hlatest, hpeer, -⟩ := hcall n hn
      refine ⟨k, hlatest, ?_⟩
      unfold WithUbnetd.call
      rw [hlatest, Option.map_some, hpeer]
  · refine h.once hnodup fun n hn => ?_
    obtain ⟨k, hk, hlatest, -, hconnected⟩ := hcall n hn
    exact ⟨k, hk, hlatest, hconnected⟩
  · rcases List.mem_append.mp hc with hc | hc
    · exact hreads.released k (h.released c hc k hk)
    · -- its connection has just been read
      obtain ⟨n, hn, rfl⟩ := List.mem_map.mp hc
      obtain ⟨k', hk', hlatest, -, hconnected⟩ := hcall n hn
      obtain rfl : k' = k := Option.some.inj (hlatest.symm.trans hk)
      have hnone := mgtTick_answered h.plugged ((hmem n).mp hn).1 ((hmem n).mp hn).2 hrun
      rcases hreads.connected n k' hk' hconnected with ⟨hstill, -⟩ | ⟨-, hreleased⟩
      · rw [hnone] at hstill
        cases hstill
      · exact hreleased

/-- And only then. -/
theorem Confirming.tick_noStray (h : Confirming s) (hconfirmed : Confirmed s')
    (hstep : ubnetdStep s (.tick world) = .ok s') : NoStrayAnswer s (.tick world) := by
  obtain ⟨d', ns, -, rfl, -, hmem⟩ := ubnetdStep_tick h hstep
  refine h.noStray fun n k hn hk hreceived => ?_
  have hcalled : n ∈ ns := (hmem n).mpr ⟨hn, h.answered_iff.mpr ⟨k, hk, hreceived⟩⟩
  exact hconfirmed.answered (s.call n)
    (List.mem_append_right _ (List.mem_map_of_mem hcalled))

theorem Confirmed.same (h : Confirmed s) (hcalls : s'.calls = s.calls) : Confirmed s' := by
  refine ⟨fun c hc => h.answered c ?_, ?_⟩
  · rw [← hcalls]
    exact hc
  · rw [hcalls]
    exact h.once

/-- What leaves the connections alone keeps everything. -/
theorem Confirming.same (h : Confirming s) {d : Daemon} (hwired : Wired d) (hplugged : Plugged d)
    (hsame : d.interfaces = s.daemon.interfaces) : Confirming { s with daemon := d } := by
  refine ⟨hwired, hplugged, ?_, h.confirmed.same rfl, fun c hc k hk => ?_⟩
  · show d.interfaces.Tracked s.latest
    rw [hsame]
    exact h.tracked
  · have hobjects : d.objects = s.daemon.objects := congrArg Interfaces.objects hsame
    show d.objects.Released k
    rw [hobjects]
    exact h.released c hc k hk

/-- A request, whatever becomes of it. -/
theorem Confirming.asked (h : Confirming s) {d : Daemon} {x : NodeId} {connect : UbnetdConnect}
    (hwired : Wired d) (hplugged : Plugged d)
    (hcreate : d.interfaces = s.daemon.interfaces.create x connect) :
    Confirming (s.asked x connect d) := by
  have hreleased : ∀ c ∈ s.calls, ∀ k, c.connection = some k → d.objects.Released k := by
    intro c hc k hk
    have hcreated := released_create s.daemon.interfaces x connect (h.released c hc k hk)
    rw [← hcreate] at hcreated
    exact hcreated
  by_cases hconnect : connect = .connected
  · subst hconnect
    obtain ⟨hnew, htracked⟩ := h.tracked.replaced x
    rw [← hcreate] at hnew htracked
    have hub : (d.nodes x).ubnetd = some s.daemon.objects.all.length := hnew
    unfold WithUbnetd.asked
    rw [hub]
    dsimp only
    exact ⟨hwired, hplugged, htracked, h.confirmed.same rfl, hreleased⟩
  · have htracked := h.tracked.lost (x := x) hconnect
    rw [← hcreate] at htracked
    have hlost : s.asked x connect d
        = { s with daemon := d, latest := Function.update s.latest x none } := by
      unfold WithUbnetd.asked
      split
      · exact absurd rfl hconnect
      · rfl
    rw [hlost]
    exact ⟨hwired, hplugged, htracked, h.confirmed.same rfl, hreleased⟩

/-- **A step** creates sockets for confirmed addresses only, exactly if no answer goes astray. -/
theorem Confirming.step_iff {e : UbnetdEvent} (h : Confirming s) (hmay : mayHappen s e)
    (hstep : ubnetdStep s e = .ok s') :
    (NoStrayAnswer s e → Confirming s') ∧ (Confirmed s' → NoStrayAnswer s e) := by
  cases e with
  | tick world => exact ⟨fun hC => h.tick hC hstep, fun hP => h.tick_noStray hP hstep⟩
  | handled k received rc =>
      refine ⟨fun _ => ?_, fun _ => trivial⟩
      cases hstep
      split
      · exact ⟨h.wired, h.plugged, h.tracked, h.confirmed.same rfl, h.released⟩
      · exact h
  | daemon e =>
      refine ⟨fun _ => ?_, fun _ => trivial⟩
      obtain ⟨d, hdaemon, rfl⟩ := map_eq_ok hstep
      have hwired := h.wired.step hdaemon
      have hplugged := h.plugged.step h.wired hdaemon
      cases e with
      | packet p connect =>
          have hinterfaces := busmgtInpacket_interfaces h.wired hdaemon
          unfold WithUbnetd.follow
          dsimp only
          cases hreg : registering s.daemon p with
          | none =>
              rw [hreg] at hinterfaces
              exact h.same hwired hplugged hinterfaces
          | some x =>
              rw [hreg] at hinterfaces
              exact h.asked hwired hplugged hinterfaces
      | take =>
          cases hdaemon
          exact h.same hwired hplugged rfl
      | main e =>
          have htick : ∀ env, e ≠ .tick env := by
            rintro env rfl
            exact hmay
          exact h.same hwired hplugged (mainStep_serves hdaemon htick).interfaces

theorem configured_confirming {nodetimeout : Int} {cs : List NodeConfig} {d : Daemon}
    (h : configured nodetimeout cs = .ok d) : Confirming d.unasked := by
  have hsocketless := configured_socketless h
  have hnone : ∀ n k, d.interfaces.ubnetd n ≠ some k := fun n k hk =>
    nomatch (hsocketless.ubnetd n).symm.trans hk
  refine ⟨(configured_wired h).1, hsocketless.plugged.1, ⟨fun n m k hn => ?_, fun n k hk => ?_,
    fun n hn => ?_⟩, ⟨fun c hc => (nomatch hc), List.nodup_nil⟩, fun c hc => (nomatch hc)⟩
  · exact absurd hn (hnone n k)
  · exact absurd hk (hnone n k)
  · exact absurd (hsocketless.ubnetd n) hn

end Steps

/-- **When sockets are only created for confirmed addresses**, in every state of a run: when no
`A` gets into the buffer by chance. -/
theorem sockets_confirmed_iff {nodetimeout : Int} {cs : List NodeConfig} {d₀ : Daemon}
    {s : WithUbnetd} {es : List UbnetdEvent} (hconfigured : configured nodetimeout cs = .ok d₀)
    (hrun : Run ubnetdStep mayHappen d₀.unasked es s) :
    Always ubnetdStep mayHappen d₀.unasked Confirmed es
      ↔ EveryStep ubnetdStep mayHappen d₀.unasked NoStrayAnswer es :=
  hrun.always_iff (configured_confirming hconfigured) (fun _ hs => hs.confirmed)
    (fun _ _ _ hs hmay hstep => (hs.step_iff hmay hstep).1)
    (fun _ _ _ hs hmay hstep => (hs.step_iff hmay hstep).2)

/-- Nothing fails, and every buffer begins with this byte. -/
def plainWorld (buf : UInt8) : World where
  buf := fun _ => buf
  stale := fun _ => none
  udpBind := fun _ _ => true
  tcpListen := fun _ _ => true
  mgtListen := fun _ => true

/-- The request of the first node: `A` and its address. -/
def addRequest : Vector UInt8 17 := Vector.ofFn fun i => if i.val = 0 then 0x41 else 0

/-- The first node is discovered, `connection_handler` runs, and there is a tick. -/
def requesting (received : Option (Vector UInt8 17)) (buf : UInt8) : List UbnetdEvent :=
  [.daemon (.packet (newcomer 0) .connected), .handled 0 received 0, .tick (plainWorld buf)]

/-- Its sockets are created when ubnetd has set the address. -/
theorem sockets_confirmed_iff_once : configured 30 [] = .ok (nodesInit 30)
    ∧ (∃ s, Run ubnetdStep mayHappen (nodesInit 30).unasked (requesting (some addRequest) 0) s
      ∧ s.calls = [⟨⟨0, by decide⟩, some 0, some (.answered 0x41)⟩])
    ∧ Always ubnetdStep mayHappen (nodesInit 30).unasked Confirmed
      (requesting (some addRequest) 0) := by
  obtain ⟨s, hrun, hcalls⟩ : ∃ s, Run ubnetdStep (fun s e => mayHappen s e ∧ NoStrayAnswer s e)
      (nodesInit 30).unasked (requesting (some addRequest) 0) s
      ∧ s.calls = [⟨⟨0, by decide⟩, some 0, some (.answered 0x41)⟩] := by
    apply Run.exists_of_eval Fault.assertion
    decide +kernel
  have hrun' : Run ubnetdStep mayHappen (nodesInit 30).unasked (requesting (some addRequest) 0) s :=
    hrun.weaken fun _ _ hboth => hboth.1
  exact ⟨rfl, ⟨s, hrun', hcalls⟩, (@sockets_confirmed_iff 30 [] (nodesInit 30) s _ rfl hrun').mpr
    (hrun'.everyStep_iff.mpr hrun)⟩

/-- **An end of stream is taken for an answer**: ubnetd closes the connection, and the sockets
are created because an `A` was in the buffer. -/
theorem closed_connection_confirms : configured 30 [] = .ok (nodesInit 30)
    ∧ ∃ s, Run ubnetdStep mayHappen (nodesInit 30).unasked (requesting none 0x41) s
      ∧ s.calls = [⟨⟨0, by decide⟩, some 0, some .closed⟩] ∧ ¬ Confirmed s := by
  obtain ⟨s, hrun, hcalls⟩ : ∃ s, Run ubnetdStep mayHappen (nodesInit 30).unasked
      (requesting none 0x41) s ∧ s.calls = [⟨⟨0, by decide⟩, some 0, some .closed⟩] := by
    apply Run.exists_of_eval Fault.assertion
    decide +kernel
  refine ⟨rfl, s, hrun, hcalls, fun hconfirmed => ?_⟩
  obtain ⟨-, -, hpeer⟩ := hconfirmed.answered _ (hcalls ▸ List.mem_singleton_self _)
  cases hpeer

end Ubd
