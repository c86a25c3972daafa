import Ubd.Packet.Listening
import Ubd.Lib.Delimited
import Ubd.Lib.Output

/-!
# Packet.Clients — what a client reads

On the stream of a connection the daemon writes statuses as single letters, and data in
either of two encodings, each in capitals for replies and in small letters for unsolicited
data. `clientFormat` is what a client has to know of it. `clients_read_back` says that it is
enough, in every run: as long as no write is short, what a client reads off its stream, in
whatever pieces, is what was dispatched to it, in order. The code does not look at how much a
write takes.
-/

namespace Ubd

open Delimited Runs

/-! ## The format -/

/-- What can come on a connection. Data is short enough for a length byte. -/
inductive ClientItem where
  | status (v : Verdict)
  | data (unsolicited : Bool) (bytes : List UInt8) (fits : bytes.length < 256)
  deriving DecidableEq, Repr

/-- The letter of a status, as `tcp_reply` writes it. -/
def statusLetter : Verdict → UInt8
  | .done => 0x41
  | .abort => 0x4E

/-- What the daemon writes for an item. -/
def ClientItem.bytes : ClientItem → List UInt8
  | .status v => [statusLetter v]
  | .data unsolicited bytes _ => (tcpWriteCharacterEncoded bytes unsolicited).flatten

/-- What comes behind a carriage return and a newline. -/
def behindLineEnd : List UInt8 → Option (List UInt8)
  | b :: c :: rest => if b = 0x0D ∧ c = 0x0A then some rest else none
  | _ => none

/-- A line of text up to its end. -/
def clientText : List UInt8 → Option (List UInt8 × List UInt8)
  | [] => none
  | b :: l =>
      if isNewline b then (behindLineEnd (b :: l)).map fun rest => ([], rest)
      else (clientText l).map fun (text, rest) => (b :: text, rest)

/-- Data as text. -/
def clientChars (unsolicited : Bool) (l : List UInt8) : Option (ClientItem × List UInt8) :=
  match clientText l with
  | some (text, rest) =>
      if h : text.length < 256 then some (.data unsolicited text h, rest) else none
  | none => none

/-- Data behind their length. -/
def clientBinary (unsolicited : Bool) : List UInt8 → Option (ClientItem × List UInt8)
  | [] => none
  | n :: l =>
      if n.toNat ≤ l.length then
        some (.data unsolicited (l.take n.toNat)
          (lt_of_le_of_lt (List.length_take_le _ _) n.toNat_lt), l.drop n.toNat)
      else none

/-- The first item of a stream, by its first letter. -/
def clientDecode : List UInt8 → Option (ClientItem × List UInt8)
  | [] => none
  | b :: l =>
      if b = 0x41 then some (.status .done, l)
      else if b = 0x4E then some (.status .abort, l)
      else if b = charC then clientChars false l
      else if b = 0x63 then clientChars true l
      else if b = charB then clientBinary false l
      else if b = 0x62 then clientBinary true l
      else none

section Text

variable {l text rest : List UInt8}

theorem clientText_line (h : ∀ b ∈ text, isNewline b = false) (rest : List UInt8) :
    clientText (text ++ 0x0D :: 0x0A :: rest) = some (text, rest) := by
  induction text with
  | nil => rfl
  | cons b text ih =>
      have hb : ¬ isNewline b = true := by simp [h b List.mem_cons_self]
      rw [List.cons_append, clientText, if_neg hb, ih fun x hx => h x (List.mem_cons_of_mem _ hx)]
      rfl

/-- Only a line is read as one. -/
theorem clientText_eq_some (h : clientText l = some (text, rest)) :
    l = text ++ 0x0D :: 0x0A :: rest ∧ ∀ b ∈ text, isNewline b = false := by
  induction l generalizing text with
  | nil => cases h
  | cons b l ih =>
      rw [clientText] at h
      split at h
      · obtain ⟨rest', hend, heq⟩ := Option.map_eq_some_iff.mp h
        cases heq
        unfold behindLineEnd at hend
        split at hend
        · rename_i hl
          split_ifs at hend with hends
          cases hl
          cases hend
          exact ⟨by rw [hends.1, hends.2]; rfl, by simp⟩
        · cases hend
      · rename_i hb
        obtain ⟨⟨text', rest'⟩, htext, heq⟩ := Option.map_eq_some_iff.mp h
        cases heq
        obtain ⟨hl, hclean⟩ := ih htext
        refine ⟨by rw [hl]; rfl, ?_⟩
        intro x hx
        rcases List.mem_cons.mp hx with rfl | hx
        · simpa using hb
        · exact hclean x hx

end Text

theorem clientChars_append {u : Bool} {l rest : List UInt8} {x : ClientItem} (r : List UInt8)
    (h : clientChars u l = some (x, rest)) :
    clientChars u (l ++ r) = some (x, rest ++ r) ∧ rest.length < l.length := by
  unfold clientChars at h
  split at h
  · rename_i text rest' htext
    obtain ⟨rfl, hclean⟩ := clientText_eq_some htext
    split at h
    · rename_i hshort
      cases h
      unfold clientChars
      rw [List.append_assoc, List.cons_append, List.cons_append, clientText_line hclean]
      dsimp only
      rw [dif_pos hshort]
      refine ⟨rfl, ?_⟩
      rw [List.length_append, List.length_cons, List.length_cons]
      omega
    · cases h
  · cases h

theorem clientBinary_append {u : Bool} {l rest : List UInt8} {x : ClientItem} (r : List UInt8)
    (h : clientBinary u l = some (x, rest)) :
    clientBinary u (l ++ r) = some (x, rest ++ r) ∧ rest.length < l.length := by
  cases l with
  | nil => cases h
  | cons n l =>
      unfold clientBinary at h
      dsimp only at h
      split at h
      · rename_i hlen
        cases h
        have hmore : n.toNat ≤ (l ++ r).length := by
          rw [List.length_append]
          omega
        rw [List.cons_append, clientBinary, if_pos hmore]
        refine ⟨?_, ?_⟩
        · simp only [List.take_append_of_le_length hlen, List.drop_append_of_le_length hlen]
        · rw [List.length_drop, List.length_cons]
          omega
      · cases h

/-- What is read is read off the front. -/
theorem clientDecode_append {l rest : List UInt8} {x : ClientItem} (r : List UInt8)
    (h : clientDecode l = some (x, rest)) :
    clientDecode (l ++ r) = some (x, rest ++ r) ∧ rest.length < l.length := by
  cases l with
  | nil => cases h
  | cons b l =>
      have hlonger : ∀ {k : Nat}, k < l.length → k < (b :: l).length := fun hk =>
        lt_of_lt_of_le hk (Nat.le_succ _)
      rw [List.cons_append]
      unfold clientDecode at h ⊢
      dsimp only at h ⊢
      split_ifs at h ⊢
      · cases h
        exact ⟨rfl, Nat.lt_succ_self _⟩
      · cases h
        exact ⟨rfl, Nat.lt_succ_self _⟩
      · exact (clientChars_append r h).imp_right hlonger
      · exact (clientChars_append r h).imp_right hlonger
      · exact (clientBinary_append r h).imp_right hlonger
      · exact (clientBinary_append r h).imp_right hlonger

/-- Both encodings of data are read back. -/
theorem clientDecode_data (u : Bool) {bytes : List UInt8} (h : bytes.length < 256) :
    clientDecode (tcpWriteCharacterEncoded bytes u).flatten = some (.data u bytes h, []) := by
  cases hnl : bytes.any isNewline with
  | true =>
      have hlen : (UInt8.ofNat bytes.length).toNat = bytes.length := by
        rw [UInt8.toNat_ofNat']
        exact Nat.mod_eq_of_lt h
      have hbinary : clientBinary u (UInt8.ofNat bytes.length :: bytes)
          = some (.data u bytes h, []) := by
        unfold clientBinary
        simp only [hlen, le_refl, if_true, List.take_length, List.drop_length]
      unfold tcpWriteCharacterEncoded tcpWriteBinaryEncoded
      rw [if_pos hnl]
      cases u <;> simpa [clientDecode, charB, charC] using hbinary
  | false =>
      have hclean : ∀ b ∈ bytes, isNewline b = false := by
        intro b hb
        exact Bool.eq_false_iff.mpr fun hb' => by simp [List.any_eq_false.mp hnl b hb] at hb'
      have htext : clientText (bytes ++ [0x0D, 0x0A]) = some (bytes, []) :=
        clientText_line hclean []
      have hchars : clientChars u (bytes ++ [0x0D, 0x0A]) = some (.data u bytes h, []) := by
        unfold clientChars
        rw [htext]
        exact dif_pos h
      unfold tcpWriteCharacterEncoded
      rw [hnl]
      cases u <;> simpa [clientDecode, charB, charC] using hchars

/-- **The format of a connection**, for its client. -/
def clientFormat : Format ClientItem UInt8 where
  encode := ClientItem.bytes
  decode := clientDecode
  decode_encode := by
    intro x
    cases x with
    | status v => cases v <;> rfl
    | data u bytes fits => exact clientDecode_data u fits
  decode_append := fun r h => (clientDecode_append r h).1
  decode_shorter := fun h => (clientDecode_append [] h).2

/-! ## What is dispatched to a client -/

theorem payload_short (p : UbPacket) : (p.data.toList.take p.len.toNat).length < 256 := by
  have hdata : p.data.toList.length = ubPacketData := Vector.length_toList
  rw [List.length_take, hdata]
  exact lt_of_le_of_lt (Nat.min_le_right _ _) (by decide)

/-- The data of a packet, for a client. -/
def UbPacket.item (p : UbPacket) (unsolicited : Bool) : ClientItem :=
  .data unsolicited (p.data.toList.take p.len.toNat) (payload_short p)

/-- What a callback is told. -/
def StreamType.item : StreamType → ClientItem
  | .status v => .status v
  | .packet p _ => p.item false

/-- The listeners of a packet of a node. -/
def Daemon.listenersOf (d : Daemon) (n : NodeId) (p : UbPacket) : List Gpointer :=
  ((d.nodes n).tcpsockets ((d.nodes n).listenClass p.cls)).listeners

/-- What a packet for the main loop brings to a stream, by where it is taken. -/
def Handled.brings (handled : Handled) (type : StreamType) (d : Daemon) (out : Gpointer) :
    List ClientItem :=
  match handled, type with
  | .callback .tcpReply data, type => if data = out then [type.item] else []
  | .listen n, .packet p _ => List.replicate ((d.listenersOf n p).count out) (p.item true)
  | _, _ => []

/-- What an event brings to a stream. -/
def PacketSystem.brings (s : PacketSystem) (e : PacketEvent) (out : Gpointer) : List ClientItem :=
  match e, s.idle with
  | .dispatch _, ps :: _ => ps.destination.brings ps.type s.daemon out
  | _, _ => []

section Dispatch

variable {d d' : Daemon} {out : Gpointer}

theorem writesTo_append (ws ws' : List (Gpointer × List UInt8)) (out : Gpointer) :
    writesTo (ws ++ ws') out = writesTo ws out ++ writesTo ws' out := by
  unfold writesTo
  rw [List.filter_append, List.map_append]

/-- The stream `out` has got the bytes of these items. -/
def Brought (d d' : Daemon) (out : Gpointer) (items : List ClientItem) : Prop :=
  (writesTo d'.written out).flatten
    = (writesTo d.written out).flatten ++ items.flatMap ClientItem.bytes

theorem brought_nothing (h : d'.written = d.written) : Brought d d' out [] := by
  unfold Brought
  rw [h]
  exact (List.append_nil _).symm

theorem brought_write (d : Daemon) (x : Gpointer) (writes : List (List UInt8))
    {items : List ClientItem} (h : writes.flatten = items.flatMap ClientItem.bytes) :
    Brought d (d.write x writes) out (if x = out then items else []) := by
  unfold Brought Daemon.write
  rw [writesTo_append, List.flatten_append]
  congr 1
  unfold writesTo
  split
  · rename_i hx
    rw [List.filter_eq_self.mpr (by simp [hx]), List.map_map, ← h]
    exact congrArg List.flatten (List.map_id writes)
  · rename_i hx
    rw [List.filter_eq_nil_iff.mpr (by simp [hx])]
    rfl

/-- `tcp_reply` -/
theorem tcpReply_brings {ps : PacketStream} (h : tcpReply d ps = .ok d') :
    Brought d d' out (if ps.data = out then [ps.type.item] else []) := by
  unfold Ubd.tcpReply at h
  split at h
  · rename_i htype
    cases h
    rw [htype]
    exact brought_write d _ _ rfl
  · rename_i htype
    cases h
    rw [htype]
    exact brought_write d _ _ rfl
  · rename_i p n htype
    obtain ⟨data, hpayload, h⟩ := bind_eq_ok.mp h
    cases h
    unfold UbPacket.payload at hpayload
    split at hpayload
    · cases hpayload
      rw [htype]
      exact brought_write d _ _ (List.append_nil _).symm
    · cases hpayload

/-- `listen_newMessage` -/
theorem listenNewMessage_brings {n : NodeId} {p : UbPacket} (h : listenNewMessage d n p = .ok d') :
    Brought d d' out (List.replicate ((d.listenersOf n p).count out) (p.item true)) := by
  by_cases hlen : p.len.toNat ≤ ubPacketData
  · rw [listenNewMessage_fits hlen] at h
    cases h
    unfold Brought
    rw [writesTo_append, List.flatten_append]
    congr 1
    rw [writesTo_flatMap, List.flatMap_replicate]
    unfold Daemon.listenersOf
    generalize ((d.nodes n).tcpsockets ((d.nodes n).listenClass p.cls)).listeners.count out = k
    induction k with
    | zero => rfl
    | succ k ih =>
        rw [List.replicate_succ, List.replicate_succ, List.flatten_cons, List.flatten_append, ih,
          List.flatten_cons]
        rfl
  · obtain ⟨hnone, rfl⟩ := listenNewMessage_long hlen h
    have hcount : (d'.listenersOf n p).count out = 0 := by
      unfold Daemon.listenersOf
      rw [hnone]
      rfl
    rw [hcount]
    exact brought_nothing rfl

theorem packetUnsolicited_brings {type : StreamType} {connect : UbnetdConnect} {handled : Handled}
    (h : packetUnsolicited d type connect = .ok (d', handled)) :
    Brought d d' out (type.unsolicited.brings type d out) := by
  unfold packetUnsolicited at h
  cases type with
  | status v =>
      cases h
      exact brought_nothing rfl
  | packet p n =>
      unfold StreamType.unsolicited
      dsimp only at h ⊢
      split at h
      · rename_i hmgt
        obtain ⟨d₁, hrun, h⟩ := bind_eq_ok.mp h
        cases h
        rw [if_pos hmgt]
        exact brought_nothing (busmgtInpacket_managed hrun).written
      · rename_i hmgt
        rw [if_neg hmgt]
        cases n with
        | some n =>
            obtain ⟨d₁, hrun, h⟩ := bind_eq_ok.mp h
            cases h
            exact listenNewMessage_brings hrun
        | none =>
            cases h
            exact brought_nothing rfl

/-- **The main loop** brings a stream what is for it. -/
theorem packetInpacket_brings {ps : PacketStream} {connect : UbnetdConnect} {handled : Handled}
    (h : packetInpacket d ps connect = .ok (d', handled)) :
    Brought d d' out (ps.destination.brings ps.type d out) := by
  unfold packetInpacket at h
  unfold PacketStream.destination
  cases hcallback : ps.callback with
  | none =>
      rw [hcallback] at h
      exact packetUnsolicited_brings h
  | some callback =>
      rw [hcallback] at h
      dsimp only at h ⊢
      split at h
      · rename_i hreply
        obtain ⟨d₁, hcall, h⟩ := bind_eq_ok.mp h
        cases h
        rw [if_pos hreply]
        cases callback with
        | tcpReply => exact tcpReply_brings hcall
        | other address =>
            cases hcall
            exact brought_nothing rfl
      · rename_i hreply
        rw [if_neg hreply]
        exact packetUnsolicited_brings h

end Dispatch

/-! ## Runs -/

/-- Only the main loop writes, when it dispatches. -/
theorem packetStep_brings {s s' : PacketSystem} {e : PacketEvent} (h : packetStep s e = .ok s')
    (out : Gpointer) : Brought s.daemon s'.daemon out (s.brings e out) := by
  cases e with
  | main e =>
      obtain ⟨d, hmain, h⟩ := bind_eq_ok.mp h
      cases h
      exact brought_nothing (mainStep_written hmain)
  | stream n p callback data =>
      obtain ⟨d, hstream, h⟩ := bind_eq_ok.mp h
      cases h
      rw [packetStreamPacket_ok hstream]
      exact brought_nothing rfl
  | take =>
      cases h
      refine brought_nothing ?_
      unfold writerTake
      split
      · rename_i m rest hidle hqueue
        cases m.n <;> rfl
      · rfl
  | write =>
      cases h
      refine brought_nothing ?_
      unfold writerWrite
      split <;> rfl
  | pop =>
      cases h
      refine brought_nothing ?_
      unfold writerPop
      split <;> rfl
  | timeout =>
      cases h
      refine brought_nothing ?_
      unfold writerTimeout
      split
      · rw [abortNext_eq]
        cases s.nextnode <;> rfl
      · rfl
  | answer k v =>
      cases h
      refine brought_nothing ?_
      rw [readStatus_eq]
      cases s.nextnode <;> rfl
  | packet bytes junk =>
      cases h
      refine brought_nothing ?_
      unfold packetReader readPacket
      dsimp only
      rw [if_pos rfl]
      split
      · split <;> rfl
      · rfl
  | dispatch connect =>
      unfold packetStep at h
      dsimp only at h
      cases hidle : s.idle with
      | nil =>
          rw [hidle] at h
          cases h
          unfold PacketSystem.brings
          rw [hidle]
          exact brought_nothing rfl
      | cons ps rest =>
          rw [hidle] at h
          obtain ⟨⟨d, handled⟩, hrun, h⟩ := bind_eq_ok.mp h
          cases h
          unfold PacketSystem.brings
          rw [hidle]
          exact packetInpacket_brings hrun

/-- What has gone out on a stream of which write number `i` takes `accept i n` of `n` bytes. -/
def Daemon.sentOn (d : Daemon) (accept : Nat → Nat → Nat) (out : Gpointer) : List UInt8 :=
  ((writesTo d.written out).foldl (Output.Stream.write accept) Output.Stream.fresh).written

/-- No write on the stream is short. -/
def Daemon.WritesWhole (d : Daemon) (accept : Nat → Nat → Nat) (out : Gpointer) : Prop :=
  ∀ (i : Nat) piece, (writesTo d.written out)[i]? = some piece →
    piece.length ≤ accept i piece.length

/-- Nothing is lost exactly when no write is short. -/
theorem sentOn_eq_iff (d : Daemon) (accept : Nat → Nat → Nat) (out : Gpointer) :
    d.sentOn accept out = (writesTo d.written out).flatten ↔ d.WritesWhole accept out := by
  have hshift : d.WritesWhole accept out ↔ ∀ (i : Nat) piece,
      (writesTo d.written out)[i]? = some piece → piece.length ≤ accept (0 + i) piece.length := by
    simp only [Nat.zero_add]
    rfl
  rw [hshift]
  constructor
  · intro hall
    refine (Output.length_written_iff Output.Stream.fresh _).mp ?_
    exact (congrArg List.length hall).trans (Nat.zero_add _).symm
  · intro hwhole
    exact (Output.written_of_whole hwhole).trans (List.nil_append _)

/-- What is written on the stream of a connection, in bytes. -/
theorem written_brought {nodetimeout : Int} {cs : List NodeConfig} {d₀ : Daemon}
    {tr : List (PacketSystem × PacketEvent)} {s : PacketSystem} (out : Gpointer)
    (h₀ : configured nodetimeout cs = .ok d₀)
    (h : Traced packetStep (fun _ _ => True) (PacketSystem.init d₀) tr s) :
    (writesTo s.daemon.written out).flatten
      = (tr.flatMap fun q => q.1.brings q.2 out).flatMap ClientItem.bytes := by
  refine h.invariant (I := fun tr s => (writesTo s.daemon.written out).flatten
    = (tr.flatMap fun q => q.1.brings q.2 out).flatMap ClientItem.bytes) ?_
    fun tr s e s' hinv _ hstep => ?_
  · have hwritten : d₀.written = [] :=
      configured_invariant (I := fun e => e.written = []) h₀ rfl fun _ _ _ he => he
    show (writesTo d₀.written out).flatten = []
    rw [hwritten]
    rfl
  · have hbrought := packetStep_brings hstep out
    unfold Brought at hbrought
    rw [hbrought, hinv, List.flatMap_append, List.flatMap_append, List.flatMap_singleton]

/-- **A client reads what was dispatched to it.** In every run, whatever the bridge sends and
the clients do, the bytes on the stream of a connection are the statuses, replies and
unsolicited data that the main loop has taken to it, in order, and nothing else, exactly when no
write on it is short. Then they are read back as these items, and a client that has got a part of
them, in any pieces, has read the first of the items. -/
theorem clients_read_back (nodetimeout : Int) (cs : List NodeConfig) (d₀ : Daemon)
    (tr : List (PacketSystem × PacketEvent)) (s : PacketSystem) (out : Gpointer)
    (accept : Nat → Nat → Nat) (h₀ : configured nodetimeout cs = .ok d₀)
    (h : Traced packetStep (fun _ _ => True) (PacketSystem.init d₀) tr s) :
    (s.daemon.sentOn accept out
          = (tr.flatMap fun q => q.1.brings q.2 out).flatMap ClientItem.bytes
        ↔ s.daemon.WritesWhole accept out)
      ∧ (s.daemon.WritesWhole accept out →
        clientFormat.read (s.daemon.sentOn accept out)
            = (tr.flatMap fun q => q.1.brings q.2 out, [])
          ∧ ∀ pieces : List (List UInt8), pieces.flatten <+: s.daemon.sentOn accept out →
              (pieces.foldl clientFormat.feed ([], [])).1
                <+: tr.flatMap fun q => q.1.brings q.2 out) := by
  have hbytes := written_brought out h₀ h
  have hiff := sentOn_eq_iff s.daemon accept out
  rw [hbytes] at hiff
  refine ⟨hiff, fun hwhole => ?_⟩
  have hread : clientFormat.read (s.daemon.sentOn accept out)
      = (tr.flatMap fun q => q.1.brings q.2 out, []) := by
    rw [hiff.mpr hwhole]
    exact Format.read_encode (F := clientFormat) _
  refine ⟨hread, fun pieces hpieces => ?_⟩
  obtain ⟨r, hr⟩ := hpieces
  rw [Format.feed_pieces]
  have hprefix := Format.read_prefix (F := clientFormat) pieces.flatten r
  rwa [hr, hread] at hprefix

/-- A client connects, asks for something, and gets a status and a reply. -/
def askedAndServed : List PacketEvent :=
  connected ++ [asked] ++ served 0 .done ++ served 1 .done ++ served 2 .done
    ++ [.dispatch .connected, .packet reading.bytes zeros, .dispatch .connected]

theorem clients_read_back_served : ∃ tr s,
    Traced packetStep (fun _ _ => True) (PacketSystem.init (nodesInit 30)) tr s
      ∧ s.daemon.written.length = 5
      ∧ clientFormat.read (s.daemon.sentOn (fun _ n => n) 1)
        = (tr.flatMap fun q => q.1.brings q.2 1, [])
      ∧ ∀ pieces : List (List UInt8), pieces.flatten <+: s.daemon.sentOn (fun _ n => n) 1 →
          (pieces.foldl clientFormat.feed ([], [])).1 <+: tr.flatMap fun q => q.1.brings q.2 1 := by
  have hrun : ∃ tr s, Traced packetStep (fun _ _ => True) (PacketSystem.init (nodesInit 30)) tr s
      ∧ s.daemon.written.length = 5 := by
    apply Traced.exists_of_eval Fault.assertion askedAndServed
    decide +kernel
  obtain ⟨tr, s, hs, hwritten⟩ := hrun
  exact ⟨tr, s, hs, hwritten, (clients_read_back 30 [] (nodesInit 30) tr s 1 (fun _ n => n) rfl
    hs).2 fun _ _ _ => Nat.le_refl _⟩

end Ubd
