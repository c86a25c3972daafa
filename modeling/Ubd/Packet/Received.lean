import Ubd.Packet.System
import Ubd.Daemon.Inpacket
import Mathlib.Data.Set.Basic

/-!
# Packet.Received — which bytes of a packet were received

`packet_readerThread` copies as many bytes of a message into a `struct ubpacket` as there
are, and everything behind it goes by the length byte in the packet. The rest of the
struct is what was in the memory before. The consumers are given by the bytes of the
struct that they read (`packetInpacket_congr` says that they read no others), and
`receivedOnly_iff` says for which messages all of these were received.
-/

namespace Ubd

/-- The bytes of the struct, in their order. -/
def UbPacket.raw (p : UbPacket) : List UInt8 :=
  [p.src, p.dest, p.flags, p.cls, p.len] ++ p.data.toList

/-! ## What the consumers read -/

/-- The data up to the length byte. -/
def UbPacket.textReads (p : UbPacket) : Set Nat := {o | 5 ≤ o ∧ o < 5 + p.len.toNat}

/-- `memcpy(..., p->data+off, p->len-off)`. A negative length is a huge one. -/
def UbPacket.copyReads (p : UbPacket) (off : Nat) : Set Nat :=
  {o | o = 4 ∨ (5 + off ≤ o ∧ (p.len.toNat < off ∨ o < 5 + p.len.toNat))}

/-- `debug_packet` -/
def debugPacketReads (p : UbPacket) : Set Nat := {o | o < 5} ∪ p.textReads

/-- `tcp_reply` -/
def tcpReplyReads (p : UbPacket) : Set Nat := {4} ∪ p.textReads

/-- `listen_newMessage` -/
def listenNewMessageReads (p : UbPacket) : Set Nat := {3, 4} ∪ p.textReads

/-- `busmgt_inpacket` -/
def busmgtInpacketReads (d : Daemon) (p : UbPacket) : Set Nat :=
  if p.kind = 0x44 then
    {4, 5, 6, 7} ∪ (if p.len.toNat > maxId then ∅ else {8, 9, 10, 11} ∪ p.copyReads 7)
  else if p.kind = 0x49 then {0, 4, 5} ∪ (if p.len.toNat > maxId then ∅ else p.copyReads 1)
  else if p.kind = 0x56 then
    {0, 5} ∪ (if (nodesGetNodeByBusAdr d p.src.toNat).isSome then p.copyReads 2 else ∅)
  else if p.kind = 0x41 then {0, 5}
  else if p.kind = 0x42 then {0, 5, 6, 7, 8, 9} ∪ p.copyReads 5
  else {5}

/-- `packet_inpacket`, for a packet. -/
def packetInpacketReads (d : Daemon) (ps : PacketStream) (p : UbPacket) : Set Nat :=
  debugPacketReads p ∪
    (if ps.callback.isSome ∧ ps.isReply then tcpReplyReads p
    else if p.flags &&& ubPacketMgt ≠ 0 then busmgtInpacketReads d p
    else listenNewMessageReads p)

/-! ## They read no others -/

/-- Two packets agree on a set of bytes. -/
def UbPacket.Agree (s : Set Nat) (p q : UbPacket) : Prop := ∀ o ∈ s, p.raw[o]? = q.raw[o]?

section Agree

variable {p q : UbPacket} {s t : Set Nat}

theorem UbPacket.Agree.mono (h : p.Agree t q) (hle : s ⊆ t) : p.Agree s q :=
  fun o ho => h o (hle ho)

theorem raw_data (p : UbPacket) (k : Nat) : p.raw[5 + k]? = p.data.toList[k]? := by
  rw [UbPacket.raw, List.getElem?_append_right (by simp)]
  simp

theorem agree_src (h : p.Agree s q) (h0 : 0 ∈ s) : p.src = q.src := by
  have := h 0 h0
  simpa [UbPacket.raw] using this

theorem agree_flags (h : p.Agree s q) (h2 : 2 ∈ s) : p.flags = q.flags := by
  have := h 2 h2
  simpa [UbPacket.raw] using this

theorem agree_cls (h : p.Agree s q) (h3 : 3 ∈ s) : p.cls = q.cls := by
  have := h 3 h3
  simpa [UbPacket.raw] using this

theorem agree_len (h : p.Agree s q) (h4 : 4 ∈ s) : p.len = q.len := by
  have := h 4 h4
  simpa [UbPacket.raw] using this

theorem agree_data (h : p.Agree s q) {k : Nat} (hk : k < ubPacketData) (hs : 5 + k ∈ s) :
    p.data[k] = q.data[k] := by
  have := h (5 + k) hs
  rw [raw_data, raw_data] at this
  simpa [hk] using this

theorem agree_kind (h : p.Agree s q) (h5 : 5 ∈ s) : p.kind = q.kind :=
  agree_data h (by decide) h5

/-- A copy only depends on what is copied. -/
theorem copyData_congr {off : Nat} {n : Int}
    (h : ∀ k, off ≤ k → (k : Int) < off + n → p.data.toList[k]? = q.data.toList[k]?) :
    copyData p off n = copyData q off n := by
  unfold copyData
  split
  · rename_i hn
    congr 1
    apply List.ext_getElem?
    intro i
    by_cases hi : i < n.toNat
    · rw [List.getElem?_take_of_lt hi, List.getElem?_take_of_lt hi, List.getElem?_drop,
        List.getElem?_drop]
      exact h (off + i) (by omega) (by omega)
    · rw [List.getElem?_take_eq_none (by omega), List.getElem?_take_eq_none (by omega)]
  · rfl

theorem copyData_text_congr {off : Nat} (h : p.Agree s q) (hs : p.copyReads off ⊆ s) :
    copyData p off (p.len.toNat - off) = copyData q off (q.len.toNat - off) := by
  have hlen : p.len = q.len := agree_len h (hs (.inl rfl))
  rw [← hlen]
  refine copyData_congr fun k hlo hhi => ?_
  rw [← raw_data, ← raw_data]
  exact h (5 + k) (hs (.inr ⟨by omega, .inr (by omega)⟩))

theorem payload_congr (h : p.Agree s q) (h4 : 4 ∈ s) (hs : p.textReads ⊆ s) :
    p.payload = q.payload := by
  have hlen : p.len = q.len := agree_len h h4
  unfold UbPacket.payload
  rw [← hlen]
  split
  · congr 1
    apply List.ext_getElem?
    intro i
    by_cases hi : i < p.len.toNat
    · rw [List.getElem?_take_of_lt hi, List.getElem?_take_of_lt hi, ← raw_data, ← raw_data]
      exact h (5 + i) (hs ⟨by omega, by omega⟩)
    · rw [List.getElem?_take_eq_none (by omega), List.getElem?_take_eq_none (by omega)]
  · rfl

end Agree

section Consumers

variable {d : Daemon} {p q : UbPacket} {connect : UbnetdConnect} {s : Set Nat}

theorem busmgtDiscover_congr (h : p.Agree s q) (hs : {4, 6, 7} ⊆ s)
    (hcopy : ¬ p.len.toNat > maxId → {8, 9, 10, 11} ∪ p.copyReads 7 ⊆ s) :
    busmgtDiscover d p connect = busmgtDiscover d q connect := by
  have hlen := agree_len h (hs (by simp))
  have h1 : p.data[1] = q.data[1] := agree_data h (by decide) (hs (by simp))
  have h2 : p.data[2] = q.data[2] := agree_data h (by decide) (hs (by simp))
  by_cases hlong : p.len.toNat > maxId
  · unfold busmgtDiscover
    dsimp only
    rw [← hlen, if_pos hlong, if_pos hlong]
  · -- the classes are at fixed offsets, whatever the length
    have hclasses : copyData p 3 4 = copyData q 3 4 := by
      refine copyData_congr fun k hlo hhi => ?_
      rw [← raw_data, ← raw_data]
      refine h (5 + k) (hcopy hlong (.inl ?_))
      have : 5 + k = 8 ∨ 5 + k = 9 ∨ 5 + k = 10 ∨ 5 + k = 11 := by omega
      simpa using this
    have htext := copyData_text_congr h fun o ho => hcopy hlong (.inr ho)
    rw [← hlen] at htext
    simp only [Nat.cast_ofNat] at htext
    unfold busmgtDiscover
    rw [h1, h2, hclasses, ← hlen, htext]

theorem busmgtIdentify_congr (h : p.Agree s q) (hs : {0, 4} ⊆ s)
    (hcopy : ¬ p.len.toNat > maxId → p.copyReads 1 ⊆ s) :
    busmgtIdentify d p = busmgtIdentify d q := by
  have hlen := agree_len h (hs (by simp))
  have hsrc := agree_src h (hs (by simp))
  by_cases hlong : p.len.toNat > maxId
  · unfold busmgtIdentify
    rw [← hlen, if_pos hlong, if_pos hlong]
  · have htext := copyData_text_congr h (hcopy hlong)
    rw [← hlen] at htext
    simp only [Nat.cast_one] at htext
    unfold busmgtIdentify
    rw [← hlen, ← hsrc, htext]

theorem busmgtVersion_congr (h : p.Agree s q) (hs : 0 ∈ s)
    (hcopy : (nodesGetNodeByBusAdr d p.src.toNat).isSome → p.copyReads 2 ⊆ s) :
    busmgtVersion d p = busmgtVersion d q := by
  have hsrc := agree_src h hs
  unfold busmgtVersion
  rw [← hsrc]
  cases hn : nodesGetNodeByBusAdr d p.src.toNat with
  | none => rfl
  | some n =>
      have htext := copyData_text_congr h (hcopy (by rw [hn]; rfl))
      simp only [Nat.cast_ofNat] at htext
      simp only [htext]

theorem busmgtAlive_congr (h : p.Agree s q) (hs : 0 ∈ s) : busmgtAlive d p = busmgtAlive d q := by
  unfold busmgtAlive
  rw [agree_src h hs]

theorem busmgtBridge_congr (h : p.Agree s q) (hs : {0, 6, 7, 8, 9} ∪ p.copyReads 5 ⊆ s) :
    busmgtBridge d p connect = busmgtBridge d q connect := by
  have hsrc := agree_src h (hs (by simp))
  have hclasses : copyData p 1 4 = copyData q 1 4 := by
    refine copyData_congr fun k hlo hhi => ?_
    rw [← raw_data, ← raw_data]
    refine h (5 + k) (hs (.inl ?_))
    have : 5 + k = 6 ∨ 5 + k = 7 ∨ 5 + k = 8 ∨ 5 + k = 9 := by omega
    simp only [Set.mem_insert_iff, Set.mem_singleton_iff]
    omega
  have htext := copyData_text_congr h fun o ho => hs (.inr ho)
  simp only [Nat.cast_ofNat] at htext
  unfold busmgtBridge
  rw [← hsrc, hclasses, htext]

/-- `busmgt_inpacket` only depends on the bytes it reads. -/
theorem busmgtInpacket_congr (h : p.Agree (busmgtInpacketReads d p) q) :
    busmgtInpacket d p connect = busmgtInpacket d q connect := by
  -- the kind is read in any case, so both packets take the same branch
  have h5 : 5 ∈ busmgtInpacketReads d p := by
    unfold busmgtInpacketReads
    split_ifs <;> simp
  have hkind := agree_kind h h5
  unfold busmgtInpacket
  rw [← hkind]
  unfold busmgtInpacketReads at h
  by_cases hD : p.kind = 0x44
  · rw [if_pos hD] at h
    rw [if_pos hD, if_pos hD]
    refine busmgtDiscover_congr h (fun o ho => .inl ?_) fun hlong => ?_
    · simp only [Set.mem_insert_iff, Set.mem_singleton_iff] at ho ⊢
      omega
    · rw [if_neg hlong]
      exact Set.subset_union_right
  · rw [if_neg hD] at h
    rw [if_neg hD, if_neg hD]
    by_cases hI : p.kind = 0x49
    · rw [if_pos hI] at h
      rw [if_pos hI, if_pos hI]
      refine busmgtIdentify_congr h (fun o ho => .inl ?_) fun hlong => ?_
      · simp only [Set.mem_insert_iff, Set.mem_singleton_iff] at ho ⊢
        omega
      · rw [if_neg hlong]
        exact Set.subset_union_right
    · rw [if_neg hI] at h
      rw [if_neg hI, if_neg hI]
      by_cases hV : p.kind = 0x56
      · rw [if_pos hV] at h
        rw [if_pos hV, if_pos hV]
        refine busmgtVersion_congr h (.inl (by simp)) fun hfound => ?_
        rw [if_pos hfound]
        exact Set.subset_union_right
      · rw [if_neg hV] at h
        rw [if_neg hV, if_neg hV]
        by_cases hA : p.kind = 0x41
        · rw [if_pos hA] at h
          rw [if_pos hA, if_pos hA]
          exact busmgtAlive_congr h (by simp)
        · rw [if_neg hA] at h
          rw [if_neg hA, if_neg hA]
          by_cases hB : p.kind = 0x42
          · rw [if_pos hB] at h
            rw [if_pos hB, if_pos hB]
            refine busmgtBridge_congr h (Set.union_subset_union_left _ fun o ho => ?_)
            simp only [Set.mem_insert_iff, Set.mem_singleton_iff] at ho ⊢
            omega
          · rw [if_neg hB, if_neg hB]

theorem callback_congr {n : Option NodeId} {callback : Option Callback} {data : Gpointer}
    (h : p.Agree (tcpReplyReads p) q) (c : Callback) :
    c.call d ⟨.packet p n, callback, data⟩ = c.call d ⟨.packet q n, callback, data⟩ := by
  cases c with
  | tcpReply =>
      unfold Callback.call tcpReply
      dsimp only
      rw [payload_congr h (.inl rfl) Set.subset_union_right]
  | other address => rfl

theorem listenNewMessage_congr {n : NodeId} (h : p.Agree (listenNewMessageReads p) q) :
    listenNewMessage d n p = listenNewMessage d n q := by
  unfold listenNewMessage
  rw [payload_congr h (.inl (by simp)) Set.subset_union_right, agree_cls h (.inl (by simp))]

/-- **What is received decides** what is done with a packet. -/
theorem packetInpacket_congr {n : Option NodeId} {callback : Option Callback} {data : Gpointer}
    (h : p.Agree (packetInpacketReads d ⟨.packet p n, callback, data⟩ p) q) :
    (packetInpacket d ⟨.packet p n, callback, data⟩ connect).map Prod.fst
      = (packetInpacket d ⟨.packet q n, callback, data⟩ connect).map Prod.fst := by
  have hflags : p.flags = q.flags := agree_flags h (.inl (.inl (by simp)))
  have hreply : ∀ r : UbPacket, p.flags = r.flags →
      PacketStream.isReply ⟨.packet r n, callback, data⟩
        = decide (p.flags &&& ubPacketUnsolicited = 0) := by
    intro r hr
    rw [hr]
    rfl
  unfold packetInpacketReads at h
  rw [hreply p rfl] at h
  -- without a callback that waits for it, the packet goes to the bus management or to listeners
  have hother : (∀ c, callback = some c → ¬ p.flags &&& ubPacketUnsolicited = 0) →
      packetUnsolicited d (.packet p n) connect = packetUnsolicited d (.packet q n) connect := by
    intro hunsolicited
    have hno :
        ¬ (callback.isSome = true ∧ decide (p.flags &&& ubPacketUnsolicited = 0) = true) := by
      rintro ⟨hsome, hsolicited⟩
      obtain ⟨c, hc⟩ := Option.isSome_iff_exists.mp hsome
      exact hunsolicited c hc (of_decide_eq_true hsolicited)
    rw [if_neg hno] at h
    unfold packetUnsolicited
    dsimp only
    rw [← hflags]
    by_cases hmgt : p.flags &&& ubPacketMgt ≠ 0
    · rw [if_pos hmgt] at h
      rw [if_pos hmgt, if_pos hmgt, busmgtInpacket_congr (h.mono Set.subset_union_right)]
    · rw [if_neg hmgt] at h
      rw [if_neg hmgt, if_neg hmgt]
      cases n with
      | none => rfl
      | some n =>
          dsimp only
          rw [listenNewMessage_congr (h.mono Set.subset_union_right)]
  unfold packetInpacket
  rw [hreply p rfl, hreply q hflags]
  cases callback with
  | none =>
      dsimp only
      rw [hother (fun c hc => nomatch hc)]
  | some c =>
      dsimp only
      by_cases hsolicited : p.flags &&& ubPacketUnsolicited = 0
      · rw [if_pos ⟨rfl, decide_eq_true hsolicited⟩] at h
        rw [if_pos (decide_eq_true hsolicited), if_pos (decide_eq_true hsolicited)]
        rw [callback_congr (h.mono Set.subset_union_right) c]
      · rw [if_neg (by simpa using hsolicited), if_neg (by simpa using hsolicited)]
        rw [hother (fun _ _ => hsolicited)]

end Consumers

/-! ## What was received -/

/-- A struct in cleared memory. -/
def UbPacket.zero : UbPacket := ⟨0, 0, 0, 0, 0, Vector.replicate ubPacketData 0⟩

/-- The packet in the bytes of a message behind its type. -/
def receivedPacket (bytes : List UInt8) : UbPacket := UbPacket.zero.overlay bytes

theorem overlay_raw (junk : UbPacket) (bytes : List UInt8) {o : Nat} (ho : o < ubPacketlen) :
    (junk.overlay bytes).raw[o]? = some (bytes.getD o (junk.raw.getD o 0)) := by
  by_cases h5 : o < 5
  · have hcases : o = 0 ∨ o = 1 ∨ o = 2 ∨ o = 3 ∨ o = 4 := by omega
    rcases hcases with rfl | rfl | rfl | rfl | rfl <;> simp [UbPacket.raw, UbPacket.overlay]
  · obtain ⟨k, rfl⟩ := Nat.exists_eq_add_of_le (Nat.le_of_not_lt h5)
    have hk : k < ubPacketData := by
      simp only [ubPacketlen, ubPacketData, ubPacketHeader] at ho ⊢
      omega
    have hjunk : junk.raw.getD (5 + k) 0 = junk.data[k] := by
      rw [List.getD_eq_getElem?_getD, raw_data]
      simp [hk]
    rw [raw_data, hjunk]
    simp [UbPacket.overlay, hk]

/-- What was received does not depend on what was in the memory. -/
theorem overlay_agree (junk junk' : UbPacket) (bytes : List UInt8) :
    (junk.overlay bytes).Agree {o | o < bytes.length} (junk'.overlay bytes) := by
  intro o ho
  have ho : o < bytes.length := ho
  by_cases hlen : o < ubPacketlen
  · rw [overlay_raw junk bytes hlen, overlay_raw junk' bytes hlen]
    simp [ho]
  · have hraw : ∀ p : UbPacket, p.raw.length = ubPacketlen := by
      intro p
      have hdata : p.data.toList.length = ubPacketData := Vector.length_toList
      rw [UbPacket.raw, List.length_append, hdata]
      rfl
    rw [List.getElem?_eq_none (by rw [hraw]; omega), List.getElem?_eq_none (by rw [hraw]; omega)]

/-- What `packet_readerThread` adds for a packet. -/
def queuedPacket (s : PacketSystem) (p : UbPacket) : PacketStream :=
  match nodesGetNodeByBusAdr s.daemon p.src.toNat with
  | some n =>
      ⟨.packet p (some n), (s.daemon.nodes n).currentcallback, (s.daemon.nodes n).currentdata⟩
  | none => ⟨.packet p none, none, 0⟩

theorem readPacket_idle (s : PacketSystem) (p : UbPacket) :
    (readPacket s p).idle = s.idle ++ [queuedPacket s p] := by
  unfold readPacket queuedPacket
  cases nodesGetNodeByBusAdr s.daemon p.src.toNat <;> rfl

theorem queuedPacket_type (s : PacketSystem) (p : UbPacket) :
    ∃ n, (queuedPacket s p).type = .packet p n := by
  unfold queuedPacket
  cases nodesGetNodeByBusAdr s.daemon p.src.toNat with
  | none => exact ⟨none, rfl⟩
  | some n => exact ⟨some n, rfl⟩

theorem readStatus_idle {s : PacketSystem} {v : Verdict} {ps : PacketStream} {p : UbPacket}
    {n : Option NodeId} (h : (readStatus s v).idle = s.idle ++ [ps]) : ps.type ≠ .packet p n := by
  intro htype
  have hlast : ∀ qs : PacketStream, s.idle ++ [qs] = s.idle ++ [ps] → qs = ps := by
    intro qs hqs
    exact List.singleton_inj.mp (List.append_cancel_left hqs)
  cases v with
  | done =>
      unfold readStatus readDone at h
      cases hnext : s.nextnode with
      | none =>
          rw [hnext] at h
          simp at h
      | some m =>
          rw [hnext] at h
          rw [← hlast _ h] at htype
          cases htype
  | abort =>
      unfold readStatus readAbort abortNext at h
      cases hnext : s.nextnode with
      | none =>
          rw [hnext] at h
          simp at h
      | some m =>
          rw [hnext] at h
          rw [← hlast _ h] at htype
          cases htype

/-- Only a message of type `P` becomes a packet. -/
theorem packetReader_idle {s : PacketSystem} {inp : List UInt8} {junk : UbPacket}
    {ps : PacketStream} {p : UbPacket} {n : Option NodeId}
    (h : (packetReader s inp junk).idle = s.idle ++ [ps]) (htype : ps.type = .packet p n) :
    ∃ bytes, inp = 0x50 :: bytes ∧ p = junk.overlay bytes
      ∧ ps = queuedPacket s (junk.overlay bytes) := by
  unfold packetReader at h
  cases inp with
  | nil => simp at h
  | cons type bytes =>
      dsimp only at h
      split_ifs at h with hP hlen hdone habort
      · rw [readPacket_idle] at h
        have hps := List.singleton_inj.mp (List.append_cancel_left h)
        obtain ⟨m, hm⟩ := queuedPacket_type s (junk.overlay bytes)
        rw [← hps, hm] at htype
        cases htype
        exact ⟨bytes, by rw [hP], rfl, hps.symm⟩
      · simp at h
      · exact absurd htype (readStatus_idle h)
      · exact absurd htype (readStatus_idle h)
      · simp at h

/-- The header of every packet that is made of a message was received, the length byte goes
no further than the message, and neither does anybody who reads the packet. -/
def ReceivedOnly (s : PacketSystem) (d : Daemon) (inp : List UInt8) : Prop :=
  ∀ junk ps p n, (packetReader s inp junk).idle = s.idle ++ [ps] → ps.type = .packet p n →
    ubPacketHeader ≤ inp.length - 1 ∧ ubPacketHeader + p.len.toNat ≤ inp.length - 1
      ∧ ∀ o ∈ packetInpacketReads d ps p, o < inp.length - 1

/-- The packet is for the bus management: nobody waits for it. -/
def ToBusmgt (s : PacketSystem) (p : UbPacket) : Prop :=
  p.flags &&& ubPacketMgt ≠ 0
    ∧ ((queuedPacket s p).callback.isSome → p.flags &&& ubPacketUnsolicited ≠ 0)

/-- The message is not a packet, or a whole one: header and data are there, and if it is for
the bus management, so is its first byte, and its text does not start behind its end. The
text of a `V` packet is only looked at if its sender is known by then. -/
def WholePacket (s : PacketSystem) (d : Daemon) (inp : List UInt8) : Prop :=
  ∀ bytes, inp = 0x50 :: bytes →
    let p := receivedPacket bytes
    ubPacketHeader ≤ bytes.length ∧ ubPacketHeader + p.len.toNat ≤ bytes.length
      ∧ (ToBusmgt s p → ubPacketHeader < bytes.length ∧ ∀ off, p.textOffset = some off →
        (p.kind = 0x56 → (nodesGetNodeByBusAdr d p.src.toNat).isSome) → off ≤ p.len.toNat)

/-! ## The exact condition -/

section Bounds

variable {p : UbPacket} {l : Nat}

theorem copyReads_lt {off : Nat} (h4 : 4 < l) (hlen : 5 + p.len.toNat ≤ l) :
    (∀ o ∈ p.copyReads off, o < l) ↔ off ≤ p.len.toNat := by
  constructor
  · intro h
    by_contra hshort
    have := h (5 + off + l) (.inr ⟨by omega, .inl (by omega)⟩)
    omega
  · intro hoff o ho
    rcases ho with rfl | ⟨-, hneg | hlt⟩
    · exact h4
    · omega
    · omega

theorem forall_union {s t : Set Nat} {P : Nat → Prop} :
    (∀ o ∈ s ∪ t, P o) ↔ (∀ o ∈ s, P o) ∧ ∀ o ∈ t, P o := by
  constructor
  · exact fun h => ⟨fun o ho => h o (.inl ho), fun o ho => h o (.inr ho)⟩
  · rintro ⟨hs, ht⟩ o (ho | ho)
    · exact hs o ho
    · exact ht o ho

/-- What `busmgt_inpacket` reads of a packet that is not longer than the message. -/
theorem busmgtInpacketReads_lt (d : Daemon) (h5 : 5 ≤ l) (hlen : 5 + p.len.toNat ≤ l)
    (hl : l < ubPacketlen) :
    (∀ o ∈ busmgtInpacketReads d p, o < l) ↔ 5 < l ∧ ∀ off, p.textOffset = some off →
      (p.kind = 0x56 → (nodesGetNodeByBusAdr d p.src.toNat).isSome) → off ≤ p.len.toNat := by
  have hlong : ¬ p.len.toNat > maxId := by
    simp only [ubPacketlen, maxId] at hl ⊢
    omega
  have h4 : 4 < l := by omega
  unfold busmgtInpacketReads UbPacket.textOffset
  rw [if_neg hlong, if_neg hlong]
  by_cases hD : p.kind = 0x44
  · have hV : p.kind ≠ 0x56 := by
      rw [hD]
      decide
    rw [if_pos hD, if_pos hD, forall_union, forall_union, copyReads_lt h4 hlen]
    simp only [Set.mem_insert_iff, Set.mem_singleton_iff, forall_eq_or_imp, forall_eq,
      Option.some.injEq, forall_eq', hV, false_implies, true_implies]
    omega
  · rw [if_neg hD, if_neg hD]
    by_cases hI : p.kind = 0x49
    · have hV : p.kind ≠ 0x56 := by
        rw [hI]
        decide
      rw [if_pos hI, if_pos hI, forall_union, copyReads_lt h4 hlen]
      simp only [Set.mem_insert_iff, Set.mem_singleton_iff, forall_eq_or_imp, forall_eq,
        Option.some.injEq, forall_eq', hV, false_implies, true_implies]
      omega
    · rw [if_neg hI, if_neg hI]
      by_cases hV : p.kind = 0x56
      · rw [if_pos hV, if_pos hV, forall_union]
        cases hfound : (nodesGetNodeByBusAdr d p.src.toNat).isSome with
        | true =>
            rw [if_pos rfl, copyReads_lt h4 hlen]
            simp only [Set.mem_insert_iff, Set.mem_singleton_iff, forall_eq_or_imp, forall_eq,
              Option.some.injEq, forall_eq', implies_true, true_implies]
            omega
        | false =>
            simp only [Set.mem_insert_iff, Set.mem_singleton_iff, forall_eq_or_imp, forall_eq,
              Bool.false_eq_true, if_false, Set.mem_empty_iff_false, false_implies, implies_true,
              and_true]
            constructor
            · exact fun h => ⟨h.2, fun off _ hknown => absurd hV hknown⟩
            · exact fun h => ⟨by omega, h.1⟩
      · rw [if_neg hV, if_neg hV]
        by_cases hA : p.kind = 0x41
        · have hB : p.kind ≠ 0x42 := by
            rw [hA]
            decide
          rw [if_pos hA, if_neg hB]
          simp only [Set.mem_insert_iff, Set.mem_singleton_iff, forall_eq_or_imp, forall_eq,
            reduceCtorEq, false_implies, implies_true, and_true]
          omega
        · rw [if_neg hA]
          by_cases hB : p.kind = 0x42
          · rw [if_pos hB, if_pos hB, forall_union, copyReads_lt h4 hlen]
            simp only [Set.mem_insert_iff, Set.mem_singleton_iff, forall_eq_or_imp, forall_eq,
              Option.some.injEq, forall_eq', hV, false_implies, true_implies]
            omega
          · rw [if_neg hB, if_neg hB]
            simp

end Bounds

/-- What is read of a packet that was received whole. -/
theorem packetInpacketReads_lt {s : PacketSystem} (d : Daemon) {p : UbPacket} {l : Nat}
    (h5 : 5 ≤ l) (hlen : 5 + p.len.toNat ≤ l) (hl : l < ubPacketlen) :
    (∀ o ∈ packetInpacketReads d (queuedPacket s p) p, o < l) ↔
      (ToBusmgt s p → 5 < l ∧ ∀ off, p.textOffset = some off →
        (p.kind = 0x56 → (nodesGetNodeByBusAdr d p.src.toNat).isSome) → off ≤ p.len.toNat) := by
  have htext : ∀ o ∈ p.textReads, o < l := fun o ho => by
    have := ho.2
    omega
  have hdebug : ∀ o ∈ debugPacketReads p, o < l := by
    rintro o (ho | ho)
    · have : o < 5 := ho
      omega
    · exact htext o ho
  have hreply : (queuedPacket s p).isReply = decide (p.flags &&& ubPacketUnsolicited = 0) := by
    obtain ⟨n, hn⟩ := queuedPacket_type s p
    unfold PacketStream.isReply
    rw [hn]
  unfold packetInpacketReads
  rw [forall_union, hreply]
  by_cases hwaits : (queuedPacket s p).callback.isSome = true
      ∧ decide (p.flags &&& ubPacketUnsolicited = 0) = true
  · rw [if_pos hwaits]
    have hnot : ¬ ToBusmgt s p := by
      rintro ⟨-, hunsolicited⟩
      exact hunsolicited hwaits.1 (of_decide_eq_true hwaits.2)
    refine iff_of_true ⟨hdebug, ?_⟩ fun h => absurd h hnot
    rintro o (rfl | ho)
    · omega
    · exact htext o ho
  · rw [if_neg hwaits]
    by_cases hmgt : p.flags &&& ubPacketMgt ≠ 0
    · have hyes : ToBusmgt s p := by
        refine ⟨hmgt, fun hsome hzero => hwaits ⟨hsome, decide_eq_true hzero⟩⟩
      rw [if_pos hmgt, busmgtInpacketReads_lt d h5 hlen hl]
      constructor
      · exact fun h _ => h.2
      · exact fun h => ⟨hdebug, h hyes⟩
    · rw [if_neg hmgt]
      refine iff_of_true ⟨hdebug, ?_⟩ fun h => absurd h.1 hmgt
      rintro o (ho | ho)
      · simp only [Set.mem_insert_iff, Set.mem_singleton_iff] at ho
        omega
      · exact htext o ho

/-- The condition only looks at what was received. -/
theorem toBusmgt_congr {s : PacketSystem} {p q : UbPacket} (hsrc : p.src = q.src)
    (hflags : p.flags = q.flags) : ToBusmgt s p ↔ ToBusmgt s q := by
  unfold ToBusmgt queuedPacket
  rw [hsrc, hflags]
  cases nodesGetNodeByBusAdr s.daemon q.src.toNat <;> rfl

/-- **Only what was received is read**, whatever was in the memory, exactly when the message
is a whole packet. -/
theorem receivedOnly_iff (s : PacketSystem) (d : Daemon) (inp : List UInt8)
    (hmessage : inp.length ≤ ubPacketlen) : ReceivedOnly s d inp ↔ WholePacket s d inp := by
  constructor
  · rintro h bytes rfl
    have hidle : (packetReader s (0x50 :: bytes) UbPacket.zero).idle
        = s.idle ++ [queuedPacket s (receivedPacket bytes)] := by
      unfold packetReader
      dsimp only
      rw [if_pos rfl, if_pos hmessage]
      exact readPacket_idle s _
    obtain ⟨n, hn⟩ := queuedPacket_type s (receivedPacket bytes)
    obtain ⟨hheader, hlen, hreads⟩ := h _ _ _ _ hidle hn
    simp only [List.length_cons, Nat.add_sub_cancel] at hmessage hheader hlen hreads
    exact ⟨hheader, hlen, (packetInpacketReads_lt d hheader hlen hmessage).mp hreads⟩
  · intro h junk ps p n hidle htype
    obtain ⟨bytes, rfl, rfl, rfl⟩ := packetReader_idle hidle htype
    obtain ⟨hheader, hlen, hmgt⟩ := h bytes rfl
    simp only [List.length_cons, Nat.add_sub_cancel] at hmessage ⊢
    have hheader' : 5 ≤ bytes.length := hheader
    have hagree := overlay_agree junk UbPacket.zero bytes
    have hsrc := agree_src hagree (show 0 < bytes.length by omega)
    have hflags := agree_flags hagree (show 2 < bytes.length by omega)
    have hl := agree_len hagree (show 4 < bytes.length by omega)
    have hlen' : 5 + (junk.overlay bytes).len.toNat ≤ bytes.length := by
      rw [hl]
      exact hlen
    refine ⟨hheader, hlen', (packetInpacketReads_lt d hheader' hlen' hmessage).mpr fun hto => ?_⟩
    obtain ⟨hfirst, htext⟩ := hmgt ((toBusmgt_congr hsrc hflags).mp hto)
    have hkind : (junk.overlay bytes).kind = (receivedPacket bytes).kind :=
      agree_kind hagree hfirst
    refine ⟨hfirst, fun off hoff hfound => ?_⟩
    rw [hl]
    refine htext off ?_ ?_
    · unfold UbPacket.textOffset at hoff ⊢
      rw [← hkind]
      exact hoff
    · rw [← hkind]
      have hsrc' : (receivedPacket bytes).src = (junk.overlay bytes).src := hsrc.symm
      rw [hsrc']
      exact hfound

/-- The `D` packet of a node as it comes over the line. -/
def discoverMessage : List UInt8 :=
  [0x50, 0, 1, ubPacketMgt, 0, 8, 0x44, 0, 1, 23, 0, 0, 0, 0x61]

/-- It is for the bus management, and whole. -/
theorem receivedOnly_iff_discover :
    ToBusmgt (PacketSystem.init (nodesInit 30)) (receivedPacket discoverMessage.tail)
      ∧ ReceivedOnly (PacketSystem.init (nodesInit 30)) (nodesInit 30) discoverMessage := by
  refine ⟨⟨by decide, by decide +kernel⟩, (receivedOnly_iff _ _ _ (by decide)).mpr ?_⟩
  intro bytes hbytes
  obtain ⟨-, rfl⟩ := List.cons.inj hbytes
  refine ⟨by decide, by decide, fun _ => ⟨by decide, fun off hoff _ => ?_⟩⟩
  cases hoff.symm.trans (show _ = some 7 by decide)
  decide

/-- **A lone `P`** becomes a packet of which nothing was received. -/
theorem lone_type_not_received :
    ¬ ReceivedOnly (PacketSystem.init (nodesInit 30)) (nodesInit 30) [0x50] := by
  rw [receivedOnly_iff _ _ _ (by decide)]
  intro h
  have hheader := (h [] rfl).1
  simp [ubPacketHeader] at hheader

end Ubd
