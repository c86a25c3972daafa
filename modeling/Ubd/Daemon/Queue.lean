import Ubd.Daemon.Exhaustion
import Ubd.Lib.Exchange

/-!
# Daemon.Queue — what comes into `packet_out`

All packets of the daemon go through `packet_streamPacket`, which takes those alone that fit
a message and clears all flags but two. So whatever the daemon does, its queue only grows at
the end, by messages that can be sent.
-/

namespace Ubd

open Exchange Runs

/-- A message that fits the line, with no other flags than the two that are let through. -/
structure MessageStream.Sendable (m : MessageStream) : Prop where
  fits : m.msg.data.length ≤ ubPacketData
  flags : m.msg.flags &&& (ubPacketMgt ||| ubPacketNoack) = m.msg.flags

/-- The queue has only grown, by messages that can be sent. -/
def Queues (d d' : Daemon) : Prop := Appends MessageStream.Sendable d.packetOut d'.packetOut

theorem mgtMessage_sendable {adr cmd : UInt8} {data : List UInt8}
    (h : data.length < ubPacketData) : (mgtMessage adr cmd data).Sendable where
  fits := h
  flags := by
    show ubPacketMgt &&& (ubPacketMgt ||| ubPacketNoack) = ubPacketMgt
    decide

theorem resetMessage_sendable (adr : UInt8) : (resetMessage adr).Sendable where
  fits := by
    show 1 ≤ ubPacketData
    decide
  flags := by
    show (ubPacketMgt ||| ubPacketNoack) &&& (ubPacketMgt ||| ubPacketNoack)
      = ubPacketMgt ||| ubPacketNoack
    decide

theorem confirmMessages_sendable {x : Node} {adr : UInt8} {m : MessageStream}
    (h : m ∈ groupMessages x ++ okMessages adr) : m.Sendable := by
  rcases List.mem_append.mp h with h | h
  · obtain ⟨i, -, rfl⟩ := List.mem_map.mp h
    exact mgtMessage_sendable (by rw [List.length_singleton]; decide)
  · rcases List.mem_pair.mp h with rfl | rfl
    · exact mgtMessage_sendable (by rw [List.length_nil]; decide)
    · exact mgtMessage_sendable (by rw [List.length_nil]; decide)

theorem discoverMessages_sendable {p : UbPacket} {adr : UInt8} {m : MessageStream}
    (hfits : 7 ≤ p.len.toNat ∧ p.len.toNat ≤ ubPacketData) (h : m ∈ discoverMessages p adr) :
    m.Sendable := by
  have hid := packetId_fits p hfits
  rcases List.mem_pair.mp h with rfl | rfl
  · exact mgtMessage_sendable (by simp only [List.length_cons, List.length_nil]; decide)
  · refine mgtMessage_sendable ?_
    simp only [List.length_append, List.length_cons, List.length_nil, ubPacketData, ubPacketlen,
      ubPacketHeader]
    omega

section Queues

variable {d d' : Daemon}

/-- **The queueing end of `packet.c`.** -/
theorem packetStreamPacket_queues {n : Option NodeId} {p : OutPacket} {callback : Option Callback}
    {data : Gpointer} (h : packetStreamPacket d n p callback data = .ok d') : Queues d d' := by
  have hfits : p.data.length + ubPacketHeader ≤ ubPacketlen := by
    by_contra hlong
    unfold packetStreamPacket at h
    rw [if_neg hlong] at h
    cases h
  rw [packetStreamPacket_ok h]
  refine appends_append fun m hm => ?_
  rw [List.mem_singleton.mp hm]
  constructor
  · show p.data.length ≤ ubPacketData
    unfold ubPacketData
    omega
  · show p.flags &&& (ubPacketMgt ||| ubPacketNoack) &&& (ubPacketMgt ||| ubPacketNoack)
      = p.flags &&& (ubPacketMgt ||| ubPacketNoack)
    rw [UInt8.and_assoc, UInt8.and_self]

theorem busmgtInpacket_queues {p : UbPacket} {connect : UbnetdConnect}
    (h : busmgtInpacket d p connect = .ok d') : Queues d d' := by
  have hreset : Queues d (d.queue [resetMessage p.src]) := appends_append fun m hm => by
    rw [List.mem_singleton.mp hm]
    exact resetMessage_sendable _
  unfold busmgtInpacket at h
  split_ifs at h with hD hI hV hA hB
  · cases busmgtDiscover_discovers h with
    | ignored long => exact .of_eq rfl
    | full fits created => exact .of_eq rfl
    | @discovered d₁ x fits created address =>
        unfold mgtCreateNode at created
        have hsame : Queues d d₁ := .of_eq (mgtRegisterNode_packetOut created)
        exact hsame.trans (appends_append fun m hm => discoverMessages_sendable fits hm)
  · rcases busmgtIdentify_writes h with ⟨x, -, rfl⟩ | rfl | rfl
    · exact appends_append fun m hm => confirmMessages_sendable hm
    · exact hreset
    · exact .of_eq rfl
  · obtain ⟨n, version, -, -, rfl⟩ := busmgtVersion_sets h
    exact .of_eq rfl
  · rcases busmgtAlive_cases h with ⟨-, rfl⟩ | ⟨n, -, rfl⟩
    · exact hreset
    · exact .of_eq rfl
  · obtain ⟨d₁, o, n, -, created, -, rfl⟩ := busmgtBridge_writes h
    unfold mgtCreateBridge at created
    have hsame : Queues d d₁ := .of_eq (mgtRegisterNode_packetOut created)
    exact hsame.trans (appends_append fun m hm => confirmMessages_sendable hm)
  · cases h
    exact .of_eq rfl

/-- A command of a client is queued, or dropped. -/
theorem tcpRequest_queues {c : Connection} {r : Request} (h : tcpRequest c d r = .ok d') :
    Queues d d' := by
  cases r with
  | listen =>
      cases h
      exact .of_eq rfl
  | command cmd =>
      change tcpCallback d c cmd = .ok d' at h
      unfold tcpCallback tcpQueueNewCommand tcpQueueNewMgt busStreamToID busmgtStreamData at h
      dsimp only at h
      split at h
      · split at h
        · cases h
        · split at h
          · exact packetStreamPacket_queues h
          · cases h
      · split at h
        · cases h
          exact .of_eq rfl
        · split at h
          · exact packetStreamPacket_queues h
          · cases h

theorem mgtTick_packetOut {env : NodeId → NetEnv} (h : mgtTick d env = .ok d') :
    d'.packetOut = d.packetOut := by
  refine mgtTick_invariant (I := fun e => e.packetOut = d.packetOut) (fun e n e' he hturn => ?_)
    (fun e n e' he hturn => ?_) rfl h
  · cases mgtCheckNode_checks hturn with
    | off off => exact he
    | left onBus left => exact he
    | out out => exact he
  · cases hturn
    exact he

/-- **The main loop** adds what clients send, and nothing else. -/
theorem mainStep_queues {e : MainEvent} (h : mainStep d e = .ok d') : Queues d d' := by
  by_cases he : ∃ env, e = .tick env
  · obtain ⟨env, rfl⟩ := he
    exact .of_eq (mgtTick_packetOut h)
  · cases mainStep_serves h fun env heq => he ⟨env, heq⟩ with
    | reads found reading run =>
        have hread := tcpListenerRead_relation (R := Queues) (fun _ => .of_eq rfl)
          (fun _ _ _ h h' => h.trans h') (fun _ _ _ hrequest => tcpRequest_queues hrequest) run
        exact hread
    | unknown nobody => exact .of_eq rfl
    | command listening => exact .of_eq rfl
    | management listening => exact .of_eq rfl
    | deaf => exact .of_eq rfl
    | closes found reading => exact .of_eq rfl
    | closed nobody => exact .of_eq rfl
    | fails found => exact .of_eq rfl
    | failed => exact .of_eq rfl

end Queues

end Ubd
