import Ubd.Daemon.Handlers

/-!
# Daemon.Commands — the length of a management command

`busmgt_sendCmdData` takes the length of the data as a `uint8_t`, adds one to it as such, and
copies that many bytes. `command_whole_iff` says for which lengths a command is sent whole or
not at all.
-/

namespace Ubd

/-- `busmgt_setName`. The name is sent with its NUL. -/
def busmgtSetName (d : Daemon) (adr : UInt8) (name : CString) : Except Fault Daemon :=
  busmgtSendCmdData d adr 0x73 (name ++ [0])

/-- The management commands with data of any length. A length of 256 and more can only be that of
a string: `busmgt_sendCmdData` itself is called with a `uint8_t`. -/
inductive MgtCommand where
  | cmdData (adr cmd : UInt8) (data : List UInt8)
  | setName (adr : UInt8) (name : CString)
  | setAddress (adr : UInt8) (id : CString)

namespace MgtCommand

def send (d : Daemon) : MgtCommand → Except Fault Daemon
  | .cmdData adr cmd data => busmgtSendCmdData d adr cmd data
  | .setName adr name => busmgtSetName d adr name
  | .setAddress adr id => busmgtSetAddress d adr id

def dest : MgtCommand → UInt8
  | .cmdData adr _ _ => adr
  | .setName adr _ => adr
  | .setAddress _ _ => ubAddressBroadcast

def cmd : MgtCommand → UInt8
  | .cmdData _ cmd _ => cmd
  | .setName _ _ => 0x73
  | .setAddress _ _ => 0x53

/-- All the data, with the NUL behind a string. -/
def data : MgtCommand → List UInt8
  | .cmdData _ _ data => data
  | .setName _ name => name ++ [0]
  | .setAddress adr id => adr :: id ++ [0]

/-- The command is queued whole, in one packet, or nothing is queued. -/
def WholeOrNothing (d : Daemon) (c : MgtCommand) : Prop :=
  ∃ d', c.send d = .ok d' ∧ (d'.packetOut = d.packetOut
    ∨ d'.packetOut = d.packetOut ++ [mgtMessage c.dest c.cmd c.data])

/-- The data fit into a packet with the command, or their length as a `uint8_t` is refused. -/
def Fits (c : MgtCommand) : Prop :=
  c.data.length < ubPacketData
    ∨ (ubPacketData ≤ c.data.length % 256 ∧ c.data.length % 256 < 255)

end MgtCommand

section Sending

variable {d : Daemon} {adr cmd : UInt8} {data : List UInt8}

/-- **What `busmgt_sendCmdData` does**, for data of any length: it goes by the length modulo
256, and 255 more bytes fit into none. -/
theorem busmgtSendCmdData_cases (d : Daemon) (adr cmd : UInt8) (data : List UInt8) :
    (data.length % 256 < ubPacketData ∧ busmgtSendCmdData d adr cmd data
        = .ok (d.queue [mgtMessage adr cmd (data.take (data.length % 256))]))
      ∨ ((ubPacketData ≤ data.length % 256 ∧ data.length % 256 < 255)
        ∧ busmgtSendCmdData d adr cmd data = .ok d)
      ∨ (data.length % 256 = 255 ∧ busmgtSendCmdData d adr cmd data = .error .outOfBounds) := by
  have hdata : ubPacketData = 45 := rfl
  have hlen : (UInt8.ofNat data.length).toNat = data.length % 256 := UInt8.toNat_ofNat'
  have hnext : (UInt8.ofNat data.length + 1).toNat = (data.length % 256 + 1) % 256 := by
    rw [UInt8.toNat_add, hlen, UInt8.toNat_one]
  have hlt : data.length % 256 < 256 := Nat.mod_lt _ (by decide)
  unfold busmgtSendCmdData
  dsimp only
  rw [hlen, hnext]
  by_cases hwrap : data.length % 256 = 255
  · -- 255 and one are none, which passes the check
    rw [hwrap]
    exact .inr (.inr ⟨rfl, rfl⟩)
  · rw [Nat.mod_eq_of_lt (show data.length % 256 + 1 < 256 by omega)]
    by_cases hfits : data.length % 256 < ubPacketData
    · rw [if_neg (by omega), if_pos (by omega)]
      refine .inl ⟨hfits, packetOutpacket_eq d ?_ (by decide)⟩
      rw [List.length_cons, List.length_take]
      omega
    · rw [if_pos (by omega)]
      exact .inr (.inl ⟨by omega, rfl⟩)

end Sending

/-- Every command is `busmgt_sendCmdData` of all its data. -/
theorem MgtCommand.send_eq (d : Daemon) (c : MgtCommand) :
    c.send d = busmgtSendCmdData d c.dest c.cmd c.data := by
  cases c with
  | cmdData adr cmd data => rfl
  | setName adr name => rfl
  | setAddress adr id => rfl

/-- Commands that fit are sent, or refused. -/
theorem MgtCommand.Fits.whole {d : Daemon} {c : MgtCommand} (h : c.Fits) :
    c.WholeOrNothing d := by
  have hdata : ubPacketData = 45 := rfl
  unfold MgtCommand.WholeOrNothing
  unfold MgtCommand.Fits at h
  rw [c.send_eq d]
  rcases busmgtSendCmdData_cases d c.dest c.cmd c.data with
    ⟨hsmall, hrun⟩ | ⟨-, hrun⟩ | ⟨hwrap, -⟩
  · have hshort : c.data.length % 256 = c.data.length := Nat.mod_eq_of_lt (by omega)
    rw [hshort, List.take_length] at hrun
    exact ⟨_, hrun, .inr rfl⟩
  · exact ⟨d, hrun, .inl rfl⟩
  · omega

/-- What is sent whole is no longer than a packet. -/
theorem MgtCommand.WholeOrNothing.fits {d : Daemon} {c : MgtCommand} (h : c.WholeOrNothing d) :
    c.Fits := by
  obtain ⟨d', hsend, hcases⟩ := h
  have hdata : ubPacketData = 45 := rfl
  rw [c.send_eq d] at hsend
  rcases busmgtSendCmdData_cases d c.dest c.cmd c.data with
    ⟨hsmall, hrun⟩ | ⟨hrefused, -⟩ | ⟨-, hrun⟩
  · rw [hrun] at hsend
    cases hsend
    change d.packetOut ++ [mgtMessage c.dest c.cmd (c.data.take (c.data.length % 256))]
        = d.packetOut
      ∨ d.packetOut ++ [mgtMessage c.dest c.cmd (c.data.take (c.data.length % 256))]
        = d.packetOut ++ [mgtMessage c.dest c.cmd c.data] at hcases
    rcases hcases with hnothing | hwhole
    · exact absurd hnothing (by simp)
    · -- what was sent is all the data
      have hsame := congrArg (fun m : MessageStream => m.msg.data.length)
        (List.singleton_inj.mp (List.append_cancel_left hwhole))
      simp only [mgtMessage, List.length_cons, List.length_take] at hsame
      exact .inl (by omega)
  · exact .inr hrefused
  · rw [hrun] at hsend
    cases hsend

/-- **Which commands are sent whole or not at all**, from any state. -/
theorem command_whole_iff (d : Daemon) (c : MgtCommand) : c.WholeOrNothing d ↔ c.Fits := by
  constructor
  · intro hwhole
    exact hwhole.fits
  · intro hfits
    exact hfits.whole

/-- **255 bytes of data** are copied behind the packet, and of a name of 256 characters one
is sent. -/
theorem long_commands_mangled :
    (List.replicate 255 (0x61 : UInt8)).length ≤ 255
      ∧ (MgtCommand.cmdData 3 0x73 (List.replicate 255 0x61)).send (nodesInit 30)
        = .error .outOfBounds
      ∧ ¬ (MgtCommand.cmdData 3 0x73 (List.replicate 255 0x61)).WholeOrNothing (nodesInit 30)
      ∧ (∃ d', (MgtCommand.setName 3 (List.replicate 256 0x61)).send (nodesInit 30) = .ok d'
        ∧ d'.packetOut = [mgtMessage 3 0x73 [0x61]])
      ∧ ¬ (MgtCommand.setName 3 (List.replicate 256 0x61)).WholeOrNothing (nodesInit 30) := by
  have hdata : (List.replicate 255 (0x61 : UInt8)).length = 255 := List.length_replicate
  have hname : (List.replicate 256 (0x61 : UInt8) ++ [0]).length = 257 := by
    rw [List.length_append, List.length_replicate, List.length_singleton]
  refine ⟨by rw [hdata], ?_, fun hwhole => ?_, ?_, fun hwhole => ?_⟩
  · rcases busmgtSendCmdData_cases (nodesInit 30) 3 0x73 (List.replicate 255 0x61) with
      ⟨hsmall, -⟩ | ⟨hrefused, -⟩ | ⟨-, hrun⟩
    · rw [hdata] at hsmall
      exact absurd hsmall (by decide)
    · omega
    · exact hrun
  · have hfits := hwhole.fits
    simp only [MgtCommand.Fits, MgtCommand.data, hdata] at hfits
    exact absurd hfits (by decide)
  · rcases busmgtSendCmdData_cases (nodesInit 30) 3 0x73 (List.replicate 256 0x61 ++ [0]) with
      ⟨-, hrun⟩ | ⟨hrefused, -⟩ | ⟨hwrap, -⟩
    · have htake : (List.replicate 256 (0x61 : UInt8) ++ [0]).take 1 = [0x61] := by
        rw [List.take_append_of_le_length (by rw [List.length_replicate]; decide),
          List.take_replicate]
        rfl
      rw [hname] at hrun
      refine ⟨_, hrun, ?_⟩
      show [mgtMessage 3 0x73 ((List.replicate 256 (0x61 : UInt8) ++ [0]).take 1)] = _
      rw [htake]
    · rw [hname] at hrefused
      exact absurd hrefused.1 (by decide)
    · rw [hname] at hwrap
      exact absurd hwrap (by decide)
  · have hfits := hwhole.fits
    simp only [MgtCommand.Fits, MgtCommand.data, hname] at hfits
    exact absurd hfits (by decide)

end Ubd
