import Ubd.Basics

/-!
# Message — what travels on the serial line

`message.h`, `ubpacket.h` and the constants of `ubconfig.h` they rest on.
-/

namespace Ubd

/-- `UB_PACKETLEN` -/
def ubPacketlen : Nat := 50

/-- `UB_PACKET_HEADER` -/
def ubPacketHeader : Nat := 5

/-- `UB_PACKET_DATA` -/
def ubPacketData : Nat := ubPacketlen - ubPacketHeader

/-- `struct message` -/
structure Message where
  len : UInt16
  data : Vector UInt8 ubPacketlen

/-- The bytes of a message a receiver may read. -/
def Message.bytes (m : Message) : List UInt8 := m.data.toList.take m.len.toNat

/-- `struct ubpacket`. The field `class` is called `cls`. -/
structure UbPacket where
  src : UInt8
  dest : UInt8
  flags : UInt8
  cls : UInt8
  len : UInt8
  data : Vector UInt8 ubPacketData

/-- `p->data[0]`, which says what a management packet is. -/
def UbPacket.kind (p : UbPacket) : UInt8 := p.data[0]

/-- `UB_PACKET_NOACK`, `1<<3` -/
def ubPacketNoack : UInt8 := 8

/-- `UB_PACKET_MGT`, `1<<4` -/
def ubPacketMgt : UInt8 := 16

/-- `UB_PACKET_UNSOLICITED`, `1<<5`: set when the node starts talking. -/
def ubPacketUnsolicited : UInt8 := 32

/-- `UB_ADDRESS_BRIDGE` -/
def ubAddressBridge : UInt8 := 2

/-- `UB_ADDRESS_BROADCAST`: all ones. -/
def ubAddressBroadcast : UInt8 := 255

end Ubd
