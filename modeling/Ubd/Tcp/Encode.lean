import Ubd.Tcp.Parse

/-!
# Tcp.Encode — replies on a connection

The two encodings of `net_tcp.c`. Every function returns the writes it does on the
output stream, in order.
-/

namespace Ubd

/-- `tcp_writeBinaryEncoded`. The length is written as a `guchar`. -/
def tcpWriteBinaryEncoded (data : List UInt8) (unsolicited : Bool) : List (List UInt8) :=
  [[if unsolicited then 0x62 else charB], [UInt8.ofNat data.length], data]

/-- `tcp_writeCharacterEncoded`: binary if there are newlines in the data. -/
def tcpWriteCharacterEncoded (data : List UInt8) (unsolicited : Bool) : List (List UInt8) :=
  if data.any isNewline then tcpWriteBinaryEncoded data unsolicited
  else [[if unsolicited then 0x63 else charC], data, [0x0D], [0x0A]]

end Ubd
