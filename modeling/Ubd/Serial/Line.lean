import Ubd.Message
import Ubd.Lib.EscapeFraming

/-!
# Serial.Line — `serial.c`

The receiver of the serial line is a small automaton, `serial_in`, fed one byte
at a time by `serial_readMessage`. Its state are the two `static` variables of
`serial_in` and the buffer they index. The sender writes a start mark, the
message with every escape doubled, and an end mark.

The time stamps and the `syslog` lines of the source are left out.
-/

namespace Ubd

/-- `SERIAL_BUFFERLEN` -/
def serialBufferlen : Nat := 100

/-- `SERIAL_ESCAPE`, the character `\`. -/
def serialEscape : UInt8 := 0x5C

/-- `SERIAL_START`, the character `1`. -/
def serialStart : UInt8 := 0x31

/-- `SERIAL_END`, the character `2`. -/
def serialEnd : UInt8 := 0x32

/-! ## Receiving -/

structure SerialState where
  serialBuffer : Vector UInt8 serialBufferlen
  fill : Int
  escaped : Bool

/-- The end of `serial_in`: what happens to a byte that is no mark. The second
branch never runs, as `fill` is negative there. -/
def serialStore (s : SerialState) (data : UInt8) : Except Fault (UInt16 × SerialState) :=
  if s.fill > -1 then do
    let buffer ← store s.serialBuffer s.fill data
    return (0, { s with serialBuffer := buffer, fill := s.fill + 1 })
  else if s.fill ≥ serialBufferlen then
    return (0, { s with fill := -1 })
  else
    return (0, s)

/-- `serial_in` -/
def serialIn (s : SerialState) (data : UInt8) : Except Fault (UInt16 × SerialState) :=
  if data = serialEscape then
    if !s.escaped then
      .ok (0, { s with escaped := true })
    else
      serialStore { s with escaped := false } data
  else if s.escaped then
    if data = serialStart then
      .ok (0, { s with escaped := false, fill := 0 })
    else if data = serialEnd then
      -- `ub_assert(fill != -1)`
      if s.fill ≠ -1 then
        .ok (UInt16.ofInt s.fill, { s with escaped := false, fill := -1 })
      else .error .assertion
    else
      serialStore { s with escaped := false } data
  else
    serialStore s data

/-- What `read(fd,&c,1)` gives: a byte, nothing before the line timed out, or an
error. -/
inductive ReadResult where
  | byte (c : UInt8)
  | timeout
  | error
  deriving DecidableEq, Repr

/-- The byte of a read, if it gave one. -/
def ReadResult.byte? : ReadResult → Option UInt8
  | .byte c => some c
  | _ => none

/-- One turn of the loop of `serial_readMessage`. It returns when a frame of at
least one byte is complete; the length passes through `uint8_t`. The dump of the
frame for the log (`debug_hexdump`) is left out: it only reads `serial_buffer`. -/
def serialReadTurn (msg : Message) (s : SerialState) :
    ReadResult → Except Fault (SerialState × Option Message)
  | .byte c => do
      let (ret, s) ← serialIn s c
      let len : UInt8 := ret.toUInt8
      if len ≠ 0 then
        -- `ub_assert( sizeof(msg->data) >= len)` in the other branch
        if len.toNat ≤ ubPacketlen then
          let data ← memcpy msg.data s.serialBuffer.toList len.toNat
          return (s, some { len := len.toUInt16, data := data })
        else .error .assertion
      else
        return (s, none)
  | .timeout => .ok (s, none)
  | .error => .ok (s, none)

/-- `serial_readMessage` on the results its `read` calls give. `none` means that
they are used up and the call still waits; otherwise it gives the message and
the reads left for later calls. -/
def serialReadMessage (msg : Message) (s : SerialState) :
    List ReadResult → Except Fault (SerialState × Option (Message × List ReadResult))
  | [] => .ok (s, none)
  | r :: rs => do
      match ← serialReadTurn msg s r with
      | (s, some m) => return (s, some (m, rs))
      | (s, none) => serialReadMessage msg s rs

theorem serialReadMessage_shorter {msg : Message} {s s' : SerialState} {rs rest : List ReadResult}
    {m : Message} (h : serialReadMessage msg s rs = .ok (s', some (m, rest))) :
    rest.length < rs.length := by
  induction rs generalizing s with
  | nil => simp [serialReadMessage] at h
  | cons r rs ih =>
      simp only [serialReadMessage, bind_eq_ok] at h
      obtain ⟨⟨t, o⟩, hturn, h⟩ := h
      cases o with
      | none => exact Nat.lt_succ_of_lt (ih h)
      | some m' =>
          simp only [pure_eq_ok, Except.ok.injEq, Prod.mk.injEq, Option.some.injEq] at h
          simp [h.2.2]

/-- The messages that successive calls of `serial_readMessage` return, each call
reusing the message of the one before as `packet_readerThread` does. -/
def serialReadMessages (msg : Message) (s : SerialState) (rs : List ReadResult) :
    Except Fault (SerialState × List Message) :=
  match h : serialReadMessage msg s rs with
  | .error e => .error e
  | .ok (s', none) => .ok (s', [])
  | .ok (s', some (m, rest)) => do
      have := serialReadMessage_shorter h
      let (t, ms) ← serialReadMessages m s' rest
      return (t, m :: ms)
termination_by rs.length

/-! ## Sending -/

/-- `serial_putenc` -/
def serialPutenc : List UInt8 → List UInt8
  | [] => []
  | d :: ds =>
      if d = serialEscape then serialEscape :: d :: serialPutenc ds else d :: serialPutenc ds

/-- `serial_putStart` -/
def serialPutStart : List UInt8 := [serialEscape, serialStart]

/-- `serial_putStop` -/
def serialPutStop : List UInt8 := [serialEscape, serialEnd]

/-- `serial_writeMessage`: the bytes it writes. The `len` of a message never exceeds
its `data`: `packet_streamPacket` asserts as much where messages are built. -/
def serialWriteMessage (outmsg : Message) : List UInt8 :=
  serialPutStart ++ serialPutenc outmsg.bytes ++ serialPutStop

end Ubd
