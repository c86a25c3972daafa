import Mathlib.Data.List.TakeWhile
import Ubd.Daemon.State

/-!
# Directory.Json — what the directory uses of json-c

A `struct json_object *`, where `NULL` is `Json.null`: json-c has no other null. Parsing and
printing are json-c's own.
-/

namespace Ubd

/-- A string literal of the source. -/
def cString (s : String) : CString := s.toByteArray.data.toList

theorem cString_injective : Function.Injective cString := by
  intro s t h
  apply String.toByteArray_inj.mp
  exact ByteArray.ext (Array.toList_inj.mp h)

/-- What C reads of these bytes as a string. -/
def upToNul (bs : List UInt8) : CString := bs.takeWhile (· ≠ 0)

@[simp] theorem upToNul_upToNul (bs : List UInt8) : upToNul (upToNul bs) = upToNul bs :=
  List.takeWhile_idem

inductive Json where
  | null
  | boolean (b : Bool)
  | int (i : Int)
  | double (text : CString)
  | string (s : List UInt8)
  | array (xs : List Json)
  | object (fields : List (CString × Json))

/-- json-c: `json_tokener_parse`, which returns `NULL` for what is not JSON, and
`json_object_to_json_string`. -/
structure JsonC where
  parse : CString → Json
  print : Json → CString

namespace Json

/-- `json_object_new_string` -/
def newString (s : CString) : Json := .string (upToNul s)

/-- `json_object_object_get` -/
def objectGet : Json → CString → Json
  | .object fields, key => (fields.lookup key).getD .null
  | _, _ => .null

/-- `json_object_object_del` -/
def objectDel : Json → CString → Json
  | .object fields, key => .object (fields.filter (·.1 ≠ key))
  | json, _ => json

end Json

/-! ## `dirserver_getJsonString` and its siblings -/

/-- `dirserver_getJsonString` -/
def dirserverGetJsonString (json : Json) (field : String) (dflt : Option CString) :
    Option CString :=
  match json.objectGet (cString field) with
  | .string s => some (upToNul s)
  | _ => dflt

/-- `dirserver_getJsonInt`. `json_object_get_int` brings what does not fit into an `int32_t` to
the nearest one that does. -/
def dirserverGetJsonInt (json : Json) (field : String) (dflt : Int) : Int :=
  match json.objectGet (cString field) with
  | .int i => max (-2 ^ 31) (min i (2 ^ 31 - 1))
  | _ => dflt

/-! ## Printing flat objects -/

/-- A character of a string, as json-c escapes it. -/
def escaped (b : UInt8) : List UInt8 :=
  if b = 0x22 ∨ b = 0x5C ∨ b = 0x2F then [0x5C, b]
  else if b = 0x08 then cString "\\b"
  else if b = 0x09 then cString "\\t"
  else if b = 0x0A then cString "\\n"
  else if b = 0x0C then cString "\\f"
  else if b = 0x0D then cString "\\r"
  else if b < 0x20 then
    cString "\\u00" ++ [if b < 0x10 then 0x30 else 0x31,
      if b % 16 < 10 then 0x30 + b % 16 else 0x57 + b % 16]
  else [b]

def scalarText : Json → CString
  | .boolean b => cString (if b then "true" else "false")
  | .int i => cString (toString i)
  | .double text => text
  | .string s => 0x22 :: s.flatMap escaped ++ [0x22]
  | _ => cString "null"

/-- `json_object_to_json_string` on an object without arrays or objects in it. -/
def flatText : Json → CString
  | .object fields =>
      let texts := fields.map fun f => scalarText (.string f.1) ++ cString ": " ++ scalarText f.2
      0x7B :: 0x20 :: (texts.intersperse (cString ", ")).flatten ++ [0x20, 0x7D]
  | json => scalarText json

end Ubd
