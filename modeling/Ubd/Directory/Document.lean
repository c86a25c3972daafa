import Ubd.Directory.Server
import Ubd.Lib.Output

/-!
# Directory.Document — what a browser gets

Whoever connects to the directory server gets the table as one JSON text, put together from
many writes whose results nobody looks at. `document_whole_iff` says that the text arrives as
it should exactly when no write is short.
-/

namespace Ubd

/-! ## `writeServices` -/

/-- The answer to every request. -/
def httpHeader : CString :=
  cString ("HTTP/1.0 200 OK\r\n" ++ "Server: ubd/0.1\r\n" ++ "Connection: close\r\n"
    ++ "Content-Type: application/json\r\n\r\n")

/-- `writeString` -/
def writeString (accept : Nat → Nat → Nat) (out : Output.Stream UInt8) (s : CString) :
    Output.Stream UInt8 :=
  out.write accept s

/-- What `writeServices` does with an entry. `first` is the flag of the loop. -/
def writeService (accept : Nat → Nat → Nat) (r : Output.Stream UInt8 × Bool) (e : ServiceEntry) :
    Output.Stream UInt8 × Bool :=
  let (out, first) := r
  let out := if first then out else writeString accept out (cString ",")
  (writeString accept out e.2.json, false)

/-- `writeServices`. The iterator visits the entries in this order. -/
def writeServices (accept : Nat → Nat → Nat) (out : Output.Stream UInt8)
    (order : List ServiceEntry) : Output.Stream UInt8 :=
  let out := writeString accept out (cString "\x7b \"services\": [")
  let (out, _) := order.foldl (writeService accept) (out, true)
  writeString accept out (cString "]\x7d")

/-- `dirserver_tcp_listener`. Of `n` bytes, `g_output_stream_write` number `i` on the
connection takes `accept i n`. -/
def dirserverTcpListener (accept : Nat → Nat → Nat) (order : List ServiceEntry) :
    Output.Stream UInt8 :=
  let out := Output.Stream.fresh.write accept httpHeader
  writeServices accept out order

/-! ## The text and its pieces -/

/-- The document with these services. -/
def document (jsons : List CString) : CString :=
  cString "\x7b \"services\": [" ++ List.intercalate (cString ",") jsons ++ cString "]\x7d"

/-- The pieces in which services are written, each but the first one behind a comma. -/
def servicePieces : List CString → List CString
  | [] => []
  | json :: jsons => json :: jsons.flatMap fun json => [cString ",", json]

/-- The pieces in which everything is written. -/
def documentPieces (jsons : List CString) : List CString :=
  httpHeader :: cString "\x7b \"services\": [" :: (servicePieces jsons ++ [cString "]\x7d"])

theorem servicePieces_flatten (jsons : List CString) :
    (servicePieces jsons).flatten = List.intercalate (cString ",") jsons := by
  cases jsons with
  | nil => rfl
  | cons json jsons =>
      induction jsons generalizing json with
      | nil =>
          rw [List.intercalate_singleton]
          exact List.append_nil json
      | cons json' jsons ih =>
          have hrest := ih json'
          simp only [servicePieces, List.flatten_cons, List.flatMap_cons, List.flatten_append,
            List.flatten_nil, List.append_nil] at hrest ⊢
          rw [List.intercalate_cons_cons, ← hrest, List.append_assoc, List.append_assoc]

theorem documentPieces_flatten (jsons : List CString) :
    (documentPieces jsons).flatten = httpHeader ++ document jsons := by
  simp only [documentPieces, List.flatten_cons, List.flatten_append, List.flatten_nil,
    List.append_nil, servicePieces_flatten, document, List.append_assoc]

section Writes

variable {accept : Nat → Nat → Nat}

/-- Behind the first entry, there is a comma before each. -/
theorem writeService_rest (order : List ServiceEntry) (out : Output.Stream UInt8) :
    order.foldl (writeService accept) (out, false)
      = ((order.flatMap fun e => [cString ",", e.2.json]).foldl (Output.Stream.write accept) out,
        false) := by
  induction order generalizing out with
  | nil => rfl
  | cons e order ih =>
      rw [List.foldl_cons, List.flatMap_cons, List.foldl_append]
      exact ih _

theorem writeService_all (order : List ServiceEntry) (out : Output.Stream UInt8) :
    (order.foldl (writeService accept) (out, true)).1
      = (servicePieces (order.map (·.2.json))).foldl (Output.Stream.write accept) out := by
  cases order with
  | nil => rfl
  | cons e order =>
      rw [List.map_cons, servicePieces, List.flatMap_map, List.foldl_cons, List.foldl_cons]
      exact congrArg Prod.fst (writeService_rest order _)

/-- **The listener writes the pieces** one after the other. -/
theorem dirserverTcpListener_eq (accept : Nat → Nat → Nat) (order : List ServiceEntry) :
    dirserverTcpListener accept order
      = (documentPieces (order.map (·.2.json))).foldl (Output.Stream.write accept)
        Output.Stream.fresh := by
  unfold dirserverTcpListener writeServices documentPieces
  dsimp only
  rw [writeService_all, List.foldl_cons, List.foldl_cons, List.foldl_append]
  rfl

end Writes

/-! ## Whole documents -/

/-- On the connection is the header and all services of the table, each once. -/
def ArrivesWhole (accept : Nat → Nat → Nat) (t : ServiceTable) (order : List ServiceEntry) : Prop :=
  ∃ jsons, jsons.Perm (t.entries.map (·.2.json))
    ∧ (dirserverTcpListener accept order).written = httpHeader ++ document jsons

/-- How long the document is does not depend on the order. -/
theorem document_length {jsons jsons' : List CString} (h : jsons.Perm jsons') :
    (document jsons).length = (document jsons').length := by
  have hlength : ∀ l : List CString,
      (List.intercalate (cString ",") l).length = (l.map List.length).sum + (l.length - 1) := by
    intro l
    cases l with
    | nil => rfl
    | cons json l =>
        induction l generalizing json with
        | nil =>
            rw [List.intercalate_singleton]
            rfl
        | cons json' l ih =>
            have hcomma : (cString ",").length = 1 := by decide
            have hrest := ih json'
            simp only [List.map_cons, List.sum_cons, List.length_cons] at hrest ⊢
            rw [List.intercalate_cons_cons, List.length_append, List.length_append, hrest, hcomma]
            omega
  simp only [document, List.length_append, hlength, (h.map List.length).sum_eq, h.length_eq]

/-- **When the directory listing arrives whole**: when every write takes all it is asked to. -/
theorem document_whole_iff (accept : Nat → Nat → Nat)
    (haccept : ∀ i n, accept i n ≤ n ∧ (1 ≤ n → 1 ≤ accept i n)) (t : ServiceTable)
    (order : List ServiceEntry) (horder : order.Perm t.entries) :
    ArrivesWhole accept t order
      ↔ ∀ i piece, (documentPieces (order.map (·.2.json)))[i]? = some piece →
        accept i piece.length = piece.length := by
  have hwrites : (∀ i piece, (documentPieces (order.map (·.2.json)))[i]? = some piece →
        accept i piece.length = piece.length)
      ↔ ∀ i piece, (documentPieces (order.map (·.2.json)))[i]? = some piece →
        piece.length ≤ accept (0 + i) piece.length := by
    refine forall_congr' fun i => forall_congr' fun piece => forall_congr' fun _ => ?_
    rw [Nat.zero_add]
    exact ⟨fun heq => Nat.le_of_eq heq.symm, fun hle => Nat.le_antisymm (haccept i _).1 hle⟩
  have hjsons := horder.map (·.2.json)
  rw [hwrites]
  constructor
  · rintro ⟨jsons, hperm, hwritten⟩
    refine (Output.length_written_iff Output.Stream.fresh _).mp ?_
    have hlen := document_length (hperm.trans hjsons.symm)
    rw [← dirserverTcpListener_eq, hwritten, documentPieces_flatten, List.length_append,
      List.length_append, hlen]
    exact (Nat.zero_add _).symm
  · intro hwhole
    refine ⟨_, hjsons, ?_⟩
    rw [dirserverTcpListener_eq]
    refine (Output.written_of_whole hwhole).trans ?_
    rw [documentPieces_flatten]
    rfl

/-- One lamp, over a stream that takes everything. -/
theorem document_whole_iff_lamp : ArrivesWhole (fun _ n => n)
    (AList.singleton (cString "amoodlamp") ⟨cString "{ }", 3⟩)
    [⟨cString "amoodlamp", ⟨cString "{ }", 3⟩⟩] :=
  (document_whole_iff (fun _ n => n) (fun _ n => ⟨Nat.le_refl n, id⟩)
    (AList.singleton (cString "amoodlamp") ⟨cString "{ }", 3⟩) _ (.refl _)).mpr fun _ _ _ => rfl

/-- **Short writes** lose all but what they take: of an empty table, three bytes arrive. -/
theorem short_writes_truncate :
    (∀ _i n : Nat, min n 1 ≤ n ∧ (1 ≤ n → 1 ≤ min n 1))
      ∧ ([] : List ServiceEntry).Perm (∅ : ServiceTable).entries
      ∧ (dirserverTcpListener (fun _ n => min n 1) []).written = [0x48, 0x7B, 0x5D]
      ∧ ¬ ArrivesWhole (fun _ n => min n 1) ∅ [] := by
  have hwritten : (dirserverTcpListener (fun _ n => min n 1) []).written = [0x48, 0x7B, 0x5D] := by
    decide +kernel
  refine ⟨fun _ n => ⟨Nat.min_le_left n 1, fun hn => Nat.le_min.mpr ⟨hn, Nat.le_refl 1⟩⟩, .refl _,
    hwritten, ?_⟩
  rintro ⟨jsons, -, hall⟩
  have hlen := congrArg List.length hall
  have hheader : 3 < httpHeader.length := by decide +kernel
  rw [hwritten, List.length_append] at hlen
  simp only [List.length_cons, List.length_nil] at hlen
  omega

end Ubd
