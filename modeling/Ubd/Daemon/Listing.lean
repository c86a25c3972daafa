import Ubd.Daemon.Plugged
import Ubd.Directory.Json
import Ubd.Tcp.Control

/-!
# Daemon.Listing — the loops over all nodes, and `cmd.c`

Three functions go through the nodes by their number: the two loops of `mgt.c` and
`cmd_list_nodes`. `counted_iteration` says whom they visit. `cmd_list_nodes` prints a line for
each active node into 300 bytes for every node, and the header and the prompt share them.
-/

namespace Ubd

open Runs

/-! ## `cmd_list_nodes` -/

/-- `%d` -/
def decimal (i : Int) : CString :=
  (if i < 0 then [0x2D] else []) ++ (Nat.toDigits 10 i.natAbs).map fun c => UInt8.ofNat c.toNat

/-- `List of local nodes(%d):` and a newline -/
def listHeader (count : Nat) : CString :=
  cString "List of local nodes(" ++ decimal count ++ cString "):\n"

/-- The line of a node. -/
def listLine (x : Node) : CString :=
  cString "id=\"" ++ x.id ++ cString "\" version=\"" ++ cstr x.version.toList
    ++ cString "\" busadr=" ++ decimal x.busadr ++ cString " name=\"" ++ x.name
    ++ cString "\"\n"

/-- The body of the loop of `cmd_list_nodes`, with `result` and `pos`. A version without a NUL
is read beyond its end. -/
def cmdListNode (d : Daemon) (s : List UInt8 × Nat) (n : NodeId) :
    Except Fault (List UInt8 × Nat) :=
  let x := d.nodes n
  if x.active then
    if 0 ∈ x.version.toList then do
      let (result, len) ← sprintf s.1 s.2 (listLine x)
      return (result, s.2 + len)
    else .error .outOfBounds
  else .ok s

/-- `cmd_list_nodes`, with the memory that `malloc(300*count)` returns. -/
def cmdListNodes (mem : List UInt8) (d : Daemon) : Except Fault (List UInt8) := do
  let count := nodesGetNodeCount d
  let s ← sprintf mem 0 (listHeader count)
  let (result, _) ← (List.range count).foldlM (fun s (i : Nat) =>
    match nodesGetNode d i with
    | none => .error .nullPointer
    | some n => cmdListNode d s n) s
  return result

/-- `strcat` -/
def strcat (buf text : List UInt8) : Except Fault (List UInt8) :=
  Output.print 0 .outOfBounds buf (cstr buf).length text

/-- `list nodes` in `cmdparser_cmd`. -/
def cmdparserListNodes (mem : List UInt8) (d : Daemon) : Except Fault (List UInt8) := do
  let result ← cmdListNodes mem d
  strcat result [charPrompt]

/-! ## Who is visited -/

section Visits

variable {d d' : Daemon} {n : NodeId}

theorem nodesGetNodeFrom_neg (d : Daemon) (l : List NodeId) {i : Int} (hi : i < 0) :
    nodesGetNodeFrom d l i = none := by
  induction l generalizing i with
  | nil => rfl
  | cons n l ih =>
      unfold nodesGetNodeFrom
      split
      · rw [if_neg (Int.ne_of_lt hi)]
        exact ih (by omega)
      · exact ih hi

/-- `nodes_getNode` for all numbers. -/
theorem nodesGetNode_int (d : Daemon) (i : Int) :
    nodesGetNode d i = if 0 ≤ i then (usedSlots d)[i.toNat]? else none := by
  split
  · rename_i hi
    obtain ⟨k, rfl⟩ := Int.eq_ofNat_of_zero_le hi
    exact nodesGetNode_eq d k
  · rename_i hi
    exact nodesGetNodeFrom_neg d slots (by omega)

theorem sorted_usedSlots (d : Daemon) : (usedSlots d).Pairwise (· < ·) :=
  (List.pairwise_lt_finRange maxNode).filter _

theorem mgtCheckNode_free (h : mgtCheckNode d n = .ok d') (i : NodeId) :
    (d'.nodes i).free = (d.nodes i).free := by
  have hchecked := mgtCheckNode_checked h
  by_cases hi : i = n
  · rw [hi]
    exact hchecked.free
  · rw [hchecked.others i hi]

theorem mgtConfigureNode_free {env : NodeId → NetEnv} (h : mgtConfigureNode env d n = .ok d')
    (i : NodeId) : (d'.nodes i).free = (d.nodes i).free := by
  cases h
  exact onNet_free d n _ i

theorem mgtCheckTimeout_visits (d : Daemon) :
    mgtCheckTimeout d = (usedSlots d).foldlM mgtCheckNode d :=
  forEachNode_visits (I := fun _ => True) (fun _ _ _ _ hrun => ⟨trivial, mgtCheckNode_free hrun⟩)
    trivial

/-- Both loops of `mgt_tick` visit the same nodes. -/
theorem mgtTick_visits (d : Daemon) (env : NodeId → NetEnv) : mgtTick d env
    = (do
      let d₁ ← (usedSlots d).foldlM mgtCheckNode d
      (usedSlots d).foldlM (mgtConfigureNode env) d₁) := by
  unfold mgtTick
  rw [mgtCheckTimeout_visits]
  cases hrun : (usedSlots d).foldlM mgtCheckNode d with
  | error e => rfl
  | ok d₁ =>
      have hsame : usedSlots d₁ = usedSlots d := by
        refine foldlM_invariant (I := fun e => usedSlots e = usedSlots d)
          (fun n _ e e' he hturn => ?_) rfl hrun
        rw [← he]
        unfold usedSlots
        simp only [mgtCheckNode_free hturn]
      rw [ok_bind, ok_bind, ← hsame]
      exact forEachNode_visits (I := fun _ => True)
        (fun _ _ _ _ hturn => ⟨trivial, mgtConfigureNode_free hturn⟩) trivial

theorem cmdListNodes_visits (mem : List UInt8) (d : Daemon) : cmdListNodes mem d
    = (do
      let s ← sprintf mem 0 (listHeader (nodesGetNodeCount d))
      let (result, _) ← (usedSlots d).foldlM (cmdListNode d) s
      return result) := by
  have hcount : nodesGetNodeCount d = (usedSlots d).length := nodesGetNodeCount_eq d
  unfold cmdListNodes
  dsimp only
  refine bind_congr fun s => ?_
  rw [hcount, foldlM_range (I := fun _ => True) (f := cmdListNode d) (fun s i n _ hi => ?_)
    (fun _ _ _ _ _ => trivial) trivial]
  have hget : nodesGetNode d i = some n := (nodesGetNode_eq d i).trans hi
  rw [hget]

end Visits

/-- Writing the line of a node can fail, but not for want of a node. -/
theorem cmdListNode_error {d : Daemon} {s : List UInt8 × Nat} {n : NodeId} {x : Fault}
    (h : cmdListNode d s n = .error x) : x = .outOfBounds := by
  unfold cmdListNode at h
  dsimp only at h
  split_ifs at h
  · cases hline : sprintf s.1 s.2 (listLine (d.nodes n)) with
    | error y =>
        rw [hline] at h
        cases h
        exact sprintf_error hline
    | ok r =>
        rw [hline] at h
        cases h
  · cases h
    rfl

theorem cmdListNodes_error {mem : List UInt8} {d : Daemon} {x : Fault}
    (h : cmdListNodes mem d = .error x) : x = .outOfBounds := by
  rw [cmdListNodes_visits] at h
  cases hheader : sprintf mem 0 (listHeader (nodesGetNodeCount d)) with
  | error y =>
      rw [hheader] at h
      cases h
      exact sprintf_error hheader
  | ok s =>
      rw [hheader, ok_bind] at h
      cases hloop : (usedSlots d).foldlM (cmdListNode d) s with
      | error y =>
          rw [hloop] at h
          cases h
          exact foldlM_error (P := (· = .outOfBounds)) (fun _ _ _ hturn => cmdListNode_error hturn)
            hloop
      | ok r =>
          rw [hloop] at h
          cases h

/-- **Counted iteration**: the count is the number of slots in use, and number `i` is slot `i`
of these in their order. No turn of a loop frees a slot or takes one, so every loop visits each
node in use once, and follows no `NULL`. -/
theorem counted_iteration (d : Daemon) :
    ((usedSlots d).Pairwise (· < ·) ∧ ∀ n, n ∈ usedSlots d ↔ (d.nodes n).free = false)
      ∧ nodesGetNodeCount d = (usedSlots d).length
      ∧ (∀ i : Int, nodesGetNode d i = if 0 ≤ i then (usedSlots d)[i.toNat]? else none)
      ∧ (∀ n d', mgtCheckNode d n = .ok d' → ∀ i, (d'.nodes i).free = (d.nodes i).free)
      ∧ (∀ env n d', mgtConfigureNode env d n = .ok d' →
        ∀ i, (d'.nodes i).free = (d.nodes i).free)
      ∧ (mgtCheckTimeout d = (usedSlots d).foldlM mgtCheckNode d
        ∧ mgtCheckTimeout d ≠ .error .nullPointer)
      ∧ (∀ env, mgtTick d env = (do
            let d₁ ← (usedSlots d).foldlM mgtCheckNode d
            (usedSlots d).foldlM (mgtConfigureNode env) d₁)
        ∧ mgtTick d env ≠ .error .nullPointer)
      ∧ ∀ mem, cmdListNodes mem d = (do
            let s ← sprintf mem 0 (listHeader (nodesGetNodeCount d))
            let (result, _) ← (usedSlots d).foldlM (cmdListNode d) s
            return result)
        ∧ cmdListNodes mem d ≠ .error .nullPointer := by
  refine ⟨⟨sorted_usedSlots d, fun n => mem_usedSlots⟩, nodesGetNodeCount_eq d,
    nodesGetNode_int d, fun n d' h => mgtCheckNode_free h,
    fun env n d' h => mgtConfigureNode_free h, ⟨mgtCheckTimeout_visits d, fun hnull => ?_⟩,
    fun env => ⟨mgtTick_visits d env, fun hnull => ?_⟩,
    fun mem => ⟨cmdListNodes_visits mem d, fun hnull => ?_⟩⟩
  · obtain ⟨d', hrun⟩ := mgtTick_ok d fun _ => ⟨none, fun _ => false, fun _ => false, false⟩
    unfold mgtTick at hrun
    rw [hnull] at hrun
    cases hrun
  · obtain ⟨d', hrun⟩ := mgtTick_ok d env
    rw [hnull] at hrun
    cases hrun
  · cases cmdListNodes_error hnull

/-! ## Room for the listing -/

/-- The pieces that are printed: the header, and the lines of the active nodes. -/
def listTexts (d : Daemon) : List CString :=
  listHeader (nodesGetNodeCount d)
    :: ((usedSlots d).filter fun n => (d.nodes n).active).map fun n => listLine (d.nodes n)

/-- `list nodes`, without the prompt. -/
def listing (d : Daemon) : CString := (listTexts d).flatten

/-- The strings of the nodes in use are C strings of up to 99 characters. -/
structure Listable (d : Daemon) : Prop where
  id : ∀ n, (d.nodes n).free = false → (0 : UInt8) ∉ (d.nodes n).id ∧ (d.nodes n).id.length < maxId
  name : ∀ n, (d.nodes n).free = false →
    (0 : UInt8) ∉ (d.nodes n).name ∧ (d.nodes n).name.length < maxId
  version : ∀ n, (d.nodes n).free = false → (0 : UInt8) ∈ (d.nodes n).version.toList

/-- How long the line of a node is. -/
def Node.lineWidth (x : Node) : Nat :=
  33 + x.id.length + (cstr x.version.toList).length + (decimal x.busadr).length + x.name.length

/-- The header, the lines of the active nodes, the prompt and a NUL. -/
def listWidth (d : Daemon) : Nat :=
  25 + (decimal (nodesGetNodeCount d)).length
    + (((usedSlots d).filter fun n => (d.nodes n).active).map fun n => (d.nodes n).lineWidth).sum

section Room

variable {d : Daemon} {mem : List UInt8}

theorem zero_notMem_decimal (i : Int) : (0 : UInt8) ∉ decimal i := by
  intro hmem
  rcases List.mem_append.mp hmem with hsign | hdigit
  · split_ifs at hsign
    · revert hsign
      decide
    · cases hsign
  · obtain ⟨c, hc, hzero⟩ := List.mem_map.mp hdigit
    have hrange := Char.isDigit_iff_toNat.mp
      (Nat.isDigit_of_mem_toDigits (by decide) (by decide) hc)
    have hlo : '0'.toNat = 48 := rfl
    have hhi : '9'.toNat = 57 := rfl
    have hnat := congrArg UInt8.toNat hzero
    rw [UInt8.toNat_ofNat', UInt8.toNat_zero] at hnat
    omega

theorem zero_notMem_listing (hd : Listable d) : (0 : UInt8) ∉ listing d := by
  intro hmem
  obtain ⟨text, htext, hzero⟩ := List.mem_flatten.mp hmem
  rcases List.mem_cons.mp htext with rfl | htext
  · simp only [listHeader, List.mem_append, zero_notMem_decimal, or_false] at hzero
    revert hzero
    decide
  · obtain ⟨n, hn, rfl⟩ := List.mem_map.mp htext
    have hused : (d.nodes n).free = false := mem_usedSlots.mp (List.mem_of_mem_filter hn)
    have hversion : (0 : UInt8) ∉ cstr (d.nodes n).version.toList := by
      intro h
      have := List.mem_takeWhile_imp h
      simp at this
    simp only [listLine, List.mem_append, zero_notMem_decimal, (hd.id n hused).1,
      (hd.name n hused).1, hversion, or_false] at hzero
    revert hzero
    decide

/-- How long the listing is, with the prompt and a NUL. -/
theorem listing_length (d : Daemon) : (listing d).length + 2 = listWidth d := by
  have hheader : (listHeader (nodesGetNodeCount d)).length
      = 23 + (decimal (nodesGetNodeCount d)).length := by
    have hfront : (cString "List of local nodes(").length = 20 := by decide
    have hback : (cString "):\n").length = 3 := by decide
    simp only [listHeader, List.length_append, hfront, hback]
    omega
  have hline : ∀ x : Node, (listLine x).length = x.lineWidth := by
    intro x
    have hid : (cString "id=\"").length = 4 := by decide
    have hversion : (cString "\" version=\"").length = 11 := by decide
    have hbusadr : (cString "\" busadr=").length = 9 := by decide
    have hname : (cString " name=\"").length = 7 := by decide
    have hend : (cString "\"\n").length = 2 := by decide
    simp only [listLine, Node.lineWidth, List.length_append, hid, hversion, hbusadr, hname, hend]
    omega
  rw [listing, listTexts, List.flatten_cons, List.length_append, hheader, List.length_flatten,
    List.map_map, listWidth]
  have hlines : (List.length ∘ fun n => listLine (d.nodes n)) = fun n => (d.nodes n).lineWidth :=
    funext fun n => hline (d.nodes n)
  rw [hlines]
  omega

/-- The loop of `cmd_list_nodes` prints the lines of the active nodes behind each other. -/
theorem cmdListNode_loop {l : List NodeId} {s : List UInt8 × Nat}
    (hl : ∀ n ∈ l, (0 : UInt8) ∈ (d.nodes n).version.toList) :
    l.foldlM (cmdListNode d) s
      = ((l.filter fun n => (d.nodes n).active).map fun n => listLine (d.nodes n)).foldlM
        (Output.append 0 .outOfBounds) s := by
  induction l generalizing s with
  | nil => rfl
  | cons n l ih =>
      rw [List.forall_mem_cons] at hl
      rw [List.foldlM_cons]
      cases hactive : (d.nodes n).active with
      | false =>
          have hskip : cmdListNode d s n = .ok s := if_neg (by simp [hactive])
          rw [hskip, ok_bind, List.filter_cons_of_neg (by simp [hactive])]
          exact ih hl.2
      | true =>
          have hline : cmdListNode d s n
              = Output.append 0 .outOfBounds s (listLine (d.nodes n)) := by
            unfold cmdListNode
            dsimp only
            rw [if_pos hactive, if_pos hl.1, ← sprintf_append]
            cases sprintf s.1 s.2 (listLine (d.nodes n)) with
            | error x => rfl
            | ok r => rfl
          rw [hline, List.filter_cons_of_pos (by simp [hactive]), List.map_cons, List.foldlM_cons]
          exact bind_congr fun s' => ih hl.2

/-- **What `list nodes` leaves in its memory**: the listing and the prompt, if there is room. -/
theorem cmdparserListNodes_eq (hd : Listable d) : cmdparserListNodes mem d
    = if listWidth d ≤ mem.length then
        .ok (Output.place 0 mem 0 (listing d ++ [charPrompt]))
      else .error .outOfBounds := by
  have hlist : cmdListNodes mem d
      = if (listing d).length + 1 ≤ mem.length then .ok (Output.place 0 mem 0 (listing d))
        else .error .outOfBounds := by
    have happend : cmdListNodes mem d
        = ((listTexts d).foldlM (Output.append 0 .outOfBounds) (mem, 0)).map Prod.fst := by
      rw [cmdListNodes_visits, listTexts, List.foldlM_cons, ← sprintf_append]
      cases hheader : sprintf mem 0 (listHeader (nodesGetNodeCount d)) with
      | error x => rfl
      | ok s =>
          rw [ok_bind, cmdListNode_loop fun n hn => hd.version n (mem_usedSlots.mp hn)]
          show _ = Except.map Prod.fst (List.foldlM _ (s.1, 0 + s.2) _)
          rw [Nat.zero_add]
          cases List.foldlM (Output.append 0 Fault.outOfBounds) s _ with
          | error x => rfl
          | ok r => rfl
    have hne : listTexts d ≠ [] := List.cons_ne_nil _ _
    rw [happend, Output.foldlM_append hne, Nat.zero_add]
    show Except.map Prod.fst (if (listing d).length + 1 ≤ mem.length then _ else _) = _
    split <;> rfl
  have hwidth := listing_length d
  unfold cmdparserListNodes
  rw [hlist]
  by_cases hroom : (listing d).length + 1 ≤ mem.length
  · have hread : (cstr (Output.place 0 mem 0 (listing d))).length = (listing d).length := by
      rw [cstr, Output.takeWhile_place (zero_notMem_listing hd)]
    have hsize : (Output.place (0 : UInt8) mem 0 (listing d)).length = mem.length :=
      Output.length_place (by omega)
    have hplace : Output.place 0 (Output.place 0 mem 0 (listing d)) (listing d).length [charPrompt]
        = Output.place 0 mem 0 (listing d ++ [charPrompt]) := by
      have hnext := @Output.place_place UInt8 0 mem 0 (listing d) [charPrompt] (Nat.zero_le _)
      rw [Nat.zero_add] at hnext
      exact hnext
    rw [if_pos hroom, ok_bind, strcat, hread, Output.print, hsize, hplace]
    exact if_congr (by rw [← hwidth]; rfl) rfl rfl
  · rw [if_neg hroom, if_neg (by omega)]
    rfl

/-- What fits is what `cmdparser_cmd` answers. -/
theorem cmdparserListNodes_reply (hd : Listable d) {result : List UInt8}
    (h : cmdparserListNodes mem d = .ok result) {scanner : Scanner} {cmd : List UInt8}
    (hlist : scanner.isSymbol cmd 0 3 = true) (hnodes : scanner.isSymbol cmd 1 7 = true) :
    cstr result = (cmdparserCmd scanner (listing d) cmd).2 := by
  have hprompt : (0 : UInt8) ∉ listing d ++ [charPrompt] := by
    rw [List.mem_append]
    exact not_or.mpr ⟨zero_notMem_listing hd, by decide⟩
  rw [cmdparserListNodes_eq hd] at h
  split at h
  · cases h
    rw [cstr, Output.takeWhile_place hprompt, cmdparserCmd, if_pos hlist, if_pos hnodes]
  · cases h

end Room

/-- **When the listing of a table fits its memory**: when the header, the prompt and the lines
of the active nodes need no more than 300 bytes for each node. -/
theorem cmdparserListNodes_fits {d : Daemon} (hd : Listable d) {mem : List UInt8}
    (hmem : mem.length = 300 * nodesGetNodeCount d) :
    (∃ result, cmdparserListNodes mem d = .ok result)
      ↔ listWidth d ≤ 300 * nodesGetNodeCount d := by
  rw [cmdparserListNodes_eq hd, ← hmem]
  constructor
  · rintro ⟨result, hrun⟩
    by_contra hwide
    rw [if_neg hwide] at hrun
    cases hrun
  · intro hfits
    exact ⟨_, if_pos hfits⟩

end Ubd
