import Ubd.Basics

/-!
# Debug — `debug.c`

`debug_hexdump` prints a byte as one character or as five, and has memory for five of each.
The NUL behind the last one has none of its own: `hexdump_fits_iff` says when there is room
for it.
-/

namespace Ubd

/-- A digit of `%X`. -/
def upperHexDigit (n : UInt8) : UInt8 := if n < 10 then 0x30 + n else 0x37 + n

/-- What `debug_hexdump` prints for a byte: ` 0x0%X`, ` 0x%X` or `%c`. -/
def hexdumpText (b : UInt8) : List UInt8 :=
  if b < 0x10 then [0x20, 0x30, 0x78, 0x30, upperHexDigit b]
  else if b < 0x20 ∨ b > 0x7F then
    [0x20, 0x30, 0x78, upperHexDigit (b / 16), upperHexDigit (b % 16)]
  else [b]

/-- The body of the loop of `debug_hexdump`, with `buf` and `j`. -/
def debugHexdumpByte (s : List UInt8 × UInt16) (b : UInt8) :
    Except Fault (List UInt8 × UInt16) := do
  let (buf, n) ← sprintf s.1 s.2.toNat (hexdumpText b)
  return (buf, s.2 + UInt16.ofNat n)

/-- `debug_hexdump`, with what `malloc(len*5)` returns and the text it logs. -/
def debugHexdump (buf : Option (List UInt8)) (data : List UInt8) :
    Except Fault (Option (List UInt8)) :=
  match buf with
  | none => .ok none
  | some buf => do
      let (buf, _) ← data.foldlM debugHexdumpByte (buf, 0)
      return some (cstr buf)

/-- The bytes that are printed as they are. -/
def isPrinted (b : UInt8) : Bool := 0x20 ≤ b && b ≤ 0x7F

/-- The whole text. -/
def hexdumpTexts (data : List UInt8) : List UInt8 := (data.map hexdumpText).flatten

section Texts

variable {b : UInt8} {data : List UInt8}

theorem hexdumpText_length (b : UInt8) :
    (hexdumpText b).length = if isPrinted b then 1 else 5 := by
  have hsmall : b < 0x10 → isPrinted b = false := by
    simp only [isPrinted, UInt8.lt_iff_toNat_lt, UInt8.le_iff_toNat_le, Bool.and_eq_false_iff,
      decide_eq_false_iff_not]
    intro h
    left
    have h20 : (0x20 : UInt8).toNat = 32 := rfl
    have h10 : (0x10 : UInt8).toNat = 16 := rfl
    omega
  have hrange : isPrinted b = true ↔ ¬ (b < 0x20 ∨ b > 0x7F) := by
    simp only [isPrinted, UInt8.le_iff_toNat_le, UInt8.lt_iff_toNat_lt, Bool.and_eq_true,
      decide_eq_true_eq, not_or, not_lt, gt_iff_lt]
  unfold hexdumpText
  by_cases h : b < 0x10
  · rw [if_pos h, hsmall h]
    rfl
  · rw [if_neg h]
    by_cases hout : b < 0x20 ∨ b > 0x7F
    · have hno : isPrinted b = false := by
        rw [Bool.eq_false_iff]
        exact fun hyes => hrange.mp hyes hout
      rw [if_pos hout, hno]
      rfl
    · rw [if_neg hout, hrange.mpr hout]
      rfl

/-- Every byte that is printed as it is saves four. -/
theorem hexdumpTexts_length (data : List UInt8) :
    (hexdumpTexts data).length + 4 * data.countP isPrinted = data.length * 5 := by
  induction data with
  | nil => rfl
  | cons b data ih =>
      have hcons : (hexdumpTexts (b :: data)).length
          = (hexdumpText b).length + (hexdumpTexts data).length := by
        simp [hexdumpTexts]
      rw [hcons, hexdumpText_length, List.countP_cons, List.length_cons]
      split <;> omega

theorem zero_notMem_hexdumpText (b : UInt8) : (0 : UInt8) ∉ hexdumpText b := by
  have hall : ∀ n : Fin 256, (0 : UInt8) ∉ hexdumpText (UInt8.ofNat n.val) := by decide +kernel
  rw [← UInt8.ofNat_toNat (x := b)]
  exact hall ⟨b.toNat, b.toNat_lt⟩

theorem zero_notMem_hexdumpTexts (data : List UInt8) : (0 : UInt8) ∉ hexdumpTexts data := by
  intro hmem
  obtain ⟨text, htext, hzero⟩ := List.mem_flatten.mp hmem
  obtain ⟨b, -, rfl⟩ := List.mem_map.mp htext
  exact zero_notMem_hexdumpText b hzero

end Texts

/-! ## Room for the text -/

section Room

variable {buf : List UInt8} {data : List UInt8}

/-- As long as the counter does not wrap, the loop puts the texts of the bytes behind each
other. -/
theorem hexdump_loop {j : UInt16} (h : j.toNat + (hexdumpTexts data).length < 2 ^ 16) :
    data.foldlM debugHexdumpByte (buf, j)
      = ((data.map hexdumpText).foldlM (Output.append 0 .outOfBounds) (buf, j.toNat)).map
        fun s => (s.1, UInt16.ofNat s.2) := by
  induction data generalizing buf j with
  | nil =>
      show Except.ok (buf, j) = Except.ok (buf, UInt16.ofNat j.toNat)
      rw [UInt16.ofNat_toNat]
  | cons b data ih =>
      have hlen : (hexdumpTexts (b :: data)).length
          = (hexdumpText b).length + (hexdumpTexts data).length := by
        simp [hexdumpTexts]
      rw [hlen] at h
      have hnext : (j + UInt16.ofNat (hexdumpText b).length).toNat
          = j.toNat + (hexdumpText b).length := by
        rw [UInt16.toNat_add, UInt16.toNat_ofNat']
        omega
      rw [List.foldlM_cons, List.map_cons, List.foldlM_cons, ← sprintf_append]
      unfold debugHexdumpByte
      cases hprint : sprintf buf j.toNat (hexdumpText b) with
      | error e => rfl
      | ok r =>
          obtain ⟨mem, n⟩ := r
          obtain ⟨m, -, hn⟩ := bind_eq_ok.mp hprint
          cases hn
          have hroom : (j + UInt16.ofNat (hexdumpText b).length).toNat + (hexdumpTexts data).length
              < 2 ^ 16 := by
            rw [hnext]
            omega
          have hrest := @ih mem _ hroom
          rw [hnext] at hrest
          exact hrest

/-- **What a hex dump logs**, if there is room for its text and a NUL. -/
theorem debugHexdump_eq (hdata : data ≠ []) (hcounter : data.length * 5 < 2 ^ 16) :
    debugHexdump (some buf) data
      = if (hexdumpTexts data).length + 1 ≤ buf.length then .ok (some (hexdumpTexts data))
        else .error .outOfBounds := by
  have htexts := hexdumpTexts_length data
  have hne : data.map hexdumpText ≠ [] := by simpa using hdata
  have hroom : (0 : UInt16).toNat + (hexdumpTexts data).length < 2 ^ 16 := by
    show 0 + (hexdumpTexts data).length < 2 ^ 16
    omega
  have hloop := @hexdump_loop buf data 0 hroom
  unfold debugHexdump
  dsimp only
  have hzero : (0 : UInt16).toNat = 0 := rfl
  rw [hloop, hzero, Output.foldlM_append hne, Nat.zero_add]
  change (Except.map _ (if (hexdumpTexts data).length + 1 ≤ buf.length then _ else _) >>= _) = _
  split
  · show Except.ok (some (cstr (Output.place 0 buf 0 (hexdumpTexts data)))) = _
    rw [cstr, Output.takeWhile_place (zero_notMem_hexdumpTexts data)]
  · rfl

end Room

/-- **When a hex dump stays in its memory**: when one of its bytes is printed as it is. -/
theorem hexdump_fits_iff (buf data : List UInt8) (hdata : 1 ≤ data.length)
    (hcounter : data.length * 5 < 2 ^ 16) (hbuf : buf.length = data.length * 5) :
    (∃ text, debugHexdump (some buf) data = .ok text) ↔ ∃ b ∈ data, isPrinted b = true := by
  have htexts := hexdumpTexts_length data
  have hroom : (hexdumpTexts data).length + 1 ≤ buf.length ↔ 0 < data.countP isPrinted := by
    rw [hbuf]
    omega
  rw [debugHexdump_eq (List.length_pos_iff.mp hdata) hcounter, ← List.countP_pos_iff, ← hroom]
  constructor
  · rintro ⟨text, hrun⟩
    by_contra hlong
    rw [if_neg hlong] at hrun
    cases hrun
  · intro hfits
    exact ⟨_, if_pos hfits⟩

/-- A letter saves four bytes, and the NUL needs one of them. -/
theorem hexdump_fits_iff_letter :
    (∃ text, debugHexdump (some (List.replicate 10 0xAA)) [0x41, 0x00] = .ok text)
      ↔ ∃ b ∈ [0x41, 0x00], isPrinted b = true :=
  hexdump_fits_iff (List.replicate 10 0xAA) [0x41, 0x00] (by decide) (by decide) (by decide)

/-- **A dump of nothing but control bytes** writes its NUL behind the memory. -/
theorem control_bytes_overrun : (1 : Nat) ≤ [(0x00 : UInt8)].length
    ∧ (List.replicate 5 (0xAA : UInt8)).length = [(0x00 : UInt8)].length * 5
    ∧ debugHexdump (some (List.replicate 5 0xAA)) [0x00] = .error .outOfBounds := by
  refine ⟨by decide, by decide, ?_⟩
  decide +kernel

end Ubd
