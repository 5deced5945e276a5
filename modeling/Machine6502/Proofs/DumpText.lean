import Machine6502.Proofs.PlainText
import Machine6502.Proofs.WrittenNumber

/-!
# Reading dumps back

A hex dump and the readers of numbers and of byte texts were made for different purposes, and none
knows the others.  But what stands before the colon of a line is a number in a way that is read, and
what stands after it are two digits for each byte and otherwise only blanks, wherever the lines were
broken.

* `HexDump.label`, `HexDump.payload` — what stands before and after the colon of a line.
* `HexDump.lines_eq` — the lines one by one, without the recursion.
* `HexDump.readBytes_payloads` — the payloads of a dump are read back as its bytes.
* `HexDump.lines_decoded` — a dump is read back line by line, and so shows nothing else.
-/

namespace Machine6502

open Digits (IsHexDigit)

theorem readBytes_of_byteDigits {text : String} {bytes : List UInt8}
    (digits : byteDigits text = bytes.flatMap hexPair) : readBytes text = .ok bytes := by
  rw [readBytes_eq_ok_iff, digits]
  exact .hexPairs bytes

theorem byteDigits_hexPair (byte : UInt8) :
    byteDigits (String.ofList (hexPair byte)) = hexPair byte := by
  have := byte.toNat_lt
  have high : IsHexDigit _ (byte.toNat / 16) := Digits.isHexDigit_digit (by omega)
  have low : IsHexDigit _ (byte.toNat % 16) := Digits.isHexDigit_digit (by omega)
  rw [byteDigits, String.toList_ofList, List.filter_eq_self]
  simp only [hexPair, List.forall_mem_cons, List.not_mem_nil, high.isSeparator, low.isSeparator,
    Bool.not_false, true_and, false_implies, implies_true]

/-- A text without the mark is passed whole on the way to the mark. -/
theorem bne_of_notMem {mark : Char} {chars : List Char} (absent : mark ∉ chars) :
    ∀ c ∈ chars, (c != mark) = true :=
  fun _ member => bne_iff_ne.mpr fun same => absent (same ▸ member)

namespace HexDump

variable {address : Int} {bytes : List UInt8}

/-! ## The two sides of a line -/

/-- The characters after the first colon that a space follows. -/
def afterColon : List Char → List Char
  | ':' :: ' ' :: rest => rest
  | _ :: rest => afterColon rest
  | [] => []

theorem afterColon_append {front : List Char} (absent : ':' ∉ front) (rest : List Char) :
    afterColon (front ++ ':' :: ' ' :: rest) = rest := by
  induction front with
  | nil => rfl
  | cons first front ih =>
    rw [List.mem_cons, not_or] at absent
    rw [List.cons_append, afterColon]
    · exact ih absent.2
    · rintro _ rfl
      exact absurd rfl absent.1

/-- What follows the address on a line of a dump. -/
def payload (line : String) : String := String.ofList (afterColon line.toList)

/-- What stands before the first colon of a line. -/
def label (line : String) : String := String.ofList (line.toList.takeWhile (· != ':'))

theorem colon_notMem (address : Int) : ':' ∉ ("$" ++ hexText 4 address).toList := by
  rw [String.toList_append, List.mem_append, not_or]
  exact ⟨by decide, notMem_hexText (by decide) (by decide) 4 address⟩

theorem payload_line (address : Int) (bytes : List UInt8) :
    payload (line address bytes) =
      " ".intercalate (bytes.map fun byte => String.ofList (hexPair byte)) := by
  rw [payload, line, String.toList_append, String.toList_append]
  have after := afterColon_append (colon_notMem address)
    (" ".intercalate (bytes.map fun byte => String.ofList (hexPair byte))).toList
  rw [List.append_assoc]
  exact (congrArg String.ofList after).trans String.ofList_toList

theorem label_line (address : Int) (bytes : List UInt8) :
    label (line address bytes) = "$" ++ hexText 4 address := by
  have front := bne_of_notMem (colon_notMem address)
  have back (rest : String) : (": " ++ rest).toList = ':' :: ' ' :: rest.toList :=
    String.toList_append
  rw [label, line, String.append_assoc, String.toList_append, List.takeWhile_append_of_pos front,
    back, List.takeWhile_cons_of_neg (by decide), List.append_nil, String.ofList_toList]

/-- A line is what stands before and after its colon. -/
theorem line_eq (address : Int) (bytes : List UInt8) :
    line address bytes = label (line address bytes) ++ ": " ++ payload (line address bytes) := by
  rw [label_line, payload_line, line]

/-- An address is written so that it can be read. -/
theorem writes_label (address : Nat) (bytes : List UInt8) :
    NumberStyle.dollar.Writes (label (line address bytes)) address where
  spelled := by
    refine ⟨Digits.padded .hexadecimal 4 address, ?_, Digits.spells_padded .hexadecimal 4 address⟩
    rw [label_line, String.toList_append, hexText]
    exact congrArg (['$'] ++ ·) String.toList_ofList
  short := by rintro ⟨⟩

/-! ## The lines one by one -/

/-- **The lines of a dump, one by one.** -/
theorem lines_eq (address : Int) (bytes : List UInt8) :
    lines address bytes = (List.range ((bytes.length + 15) / 16)).map fun (j : Nat) =>
      line (address + 16 * j) ((bytes.drop (16 * j)).take 16) := by
  fun_induction lines address bytes with
  | case1 address => rfl
  | case2 address bytes nonempty ih =>
    have positive := List.length_pos_iff.mpr nonempty
    have count : (bytes.length + 15) / 16 = ((bytes.drop width).length + 15) / 16 + 1 := by
      rw [List.length_drop, width]
      omega
    rw [ih, count, List.range_succ_eq_map, List.map_cons, List.map_map]
    refine congrArg₂ List.cons ?_ (List.map_congr_left fun j _ => ?_)
    · rw [Nat.mul_zero, List.drop_zero, Int.natCast_zero, Int.mul_zero, Int.add_zero, width]
    · have next : address + (width : Nat) + 16 * (j : Int) = address + 16 * (j.succ : Int) := by
        rw [width]
        omega
      have later : width + 16 * j = 16 * j.succ := by
        rw [width]
        omega
      rw [Function.comp_apply, List.drop_drop, next, later]

theorem length_lines (address : Int) (bytes : List UInt8) :
    (lines address bytes).length = (bytes.length + 15) / 16 := by
  rw [lines_eq, List.length_map, List.length_range]

/-- A line of a dump begins inside the bytes. -/
theorem eq_line_of_getElem? {j : Nat} {text : String} (found : (lines address bytes)[j]? = some text) :
    16 * j < bytes.length ∧ text = line (address + 16 * j) ((bytes.drop (16 * j)).take 16) := by
  obtain ⟨small, same⟩ := List.getElem?_eq_some_iff.mp found
  rw [length_lines] at small
  simp only [lines_eq, List.getElem_map, List.getElem_range] at same
  exact ⟨by omega, same.symm⟩

/-! ## What is read back -/

theorem byteDigits_payload (address : Int) (bytes : List UInt8) :
    byteDigits (payload (line address bytes)) = bytes.flatMap hexPair := by
  rw [payload_line, byteDigits_intercalate, List.flatMap_map]
  exact congrArg (List.flatMap · bytes) (funext byteDigits_hexPair)

/-- The lines of a dump hold the digits of its bytes, wherever they were broken. -/
theorem byteDigits_payloads (address : Int) (bytes : List UInt8) :
    ((lines address bytes).map payload).flatMap byteDigits = bytes.flatMap hexPair := by
  fun_induction lines address bytes with
  | case1 address => rfl
  | case2 address bytes nonempty ih =>
    rw [List.map_cons, List.flatMap_cons, ih, byteDigits_payload, ← List.flatMap_append,
      List.take_append_drop]

/-- **A dump is read back as the bytes that it shows**, whatever its address. -/
theorem readBytes_payloads (address : Int) (bytes : List UInt8) :
    readBytes (" ".intercalate ((lines address bytes).map payload)) = .ok bytes :=
  readBytes_of_byteDigits ((byteDigits_intercalate _).trans (byteDigits_payloads address bytes))

/-- A dump that shows something begins with a line that shows its address. -/
theorem head?_lines (nonempty : bytes ≠ []) :
    (lines address bytes).head? = some (line address (bytes.take width)) := by
  rw [lines, if_neg nonempty, List.head?_cons]

/-- Two dumps with the same lines show the same bytes from the same address on. -/
theorem lines_injective {address address' : Nat} {bytes bytes' : List UInt8} (nonempty : bytes ≠ [])
    (same : lines address' bytes' = lines address bytes) : address' = address ∧ bytes' = bytes := by
  have read := readBytes_payloads address' bytes'
  rw [same, readBytes_payloads] at read
  obtain rfl : bytes = bytes' := Except.ok.inj read
  have first := congrArg List.head? same
  rw [head?_lines nonempty, head?_lines nonempty] at first
  have number := (writes_label address' (bytes.take width)).numberOf?
  rw [Option.some.inj first, (writes_label address _).numberOf?] at number
  exact ⟨(Int.ofNat.inj (Option.some.inj number)).symm, rfl⟩

/-- **A dump is read back line by line.**  There is a line for every sixteen bytes, and one for those
that are left.  A line is a dollar sign and at least four hexadecimal digits, a colon and a space, and
the bytes.  What stands before the colon is read as the address of the first byte of the line, and
what follows it as the bytes of the line.

So all lines together are read back as the bytes that were dumped, and lines that show some bytes show
them at one address only. -/
theorem lines_decoded (address : Nat) (bytes : List UInt8) :
    let lines := HexDump.lines address bytes
    lines.length = (bytes.length + 15) / 16 ∧
    (∀ j line, lines[j]? = some line →
      (∃ digits, line = "$" ++ digits ++ ": " ++ payload line ∧ label line = "$" ++ digits ∧
        4 ≤ digits.length ∧ ∀ c ∈ digits.toList, ∃ value, IsHexDigit c value) ∧
      (∀ limit : Int, address + bytes.length ≤ limit →
        readNumber (label line) limit = .ok (address + 16 * j)) ∧
      readBytes (payload line) = .ok ((bytes.drop (16 * j)).take 16)) ∧
    readBytes (" ".intercalate (lines.map payload)) = .ok bytes ∧
    ∀ (address' : Nat) bytes', bytes ≠ [] → HexDump.lines address' bytes' = lines →
      address' = address ∧ bytes' = bytes := by
  intro lines
  refine ⟨length_lines _ _, ?_, readBytes_payloads _ _, fun _ _ => lines_injective⟩
  intro j text found
  obtain ⟨small, rfl⟩ := eq_line_of_getElem? found
  have start : (address : Int) + 16 * (j : Int) = (address + 16 * j : Nat) := by omega
  rw [start]
  refine ⟨⟨hexText 4 (address + 16 * j : Nat), ?_, label_line _ _, ?_, ?_⟩, ?_, ?_⟩
  · rw [← label_line]
    exact line_eq _ _
  · rw [length_hexText]
    exact Nat.le_max_left _ _
  · exact isHexDigit_hexText 4 _
  · intro limit within
    exact (writes_label _ _).readNumber (by omega)
  · exact readBytes_of_byteDigits (byteDigits_payload _ _)

/-- A dump whose addresses grow past four digits on its second and last line. -/
theorem lines_decoded_past_end :
    let bytes := (List.range 17).map UInt8.ofNat
    (HexDump.lines 0xFFF0 bytes)[1]? = some "$10000: 10" ∧
      readNumber (label "$10000: 10") 0x10001 = .ok 0x10000 ∧
      readBytes (payload "$10000: 10") = .ok [0x10] := by
  intro bytes
  have second : (HexDump.lines 0xFFF0 bytes)[1]? = some "$10000: 10" := by
    rw [lines_eq]
    decide +kernel
  obtain ⟨-, each, -⟩ := lines_decoded 0xFFF0 bytes
  obtain ⟨-, number, shown⟩ := each 1 _ second
  exact ⟨second, number 0x10001 (by decide), shown⟩

end HexDump

end Machine6502
