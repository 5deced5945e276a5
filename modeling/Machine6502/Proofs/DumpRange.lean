import Machine6502.Proofs.Cells
import Machine6502.Proofs.Checked
import Machine6502.Proofs.DumpText
import Mathlib.Data.List.TakeDrop

/-!
# Ranges that can be dumped

The reader of dump ranges looks at the end of a range once, and the memory looks at its first and its
last cell when it is dumped.  The two checks agree, also on the range that is the whole memory and on
ranges without a cell, so a range that was read can be dumped from any memory.  In the other direction
there is a text for every range inside the memory.

* `DumpRange.read_split` — what the reader does with the two sides of the first colon.
* `DumpRange.read_eq_ok_iff`, `DumpRange.read_eq_error_iff` — which texts are read, and what is
  reported of the others.
* `DumpRange.read_written` — numbers in any of their styles, with a colon between them.
* `DumpRange.read_dumpable` — all of this, and what a dump of the range looks like.
-/

namespace Machine6502

open Digits (IsHexDigit)

namespace DumpRange

variable {text first rest : String} {range : DumpRange} {start count : Nat}

/-! ## Reading a range -/

theorem toList_split (first rest : String) :
    (first ++ ":" ++ rest).toList = first.toList ++ ':' :: rest.toList := by
  rw [String.toList_append, String.toList_append, List.append_assoc]
  rfl

/-- The reader of ranges, past the first colon of a text. -/
theorem read_split (before : ':' ∉ first.toList) (rest : String) :
    read (first ++ ":" ++ rest) =
      readNumber first 0xFFFF >>= fun start =>
        readNumber rest 0x10000 >>= fun count =>
          if start + count ≤ 0x10000 then .ok ⟨start, count⟩
          else .error (.pastEnd (first ++ ":" ++ rest)) := by
  have front := bne_of_notMem before
  have split : (first ++ ":" ++ rest).toList.span (· != ':') = (first.toList, ':' :: rest.toList) := by
    rw [toList_split, List.span_eq_takeWhile_dropWhile, List.takeWhile_append_of_pos front,
      List.dropWhile_append_of_pos front, List.takeWhile_cons_of_neg (by decide),
      List.dropWhile_cons_of_neg (by decide), List.append_nil]
  rw [read, split]
  simp only [String.ofList_toList]

theorem read_of_colonless (absent : ':' ∉ text.toList) : read text = .error (.missingColon text) := by
  have front := bne_of_notMem absent
  have split : text.toList.span (· != ':') = (text.toList, []) := by
    rw [List.span_eq_takeWhile_dropWhile, List.takeWhile_eq_self_iff.mpr front,
      List.dropWhile_eq_nil_iff.mpr front]
  rw [read, split]

/-- A text with a colon has a first one. -/
theorem exists_split (present : ':' ∈ text.toList) :
    ∃ first rest, text = first ++ ":" ++ rest ∧ ':' ∉ first.toList := by
  obtain ⟨front, back, whole, before⟩ := List.eq_append_cons_of_mem present
  refine ⟨String.ofList front, String.ofList back, ?_, by rwa [String.toList_ofList]⟩
  rw [← String.toList_inj, toList_split, String.toList_ofList, String.toList_ofList, whole]

/-- **The texts of ranges.** -/
theorem read_eq_ok_iff :
    read text = .ok range ↔ ∃ first rest, text = first ++ ":" ++ rest ∧ ':' ∉ first.toList ∧
      readNumber first 0xFFFF = .ok range.start ∧ readNumber rest 0x10000 = .ok range.count ∧
      range.start + range.count ≤ 0x10000 := by
  constructor
  · intro reads
    by_cases present : ':' ∈ text.toList
    · obtain ⟨first, rest, rfl, before⟩ := exists_split present
      rw [read_split before] at reads
      obtain ⟨start, readStart, reads⟩ := Checked.bind_eq_ok.mp reads
      obtain ⟨count, readCount, reads⟩ := Checked.bind_eq_ok.mp reads
      split at reads
      · next inside =>
        cases reads
        exact ⟨first, rest, rfl, before, readStart, readCount, inside⟩
      · cases reads
    · rw [read_of_colonless present] at reads
      cases reads
  · rintro ⟨first, rest, rfl, before, readStart, readCount, inside⟩
    rw [read_split before, readStart, readCount]
    exact if_pos inside

/-- What is wrong with a text that is no range: the first thing that the reader comes to. -/
theorem read_eq_error_iff {error : BadArgument} :
    read text = .error error ↔ (':' ∉ text.toList ∧ error = .missingColon text) ∨
      ∃ first rest, text = first ++ ":" ++ rest ∧ ':' ∉ first.toList ∧
        (readNumber first 0xFFFF = .error error ∨ ∃ start, readNumber first 0xFFFF = .ok start ∧
          (readNumber rest 0x10000 = .error error ∨ ∃ count, readNumber rest 0x10000 = .ok count ∧
            0x10000 < start + count ∧ error = .pastEnd text)) := by
  have past (start count : Nat) (text : String) :
      (if start + count ≤ 0x10000 then .ok ⟨start, count⟩ else .error (.pastEnd text)) =
          (.error error : Except BadArgument DumpRange) ↔
        0x10000 < start + count ∧ error = .pastEnd text := by
    split
    · next inside => simp only [reduceCtorEq, Nat.not_lt.mpr inside, false_and]
    · next beyond => simp only [Except.error.injEq, Nat.not_le.mp beyond, true_and, eq_comm]
  constructor
  · intro reads
    by_cases present : ':' ∈ text.toList
    · obtain ⟨first, rest, rfl, before⟩ := exists_split present
      rw [read_split before] at reads
      simp only [Checked.bind_eq_error, past] at reads
      exact .inr ⟨first, rest, rfl, before, reads⟩
    · rw [read_of_colonless present] at reads
      cases reads
      exact .inl ⟨present, rfl⟩
  · rintro (⟨absent, rfl⟩ | ⟨first, rest, rfl, before, reads⟩)
    · exact read_of_colonless absent
    · rw [read_split before]
      simp only [Checked.bind_eq_error, past]
      exact reads

/-- A range that was read lies inside the memory. -/
theorem inside_of_read (reads : read text = .ok range) :
    range.start < 65536 ∧ range.start + range.count ≤ 65536 := by
  obtain ⟨first, rest, -, -, start, -, inside⟩ := read_eq_ok_iff.mp reads
  have := (readNumber_eq_ok_iff.mp start).1
  omega

/-! ## Writing a range -/

/-- A range inside the memory is read from two numbers in any of their styles. -/
theorem read_written {style style' : NumberStyle} (inside : start ≤ 0xFFFF)
    (fits : start + count ≤ 0x10000) (writes : style.Writes first start)
    (writes' : style'.Writes rest count) : read (first ++ ":" ++ rest) = .ok ⟨start, count⟩ := by
  have before : ':' ∉ first.toList :=
    writes.notMem (by cases style <;> decide) Digits.not_isHexDigit_colon
  exact read_eq_ok_iff.mpr ⟨first, rest, rfl, before, writes.readNumber (by omega),
    writes'.readNumber (by omega), fits⟩

/-! ## Dumping a range -/

/-- The addresses in a dump of cells of the memory have four digits. -/
theorem length_hexText_four {address : Nat} (small : address < 65536) :
    (hexText 4 address).length = 4 := by
  rw [length_hexText]
  exact Nat.max_eq_left (Digits.length_ofNat_le .hexadecimal (by decide) small)

/-- **A range that is read can be dumped, and every range can be written.**  A text is read as a range
exactly if both sides of its first colon are read as numbers, the first one of an address and the
second one of a count, and the range ends inside the memory; otherwise the first thing that is wrong
is reported.  From any memory such a range is dumped as that many bytes, and on each line of the dump
the address has four digits.  And a range inside the memory can be written with both numbers in any
style. -/
theorem read_dumpable (text : String) :
    (∀ range, read text = .ok range ↔ ∃ first rest, text = first ++ ":" ++ rest ∧
      ':' ∉ first.toList ∧ readNumber first 0xFFFF = .ok range.start ∧
      readNumber rest 0x10000 = .ok range.count ∧ range.start + range.count ≤ 0x10000) ∧
    (∀ error, read text = .error error ↔ (':' ∉ text.toList ∧ error = .missingColon text) ∨
      ∃ first rest, text = first ++ ":" ++ rest ∧ ':' ∉ first.toList ∧
        (readNumber first 0xFFFF = .error error ∨ ∃ start, readNumber first 0xFFFF = .ok start ∧
          (readNumber rest 0x10000 = .error error ∨ ∃ count, readNumber rest 0x10000 = .ok count ∧
            0x10000 < start + count ∧ error = .pastEnd text))) ∧
    (∀ range, read text = .ok range → ∀ memory : Memory, ∃ bytes,
      memory.dump range.start range.count = .ok bytes ∧ bytes.length = range.count ∧
      ∀ line ∈ HexDump.lines range.start bytes, ∃ digits,
        line = "$" ++ digits ++ ": " ++ HexDump.payload line ∧ digits.length = 4 ∧
        ∀ c ∈ digits.toList, ∃ value, IsHexDigit c value) ∧
    ∀ start count, start ≤ 0xFFFF → start + count ≤ 0x10000 → ∀ style style' : NumberStyle,
      read (style.text start ++ ":" ++ style'.text count) = .ok ⟨start, count⟩ ∧
      ∀ first rest, style.Writes first start → style'.Writes rest count →
        read (first ++ ":" ++ rest) = .ok ⟨start, count⟩ := by
  refine ⟨fun _ => read_eq_ok_iff, fun _ => read_eq_error_iff, ?_, ?_⟩
  · intro range reads memory
    obtain ⟨-, inside⟩ := inside_of_read reads
    refine ⟨_, memory.dump_eq_ok inside, memory.length_block _ _, fun line member => ?_⟩
    obtain ⟨j, found⟩ := List.mem_iff_getElem?.mp member
    obtain ⟨small, rfl⟩ := HexDump.eq_line_of_getElem? found
    rw [memory.length_block] at small
    have start : (range.start : Int) + 16 * (j : Int) = (range.start + 16 * j : Nat) := by omega
    rw [start]
    refine ⟨hexText 4 (range.start + 16 * j : Nat), ?_, length_hexText_four (by omega),
      isHexDigit_hexText 4 _⟩
    rw [← HexDump.label_line]
    exact HexDump.line_eq _ _
  · intro start count inside fits style style'
    have writes (style : NumberStyle) {value : Nat} (small : value ≤ 0x10000) :
        style.Writes (style.text value) value :=
      style.writes_text (by decide : 0 < 5) (by omega) (by decide)
    exact ⟨read_written inside fits (writes style (by omega)) (writes style' (by omega)),
      fun _ _ => read_written inside fits⟩

/-- The range that is the whole memory, and a range that is its last cell. -/
theorem read_dumpable_whole :
    read "0:$10000" = .ok ⟨0, 0x10000⟩ ∧ read "65535:0x0001" = .ok ⟨0xFFFF, 1⟩ ∧
      ∃ bytes, Memory.blank.dump 0 0x10000 = .ok bytes ∧ bytes.length = 0x10000 := by
  obtain ⟨-, -, dumps, written⟩ := read_dumpable "0:$10000"
  obtain ⟨whole, -⟩ := written 0 0x10000 (by decide) (by decide) .decimal .dollar
  obtain ⟨-, last⟩ := written 0xFFFF 1 (by decide) (by decide) .decimal .marked
  have shortest : NumberStyle.decimal.text 0 ++ ":" ++ NumberStyle.dollar.text 0x10000 =
      "0:$10000" := by
    decide +kernel
  rw [shortest] at whole
  have first : NumberStyle.decimal.Writes "65535" 0xFFFF := by
    have text : NumberStyle.decimal.text 0xFFFF = "65535" := by decide +kernel
    rw [← text]
    exact NumberStyle.writes_text .decimal (by decide : 0 < 5) (by decide) (by decide)
  have rest : NumberStyle.marked.Writes "0x0001" 1 := by
    refine ⟨⟨['0', '0', '0', '1'], rfl, ?_⟩, by rintro ⟨⟩⟩
    exact (Digits.Spells.single (by decide) (by decide)).zeros 3
  obtain ⟨bytes, dumped, length, -⟩ := dumps _ whole Memory.blank
  exact ⟨whole, last _ _ first rest, bytes, dumped, length⟩

end DumpRange

end Machine6502
