import Machine6502.Proofs.DumpText

/-!
# Reading the register line back

The register line writes six numbers of any size and sign one after the other.  A number that outgrows
its width pushes the later ones along, and the sign of a negative one takes a place of the padding, so
a reader cannot count columns.  It can go by the spaces, since no number and no name holds one, and by
what stands before the equals sign of each word.

* `RegisterLine.fields` — the names and the numbers in a line.
* `RegisterLine.brackets` — what a line has in square brackets.
* `Registers.fields_line`, `Registers.brackets_line` — what they find in a register line.
* `Registers.line_lossless` — a register line tells all of the registers, and its letters are bits of
  the number that it shows as the status.

The two views of the status are written in different ways, the letters from the flags one by one and
the number from the byte.  `Status.testBit_toByte` is where they meet.
-/

namespace Machine6502

/-! ## Words of a line -/

namespace RegisterLine

/-- The parts of a line between its spaces. -/
def words (line : String) : List (List Char) := line.toList.splitOn ' '

/-- The name and the number in a word such as `SP=$0100`. -/
def field? (word : List Char) : Option (String × Int) :=
  match word.dropWhile (· != '=') with
  | '=' :: '$' :: digits =>
      (Numeral.read? .hexadecimal digits).map (String.ofList (word.takeWhile (· != '=')), ·)
  | _ => none

/-- What is in the brackets of a word such as `[N-----C]`. -/
def bracketed? : List Char → Option (List Char)
  | '[' :: rest => some (rest.takeWhile (· != ']'))
  | _ => none

/-- The names in a line, each with its number, in order. -/
def fields (line : String) : List (String × Int) := (words line).filterMap field?

/-- What a line has in brackets, in order. -/
def brackets (line : String) : List (List Char) := (words line).filterMap bracketed?

variable {word name digits inner : List Char} {value : Int}

theorem field?_named (unmarked : '=' ∉ name) (reads : Numeral.read? .hexadecimal digits = some value) :
    field? (name ++ '=' :: '$' :: digits) = some (String.ofList name, value) := by
  have front := bne_of_notMem unmarked
  rw [field?, List.dropWhile_append_of_pos front, List.dropWhile_cons_of_neg (by decide),
    List.takeWhile_append_of_pos front, List.takeWhile_cons_of_neg (by decide), List.append_nil]
  simp only [reads, Option.map_some]

theorem field?_of_unmarked (unmarked : '=' ∉ word) : field? word = none := by
  rw [field?, List.dropWhile_eq_nil_iff.mpr (bne_of_notMem unmarked)]

theorem bracketed?_closed (unclosed : ']' ∉ inner) :
    bracketed? ('[' :: (inner ++ [']'])) = some inner := by
  rw [bracketed?, List.takeWhile_append_of_pos (bne_of_notMem unclosed),
    List.takeWhile_cons_of_neg (by decide), List.append_nil]

end RegisterLine

/-! ## The words of a register line -/

namespace Register

/-- Every register, in the order of the line. -/
def all : List Register := [.pc, .sp, .a, .x, .y, .status]

/-- The name by which a register is shown. -/
def name : Register → String
  | .pc => "PC"
  | .sp => "SP"
  | .a => "A"
  | .x => "X"
  | .y => "Y"
  | .status => "P"

/-- The least number of characters that show a register. -/
def width : Register → Nat
  | .pc | .sp => 4
  | .a | .x | .y | .status => 2

end Register

namespace Registers

open RegisterLine (words fields brackets field? bracketed?)

variable (registers other : Registers)

/-- The word that shows a register. -/
def word (register : Register) : List Char :=
  register.name.toList ++
    '=' :: '$' :: Digits.padded .hexadecimal register.width (registers.get register)

/-- The word that shows the flags. -/
def flagWord : List Char := '[' :: (registers.flagLetters ++ [']'])

/-- A register line is its words with single spaces between them. -/
theorem toList_line :
    registers.line.toList =
      [' '].intercalate (Register.all.map registers.word ++ [registers.flagWord]) := by
  unfold line
  simp only [String.toList_append, hexText, String.toList_ofList, List.append_assoc]
  simp only [Register.all, word, flagWord, Register.name, Register.width, get, List.map_cons,
    List.map_nil, List.intercalate_cons_cons, List.intercalate_singleton, List.cons_append,
    List.nil_append, List.append_assoc]
  rfl

theorem space_notMem_word (register : Register) : ' ' ∉ registers.word register := by
  rw [word, List.mem_append, not_or]
  constructor
  · cases register <;> decide
  · rw [List.mem_cons, List.mem_cons, not_or, not_or]
    exact ⟨by decide, by decide, Digits.notMem_padded (by decide) (by decide) _ _ _⟩

/-- A character that is no bracket, no dash and no letter of a flag is not in the word of the flags. -/
theorem notMem_flagWord {c : Char} (other : ∀ flag ∈ Flag.all, flag.letter ≠ c)
    (marks : c ∉ ['[', '-', ']']) : c ∉ registers.flagWord := by
  simp only [List.mem_cons, List.not_mem_nil, or_false, not_or] at marks
  obtain ⟨opening, dash, closing⟩ := marks
  rw [flagWord, List.mem_cons, List.mem_append, List.mem_singleton, not_or, not_or]
  exact ⟨opening, registers.notMem_flagLetters other dash, closing⟩

/-- **The words of a register line** are those that it was made of, whatever numbers are in them. -/
theorem words_line :
    words registers.line = Register.all.map registers.word ++ [registers.flagWord] := by
  rw [words, toList_line]
  refine List.splitOn_intercalate ' ' ?_ (List.append_ne_nil_of_right_ne_nil _ (List.cons_ne_nil _ _))
  refine List.forall_mem_append.mpr ⟨?_, List.forall_mem_singleton.mpr ?_⟩
  · intro shown member
    obtain ⟨register, -, rfl⟩ := List.mem_map.mp member
    exact registers.space_notMem_word register
  · exact registers.notMem_flagWord (by decide) (by decide)

/-! ## What is read back -/

theorem field?_word (register : Register) :
    field? (registers.word register) = some (register.name, registers.get register) := by
  have unmarked : '=' ∉ register.name.toList := by cases register <;> decide
  rw [word, RegisterLine.field?_named unmarked (Digits.read?_padded _ _), String.ofList_toList]

theorem bracketed?_word (register : Register) : bracketed? (registers.word register) = none := by
  cases register <;> rfl

/-- **The fields of a register line** are the registers under their names. -/
theorem fields_line :
    fields registers.line =
      Register.all.map fun register => (register.name, registers.get register) := by
  have flags : field? registers.flagWord = none :=
    RegisterLine.field?_of_unmarked (registers.notMem_flagWord (by decide) (by decide))
  have named : field? ∘ registers.word =
      some ∘ fun register => (register.name, registers.get register) :=
    funext registers.field?_word
  rw [fields, words_line, List.filterMap_append, List.filterMap_map, named, List.filterMap_eq_map,
    List.filterMap_cons_none flags, List.filterMap_nil, List.append_nil]

/-- A register line has the flags in brackets, and nothing else. -/
theorem brackets_line : brackets registers.line = [registers.flagLetters] := by
  have flags : bracketed? registers.flagWord = some registers.flagLetters :=
    RegisterLine.bracketed?_closed (registers.notMem_flagLetters (by decide) (by decide))
  have bare : (Register.all.map registers.word).filterMap bracketed? = [] := by
    rw [List.filterMap_eq_nil_iff]
    intro shown member
    obtain ⟨register, -, rfl⟩ := List.mem_map.mp member
    exact registers.bracketed?_word register
  rw [brackets, words_line, List.filterMap_append, bare, List.filterMap_cons_some flags,
    List.filterMap_nil, List.nil_append]

/-- The letters show the bits of the status byte. -/
theorem flagLetters_eq :
    registers.flagLetters = Flag.all.reverse.map fun flag =>
      if registers.status.toByte.testBit flag.bit then flag.letter else '-' := by
  refine List.map_congr_left fun flag _ => ?_
  rw [Status.testBit_toByte]

/-- A register file is what its registers hold. -/
theorem eq_of_get_eq (same : ∀ register, registers.get register = other.get register) :
    registers = other := by
  have byte : registers.status.toByte = other.status.toByte := Int.ofNat.inj (same .status)
  have status : registers.status = other.status := by
    rw [← registers.status.ofByte_toByte, byte, Status.ofByte_toByte]
  cases registers
  cases other
  rw [mk.injEq]
  exact ⟨same .pc, same .sp, same .a, same .x, same .y, status⟩

/-- Registers with the same line are the same. -/
theorem line_injective (same : registers.line = other.line) : registers = other := by
  have fields := registers.fields_line
  rw [same, other.fields_line] at fields
  refine eq_of_get_eq registers other fun register => ?_
  have member : register ∈ Register.all := by cases register <;> decide
  exact (congrArg Prod.snd (List.map_inj_left.mp fields register member)).symm

/-- **The register line loses nothing.**  Two register files have the same line only if they are the
same, whatever the size and the sign of what they hold.  From the line every register is read back
under its name; and the letters in its brackets, from left to right, are set by the bits seven, six,
four, three, two, one and zero of the hexadecimal number behind `P`. -/
theorem line_lossless (registers other : Registers) :
    (registers.line = other.line ↔ registers = other) ∧
    fields registers.line =
      [("PC", registers.pc), ("SP", registers.sp), ("A", registers.a), ("X", registers.x),
        ("Y", registers.y), ("P", (registers.status.toByte : Int))] ∧
    ∃ byte : Nat, (fields registers.line).lookup "P" = some (byte : Int) ∧
      brackets registers.line =
        [[('N', 7), ('V', 6), ('B', 4), ('D', 3), ('I', 2), ('Z', 1), ('C', 0)].map fun shown =>
          if byte.testBit shown.2 then shown.1 else '-'] := by
  refine ⟨⟨registers.line_injective other, congrArg line⟩, registers.fields_line,
    registers.status.toByte, ?_, ?_⟩
  · rw [fields_line]
    rfl
  · rw [brackets_line, flagLetters_eq]
    rfl

/-- A negative program counter, and numbers that outgrow their width. -/
example :
    line { pc := -1, sp := 0x12345, a := -300, y := 0xFF, status := .ofByte 0x84 } =
      "PC=$-001 SP=$12345 A=$-12C X=$00 Y=$FF P=$84 [N---I--]" := by
  decide +kernel

end Registers

end Machine6502
