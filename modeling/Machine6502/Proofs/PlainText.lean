import Machine6502.Display
import Machine6502.Text.ControlSequence
import Mathlib.Algebra.Order.Group.Nat

/-!
# Lines without control sequences

A report is written without the terminal control sequences that its lines hold.  Only what the
caller gave can hold one: numbers, registers and dumps are made of digits, letters and a few marks,
so the lines that show them are written as they are.

* `Text.Unescaped` — the text has no escape character, and so no control sequence.
* `Registers.unescaped_line`, `HexDump.unescaped_lines` — the lines that show a machine.
-/

namespace Machine6502

/-- The text has no escape character. -/
def Text.Unescaped (text : String) : Prop := Text.escape ∉ text.toList

open Text (Unescaped escape)

instance (text : String) : Decidable (Unescaped text) :=
  inferInstanceAs (Decidable (escape ∉ text.toList))

namespace Text

theorem unescaped_append {first second : String} :
    Unescaped (first ++ second) ↔ Unescaped first ∧ Unescaped second := by
  rw [Unescaped, String.toList_append, List.mem_append, not_or]
  rfl

theorem unescaped_ofList {chars : List Char} (absent : escape ∉ chars) :
    Unescaped (String.ofList chars) := by
  rwa [Unescaped, String.toList_ofList]

theorem unescaped_intercalate {separator : String} {parts : List String}
    (between : Unescaped separator) (within : ∀ part ∈ parts, Unescaped part) :
    Unescaped (separator.intercalate parts) := by
  induction parts with
  | nil => exact List.not_mem_nil
  | cons first rest ih =>
    obtain ⟨here, later⟩ := List.forall_mem_cons.mp within
    cases rest with
    | nil => rwa [String.intercalate_singleton]
    | cons second rest =>
      rw [String.intercalate_cons_cons]
      exact unescaped_append.mpr ⟨unescaped_append.mpr ⟨here, between⟩, ih later⟩

end Text

/-! ## Numbers -/

namespace Digits

/-- The character is none of the sixteen digits. -/
def NoDigit (c : Char) : Prop := ∀ value < 16, digit value ≠ c

instance (c : Char) : Decidable (NoDigit c) :=
  inferInstanceAs (Decidable (∀ value < 16, digit value ≠ c))

variable {c : Char}

theorem notMem_ofNat (other : NoDigit c) (radix : Radix) (value : Nat) :
    c ∉ ofNat radix value := by
  have base := radix.base_le
  fun_induction ofNat radix value with
  | case1 value small =>
    rw [List.mem_singleton]
    exact (other value (by omega)).symm
  | case2 value large ih =>
    have digit := other _ (lt_of_lt_of_le (Nat.mod_lt value radix.base_pos) base)
    rw [List.mem_append, List.mem_singleton, not_or]
    exact ⟨ih, digit.symm⟩

theorem notMem_padded (other : NoDigit c) (sign : c ≠ '-') (radix : Radix) (width : Nat)
    (value : Int) : c ∉ padded radix width value := by
  have filled (width : Nat) : c ∉ (ofNat radix value.natAbs).leftpad width '0' := by
    rw [List.leftpad, List.mem_append, not_or]
    refine ⟨fun member => ?_, notMem_ofNat other radix _⟩
    exact other 0 (by decide) (List.eq_of_mem_replicate member).symm
  rw [padded]
  split
  · exact List.not_mem_cons_of_ne_of_not_mem sign (filled _)
  · exact filled width

end Digits

theorem notMem_hexText {c : Char} (other : Digits.NoDigit c) (sign : c ≠ '-') (width : Nat)
    (value : Int) : c ∉ (hexText width value).toList := by
  rw [hexText, String.toList_ofList]
  exact Digits.notMem_padded other sign .hexadecimal width value

theorem unescaped_hexText (width : Nat) (value : Int) : Unescaped (hexText width value) :=
  notMem_hexText (by decide) (by decide) width value

theorem unescaped_hexPair (byte : UInt8) : Unescaped (String.ofList (hexPair byte)) := by
  apply Text.unescaped_ofList
  have other : Digits.NoDigit escape := by decide
  have := byte.toNat_lt
  have high := other (byte.toNat / 16) (by omega)
  have low := other (byte.toNat % 16) (by omega)
  simp only [hexPair, List.mem_cons, List.not_mem_nil, or_false, not_or]
  exact ⟨high.symm, low.symm⟩

theorem unescaped_repr (value : Nat) : Unescaped value.repr := by
  rw [Unescaped, Nat.toList_repr]
  intro member
  have digit := Nat.isDigit_of_mem_toDigits (by decide) (by decide) member
  exact absurd digit (by decide)

theorem unescaped_toString (value : Int) : Unescaped (toString value) := by
  rw [Int.toString_eq_repr, Int.repr_eq_if]
  split
  · exact unescaped_repr _
  · exact Text.unescaped_append.mpr ⟨by decide, unescaped_repr _⟩

/-! ## The lines that show a machine -/

/-- A character that is neither a dash nor the letter of a flag does not show among the flags. -/
theorem Registers.notMem_flagLetters {c : Char} (registers : Registers)
    (other : ∀ flag ∈ Flag.all, flag.letter ≠ c) (dash : c ≠ '-') : c ∉ registers.flagLetters := by
  rw [flagLetters, List.mem_map]
  rintro ⟨flag, member, shown⟩
  split at shown
  · exact other flag (List.mem_reverse.mp member) shown
  · exact dash shown.symm

theorem Registers.unescaped_line (registers : Registers) : Unescaped registers.line := by
  have letters : Unescaped (String.ofList registers.flagLetters) :=
    Text.unescaped_ofList (registers.notMem_flagLetters (by decide) (by decide))
  unfold line
  simp only [Text.unescaped_append, unescaped_hexText, letters, and_true]
  decide

theorem HexDump.unescaped_lines (address : Int) (bytes : List UInt8) :
    ∀ line ∈ HexDump.lines address bytes, Unescaped line := by
  fun_induction HexDump.lines address bytes with
  | case1 address => exact nofun
  | case2 address bytes nonempty ih =>
    refine List.forall_mem_cons.mpr ⟨?_, ih⟩
    have pairs : Unescaped (" ".intercalate (bytes.take width |>.map fun byte =>
        String.ofList (hexPair byte))) := by
      apply Text.unescaped_intercalate (by decide)
      intro part member
      obtain ⟨byte, -, rfl⟩ := List.mem_map.mp member
      exact unescaped_hexPair byte
    simp only [line, Text.unescaped_append, unescaped_hexText, pairs, and_true]
    decide

end Machine6502
