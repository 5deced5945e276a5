import Machine6502.Proofs.ByteText

/-!
# Numbers that are written

Numbers are written in two ways, decimal and hexadecimal, and read in three, since a hexadecimal
numeral may have either of two marks before it.  This module goes from the writing to the reading: the
digits that are written for a number, in either case and with zeros before them or none, are read back
as the number behind each of the marks.

* `Digits.Spells` — digits of a radix, and the number they write.
* `Digits.spells_ofNat`, `Digits.Spells.zeros` — the digits that are written, and leading zeros.
* `Digits.read?_padded` — hexadecimal texts of integers are read back, negative ones too.
* `NumberStyle.Writes` — digits behind a mark.
* `NumberStyle.Writes.readNumber` — these are read back.

`Digits.Spells` grows a text at its end, as `Digits.ofNat` does; the grammar of numerals takes a text
apart from its front.  `Digits.Spells.digitText` goes from the one to the other.
-/

namespace Machine6502

open Numeral (Convention DigitText IsDigit MagnitudeText SignedText maxDecimalDigits)

namespace Digits

variable {radix : Radix} {c : Char} {value : Nat} {chars : List Char}

/-! ## Digits -/

/-- Digits of a radix, the most significant first and each in either case, and the number that they
write. -/
inductive Spells (radix : Radix) : List Char → Nat → Prop
  | single {c : Char} {value : Nat} (digit : IsHexDigit c value) (small : value < radix.base) :
      Spells radix [c] value
  | snoc {front : List Char} {number : Nat} {c : Char} {value : Nat} (more : Spells radix front number)
      (digit : IsHexDigit c value) (small : value < radix.base) :
      Spells radix (front ++ [c]) (number * radix.base + value)

/-- The digits that are written for a number spell it. -/
theorem spells_ofNat (radix : Radix) (value : Nat) : Spells radix (ofNat radix value) value := by
  have base := radix.base_le
  fun_induction ofNat radix value with
  | case1 value small => exact .single (isHexDigit_digit (by omega)) small
  | case2 value large ih =>
    have small := Nat.mod_lt value radix.base_pos
    have spells := Spells.snoc ih (isHexDigit_digit (by omega)) small
    rwa [Nat.div_add_mod'] at spells

namespace Spells

theorem isHexDigit (spells : Spells radix chars value) :
    ∀ c ∈ chars, ∃ value, IsHexDigit c value := by
  induction spells with
  | single digit small => exact List.forall_mem_singleton.mpr ⟨_, digit⟩
  | snoc more digit small ih =>
    exact List.forall_mem_append.mpr ⟨ih, List.forall_mem_singleton.mpr ⟨_, digit⟩⟩

theorem zero_cons (spells : Spells radix chars value) : Spells radix ('0' :: chars) value := by
  have zero : Spells radix ['0'] 0 := .single (by decide) radix.base_pos
  induction spells with
  | @single c value digit small =>
    have both := Spells.snoc zero digit small
    rwa [Nat.zero_mul, Nat.zero_add] at both
  | snoc more digit small ih => exact .snoc ih digit small

/-- Leading zeros count for nothing. -/
theorem zeros (spells : Spells radix chars value) (count : Nat) :
    Spells radix (List.replicate count '0' ++ chars) value := by
  induction count with
  | zero => exact spells
  | succ count ih => exact ih.zero_cons

end Spells

/-- A digit that is written is a digit to the reader of numerals. -/
theorem IsHexDigit.isDigit (is_digit : IsHexDigit c value) (small : value < radix.base) :
    IsDigit radix c value := by
  have known (radix : Radix) : value < radix.base → Numeral.digitValue? radix c = some value := by
    cases radix with
    | decimal => exact is_digit.elim (by decide)
    | hexadecimal => exact is_digit.elim (by decide)
  exact Numeral.digitValue?_eq_some_iff.mp (known radix small)

end Digits

namespace Numeral

variable {radix : Radix} {c : Char} {value : Nat} {text : List Char} {values : List Nat}

/-- A run of digits goes on with one more. -/
theorem DigitText.snoc (digits : DigitText radix text values) (digit : IsDigit radix c value) :
    DigitText radix (text ++ [c]) (values ++ [value]) := by
  induction digits with
  | single first => exact .next first (.single digit)
  | next first later ih => exact .next first ih
  | spaced first later ih => exact .spaced first ih

/-- A numeral needs no margins. -/
theorem SignedText.numeralText {convention : Convention} {number : Int}
    (signed : SignedText convention radix text number) :
    NumeralText convention radix text number := by
  have numeral : NumeralText convention radix ([] ++ text ++ []) number :=
    .surrounded (List.forall_mem_nil _) signed (List.forall_mem_nil _)
  rwa [List.nil_append, List.append_nil] at numeral

/-- A numeral needs neither margins nor a sign. -/
theorem MagnitudeText.numeralText {convention : Convention} {number : Nat}
    (magnitude : MagnitudeText convention radix text number) :
    NumeralText convention radix text number :=
  (SignedText.unsigned magnitude).numeralText

end Numeral

namespace Digits

variable {radix : Radix} {value : Nat} {chars : List Char}

/-- Digits that spell a number are a run of digits that writes it. -/
theorem Spells.digitText (spells : Spells radix chars value) :
    ∃ values, DigitText radix chars values ∧ values.length = chars.length ∧
      Nat.ofDigits radix.base values.reverse = value := by
  induction spells with
  | @single c value digit small =>
    exact ⟨[value], .single (digit.isDigit small), rfl, Nat.ofDigits_singleton⟩
  | @snoc front number c value more digit small ih =>
    obtain ⟨values, run, length, writes⟩ := ih
    refine ⟨values ++ [value], run.snoc (digit.isDigit small), ?_, ?_⟩
    · rw [List.length_append, List.length_append, length, List.length_singleton,
        List.length_singleton]
    · rw [List.reverse_concat, Nat.ofDigits_cons, writes, Nat.mul_comm, Nat.add_comm]

/-- A number below a power of the base has no more digits than the exponent. -/
theorem length_ofNat_le (radix : Radix) {value exponent : Nat} (positive : 0 < exponent)
    (small : value < radix.base ^ exponent) : (ofNat radix value).length ≤ exponent := by
  induction exponent, positive using Nat.le_induction generalizing value with
  | base =>
    have small : value < radix.base := by simpa using small
    rw [ofNat_of_lt small, List.length_singleton]
  | succ exponent positive ih =>
    by_cases single : value < radix.base
    · rw [ofNat_of_lt single, List.length_singleton]
      exact Nat.le_add_left 1 exponent
    · have later := ih (Nat.div_lt_of_lt_mul (by rwa [Nat.pow_succ, Nat.mul_comm] at small))
      rw [ofNat_of_le (Nat.not_lt.mp single), List.length_append, List.length_singleton]
      exact Nat.succ_le_succ later

/-- Without a sign, padding puts zeros before the digits. -/
theorem padded_natCast (radix : Radix) (width value : Nat) :
    padded radix width value = (ofNat radix value).leftpad width '0' := by
  rw [padded, if_neg (by omega), Int.natAbs_natCast]

theorem spells_leftpad (radix : Radix) (width value : Nat) :
    Spells radix ((ofNat radix value).leftpad width '0') value := by
  rw [List.leftpad]
  exact (spells_ofNat radix value).zeros _

theorem spells_padded (radix : Radix) (width value : Nat) :
    Spells radix (padded radix width value) value := by
  rw [padded_natCast]
  exact spells_leftpad radix width value

/-- Hexadecimal digits are a magnitude: their number is not limited. -/
theorem Spells.magnitudeText {convention : Convention} (spells : Spells .hexadecimal chars value) :
    MagnitudeText convention .hexadecimal chars value := by
  obtain ⟨values, run, -, rfl⟩ := spells.digitText
  exact .hexadecimal run

/-- **A number is read back from its hexadecimal text**, whatever its size and sign, and whether the
zeros and the sign fill the width or the number outgrows it. -/
theorem read?_padded (width : Nat) (value : Int) :
    Numeral.read? .hexadecimal (padded .hexadecimal width value) = some value := by
  rw [Numeral.read?_eq_some_iff]
  by_cases negative : value < 0
  · have signed : SignedText .scripted .hexadecimal
        ('-' :: (ofNat .hexadecimal value.natAbs).leftpad (width - 1) '0')
        (-(value.natAbs : Int)) :=
      .minus (spells_leftpad .hexadecimal (width - 1) value.natAbs).magnitudeText
    have number : -(value.natAbs : Int) = value := by omega
    rw [padded, if_pos negative]
    rw [number] at signed
    exact signed.numeralText
  · obtain ⟨magnitude, rfl⟩ := Int.eq_ofNat_of_zero_le (Int.not_lt.mp negative)
    exact (spells_padded .hexadecimal width magnitude).magnitudeText.numeralText

end Digits

theorem isHexDigit_hexText (width value : Nat) :
    ∀ c ∈ (hexText width value).toList, ∃ value, Digits.IsHexDigit c value := by
  rw [hexText, String.toList_ofList]
  exact (Digits.spells_padded .hexadecimal width value).isHexDigit

/-- The width is a lower bound of the number of digits. -/
theorem length_hexText (width value : Nat) :
    (hexText width value).length = max width (Digits.ofNat .hexadecimal value).length := by
  rw [hexText, String.length_ofList, Digits.padded_natCast, List.length_leftpad]

/-! ## Marks -/

/-- The ways to write a number without blanks and signs. -/
inductive NumberStyle where
  | decimal
  /-- Hexadecimal, with a dollar sign before it. -/
  | dollar
  /-- Hexadecimal, with a radix mark before it. -/
  | marked
  deriving DecidableEq, Repr

namespace NumberStyle

def radix : NumberStyle → Radix
  | .decimal => .decimal
  | .dollar | .marked => .hexadecimal

/-- What stands before the digits. -/
def mark : NumberStyle → List Char
  | .decimal => []
  | .dollar => ['$']
  | .marked => ['0', 'x']

/-- The shortest text of a number, with upper-case letters. -/
def text (style : NumberStyle) (value : Nat) : String :=
  String.ofList (style.mark ++ Digits.ofNat style.radix value)

/-- The text writes the number in this style.  Zeros may precede the digits, unless this makes a
decimal numeral too long. -/
structure Writes (style : NumberStyle) (text : String) (value : Nat) : Prop where
  spelled : ∃ digits, text.toList = style.mark ++ digits ∧ Digits.Spells style.radix digits value
  short : style = .decimal → text.length ≤ maxDecimalDigits

variable {style : NumberStyle} {text : String} {value : Nat} {limit : Int}

/-- A run of decimal digits begins with none of the marks. -/
theorem numberText_decimal {digits : List Char} {values : List Nat}
    (run : DigitText .decimal digits values) (short : values.length ≤ maxDecimalDigits) :
    NumberText .scripted digits (Nat.ofDigits 10 values.reverse : Nat) := by
  refine .decimal (MagnitudeText.decimal run short).numeralText ?_ ?_
  · rintro rest rfl
    obtain ⟨c, tail, value, same, digit⟩ := run.head
    exact digit.ne (by decide) (List.cons.inj same).1.symm
  · rintro mark letter rest rfl
    exact run.not_marked letter

/-- **What is written is read back.** -/
theorem Writes.numberOf? (writes : style.Writes text value) :
    numberOf? text.toList = some (value : Int) := by
  obtain ⟨⟨digits, whole, spells⟩, short⟩ := writes
  obtain ⟨values, run, length, rfl⟩ := spells.digitText
  rw [numberOf?_eq_some_iff, whole]
  cases style with
  | decimal =>
    refine numberText_decimal run ?_
    rw [length]
    have short := short rfl
    rwa [← String.length_toList, whole] at short
  | dollar => exact .dollar (MagnitudeText.hexadecimal run).numeralText
  | marked =>
    have number : NumberText .scripted ('0' :: 'x' :: (digits ++ [])) _ :=
      .marked (by decide) (.direct run) (List.forall_mem_nil _)
    rwa [List.append_nil] at number

theorem Writes.readNumber (writes : style.Writes text value) (within : (value : Int) ≤ limit) :
    readNumber text limit = .ok value :=
  readNumber_eq_ok_iff.mpr ⟨within, writes.numberOf?⟩

/-- The shortest text of a number writes it, unless the number has too many digits. -/
theorem writes_text (style : NumberStyle) {exponent : Nat} (positive : 0 < exponent)
    (small : value < 10 ^ exponent) (short : exponent ≤ maxDecimalDigits) :
    style.Writes (style.text value) value where
  spelled := ⟨_, String.toList_ofList, Digits.spells_ofNat style.radix value⟩
  short := by
    rintro rfl
    rw [NumberStyle.text, String.length_ofList]
    exact (Digits.length_ofNat_le .decimal positive small).trans short

/-- A character that is no digit and part of no mark is not in the text. -/
theorem Writes.notMem (writes : style.Writes text value) {c : Char} (unmarked : c ∉ style.mark)
    (other : ∀ value, ¬ Digits.IsHexDigit c value) : c ∉ text.toList := by
  obtain ⟨digits, whole, spells⟩ := writes.spelled
  rw [whole, List.mem_append, not_or]
  refine ⟨unmarked, fun member => ?_⟩
  obtain ⟨value, digit⟩ := spells.isHexDigit c member
  exact other value digit

end NumberStyle

end Machine6502
