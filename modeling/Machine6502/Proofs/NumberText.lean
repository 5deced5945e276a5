import Machine6502.Argument
import Mathlib.Data.List.DropRight
import Mathlib.Data.Nat.Digits.Defs

/-!
# The language of numbers

`readNumber` takes a text apart from the outside in: a prefix decides about the radix, the margins are
cut off, then a sign, then a radix mark, and what is left has to be digits.  This module describes the
texts of numbers from the inside out, as a grammar without any reading, and proves that the reader
accepts this language, each text with the value that the grammar gives it.

* `Numeral.IsDigit` — a character and its value as a digit.
* `Numeral.DigitText`, `Numeral.MarkedText` — a run of digits, and what may follow a radix mark.
* `Numeral.MagnitudeText`, `Numeral.SignedText`, `Numeral.NumeralText` — what may follow a sign, what
  the margins surround, and a whole numeral.
* `NumberText` — the three ways to write a number.
* `numberOf?_eq_some_iff`, `readNumber_iff` — the reader accepts exactly that.

The readers of the layers answer each to one kind of text, so the proof goes layer by layer.  It rests
on one fact about characters: no digit of any script is a blank or one of the characters that a
numeral holds beside its digits (`Numeral.IsDigit.inner`), so the first character of a text decides
which of the cases of a reader applies.

### Two conventions

The grammar leaves two things open, and a `Convention` settles them: which blanks may surround a
numeral, and which zeros a radix mark may begin with.  Under the plain convention these are all blanks
and the one zero of ASCII.  The reader keeps to another one, which is stricter about blanks and laxer
about zeros (`readNumber_not_plain`).
-/

namespace Machine6502

namespace Numeral

/-! ## Digits -/

/-- The code points of the letters that stand for ten, `a` and `A`. -/
def letterTens : List Nat := [0x61, 0x41]

/-- A character and the value it has as a digit: the digits of a script follow its first one, and in
hexadecimal numerals six letters of ASCII, of either case, follow the digits. -/
inductive IsDigit : Radix → Char → Nat → Prop
  | decimal {radix : Radix} {c : Char} {first value : Nat} (script : first ∈ Text.decimalZeros)
      (small : value < 10) (code : c.toNat = first + value) : IsDigit radix c value
  | letter {c : Char} {ten place : Nat} (kind : ten ∈ letterTens) (small : place < 6)
      (code : c.toNat = ten + place) : IsDigit .hexadecimal c (place + 10)

variable {radix : Radix} {c : Char} {value : Nat}

/-- The digits of two scripts do not overlap. -/
theorem decimalZeros_apart : ∀ first ∈ Text.decimalZeros, ∀ other ∈ Text.decimalZeros,
    first = other ∨ first + 10 ≤ other ∨ other + 10 ≤ first := by
  decide +kernel

theorem decimalValue?_eq_some_iff :
    Text.decimalValue? c = some value ↔
      ∃ first ∈ Text.decimalZeros, value < 10 ∧ c.toNat = first + value := by
  rw [Text.decimalValue?, Option.map_eq_some_iff]
  constructor
  · rintro ⟨first, found, rfl⟩
    have within := List.find?_some found
    simp only [Bool.and_eq_true, decide_eq_true_eq] at within
    exact ⟨first, List.mem_of_find?_eq_some found, by omega, by omega⟩
  · rintro ⟨first, member, small, code⟩
    -- The script that the search finds is the only one with this character.
    cases found : Text.decimalZeros.find? fun first => first ≤ c.toNat && c.toNat < first + 10 with
    | none =>
      have outside := List.find?_eq_none.mp found first member
      simp only [Bool.and_eq_true, decide_eq_true_eq] at outside
      omega
    | some other =>
      have within := List.find?_some found
      simp only [Bool.and_eq_true, decide_eq_true_eq] at within
      have apart := decimalZeros_apart other (List.mem_of_find?_eq_some found) first member
      exact ⟨other, rfl, by omega⟩

theorem letterValue?_eq_some_iff :
    letterValue? c = some value ↔
      ∃ ten ∈ letterTens, ∃ place < 6, c.toNat = ten + place ∧ value = place + 10 := by
  have between : ∀ first last : Char, first ≤ c ∧ c ≤ last ↔
      first.toNat ≤ c.toNat ∧ c.toNat ≤ last.toNat := fun _ _ => Iff.rfl
  have lower : 'a'.toNat = 97 ∧ 'f'.toNat = 102 := ⟨rfl, rfl⟩
  have upper : 'A'.toNat = 65 ∧ 'F'.toNat = 70 := ⟨rfl, rfl⟩
  simp only [letterValue?, between, letterTens, List.mem_cons, List.not_mem_nil, or_false,
    exists_eq_or_imp, exists_eq_left]
  constructor
  · intro found
    split at found
    · cases found
      exact .inl ⟨c.toNat - 'a'.toNat, by omega, by omega, rfl⟩
    · split at found
      · cases found
        exact .inr ⟨c.toNat - 'A'.toNat, by omega, by omega, rfl⟩
      · cases found
  · rintro (⟨place, small, code, rfl⟩ | ⟨place, small, code, rfl⟩)
    · rw [if_pos (by omega), code, lower.1, Nat.add_sub_cancel_left]
    · rw [if_neg (by omega), if_pos (by omega), code, upper.1, Nat.add_sub_cancel_left]

/-- The characters that a numeral holds beside digits, and the one that may stand before it. -/
def punctuation : List Char := ['+', '-', '_', 'x', 'X', '$']

theorem isBlank_punctuation {mark : Char} (member : mark ∈ punctuation) :
    Text.isBlank mark = false := by
  have inner : ∀ code ∈ punctuation.map Char.toNat, Text.inRanges Text.blankRanges code = false := by
    decide
  exact inner _ (List.mem_map_of_mem member)

/-- A code point that is no blank and no punctuation. -/
def Inner (code : Nat) : Prop :=
  Text.inRanges Text.blankRanges code = false ∧ code ∉ punctuation.map Char.toNat

instance (code : Nat) : Decidable (Inner code) := inferInstanceAs (Decidable (_ ∧ _))

theorem inner_decimal : ∀ first ∈ Text.decimalZeros, ∀ value < 10, Inner (first + value) := by
  decide +kernel

theorem inner_letter : ∀ ten ∈ letterTens, ∀ place < 6, Inner (ten + place) := by
  decide

/-- No letter is a digit of any script. -/
theorem letter_apart : ∀ ten ∈ letterTens, ∀ place < 6, ∀ first ∈ Text.decimalZeros,
    ten + place < first ∨ first + 10 ≤ ten + place := by
  decide +kernel

namespace IsDigit

theorem inner (digit : IsDigit radix c value) : Inner c.toNat := by
  cases digit with
  | decimal script small code => rw [code]; exact inner_decimal _ script _ small
  | letter kind small code => rw [code]; exact inner_letter _ kind _ small

theorem isBlank (digit : IsDigit radix c value) : Text.isBlank c = false := digit.inner.1

theorem ne (digit : IsDigit radix c value) {mark : Char} (member : mark ∈ punctuation) :
    c ≠ mark := by
  rintro rfl
  exact digit.inner.2 (List.mem_map_of_mem member)

end IsDigit

/-- The reader of digits knows the digits, with their values. -/
theorem digitValue?_eq_some_iff : digitValue? radix c = some value ↔ IsDigit radix c value := by
  cases radix with
  | decimal =>
    rw [digitValue?, decimalValue?_eq_some_iff]
    constructor
    · rintro ⟨first, script, small, code⟩
      exact .decimal script small code
    · rintro ⟨script, small, code⟩
      exact ⟨_, script, small, code⟩
  | hexadecimal =>
    rw [digitValue?, Option.or_eq_some_iff, decimalValue?_eq_some_iff, letterValue?_eq_some_iff,
      Option.eq_none_iff_forall_ne_some]
    constructor
    · rintro (⟨first, script, small, code⟩ | ⟨-, ten, kind, place, small, code, rfl⟩)
      · exact .decimal script small code
      · exact .letter kind small code
    · intro digit
      cases digit with
      | decimal script small code => exact .inl ⟨_, script, small, code⟩
      | letter kind small code =>
        refine .inr ⟨fun other found => ?_, _, kind, _, small, code, rfl⟩
        obtain ⟨first, script, below, code'⟩ := decimalValue?_eq_some_iff.mp found
        have apart := letter_apart _ kind _ small first script
        omega

/-! ## Runs of digits -/

/-- Digits with their values, the most significant first.  A single underscore may stand between two
of them. -/
inductive DigitText (radix : Radix) : List Char → List Nat → Prop
  | single {c : Char} {value : Nat} (digit : IsDigit radix c value) : DigitText radix [c] [value]
  | next {c : Char} {value : Nat} {rest : List Char} {values : List Nat}
      (digit : IsDigit radix c value) (later : DigitText radix rest values) :
      DigitText radix (c :: rest) (value :: values)
  | spaced {c : Char} {value : Nat} {rest : List Char} {values : List Nat}
      (digit : IsDigit radix c value) (later : DigitText radix rest values) :
      DigitText radix (c :: '_' :: rest) (value :: values)

variable {text rest : List Char} {values : List Nat}

namespace DigitText

/-- There is a first digit. -/
theorem head (digits : DigitText radix text values) :
    ∃ c rest value, text = c :: rest ∧ IsDigit radix c value := by
  cases digits with
  | single digit | next digit | spaced digit => exact ⟨_, _, _, rfl, digit⟩

theorem isBlank (digits : DigitText radix text values) : ∀ c ∈ text, Text.isBlank c = false := by
  induction digits with
  | single digit => simp [digit.isBlank]
  | next digit later ih => simpa [digit.isBlank] using ih
  | spaced digit later ih =>
    have underscore : Text.isBlank '_' = false := isBlank_punctuation (by decide)
    simpa [digit.isBlank, underscore] using ih

end DigitText

theorem digits?_cons (digit : IsDigit radix c value) (nonempty : rest ≠ [])
    (unspaced : ∀ tail, rest ≠ '_' :: tail) :
    digits? radix (c :: rest) = (digits? radix rest).map (value :: ·) := by
  rw [digits?, digitValue?_eq_some_iff.mpr digit]
  · cases digits? radix rest <;> rfl
  · exact nonempty
  · exact unspaced

theorem digits?_spaced (digit : IsDigit radix c value) :
    digits? radix (c :: '_' :: rest) = (digits? radix rest).map (value :: ·) := by
  rw [digits?, digitValue?_eq_some_iff.mpr digit]
  cases digits? radix rest <;> rfl

/-- The reader of runs knows the runs, with their values. -/
theorem digits?_eq_some_iff : digits? radix text = some values ↔ DigitText radix text values := by
  constructor
  · intro found
    -- The cases of the reader are the constructors of a run.
    fun_induction digits? radix text generalizing values with
    | case1 => cases found
    | case2 c =>
      obtain ⟨value, digit, rfl⟩ := Option.map_eq_some_iff.mp found
      exact .single (digitValue?_eq_some_iff.mp digit)
    | case3 c rest ih =>
      obtain ⟨value, digit, later⟩ := Option.bind_eq_some_iff.mp found
      obtain ⟨values, read, same⟩ := Option.bind_eq_some_iff.mp later
      cases same
      exact .spaced (digitValue?_eq_some_iff.mp digit) (ih read)
    | case4 c rest nonempty unspaced ih =>
      obtain ⟨value, digit, later⟩ := Option.bind_eq_some_iff.mp found
      obtain ⟨values, read, same⟩ := Option.bind_eq_some_iff.mp later
      cases same
      exact .next (digitValue?_eq_some_iff.mp digit) (ih read)
  · intro digits
    induction digits with
    | single digit => rw [digits?, digitValue?_eq_some_iff.mpr digit, Option.map_some]
    | next digit later ih =>
      obtain ⟨c, rest, value, rfl, first⟩ := later.head
      rw [digits?_cons digit (List.cons_ne_nil _ _) ?_, ih, Option.map_some]
      intro tail same
      exact first.ne (by decide) (List.cons.inj same).1
    | spaced digit later ih => rw [digits?_spaced digit, ih, Option.map_some]

/-- The reader's running total is the number that the digits write. -/
theorem valueOf_eq_ofDigits : valueOf radix values = Nat.ofDigits radix.base values.reverse := by
  rw [valueOf, Nat.ofDigits_eq_foldr, List.foldr_reverse]
  congr 1
  funext total digit
  simp only [Nat.cast_id]
  rw [Nat.mul_comm, Nat.add_comm]

/-! ## Numerals -/

/-- What the grammar of numerals leaves open: the blanks that may surround a numeral and the zeros
that a radix mark may begin with. -/
structure Convention where
  margin : Char → Bool
  zero : Char → Bool
  isBlank_of_margin : ∀ c, margin c = true → Text.isBlank c = true
  decimalValue?_of_zero : ∀ c, zero c = true → Text.decimalValue? c = some 0

namespace Convention

/-- Every blank is a margin, and only the zero of ASCII begins a radix mark. -/
def plain : Convention where
  margin := Text.isBlank
  zero c := c == '0'
  isBlank_of_margin _ blank := blank
  decimalValue?_of_zero c zero := by
    rw [eq_of_beq zero]
    rfl

/-- The reader's convention: the four separators `U+001C` to `U+001F` are no margins, and the zero of
any script begins a radix mark. -/
def scripted : Convention where
  margin := Text.isMargin
  zero c := Text.decimalValue? c == some 0
  isBlank_of_margin _ := Text.isBlank_of_isMargin
  decimalValue?_of_zero _ zero := eq_of_beq zero

end Convention

/-- The letters of a radix mark. -/
def radixMarks : List Char := ['x', 'X']

/-- What may follow a radix mark: digits, and an underscore before them or none. -/
inductive MarkedText : List Char → List Nat → Prop
  | direct {text : List Char} {values : List Nat} (digits : DigitText .hexadecimal text values) :
      MarkedText text values
  | spaced {text : List Char} {values : List Nat} (digits : DigitText .hexadecimal text values) :
      MarkedText ('_' :: text) values

/-- What may follow a sign, with the number it writes. -/
inductive MagnitudeText (convention : Convention) : Radix → List Char → Nat → Prop
  | decimal {text : List Char} {values : List Nat} (digits : DigitText .decimal text values)
      (short : values.length ≤ maxDecimalDigits) :
      MagnitudeText convention .decimal text (Nat.ofDigits 10 values.reverse)
  | hexadecimal {text : List Char} {values : List Nat}
      (digits : DigitText .hexadecimal text values) :
      MagnitudeText convention .hexadecimal text (Nat.ofDigits 16 values.reverse)
  | marked {c mark : Char} {text : List Char} {values : List Nat}
      (zero : convention.zero c = true) (letter : mark ∈ radixMarks)
      (digits : MarkedText text values) :
      MagnitudeText convention .hexadecimal (c :: mark :: text) (Nat.ofDigits 16 values.reverse)

/-- What the margins of a numeral surround, with the number it writes. -/
inductive SignedText (convention : Convention) (radix : Radix) : List Char → Int → Prop
  | unsigned {text : List Char} {value : Nat} (magnitude : MagnitudeText convention radix text value) :
      SignedText convention radix text value
  | plus {text : List Char} {value : Nat} (magnitude : MagnitudeText convention radix text value) :
      SignedText convention radix ('+' :: text) value
  | minus {text : List Char} {value : Nat} (magnitude : MagnitudeText convention radix text value) :
      SignedText convention radix ('-' :: text) (-(value : Int))

/-- A numeral with its margins, and the number it writes. -/
inductive NumeralText (convention : Convention) (radix : Radix) : List Char → Int → Prop
  | surrounded {before text after : List Char} {value : Int}
      (left : ∀ c ∈ before, convention.margin c = true)
      (signed : SignedText convention radix text value)
      (right : ∀ c ∈ after, convention.margin c = true) :
      NumeralText convention radix (before ++ text ++ after) value

variable {convention : Convention} {mark : Char} {after : List Char} {number : Int}

/-! ## Beginnings and blanks -/

theorem Convention.isDigit_of_zero (zero : convention.zero c = true) : IsDigit .hexadecimal c 0 := by
  refine digitValue?_eq_some_iff.mp ?_
  rw [digitValue?, convention.decimalValue?_of_zero c zero, Option.some_or]

theorem Convention.margin_ne (convention : Convention) (inner : Text.isBlank c = false) :
    convention.margin c ≠ true :=
  fun margin => Bool.noConfusion (inner.symm.trans (convention.isBlank_of_margin c margin))

theorem mem_radixMarks : mark ∈ radixMarks ↔ mark = 'x' ∨ mark = 'X' := by
  simp only [radixMarks, List.mem_cons, List.not_mem_nil, or_false]

theorem mem_punctuation_of_radixMark (letter : mark ∈ radixMarks) : mark ∈ punctuation := by
  rcases mem_radixMarks.mp letter with rfl | rfl <;> decide

/-- A run of digits has no letter of a radix mark in the second place. -/
theorem DigitText.not_marked (letter : mark ∈ radixMarks) :
    ¬ DigitText radix (c :: mark :: rest) values := by
  intro digits
  cases digits with
  | next digit later =>
    obtain ⟨_, _, _, same, first⟩ := later.head
    cases same
    exact first.ne (mem_punctuation_of_radixMark letter) rfl
  | spaced => exact absurd letter (by decide)

theorem MarkedText.isBlank (digits : MarkedText text values) :
    ∀ c ∈ text, Text.isBlank c = false := by
  cases digits with
  | direct digits => exact digits.isBlank
  | spaced digits =>
    exact List.forall_mem_cons.mpr ⟨isBlank_punctuation (by decide), digits.isBlank⟩

namespace MagnitudeText

/-- A magnitude begins with a digit. -/
theorem head (magnitude : MagnitudeText convention radix text value) :
    ∃ c rest first, text = c :: rest ∧ IsDigit radix c first := by
  cases magnitude with
  | decimal digits | hexadecimal digits => exact digits.head
  | marked zero => exact ⟨_, _, _, rfl, Convention.isDigit_of_zero zero⟩

theorem isBlank (magnitude : MagnitudeText convention radix text value) :
    ∀ c ∈ text, Text.isBlank c = false := by
  cases magnitude with
  | decimal digits | hexadecimal digits => exact digits.isBlank
  | marked zero letter digits =>
    have unmarked := isBlank_punctuation (mem_punctuation_of_radixMark letter)
    exact List.forall_mem_cons.mpr ⟨(Convention.isDigit_of_zero zero).isBlank,
      List.forall_mem_cons.mpr ⟨unmarked, digits.isBlank⟩⟩

end MagnitudeText

namespace SignedText

theorem ne_nil (signed : SignedText convention radix text number) : text ≠ [] := by
  cases signed with
  | unsigned magnitude =>
    obtain ⟨_, _, _, rfl, -⟩ := magnitude.head
    exact List.cons_ne_nil _ _
  | plus | minus => exact List.cons_ne_nil _ _

theorem isBlank (signed : SignedText convention radix text number) :
    ∀ c ∈ text, Text.isBlank c = false := by
  cases signed with
  | unsigned magnitude => exact magnitude.isBlank
  | plus magnitude =>
    exact List.forall_mem_cons.mpr ⟨isBlank_punctuation (by decide), magnitude.isBlank⟩
  | minus magnitude =>
    exact List.forall_mem_cons.mpr ⟨isBlank_punctuation (by decide), magnitude.isBlank⟩

end SignedText

namespace NumeralText

/-- A numeral that begins with a digit has neither a margin before it nor a sign. -/
theorem of_digit (digit : IsDigit .hexadecimal c value)
    (numeral : NumeralText convention radix (c :: rest) number) :
    ∃ text after, ∃ magnitude : Nat, c :: rest = text ++ after ∧ number = magnitude ∧
      MagnitudeText convention radix text magnitude ∧ ∀ c ∈ after, convention.margin c = true := by
  generalize whole : c :: rest = text at numeral
  obtain @⟨before, text, after, number, left, signed, right⟩ := numeral
  cases before with
  | cons first before =>
    cases (List.cons.inj whole).1
    exact absurd (left c List.mem_cons_self) (convention.margin_ne digit.isBlank)
  | nil =>
    cases signed with
    | unsigned magnitude => exact ⟨_, _, _, rfl, rfl, magnitude, right⟩
    | plus | minus => exact absurd (List.cons.inj whole).1 (digit.ne (by decide))

/-- A numeral that begins with a digit and the letter of a radix mark: it is hexadecimal, the digit is
a zero, and margins follow the digits after the mark. -/
theorem of_mark (digit : IsDigit .hexadecimal c value) (letter : mark ∈ radixMarks)
    (numeral : NumeralText convention radix (c :: mark :: rest) number) :
    convention.zero c = true ∧ ∃ text values after, rest = text ++ after ∧
      number = (Nat.ofDigits 16 values.reverse : Nat) ∧ MarkedText text values ∧
      ∀ c ∈ after, convention.margin c = true := by
  obtain ⟨text, after, magnitude, whole, value_eq, writes, right⟩ := of_digit digit numeral
  have inner := isBlank_punctuation (mem_punctuation_of_radixMark letter)
  -- The letter is no blank, so the magnitude reaches at least that far.
  obtain ⟨text, rfl, rfl⟩ : ∃ tail, text = c :: mark :: tail ∧ rest = tail ++ after := by
    obtain ⟨first, tail, -, rfl, -⟩ := writes.head
    rw [List.cons_append] at whole
    injection whole with same whole
    cases tail with
    | nil =>
      rw [List.nil_append] at whole
      subst whole
      exact absurd (right mark List.mem_cons_self) (convention.margin_ne inner)
    | cons second tail =>
      rw [List.cons_append] at whole
      injection whole with same' whole
      exact ⟨tail, by rw [same, same'], whole⟩
  cases writes with
  | decimal digits | hexadecimal digits => exact absurd digits (DigitText.not_marked letter)
  | marked zero _ digits => exact ⟨zero, text, _, after, rfl, value_eq, digits, right⟩

end NumeralText

/-! ## The reader of numerals -/

/-- The text begins with a radix mark, and `rest` follows it. -/
def MarkedWith (text rest : List Char) : Prop :=
  ∃ c mark, text = c :: mark :: rest ∧ Text.decimalValue? c = some 0 ∧ mark ∈ radixMarks

theorem dropMark_of_unmarked (unmarked : ∀ rest, ¬ MarkedWith text rest) : dropMark text = text := by
  fun_cases dropMark text with
  | case1 c mark marked rest | case2 c mark marked rest =>
    exact absurd ⟨c, mark, rfl, marked.1, mem_radixMarks.mpr marked.2⟩ (unmarked _)
  | case3 => rfl
  | case4 => rfl

theorem DigitText.not_markedWith (digits : DigitText radix text values) :
    ¬ MarkedWith text rest := by
  rintro ⟨c, mark, rfl, -, letter⟩
  exact not_marked letter digits

theorem markedText_spaced_iff :
    MarkedText ('_' :: rest) values ↔ DigitText .hexadecimal rest values := by
  constructor
  · rintro (digits | digits)
    · obtain ⟨_, _, _, same, first⟩ := digits.head
      cases same
      exact absurd rfl (first.ne (by decide))
    · exact digits
  · exact .spaced

theorem markedText_direct_iff (unspaced : ∀ tail, rest ≠ '_' :: tail) :
    MarkedText rest values ↔ DigitText .hexadecimal rest values := by
  constructor
  · rintro (digits | digits)
    · exact digits
    · exact absurd rfl (unspaced _)
  · exact .direct

/-- Behind a radix mark, one underscore at most is skipped. -/
theorem digits?_dropMark_marked (marked : MarkedWith text rest) :
    digits? .hexadecimal (dropMark text) = some values ↔ MarkedText rest values := by
  obtain ⟨c, mark, rfl, zero, letter⟩ := marked
  have found := And.intro zero (mem_radixMarks.mp letter)
  by_cases spaced : ∃ tail, rest = '_' :: tail
  · obtain ⟨tail, rfl⟩ := spaced
    rw [dropMark, if_pos found, digits?_eq_some_iff, markedText_spaced_iff]
  · rw [not_exists] at spaced
    rw [dropMark, if_pos found, digits?_eq_some_iff, markedText_direct_iff spaced]
    exact spaced

theorem digits?_dropMark :
    digits? .hexadecimal (dropMark text) = some values ↔
      DigitText .hexadecimal text values ∨ ∃ rest, MarkedWith text rest ∧ MarkedText rest values := by
  by_cases marked : ∃ rest, MarkedWith text rest
  · obtain ⟨rest, marked⟩ := marked
    rw [digits?_dropMark_marked marked]
    constructor
    · exact fun digits => .inr ⟨rest, marked, digits⟩
    · rintro (digits | ⟨other, marked', digits⟩)
      · exact absurd marked digits.not_markedWith
      · exact (digits?_dropMark_marked marked).mp ((digits?_dropMark_marked marked').mpr digits)
  · rw [not_exists] at marked
    rw [dropMark_of_unmarked marked, digits?_eq_some_iff]
    constructor
    · exact .inl
    · rintro (digits | ⟨rest, marked', -⟩)
      · exact digits
      · exact absurd marked' (marked rest)

/-- The reader of magnitudes knows the magnitudes. -/
theorem magnitude?_eq_some_iff :
    magnitude? radix text = some value ↔ MagnitudeText .scripted radix text value := by
  cases radix with
  | decimal =>
    rw [magnitude?, Option.bind_eq_bind, Option.bind_eq_some_iff]
    constructor
    · rintro ⟨values, read, within⟩
      obtain ⟨short, same⟩ := Option.ite_none_right_eq_some.mp within
      cases same
      rw [valueOf_eq_ofDigits]
      exact .decimal (digits?_eq_some_iff.mp read) short
    · rintro ⟨digits, short⟩
      exact ⟨_, digits?_eq_some_iff.mpr digits, by rw [if_pos short, valueOf_eq_ofDigits]; rfl⟩
  | hexadecimal =>
    rw [magnitude?, Option.map_eq_some_iff]
    constructor
    · rintro ⟨values, read, rfl⟩
      rw [valueOf_eq_ofDigits]
      obtain digits | ⟨rest, ⟨c, mark, rfl, zero, letter⟩, digits⟩ := digits?_dropMark.mp read
      · exact .hexadecimal digits
      · exact .marked (beq_iff_eq.mpr zero) letter digits
    · intro magnitude
      cases magnitude with
      | hexadecimal digits => exact ⟨_, digits?_dropMark.mpr (.inl digits), valueOf_eq_ofDigits⟩
      | marked zero letter digits =>
        have read := digits?_dropMark.mpr (.inr ⟨_, ⟨_, _, rfl, eq_of_beq zero, letter⟩, digits⟩)
        exact ⟨_, read, valueOf_eq_ofDigits⟩

theorem signed?_plus : signed? radix ('+' :: rest) = (magnitude? radix rest).map Int.ofNat := by
  rw [signed?]

theorem signed?_minus :
    signed? radix ('-' :: rest) = (magnitude? radix rest).map fun value : Nat => -(value : Int) := by
  rw [signed?]
  cases magnitude? radix rest <;> rfl

theorem signed?_unsigned (plus : ∀ rest, text ≠ '+' :: rest) (minus : ∀ rest, text ≠ '-' :: rest) :
    signed? radix text = (magnitude? radix text).map Int.ofNat := by
  rw [signed?]
  · exact plus
  · exact minus

/-- The reader of signed texts knows the signed texts. -/
theorem signed?_eq_some_iff :
    signed? radix text = some number ↔ SignedText .scripted radix text number := by
  constructor
  · intro found
    fun_cases signed? radix text with
    | case1 rest =>
      rw [signed?_plus] at found
      obtain ⟨value, read, rfl⟩ := Option.map_eq_some_iff.mp found
      exact .plus (magnitude?_eq_some_iff.mp read)
    | case2 rest =>
      rw [signed?_minus] at found
      obtain ⟨value, read, rfl⟩ := Option.map_eq_some_iff.mp found
      exact .minus (magnitude?_eq_some_iff.mp read)
    | case3 _ plus minus =>
      rw [signed?_unsigned plus minus] at found
      obtain ⟨value, read, rfl⟩ := Option.map_eq_some_iff.mp found
      exact .unsigned (magnitude?_eq_some_iff.mp read)
  · intro signed
    cases signed with
    | plus magnitude => rw [signed?_plus, magnitude?_eq_some_iff.mpr magnitude]; rfl
    | minus magnitude => rw [signed?_minus, magnitude?_eq_some_iff.mpr magnitude]; rfl
    | unsigned magnitude =>
      obtain ⟨c, rest, first, rfl, digit⟩ := magnitude.head
      have unlike : ∀ sign ∈ punctuation, ∀ tail, c :: rest ≠ sign :: tail :=
        fun sign member tail same => digit.ne member (List.cons.inj same).1
      rw [signed?_unsigned (unlike '+' (by decide)) (unlike '-' (by decide)),
        magnitude?_eq_some_iff.mpr magnitude]
      rfl

/-- What is trimmed off is margins. -/
theorem exists_trimMargins (text : List Char) :
    ∃ before after, text = before ++ Text.trimMargins text ++ after ∧
      (∀ c ∈ before, Text.isMargin c = true) ∧ ∀ c ∈ after, Text.isMargin c = true := by
  have trimmed : Text.trimMargins text = (text.dropWhile Text.isMargin).rdropWhile Text.isMargin :=
    rfl
  refine ⟨text.takeWhile Text.isMargin, (text.dropWhile Text.isMargin).rtakeWhile Text.isMargin, ?_,
    fun _ => List.mem_takeWhile_imp, fun _ => List.mem_rtakeWhile_imp⟩
  rw [trimmed, List.append_assoc, List.rdropWhile_append_rtakeWhile, List.takeWhile_append_dropWhile]

/-- Margins around a text without margins are trimmed off. -/
theorem trimMargins_surrounded {before : List Char}
    (left : ∀ c ∈ before, Text.isMargin c = true) (nonempty : text ≠ [])
    (inner : ∀ c ∈ text, Text.isMargin c ≠ true) (right : ∀ c ∈ after, Text.isMargin c = true) :
    Text.trimMargins (before ++ text ++ after) = text := by
  have head : (text ++ after).dropWhile Text.isMargin = text ++ after := by
    obtain ⟨c, rest, rfl⟩ := List.exists_cons_of_ne_nil nonempty
    exact List.dropWhile_cons_of_neg (inner c List.mem_cons_self)
  have right : ∀ c ∈ after.reverse, Text.isMargin c = true :=
    fun c member => right c (List.mem_reverse.mp member)
  have last : text.rdropWhile Text.isMargin = text :=
    List.rdropWhile_eq_self_iff.mpr fun _ => inner _ (List.getLast_mem _)
  rw [Text.trimMargins, List.append_assoc, List.dropWhile_append_of_pos left, head,
    List.reverse_append, List.dropWhile_append_of_pos right]
  exact last

/-- The reader of numerals knows the numerals. -/
theorem read?_eq_some_iff :
    read? radix text = some number ↔ NumeralText .scripted radix text number := by
  rw [read?, signed?_eq_some_iff]
  constructor
  · intro signed
    obtain ⟨before, after, whole, left, right⟩ := exists_trimMargins text
    rw [whole]
    exact .surrounded left signed right
  · rintro ⟨left, signed, right⟩
    have inner := fun c member =>
      Convention.scripted.margin_ne (signed.isBlank c member)
    rw [trimMargins_surrounded left signed.ne_nil inner right]
    exact signed

end Numeral

open Numeral

/-! ## Numbers -/

/-- The three ways to write a number, with the number each writes.  How the text begins decides which
of them it is, so a decimal numeral may not begin like one of the others. -/
inductive NumberText (convention : Convention) : List Char → Int → Prop
  | marked {mark : Char} {text after : List Char} {values : List Nat} (letter : mark ∈ radixMarks)
      (digits : MarkedText text values) (right : ∀ c ∈ after, convention.margin c = true) :
      NumberText convention ('0' :: mark :: (text ++ after))
        (Nat.ofDigits 16 values.reverse : Nat)
  | dollar {text : List Char} {value : Int}
      (numeral : NumeralText convention .hexadecimal text value) :
      NumberText convention ('$' :: text) value
  | decimal {text : List Char} {value : Int} (numeral : NumeralText convention .decimal text value)
      (dollar : ∀ rest, text ≠ '$' :: rest)
      (unmarked : ∀ mark ∈ radixMarks, ∀ rest, text ≠ '0' :: mark :: rest) :
      NumberText convention text value

section

variable {text rest : List Char} {value : Int} {mark : Char}

theorem isDigit_zero : IsDigit .hexadecimal '0' 0 :=
  Convention.plain.isDigit_of_zero (by decide)

/-- A text with a radix mark in front is a hexadecimal numeral. -/
theorem numberOf?_marked (letter : mark ∈ radixMarks) :
    numberOf? ('0' :: mark :: rest) = read? .hexadecimal ('0' :: mark :: rest) := by
  rcases mem_radixMarks.mp letter with rfl | rfl <;> rw [numberOf?]

theorem numberOf?_decimal (dollar : ∀ rest, text ≠ '$' :: rest)
    (unmarked : ∀ mark ∈ radixMarks, ∀ rest, text ≠ '0' :: mark :: rest) :
    numberOf? text = read? .decimal text := by
  rw [numberOf?]
  · exact dollar
  · exact unmarked 'x' (by decide)
  · exact unmarked 'X' (by decide)

/-- **The reader accepts the language of numbers**, and reads each text as the number it writes. -/
theorem numberOf?_eq_some_iff :
    numberOf? text = some value ↔ NumberText .scripted text value := by
  constructor
  · intro found
    by_cases marked : ∃ mark ∈ radixMarks, ∃ rest, text = '0' :: mark :: rest
    · obtain ⟨mark, letter, rest, rfl⟩ := marked
      rw [numberOf?_marked letter, read?_eq_some_iff] at found
      obtain ⟨-, text, values, after, rfl, rfl, digits, right⟩ := found.of_mark isDigit_zero letter
      exact .marked letter digits right
    · by_cases dollar : ∃ rest, text = '$' :: rest
      · obtain ⟨rest, rfl⟩ := dollar
        rw [numberOf?, read?_eq_some_iff] at found
        exact .dollar found
      · simp only [not_exists, not_and] at marked dollar
        rw [numberOf?_decimal dollar marked, read?_eq_some_iff] at found
        exact .decimal found dollar marked
  · intro number
    cases number with
    | marked letter digits right =>
      have zero : Convention.scripted.zero '0' = true := by decide
      rw [numberOf?_marked letter, read?_eq_some_iff]
      exact .surrounded (List.forall_mem_nil _) (.unsigned (.marked zero letter digits)) right
    | dollar numeral => rw [numberOf?, read?_eq_some_iff]; exact numeral
    | decimal numeral dollar unmarked =>
      rw [numberOf?_decimal dollar unmarked, read?_eq_some_iff]
      exact numeral

/-- The beginning decides before margins and signs are looked at. -/
example : numberOf? " 0x10".toList = none ∧ numberOf? "-$5".toList = none ∧
    numberOf? "$0x10".toList = some 16 ∧ numberOf? "$ -0".toList = some 0 :=
  ⟨rfl, rfl, rfl, rfl⟩

end

section

variable {text : String} {limit : Int}

theorem readNumber_eq_ok_iff {value : Nat} :
    readNumber text limit = .ok value ↔
      (value : Int) ≤ limit ∧ numberOf? text.toList = some (value : Int) := by
  rw [readNumber]
  cases numberOf? text.toList with
  | none => simp only [reduceCtorEq, and_false]
  | some number =>
    by_cases within : 0 ≤ number ∧ number ≤ limit
    · simp only [if_pos within, Except.ok.injEq, Option.some.injEq]
      omega
    · simp only [if_neg within, reduceCtorEq, Option.some.injEq, false_iff]
      omega

theorem readNumber_eq_invalidNumber_iff :
    readNumber text limit = .error (.invalidNumber text) ↔ numberOf? text.toList = none := by
  rw [readNumber]
  cases numberOf? text.toList with
  | none => simp only
  | some number =>
    by_cases within : 0 ≤ number ∧ number ≤ limit
    · simp only [if_pos within, reduceCtorEq]
    · simp only [if_neg within, Except.error.injEq, reduceCtorEq]

theorem readNumber_eq_outOfRange_iff :
    readNumber text limit = .error (.outOfRange text limit) ↔
      ∃ value, numberOf? text.toList = some value ∧ ¬ (0 ≤ value ∧ value ≤ limit) := by
  rw [readNumber]
  cases numberOf? text.toList with
  | none => simp only [Except.error.injEq, reduceCtorEq, false_and, exists_false]
  | some number =>
    by_cases within : 0 ≤ number ∧ number ≤ limit
    · simp only [if_pos within, reduceCtorEq, Option.some.injEq, exists_eq_left', false_iff, not_not]
      exact within
    · simp only [if_neg within, Option.some.injEq, exists_eq_left', true_iff]
      exact within

/-- Every answer is a number or one of two errors. -/
theorem readNumber_eq_error {error : BadArgument} (reads : readNumber text limit = .error error) :
    error = .invalidNumber text ∨ error = .outOfRange text limit := by
  rw [readNumber] at reads
  cases found : numberOf? text.toList with
  | none =>
    rw [found] at reads
    exact .inl (Except.error.inj reads).symm
  | some number =>
    simp only [found] at reads
    split at reads
    · cases reads
    · exact .inr (Except.error.inj reads).symm

end

/-- **What the reader of numbers answers.**  It answers with a number exactly for the texts that write
this number, if the number lies between zero and the limit.  A text that writes no number is reported
as invalid, one that writes another number as out of range, and nothing else is reported. -/
theorem readNumber_iff (text : String) (limit : Int) :
    (∀ value : Nat, readNumber text limit = .ok value ↔
      (value : Int) ≤ limit ∧ NumberText .scripted text.toList value) ∧
    (readNumber text limit = .error (.invalidNumber text) ↔
      ∀ value, ¬ NumberText .scripted text.toList value) ∧
    (readNumber text limit = .error (.outOfRange text limit) ↔
      ∃ value, NumberText .scripted text.toList value ∧ ¬ (0 ≤ value ∧ value ≤ limit)) ∧
    ∀ error, readNumber text limit = .error error →
      error = .invalidNumber text ∧ error.message = "invalid number '" ++ text ++ "'" ∨
      error = .outOfRange text limit ∧
        error.message = text ++ " out of range (0-" ++ toString limit ++ ")" := by
  simp only [← numberOf?_eq_some_iff]
  refine ⟨fun _ => readNumber_eq_ok_iff, ?_, readNumber_eq_outOfRange_iff, fun error reads => ?_⟩
  · rw [readNumber_eq_invalidNumber_iff, Option.eq_none_iff_forall_ne_some]
  · obtain rfl | rfl := readNumber_eq_error reads
    · exact .inl ⟨rfl, rfl⟩
    · exact .inr ⟨rfl, rfl⟩

/-- Two texts on which the reader departs from the plain convention: a separator before a digit, which
is no margin, and a radix mark with the zero of another script. -/
theorem readNumber_not_plain :
    (NumberText .plain "\x1c5".toList 5 ∧
      readNumber "\x1c5" 0xFFFF = .error (.invalidNumber "\x1c5")) ∧
    (∀ value, ¬ NumberText .plain "$\u0660x10".toList value) ∧
      readNumber "$\u0660x10" 0xFFFF = .ok 16 := by
  refine ⟨⟨?_, rfl⟩, fun value number => ?_, rfl⟩
  · have digits : DigitText .decimal ['5'] [5] := .single (digitValue?_eq_some_iff.mp rfl)
    have five : MagnitudeText .plain .decimal ['5'] 5 := .decimal digits (by decide)
    have left : ∀ c ∈ ['\x1c'], Convention.plain.margin c = true :=
      List.forall_mem_singleton.mpr rfl
    have numeral : NumeralText .plain .decimal ['\x1c', '5'] 5 :=
      .surrounded left (.unsigned five) (List.forall_mem_nil _)
    have first : ∀ c : Char, c ≠ '\x1c' → ∀ rest, ['\x1c', '5'] ≠ c :: rest :=
      fun c other rest same => other (List.cons.inj same).1.symm
    exact .decimal numeral (first '$' (by decide)) fun _ _ _ => first '0' (by decide) _
  · cases number with
    | dollar numeral =>
      have digit : IsDigit .hexadecimal '\u0660' 0 := digitValue?_eq_some_iff.mp rfl
      exact absurd (numeral.of_mark digit (by decide)).1 (by decide)
    | decimal numeral dollar => exact dollar _ rfl

end Machine6502
