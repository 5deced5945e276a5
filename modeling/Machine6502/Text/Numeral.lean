import Machine6502.Text.Blank
import Machine6502.Text.DecimalDigit
import Machine6502.Text.Digits

/-!
# Numerals

A numeral is a sign and digits, with margin characters around it.  A single underscore may
stand between two digits.  A decimal digit of any script counts by its value, and a
hexadecimal numeral has the ASCII letters from `a` to `f` too, in either case.

A hexadecimal numeral may begin, after the sign, with a radix mark: a digit of value zero
and an `x`.  One underscore may follow the mark.  A decimal numeral has no mark and at most
`maxDecimalDigits` digits, leading zeros counted.

`Numeral.digits?` reads digits and separators, `Numeral.magnitude?` what may follow a sign,
and `Numeral.read?` a whole numeral.
-/

namespace Machine6502

namespace Numeral

/-- The number of digits a decimal numeral may have. -/
def maxDecimalDigits : Nat := 4300

/-- The value of a letter that is a hexadecimal digit. -/
def letterValue? (c : Char) : Option Nat :=
  if 'a' ≤ c ∧ c ≤ 'f' then some (c.toNat - 'a'.toNat + 10)
  else if 'A' ≤ c ∧ c ≤ 'F' then some (c.toNat - 'A'.toNat + 10)
  else none

/-- The value of a character as a digit of a radix. -/
def digitValue? : Radix → Char → Option Nat
  | .decimal, c => Text.decimalValue? c
  | .hexadecimal, c => (Text.decimalValue? c).or (letterValue? c)

/-- The values of digits between which single underscores may stand.  There is at least
one digit, and no underscore at either end. -/
def digits? (radix : Radix) : List Char → Option (List Nat)
  | [] => none
  | [c] => (digitValue? radix c).map fun value => [value]
  | c :: '_' :: rest => do
      let value ← digitValue? radix c
      let values ← digits? radix rest
      return value :: values
  | c :: rest => do
      let value ← digitValue? radix c
      let values ← digits? radix rest
      return value :: values

/-- The number that digit values stand for, most significant first. -/
def valueOf (radix : Radix) (digits : List Nat) : Nat :=
  digits.foldl (fun total digit => total * radix.base + digit) 0

/-- The text after its radix mark, if it begins with one. -/
def dropMark : List Char → List Char
  | first :: mark :: rest =>
      if Text.decimalValue? first = some 0 ∧ (mark = 'x' ∨ mark = 'X') then
        match rest with
        | '_' :: rest => rest
        | rest => rest
      else first :: mark :: rest
  | text => text

/-- The number written by a text without a sign and without margins. -/
def magnitude? : Radix → List Char → Option Nat
  | .decimal, text => do
      let digits ← digits? .decimal text
      if digits.length ≤ maxDecimalDigits then some (valueOf .decimal digits) else none
  | .hexadecimal, text => (digits? .hexadecimal (dropMark text)).map (valueOf .hexadecimal)

/-- The number written by a text without margins. -/
def signed? (radix : Radix) : List Char → Option Int
  | '+' :: rest => (magnitude? radix rest).map Int.ofNat
  | '-' :: rest => (magnitude? radix rest).map fun value => -(value : Int)
  | text => (magnitude? radix text).map Int.ofNat

/-- The number written by a text. -/
def read? (radix : Radix) (text : List Char) : Option Int :=
  signed? radix (Text.trimMargins text)

end Numeral

end Machine6502
