/-!
# Positional digits

Natural numbers are written in one of two radices, decimal and hexadecimal, with
upper-case letters for the digits from ten on.  `Digits.ofNat` is the shortest such
writing.  `Digits.padded` adds leading zeros up to a width and a sign in front; the sign
takes one place of the width, so `-1` in four places is `-001`.
-/

namespace Machine6502

/-- The two ways numbers are written. -/
inductive Radix where
  | decimal
  | hexadecimal
  deriving DecidableEq, Repr

/-- The number of digits of a radix. -/
def Radix.base : Radix → Nat
  | .decimal => 10
  | .hexadecimal => 16

theorem Radix.one_lt_base (radix : Radix) : 1 < radix.base := by
  cases radix <;> decide

theorem Radix.base_pos (radix : Radix) : 0 < radix.base := Nat.lt_of_succ_lt radix.one_lt_base

theorem Radix.base_le (radix : Radix) : radix.base ≤ 16 := by
  cases radix <;> decide

namespace Digits

/-- The digit for a value below sixteen. -/
def digit (value : Nat) : Char :=
  Char.ofNat (if value < 10 then 48 + value else 55 + value)

/-- The digits of a number, most significant first; zero has the single digit `0`. -/
def ofNat (radix : Radix) (value : Nat) : List Char :=
  if value < radix.base then [digit value]
  else ofNat radix (value / radix.base) ++ [digit (value % radix.base)]
termination_by value
decreasing_by
  have := radix.one_lt_base
  exact Nat.div_lt_self (by omega) this

theorem ofNat_of_lt {radix : Radix} {value : Nat} (small : value < radix.base) :
    ofNat radix value = [digit value] := by
  rw [ofNat, if_pos small]

theorem ofNat_of_le {radix : Radix} {value : Nat} (large : radix.base ≤ value) :
    ofNat radix value = ofNat radix (value / radix.base) ++ [digit (value % radix.base)] := by
  rw [ofNat, if_neg (by omega)]

/-- A signed number with leading zeros up to `width` characters, sign included. -/
def padded (radix : Radix) (width : Nat) (value : Int) : List Char :=
  let digits := ofNat radix value.natAbs
  if value < 0 then '-' :: digits.leftpad (width - 1) '0' else digits.leftpad width '0'

end Digits

/-- The hexadecimal text of a number, with leading zeros up to `width` characters. -/
def hexText (width : Nat) (value : Int) : String :=
  String.ofList (Digits.padded .hexadecimal width value)

/-- A byte as two hexadecimal digits. -/
def hexPair (byte : UInt8) : List Char :=
  [Digits.digit (byte.toNat / 16), Digits.digit (byte.toNat % 16)]

end Machine6502
