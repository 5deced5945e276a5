import Machine6502.Text.Numeral

/-!
# Arguments of the command line

Three notations are read from the command line: a number, a string of bytes, and a range
of memory to dump.  What is wrong with an argument is a `BadArgument`, and
`BadArgument.message` is its wording.

A number is written in one of three ways, told apart by how the text begins, before any
margin or sign is looked at:

* `0x` or `0X` in front of a hexadecimal numeral (which then has neither margin nor sign
  before its mark);
* `$` in front of a hexadecimal numeral, which may have both;
* anything else is a decimal numeral.

## Main definitions

* `readNumber` — a number between zero and a limit.
* `readBytes` — pairs of hexadecimal digits, with commas and blanks anywhere.
* `DumpRange.read` — `ADDR:LEN`.
-/

namespace Machine6502

/-- What is wrong with an argument.  Each cause holds the text it is about. -/
inductive BadArgument where
  | invalidNumber (text : String)
  | outOfRange (text : String) (limit : Int)
  | invalidBytes (text : String)
  /-- A dump range without a colon. -/
  | missingColon (text : String)
  /-- A dump range that ends after the last cell. -/
  | pastEnd (text : String)
  deriving DecidableEq, Repr

/-- The wording of what is wrong. -/
def BadArgument.message : BadArgument → String
  | .invalidNumber text => "invalid number '" ++ text ++ "'"
  | .outOfRange text limit => text ++ " out of range (0-" ++ toString limit ++ ")"
  | .invalidBytes text => "invalid hex byte string '" ++ text ++ "'"
  | .missingColon text => "expected ADDR:LEN, got '" ++ text ++ "'"
  | .pastEnd text => "dump range '" ++ text ++ "' runs past $FFFF"

/-- The number a text writes, whatever its size and sign. -/
def numberOf? : List Char → Option Int
  | '$' :: rest => Numeral.read? .hexadecimal rest
  | '0' :: 'x' :: rest => Numeral.read? .hexadecimal ('0' :: 'x' :: rest)
  | '0' :: 'X' :: rest => Numeral.read? .hexadecimal ('0' :: 'X' :: rest)
  | text => Numeral.read? .decimal text

/-- Reads a number between zero and `limit`. -/
def readNumber (text : String) (limit : Int) : Except BadArgument Nat :=
  match numberOf? text.toList with
  | none => .error (.invalidNumber text)
  | some value =>
      if 0 ≤ value ∧ value ≤ limit then .ok value.toNat else .error (.outOfRange text limit)

/-- The value of an ASCII hexadecimal digit. -/
def hexValue? (c : Char) : Option Nat :=
  if '0' ≤ c ∧ c ≤ '9' then some (c.toNat - '0'.toNat) else Numeral.letterValue? c

/-- The bytes that hexadecimal digits write, two digits a byte. -/
def pairUp? : List Char → Option (List UInt8)
  | [] => some []
  | [_] => none
  | high :: low :: rest => do
      let high ← hexValue? high
      let low ← hexValue? low
      let bytes ← pairUp? rest
      return UInt8.ofNat (16 * high + low) :: bytes

/-- A character that byte texts may hold anywhere without a meaning. -/
def isSeparator (c : Char) : Bool := c == ',' || Text.isBlank c

/-- Reads a string of bytes. -/
def readBytes (text : String) : Except BadArgument (List UInt8) :=
  match pairUp? (text.toList.filter fun c => !isSeparator c) with
  | some bytes => .ok bytes
  | none => .error (.invalidBytes text)

/-- A range of memory cells. -/
structure DumpRange where
  start : Nat
  count : Nat
  deriving DecidableEq, Repr

namespace DumpRange

/-- Reads a range written as its first address, a colon and the number of its cells.  The
range has to lie inside the memory. -/
def read (text : String) : Except BadArgument DumpRange :=
  match text.toList.span (· != ':') with
  | (_, []) => .error (.missingColon text)
  | (address, _ :: length) => do
      let start ← readNumber (String.ofList address) 0xFFFF
      let count ← readNumber (String.ofList length) 0x10000
      if start + count ≤ 0x10000 then .ok ⟨start, count⟩ else .error (.pastEnd text)

end DumpRange

end Machine6502
