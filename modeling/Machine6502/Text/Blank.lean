/-!
# Blank characters

Two sets of blank characters occur in the texts that are read.  Byte texts may be spaced
out with any `isBlank` character.  A numeral may be surrounded by `isMargin` characters
only: these are the blank ones without the four separators `U+001C` to `U+001F`.
-/

namespace Machine6502

namespace Text

/-- The code point lies in one of the closed ranges. -/
def inRanges (ranges : List (Nat × Nat)) (code : Nat) : Bool :=
  ranges.any fun range => range.1 ≤ code && code ≤ range.2

/-- The blank characters: tabulators, line ends, separators and spaces of every width. -/
def blankRanges : List (Nat × Nat) :=
  [(0x09, 0x0D), (0x1C, 0x20), (0x85, 0x85), (0xA0, 0xA0), (0x1680, 0x1680), (0x2000, 0x200A),
    (0x2028, 0x2029), (0x202F, 0x202F), (0x205F, 0x205F), (0x3000, 0x3000)]

/-- A blank character. -/
def isBlank (c : Char) : Bool := inRanges blankRanges c.toNat

/-- A blank character that may surround a numeral. -/
def isMargin (c : Char) : Bool := isBlank c && !inRanges [(0x1C, 0x1F)] c.toNat

/-- The text without the margin characters at both ends. -/
def trimMargins (text : List Char) : List Char :=
  ((text.dropWhile isMargin).reverse.dropWhile isMargin).reverse

theorem isBlank_of_isMargin {c : Char} (margin : isMargin c = true) : isBlank c = true := by
  simp_all [isMargin]

end Text

end Machine6502
