/-!
# Banks of byte cells

A bank of depth `d` holds `2 ^ d` bytes.  It is a perfect binary tree: bit `d` of a
cell number chooses between the two halves of a bank of depth `d + 1`.  A write
rebuilds one path and shares the rest, so a machine can keep an older memory beside
a newer one for the price of the cells that differ, and a bank filled with one value
is a single shared path.

Cell numbers are plain natural numbers of which a bank of depth `d` looks at the low
`d` bits.
-/

namespace Machine6502

/-- `2 ^ depth` byte cells. -/
inductive Bank : Nat → Type where
  | cell (value : UInt8) : Bank 0
  | halves {depth : Nat} (lower upper : Bank depth) : Bank (depth + 1)
  deriving DecidableEq

namespace Bank

/-- Every cell holds `value`. -/
def fill : (depth : Nat) → (value : UInt8) → Bank depth
  | 0, value => .cell value
  | depth + 1, value =>
      let half := fill depth value
      .halves half half

/-- The byte in a cell. -/
def get : {depth : Nat} → Bank depth → Nat → UInt8
  | 0, .cell value, _ => value
  | depth + 1, .halves lower upper, index =>
      if index.testBit depth then upper.get index else lower.get index

/-- The bank with one cell overwritten. -/
def set : {depth : Nat} → Bank depth → Nat → UInt8 → Bank depth
  | 0, .cell _, _, value => .cell value
  | depth + 1, .halves lower upper, index, value =>
      if index.testBit depth then .halves lower (upper.set index value)
      else .halves (lower.set index value) upper

/-- The bank with consecutive cells overwritten, from `index` on. -/
def setAll {depth : Nat} : (bank : Bank depth) → (index : Nat) → List UInt8 → Bank depth
  | bank, _, [] => bank
  | bank, index, value :: rest => (bank.set index value).setAll (index + 1) rest

/-- The cells in which `new` differs from `old`, each with its new byte, in ascending
order and in front of `rest`.  The bits of a cell number above those of the bank are
`above`. -/
def changes : {depth : Nat} → (old new : Bank depth) → (above : Nat) →
    List (Nat × UInt8) → List (Nat × UInt8)
  | 0, .cell before, .cell after, above, rest =>
      if before = after then rest else (above, after) :: rest
  | _ + 1, .halves lower upper, .halves lower' upper', above, rest =>
      lower.changes lower' (2 * above) (upper.changes upper' (2 * above + 1) rest)

end Bank

end Machine6502
