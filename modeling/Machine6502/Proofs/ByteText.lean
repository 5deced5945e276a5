import Machine6502.Proofs.NumberText

/-!
# The language of byte texts

The reader of byte texts drops every comma and every blank, wherever they stand, and reads what is
left in pairs.  So all that counts of a text are its other characters, in order, and the texts of some
bytes are easily told: two digits for each byte, either case, and separators anywhere between them.
Unlike the digits of numerals these are the sixteen of ASCII only.

* `Digits.IsHexDigit` — a hexadecimal digit of either case, and its value.
* `PairText` — pairs of digits, and the bytes they write.
* `byteDigits` — the characters of a text that the reader of byte texts heeds.
* `SpacedOut` — a text with separators put in.
* `readBytes_eq_ok_iff`, `readBytes_iff` — the reader accepts exactly these texts.
-/

namespace Machine6502

/-! ## Digits of bytes -/

namespace Digits

variable {c : Char} {value : Nat}

/-- The character is a hexadecimal digit, in either case, and stands for `value`. -/
def IsHexDigit (c : Char) (value : Nat) : Prop :=
  value < 16 ∧ (c = digit value ∨ c = (digit value).toLower)

instance (c : Char) (value : Nat) : Decidable (IsHexDigit c value) :=
  inferInstanceAs (Decidable (_ ∧ _))

theorem isHexDigit_digit (small : value < 16) : IsHexDigit (digit value) value :=
  ⟨small, .inl rfl⟩

/-- What holds of the sixteen digits in both cases holds of every digit. -/
@[elab_as_elim]
theorem IsHexDigit.elim {P : Char → Nat → Prop} (is_digit : IsHexDigit c value)
    (both : ∀ value < 16, P (digit value) value ∧ P (digit value).toLower value) : P c value := by
  obtain ⟨small, rfl | rfl⟩ := is_digit
  · exact (both value small).1
  · exact (both value small).2

theorem IsHexDigit.isSeparator (is_digit : IsHexDigit c value) : isSeparator c = false :=
  is_digit.elim (by decide)

theorem not_isHexDigit_colon (value : Nat) : ¬ IsHexDigit ':' value := by
  intro is_digit
  have other : ':' ≠ ':' := is_digit.elim (P := fun c _ => c ≠ ':') (by decide)
  exact other rfl

theorem isHexDigit_letter : ∀ ten ∈ Numeral.letterTens, ∀ place < 6,
    IsHexDigit (Char.ofNat (ten + place)) (place + 10) := by
  decide

/-- The reader of single digits knows the digits, with their values. -/
theorem hexValue?_eq_some_iff : hexValue? c = some value ↔ IsHexDigit c value := by
  constructor
  · intro found
    unfold hexValue? at found
    split at found
    · next within =>
      cases found
      have low : '0'.toNat ≤ c.toNat := within.1
      have high : c.toNat ≤ '9'.toNat := within.2
      have zero : '0'.toNat = 48 := rfl
      have nine : '9'.toNat = 57 := rfl
      refine ⟨by omega, .inl ?_⟩
      rw [digit, if_pos (by omega), zero, Nat.add_sub_cancel' (by omega), Char.ofNat_toNat]
    · obtain ⟨ten, kind, place, small, code, rfl⟩ := Numeral.letterValue?_eq_some_iff.mp found
      have letter := isHexDigit_letter ten kind place small
      rwa [← code, Char.ofNat_toNat] at letter
  · intro is_digit
    exact is_digit.elim (by decide)

end Digits

open Digits (IsHexDigit)

/-! ## Pairs of digits -/

/-- Two digits for each byte, the high one first, and the bytes. -/
inductive PairText : List Char → List UInt8 → Prop
  | nil : PairText [] []
  | pair {high low : Char} {byte : UInt8} {rest : List Char} {bytes : List UInt8}
      (first : IsHexDigit high (byte.toNat / 16)) (second : IsHexDigit low (byte.toNat % 16))
      (later : PairText rest bytes) : PairText (high :: low :: rest) (byte :: bytes)

variable {chars chars' : List Char} {bytes bytes' : List UInt8}

namespace PairText

/-- The digits that are written for some bytes are a text of them. -/
theorem hexPairs (bytes : List UInt8) : PairText (bytes.flatMap hexPair) bytes := by
  induction bytes with
  | nil => exact .nil
  | cons byte rest ih =>
    have := byte.toNat_lt
    exact .pair (Digits.isHexDigit_digit (by omega)) (Digits.isHexDigit_digit (by omega)) ih

theorem append (first : PairText chars bytes) (second : PairText chars' bytes') :
    PairText (chars ++ chars') (bytes ++ bytes') := by
  induction first with
  | nil => exact second
  | pair high low later ih => exact .pair high low ih

theorem two_dvd_length (pairs : PairText chars bytes) : 2 ∣ chars.length := by
  induction pairs with
  | nil => exact Nat.dvd_zero 2
  | pair high low later ih => exact Nat.dvd_add_self_right.mpr ih

theorem isHexDigit (pairs : PairText chars bytes) : ∀ c ∈ chars, ∃ value, IsHexDigit c value := by
  induction pairs with
  | nil => exact List.forall_mem_nil _
  | pair high low later ih =>
    exact List.forall_mem_cons.mpr ⟨⟨_, high⟩, List.forall_mem_cons.mpr ⟨⟨_, low⟩, ih⟩⟩

end PairText

/-- The byte of two digits has these digits. -/
theorem toNat_ofNat_digits {high low : Nat} (first : high < 16) (second : low < 16) :
    (UInt8.ofNat (16 * high + low)).toNat / 16 = high ∧
      (UInt8.ofNat (16 * high + low)).toNat % 16 = low := by
  rw [UInt8.toNat_ofNat']
  omega

/-- **The reader of pairs knows the pairs**, with their bytes. -/
theorem pairUp?_eq_some_iff : pairUp? chars = some bytes ↔ PairText chars bytes := by
  constructor
  · intro found
    fun_induction pairUp? chars generalizing bytes with
    | case1 => cases found; exact .nil
    | case2 => cases found
    | case3 high low rest ih =>
      obtain ⟨first, readFirst, found⟩ := Option.bind_eq_some_iff.mp found
      obtain ⟨second, readSecond, found⟩ := Option.bind_eq_some_iff.mp found
      obtain ⟨later, readLater, same⟩ := Option.bind_eq_some_iff.mp found
      cases same
      have digit := Digits.hexValue?_eq_some_iff.mp readFirst
      have digit' := Digits.hexValue?_eq_some_iff.mp readSecond
      obtain ⟨upper, lower⟩ := toNat_ofNat_digits digit.1 digit'.1
      exact .pair (by rwa [upper]) (by rwa [lower]) (ih readLater)
  · intro pairs
    induction pairs with
    | nil => rfl
    | @pair high low byte rest bytes first second later ih =>
      have whole : UInt8.ofNat (16 * (byte.toNat / 16) + byte.toNat % 16) = byte := by
        rw [Nat.div_add_mod, UInt8.ofNat_toNat]
      rw [pairUp?, Digits.hexValue?_eq_some_iff.mpr first, Digits.hexValue?_eq_some_iff.mpr second, ih]
      exact congrArg (fun byte => some (byte :: bytes)) whole

/-- An even number of digits is the text of some bytes. -/
theorem exists_pairText_iff :
    (∃ bytes, PairText chars bytes) ↔
      (∀ c ∈ chars, ∃ value, IsHexDigit c value) ∧ 2 ∣ chars.length := by
  constructor
  · rintro ⟨bytes, pairs⟩
    exact ⟨pairs.isHexDigit, pairs.two_dvd_length⟩
  · rintro ⟨digits, even⟩
    fun_induction pairUp? chars with
    | case1 => exact ⟨[], .nil⟩
    | case2 c =>
      rw [List.length_singleton] at even
      exact absurd even (by decide)
    | case3 high low rest ih =>
      obtain ⟨⟨first, readFirst⟩, digits⟩ := List.forall_mem_cons.mp digits
      obtain ⟨⟨second, readSecond⟩, digits⟩ := List.forall_mem_cons.mp digits
      obtain ⟨bytes, pairs⟩ := ih digits (Nat.dvd_add_self_right.mp even)
      obtain ⟨upper, lower⟩ := toNat_ofNat_digits readFirst.1 readSecond.1
      exact ⟨_, .pair (by rwa [upper]) (by rwa [lower]) pairs⟩

/-! ## Byte texts -/

/-- The characters of a text that the reader of byte texts heeds. -/
def byteDigits (text : String) : List Char := text.toList.filter fun c => !isSeparator c

theorem byteDigits_append (first second : String) :
    byteDigits (first ++ second) = byteDigits first ++ byteDigits second := by
  rw [byteDigits, String.toList_append, List.filter_append, byteDigits, byteDigits]

/-- Blanks between texts do not count. -/
theorem byteDigits_intercalate (parts : List String) :
    byteDigits (" ".intercalate parts) = parts.flatMap byteDigits := by
  induction parts with
  | nil => rfl
  | cons first rest ih =>
    rw [List.flatMap_cons, ← ih]
    cases rest with
    | nil => rw [String.intercalate_singleton, String.intercalate_nil, ← byteDigits_append,
        String.append_empty]
    | cons second rest =>
      rw [String.intercalate_cons_cons, byteDigits_append, byteDigits_append]
      exact congrArg (· ++ _) (List.append_nil _)

/-- The text has the characters `inner`, in this order, and otherwise separators. -/
inductive SpacedOut : (inner text : List Char) → Prop
  | nil : SpacedOut [] []
  | keep {c : Char} {inner text : List Char} (later : SpacedOut inner text) :
      SpacedOut (c :: inner) (c :: text)
  | insert {c : Char} {inner text : List Char} (separator : isSeparator c = true)
      (later : SpacedOut inner text) : SpacedOut inner (c :: text)

/-- Separators that were put in are all that is dropped. -/
theorem SpacedOut.filter {inner text : List Char} (spaced : SpacedOut inner text)
    (solid : ∀ c ∈ inner, isSeparator c = false) :
    (text.filter fun c => !isSeparator c) = inner := by
  induction spaced with
  | nil => rfl
  | @keep c inner text later ih =>
    obtain ⟨here, solid⟩ := List.forall_mem_cons.mp solid
    rw [List.filter_cons_of_pos (by rw [here]; rfl), ih solid]
  | @insert c inner text separator later ih =>
    rw [List.filter_cons_of_neg (by rw [separator]; decide), ih solid]

variable {text : String}

/-- **The reader accepts the texts of bytes**, and reads each as its bytes. -/
theorem readBytes_eq_ok_iff : readBytes text = .ok bytes ↔ PairText (byteDigits text) bytes := by
  rw [← pairUp?_eq_some_iff, byteDigits, readBytes]
  cases pairUp? (text.toList.filter fun c => !isSeparator c) with
  | none => simp only [reduceCtorEq]
  | some found => simp only [Except.ok.injEq, Option.some.injEq]

theorem readBytes_eq_error_iff {error : BadArgument} :
    readBytes text = .error error ↔
      error = .invalidBytes text ∧ ¬ ∃ bytes, PairText (byteDigits text) bytes := by
  simp only [← pairUp?_eq_some_iff]
  rw [byteDigits, readBytes]
  cases pairUp? (text.toList.filter fun c => !isSeparator c) with
  | none => simp [eq_comm]
  | some found => simp

/-- **What the reader of bytes answers.**  It heeds what is left of a text when the commas and the
blanks are dropped.  If that is an even number of hexadecimal digits, it answers with the bytes which
these write, two digits a byte, and otherwise it reports the text.

So some bytes can be written with each digit in either case and with separators put in anywhere, also
between the digits of a byte; and texts that are accepted can be joined. -/
theorem readBytes_iff (text : String) :
    (∀ bytes, readBytes text = .ok bytes ↔ PairText (byteDigits text) bytes) ∧
    ((∃ bytes, readBytes text = .ok bytes) ↔
      (∀ c ∈ byteDigits text, ∃ value, IsHexDigit c value) ∧ 2 ∣ (byteDigits text).length) ∧
    (∀ error, readBytes text = .error error ↔ error = .invalidBytes text ∧
      ¬ ((∀ c ∈ byteDigits text, ∃ value, IsHexDigit c value) ∧ 2 ∣ (byteDigits text).length)) ∧
    (∀ bytes digits, PairText digits bytes → SpacedOut digits text.toList →
      readBytes text = .ok bytes) ∧
    ∀ other bytes bytes', readBytes text = .ok bytes → readBytes other = .ok bytes' →
      readBytes (text ++ other) = .ok (bytes ++ bytes') := by
  simp only [readBytes_eq_ok_iff, readBytes_eq_error_iff, exists_pairText_iff, implies_true,
    true_and]
  refine ⟨?_, ?_⟩
  · intro bytes digits pairs spaced
    have solid : ∀ c ∈ digits, isSeparator c = false := by
      intro c member
      obtain ⟨value, digit⟩ := pairs.isHexDigit c member
      exact digit.isSeparator
    rwa [byteDigits, spaced.filter solid]
  · intro other bytes bytes' first second
    rw [byteDigits_append]
    exact first.append second

/-- Separators inside a byte, both cases, and two texts of which the second is written in one piece. -/
theorem readBytes_iff_spaced :
    SpacedOut "a9Ff".toList "a,9\u3000F\x1cf".toList ∧
      readBytes "a,9\u3000F\x1cf" = .ok [0xA9, 0xFF] ∧
      readBytes ("a,9\u3000F\x1cf" ++ "2000") = .ok [0xA9, 0xFF, 0x20, 0x00] := by
  have spaced : SpacedOut "a9Ff".toList "a,9\u3000F\x1cf".toList :=
    .keep (.insert rfl (.keep (.insert rfl (.keep (.insert rfl (.keep .nil))))))
  have pairs : PairText "a9Ff".toList [0xA9, 0xFF] :=
    .pair (by decide) (by decide) (.pair (by decide) (by decide) .nil)
  obtain ⟨-, -, -, spells, joins⟩ := readBytes_iff "a,9\u3000F\x1cf"
  have first := spells _ _ pairs spaced
  exact ⟨spaced, first, joins "2000" _ [0x20, 0x00] first rfl⟩

end Machine6502
