/-!
# Terminal control sequences

A control sequence tells a terminal to change its colours or to move its cursor: an escape
character, an opening bracket, any number of digits, semicolons and question marks, and one
letter.  Anything else after an escape character is ordinary text.

`Text.plain` is a text without its control sequences.  It goes through the text once, so
what is left on the two sides of a sequence may come together as another one, which stays.
-/

namespace Machine6502

namespace Text

/-- The character that begins a control sequence. -/
def escape : Char := '\x1b'

/-- A character that may stand between the bracket and the letter of a control sequence. -/
def isParameter (c : Char) : Bool := c.isDigit || c = ';' || c = '?'

/-- What follows the control sequence that a text begins with, if it begins with one. -/
def afterSequence? : List Char → Option (List Char)
  | c :: '[' :: rest =>
      if c = escape then
        match rest.dropWhile isParameter with
        | [] => none
        | final :: rest => if final.isAlpha then some rest else none
      else none
  | _ => none

theorem afterSequence?_eq_none {c : Char} (ordinary : c ≠ escape) (rest : List Char) :
    afterSequence? (c :: rest) = none := by
  unfold afterSequence?
  split
  · next same => cases same; exact if_neg ordinary
  · rfl

/-- What follows a control sequence is the end of the text that begins with it. -/
theorem suffix_of_afterSequence? {text rest : List Char}
    (found : afterSequence? text = some rest) : rest <:+ text.drop 3 := by
  unfold afterSequence? at found
  split at found
  · next tail =>
    split at found
    · split at found
      · cases found
      · next final after dropped =>
        split at found
        · cases found
          have whole : final :: rest <:+ tail := dropped ▸ List.dropWhile_suffix isParameter
          obtain ⟨parameters, rfl⟩ := whole
          cases parameters with
          | nil => exact List.suffix_refl rest
          | cons first others => exact ⟨others ++ [final], by simp⟩
        · cases found
    · cases found
  · cases found

theorem length_of_afterSequence? {text rest : List Char}
    (found : afterSequence? text = some rest) : rest.length ≤ text.length - 3 := by
  simpa using (suffix_of_afterSequence? found).length_le

/-- The characters of a text outside its control sequences. -/
def plainChars (text : List Char) : List Char :=
  match text with
  | [] => []
  | c :: rest =>
      match _found : afterSequence? (c :: rest) with
      | some after => plainChars after
      | none => c :: plainChars rest
termination_by text.length
decreasing_by
  · have := length_of_afterSequence? (by assumption)
    simp_all
    omega
  · simp

/-- The text without its control sequences. -/
def plain (text : String) : String := String.ofList (plainChars text.toList)

/-- A text without an escape character is plain. -/
theorem plainChars_eq_self {text : List Char} (absent : escape ∉ text) :
    plainChars text = text := by
  induction text with
  | nil => rw [plainChars]
  | cons c rest ih =>
    rw [List.mem_cons, not_or] at absent
    have ordinary := afterSequence?_eq_none (Ne.symm absent.1) rest
    rw [plainChars]
    split
    · simp_all
    · rw [ih absent.2]

theorem plain_eq_self {text : String} (absent : escape ∉ text.toList) : plain text = text := by
  rw [plain, plainChars_eq_self absent, String.ofList_toList]

end Text

end Machine6502
