/-!
# Directories of names

A directory maps names to values.  Entering a name that is already there replaces its
value and leaves it in its place, so the entries stay in the order in which the names were
first entered.
-/

namespace Machine6502

/-- Named values, in the order in which the names were first entered. -/
structure Directory (α : Type) where
  entries : List (String × α) := []

namespace Directory

variable {α : Type}

/-- The entries with the value of one name entered or replaced. -/
def insertEntry (name : String) (value : α) : List (String × α) → List (String × α)
  | [] => [(name, value)]
  | entry :: rest =>
      if entry.1 = name then (name, value) :: rest else entry :: insertEntry name value rest

/-- The directory with the value of one name entered or replaced. -/
def insert (directory : Directory α) (name : String) (value : α) : Directory α :=
  ⟨insertEntry name value directory.entries⟩

/-- The value of a name. -/
def find? (directory : Directory α) (name : String) : Option α :=
  directory.entries.lookup name

/-- The first name entered whose value passes a test. -/
def nameOf? (directory : Directory α) (test : α → Bool) : Option String :=
  (directory.entries.find? fun entry => test entry.2).map (·.1)

theorem lookup_insertEntry (name other : String) (value : α) (entries : List (String × α)) :
    (insertEntry name value entries).lookup other =
      if other = name then some value else entries.lookup other := by
  induction entries with
  | nil =>
    by_cases same : other = name
    · simp [insertEntry, same]
    · simp [insertEntry, List.lookup_cons, beq_false_of_ne same, same]
  | cons entry rest ih =>
    obtain ⟨key, held⟩ := entry
    by_cases head : key = name
    · subst head
      by_cases same : other = key
      · simp [insertEntry, same]
      · simp [insertEntry, List.lookup_cons, beq_false_of_ne same, same]
    · rw [insertEntry, if_neg head, List.lookup_cons, List.lookup_cons, ih]
      by_cases first : other = key
      · simp [first, head]
      · simp [beq_false_of_ne first]

@[simp] theorem find?_insert_self (directory : Directory α) (name : String) (value : α) :
    (directory.insert name value).find? name = some value := by
  simp [find?, insert, lookup_insertEntry]

theorem find?_insert_of_ne (directory : Directory α) {name other : String} (value : α)
    (ne : other ≠ name) : (directory.insert name value).find? other = directory.find? other := by
  simp [find?, insert, lookup_insertEntry, ne]

end Directory

end Machine6502
