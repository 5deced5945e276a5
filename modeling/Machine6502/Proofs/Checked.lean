/-!
# Results that may be errors

Reading a command line, loading a block and answering a request all return a value or an error,
and are put together from steps that do.  The lemmas of this module take such a composition apart:
from the result of the whole to the results of its steps, and back.
-/

namespace Machine6502

namespace Checked

variable {ε ε' α β : Type} {result : Except ε α}

theorem bind_eq_ok {rest : α → Except ε β} {answer : β} :
    (result >>= rest) = .ok answer ↔ ∃ value, result = .ok value ∧ rest value = .ok answer := by
  cases result <;> simp [bind, Except.bind]

theorem bind_eq_error {rest : α → Except ε β} {error : ε} :
    (result >>= rest) = .error error ↔
      result = .error error ∨ ∃ value, result = .ok value ∧ rest value = .error error := by
  cases result <;> simp [bind, Except.bind]

theorem pure_eq_ok {value answer : α} : (pure value : Except ε α) = .ok answer ↔ value = answer :=
  ⟨Except.ok.inj, congrArg Except.ok⟩

theorem map_eq_ok {change : α → β} {answer : β} :
    result.map change = .ok answer ↔ ∃ value, result = .ok value ∧ change value = answer := by
  cases result <;> simp [Except.map]

theorem mapError_eq_ok {change : ε → ε'} {value : α} :
    result.mapError change = .ok value ↔ result = .ok value := by
  cases result with
  | error error => exact ⟨nofun, nofun⟩
  | ok other =>
    show (.ok other : Except ε' α) = .ok value ↔ _
    rw [Except.ok.injEq, Except.ok.injEq]

theorem mapError_eq_error {change : ε → ε'} {error' : ε'} :
    result.mapError change = .error error' ↔
      ∃ error, result = .error error ∧ change error = error' := by
  cases result with
  | error error =>
    show (.error (change error) : Except ε' α) = .error error' ↔ _
    simp only [Except.error.injEq, exists_eq_left']
  | ok value =>
    constructor
    · exact nofun
    · rintro ⟨error, ⟨⟩, -⟩

theorem mapError_ok_bind {change : ε → ε'} {rest : α → Except ε' β} (value : α) :
    ((.ok value : Except ε α).mapError change >>= rest) = rest value :=
  rfl

/-- Looking up each item of a list succeeds if every single look-up does. -/
theorem mapM_eq_ok {look : α → Except ε β} {found : α → β}
    (items : List α) (each : ∀ item ∈ items, look item = .ok (found item)) :
    items.mapM look = .ok (items.map found) := by
  induction items with
  | nil => rfl
  | cons item rest ih =>
    rw [List.mapM_cons, each item List.mem_cons_self,
      ih fun other member => each other (List.mem_cons_of_mem item member)]
    rfl

end Checked

end Machine6502
