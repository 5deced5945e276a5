/-!
# Cycle budgets

A budget is opened for a number of clock cycles and charged for every access and every
extra cycle.  It is signed: an instruction is never cut short, so the last one of a run
may take the budget below zero.
-/

namespace Machine6502

/-- Clock cycles asked for, and clock cycles left. -/
structure Budget where
  requested : Int
  remaining : Int
  deriving DecidableEq, Repr

namespace Budget

/-- A budget of which nothing has been used. -/
def ofRequest (cycles : Int) : Budget := ⟨cycles, cycles⟩

/-- Takes cycles from what is left. -/
def charge (budget : Budget) (cycles : Int) : Budget :=
  { budget with remaining := budget.remaining - cycles }

/-- The cycles charged so far. -/
def used (budget : Budget) : Int := budget.requested - budget.remaining

/-- Nothing is left for another instruction. -/
def exhausted (budget : Budget) : Bool := budget.remaining ≤ 0

@[simp] theorem charge_requested (budget : Budget) (cycles : Int) :
    (budget.charge cycles).requested = budget.requested := rfl

@[simp] theorem charge_remaining (budget : Budget) (cycles : Int) :
    (budget.charge cycles).remaining = budget.remaining - cycles := rfl

@[simp] theorem charge_charge (budget : Budget) (first second : Int) :
    (budget.charge first).charge second = budget.charge (first + second) := by
  simp [charge]; omega

@[simp] theorem used_charge (budget : Budget) (cycles : Int) :
    (budget.charge cycles).used = budget.used + cycles := by
  simp only [used, charge]; omega

@[simp] theorem used_ofRequest (cycles : Int) : (ofRequest cycles).used = 0 := by
  simp [used, ofRequest]

@[simp] theorem exhausted_iff (budget : Budget) :
    budget.exhausted = true ↔ budget.remaining ≤ 0 := by
  simp [exhausted]

end Budget

end Machine6502
