/-!
# Depth Budgets

How deep a type expression is written out. A budget is a number of units, and every structural
descent spends one; a budget can also hold a fraction of a unit. Two questions are ever asked of a
budget: whether it is used up to the point, and whether it is overdrawn. A fraction never answers the
first with yes, and it is overdrawn by the next unit that is spent; so it does not matter how large
the fraction is, and a budget is counted in halves.
-/

namespace TsOutline

/-- A depth budget, counted in halves of a unit. -/
structure Budget where
  halves : Int
  deriving Repr, DecidableEq

namespace Budget

/-- A whole number of units. -/
def ofUnits (n : Int) : Budget :=
  ⟨2 * n⟩

/-- A whole number of units and a fraction of one more. -/
def ofUnitsAndFraction (n : Int) : Budget :=
  ⟨2 * n + 1⟩

/-- The budget after one more unit. -/
def spend (b : Budget) : Budget :=
  ⟨b.halves - 2⟩

/-- Nothing is left, and nothing is owed. -/
def isUsedUp (b : Budget) : Bool :=
  decide (b.halves = 0)

/-- More was spent than there was. -/
def isOverdrawn (b : Budget) : Bool :=
  decide (b.halves < 0)

/-! ## §1 Whole units -/

@[simp] theorem spend_ofUnits (n : Int) : (ofUnits n).spend = ofUnits (n - 1) := by
  simp only [spend, ofUnits, Budget.mk.injEq]; omega

@[simp] theorem isUsedUp_ofUnits (n : Int) : (ofUnits n).isUsedUp = decide (n = 0) := by
  exact decide_eq_decide.mpr (by simp only [ofUnits]; omega)

@[simp] theorem isOverdrawn_ofUnits (n : Int) : (ofUnits n).isOverdrawn = decide (n < 0) := by
  exact decide_eq_decide.mpr (by simp only [ofUnits]; omega)

/-! ## §2 Fractions -/

@[simp] theorem spend_ofUnitsAndFraction (n : Int) :
    (ofUnitsAndFraction n).spend = ofUnitsAndFraction (n - 1) := by
  simp only [spend, ofUnitsAndFraction, Budget.mk.injEq]; omega

@[simp] theorem isUsedUp_ofUnitsAndFraction (n : Int) :
    (ofUnitsAndFraction n).isUsedUp = false := by
  exact decide_eq_false (by simp only [ofUnitsAndFraction]; omega)

@[simp] theorem isOverdrawn_ofUnitsAndFraction (n : Int) :
    (ofUnitsAndFraction n).isOverdrawn = decide (n < 0) := by
  exact decide_eq_decide.mpr (by simp only [ofUnitsAndFraction]; omega)

end Budget

end TsOutline
