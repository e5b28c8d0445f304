import Switchboard.Request.Outcome

/-!
# Settlement cells

A cell is settled at most once and read by any number of waiters.  Settled
cells outlive the records they belonged to.
-/

namespace Switchboard

/-- The number of a cell. -/
abbrev CellId := Nat

structure Cells where
  /-- How many cells there have been. -/
  issued : Nat := 0
  /-- The settled cells, the first to settle first. -/
  settled : List (CellId × Settlement) := []
  deriving Repr, DecidableEq

namespace Cells

def issue (cells : Cells) : CellId × Cells :=
  (cells.issued, { cells with issued := cells.issued + 1 })

def settlement? (cells : Cells) (cell : CellId) : Option Settlement :=
  cells.settled.lookup cell

def isSettled (cells : Cells) (cell : CellId) : Bool :=
  (cells.settlement? cell).isSome

/-- Settles a cell.  One that is settled already stays as it is. -/
def settle (cells : Cells) (cell : CellId)
    (settlement : Settlement) : Cells :=
  if cells.isSettled cell then
    cells
  else
    { cells with settled := cells.settled ++ [(cell, settlement)] }

theorem settle_of_isSettled (cells : Cells) (cell : CellId)
    (settlement : Settlement) (settled : cells.isSettled cell = true) :
    cells.settle cell settlement = cells := by
  simp [settle, settled]

theorem settlement?_settle_self (cells : Cells) (cell : CellId)
    (settlement : Settlement) (unsettled : cells.isSettled cell = false) :
    (cells.settle cell settlement).settlement? cell = some settlement := by
  have absent : cells.settled.lookup cell = none := by
    simpa [isSettled, settlement?] using unsettled
  simp [settle, unsettled, settlement?, List.lookup_append, absent]

theorem settlement?_settle_of_ne (cells : Cells) {cell other : CellId}
    (different : other ≠ cell) (settlement : Settlement) :
    (cells.settle cell settlement).settlement? other =
      cells.settlement? other := by
  have unequal : (other == cell) = false := by simpa using different
  by_cases settled : cells.isSettled cell
  · simp [settle, settled]
  · simp [settle, settled, settlement?, List.lookup_append,
      List.lookup_cons, unequal]

end Cells

end Switchboard
