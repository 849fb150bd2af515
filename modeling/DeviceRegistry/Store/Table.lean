/-!
# Tables

A table keeps its rows in the order of their ids. Ids count up from 1 and are never given twice:
the last id that was given outlives its row.
-/

namespace DeviceRegistry

/-- Rows, and the last id given to one. -/
structure Table (α : Type) where
  rows : List α := []
  lastId : Int := 0
  deriving DecidableEq, Repr, Inhabited

namespace Table

variable {α : Type}

/-- The id of the next row. -/
def nextId (t : Table α) : Int :=
  t.lastId + 1

/-- The table with a row appended under the next id. -/
def append (t : Table α) (row : Int → α) : Table α :=
  { rows := t.rows ++ [row t.nextId], lastId := t.nextId }

/-- The table with the next id given away without a row. -/
def skipId (t : Table α) : Table α :=
  { t with lastId := t.nextId }

/-- The table with every row that satisfies a condition changed. -/
def mapWhere (t : Table α) (which : α → Bool) (change : α → α) : Table α :=
  { t with rows := t.rows.map fun row => if which row then change row else row }

/-- The table without the rows that satisfy a condition. -/
def removeWhere (t : Table α) (which : α → Bool) : Table α :=
  { t with rows := t.rows.filter fun row => !which row }

@[simp] theorem rows_append (t : Table α) (row : Int → α) :
    (t.append row).rows = t.rows ++ [row t.nextId] := rfl

@[simp] theorem lastId_append (t : Table α) (row : Int → α) :
    (t.append row).lastId = t.lastId + 1 := rfl

@[simp] theorem rows_skipId (t : Table α) : t.skipId.rows = t.rows := rfl

@[simp] theorem lastId_mapWhere (t : Table α) (which : α → Bool) (change : α → α) :
    (t.mapWhere which change).lastId = t.lastId := rfl

@[simp] theorem lastId_removeWhere (t : Table α) (which : α → Bool) :
    (t.removeWhere which).lastId = t.lastId := rfl

theorem mem_removeWhere {t : Table α} {which : α → Bool} {row : α} :
    row ∈ (t.removeWhere which).rows ↔ row ∈ t.rows ∧ which row = false := by
  simp [removeWhere]

end Table

end DeviceRegistry
