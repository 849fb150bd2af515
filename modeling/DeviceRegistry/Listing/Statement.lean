import DeviceRegistry.Listing.Query

/-!
# Statements of a listing

The three statements that carry out a query: one counts the devices, one fetches a page of them,
and one counts them by state. The conditions and the sorting make up the text; the values go
separately, in the order of the places in the text.
-/

namespace DeviceRegistry

/-- A text with places, and the values for them. -/
structure Statement where
  text : String
  values : List Cell
  deriving DecidableEq, Repr, Inhabited

namespace Statement

/-- The table of devices. -/
def devices : String :=
  TableName.devices.name

/-- The clause of all conditions, nothing if there are none. -/
def whereClause (conditions : List Condition) : String :=
  if conditions.isEmpty then ""
  else " WHERE " ++ " AND ".intercalate (conditions.map (·.clause))

/-- The values of all conditions. -/
def whereValues (conditions : List Condition) : List Cell :=
  conditions.flatMap (·.values)

/-- The clause that cuts a page. -/
def pageClause : String := " LIMIT ? OFFSET ?"

/-- The values that cut a page. -/
def pageValues (page size : Int) : List Int :=
  [size, (page - 1) * size]

end Statement

namespace Query

open Statement

/-- Counts the devices of a query. -/
def countStatement (q : Query) : Statement :=
  { text := "SELECT COUNT(*) FROM " ++ devices ++ whereClause q.conditions
    values := whereValues q.conditions }

/-- Fetches the page of a query. -/
def pageStatement (q : Query) : Statement :=
  { text := "SELECT * FROM " ++ devices ++ whereClause q.conditions ++
      q.sorting.clause Column.name ++ pageClause
    values := whereValues q.conditions ++ (pageValues q.page q.size).map Cell.int }

/-- Counts the devices of a query by state. -/
def stateStatement (q : Query) : Statement :=
  { text := "SELECT state, COUNT(state) AS count FROM " ++ devices ++
      whereClause q.conditions ++ " GROUP BY state"
    values := whereValues q.conditions }

end Query

end DeviceRegistry
