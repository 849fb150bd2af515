import DeviceRegistry.Listing.Field
import DeviceRegistry.Problem.Failure
import DeviceRegistry.Text.Filled

/-!
# Sorting

A listing is sorted by one column in one direction, and by the id if no field is given. Rows that
agree in the column keep their order.
-/

namespace DeviceRegistry

/-- The direction of a listing. -/
inductive Direction where
  | ascending
  | descending
  deriving DecidableEq, Repr, Inhabited

namespace Direction

/-- The words for the two directions. -/
def words : List (String × Direction) :=
  [("asc", ascending), ("desc", descending)]

/-- The direction that a word of any case names. -/
def ofWord? (s : String) : Option Direction :=
  (words.find? fun w => Text.sameWord w.1 s).map (·.2)

/-- The direction that is asked for, ascending unless the word is the other one. -/
def ofRequest (order : Option String) : Direction :=
  (order.bind ofWord?).getD ascending

/-- The key word of a statement. -/
def keyword : Direction → String
  | ascending => "ASC"
  | descending => "DESC"

end Direction

/-- A column and a direction. -/
structure Sorting where
  column : Column
  direction : Direction
  deriving DecidableEq, Repr, Inhabited

namespace Sorting

/-- By id, upwards. -/
def byId : Sorting :=
  { column := .id, direction := .ascending }

/-- The sorting that is asked for, by id if the field is empty or stands for nothing. -/
def ofRequest (fields : FieldTable Column) (sortBy order : Option String) : Sorting :=
  match (Text.filled? sortBy).bind fields.resolve? with
  | some e => { column := e.2, direction := Direction.ofRequest order }
  | none => byId

/-- The clause of a statement, each column under the name it has there. -/
def clause (name : Column → String) (s : Sorting) : String :=
  " ORDER BY " ++ name s.column ++ " " ++ s.direction.keyword

/-- The name that a column has in a statement that joins devices and head units. -/
def qualifiedName (c : Column) : String :=
  match c with
  | .headUnit => "a." ++ c.name
  | _ => "d." ++ c.name

/-- Whether the first cell may stand before the second. -/
def le (s : Sorting) (a b : Cell) : Bool :=
  match s.direction with
  | .ascending => a.le b
  | .descending => b.le a

/-- The rows in order. -/
def sort {α : Type} (s : Sorting) (cell : α → Column → Cell) (rows : List α) : List α :=
  rows.mergeSort fun a b => s.le (cell a s.column) (cell b s.column)

end Sorting

namespace Listing

/-- The direction of a listing of details or history, if it is given. -/
def checkOrder (order : Option String) : Check :=
  match Text.filled? order with
  | some s => require (Direction.ofWord? s).isSome .order
  | none => .ok ()

/-- The field of a sorting, if it is given. -/
def checkSortField (fields : FieldTable Column) (cause : Rejection) (sortBy : Option String) :
    Check :=
  match Text.filled? sortBy with
  | some s => require (fields.contains s) cause
  | none => .ok ()

/-- The sorting of a listing of history entries. -/
def checkHistorySorting (sortBy order : Option String) : Check := do
  checkSortField historySortFields (.historySortField historySortFields.names) sortBy
  checkOrder order

/-- The fields that a listing of details may be sorted by. -/
def sortFieldsFor (byHeadUnit : Bool) : FieldTable Column :=
  if byHeadUnit then headUnitSortFields else detailsSortFields

/-- The sorting of a listing of details. -/
def checkDetailsSorting (byHeadUnit : Bool) (sortBy order : Option String) : Check := do
  let fields := sortFieldsFor byHeadUnit
  checkSortField fields (.detailsSortField fields.names) sortBy
  checkOrder order

end Listing

end DeviceRegistry
