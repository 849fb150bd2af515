import DeviceRegistry.Calendar.Stamp
import DeviceRegistry.Listing.Condition
import DeviceRegistry.Listing.Page
import DeviceRegistry.Listing.Sorting
import DeviceRegistry.Text.Pieces

/-!
# Queries

A filtered listing as it is asked for: pairs of a field and a value to look for, pairs of a date
field and a range of time, a sorting, and a page. The request is a list of named texts whose names
are words of any case. `Query.ofRequest` reads and checks all of it, so that a query that exists can
be carried out.
-/

namespace DeviceRegistry

open Calendar

/-- A field to look into and the value to look for. -/
structure ContainsFilter where
  field : String
  column : FilterColumn
  value : String
  deriving DecidableEq, Repr, Inhabited

/-- A date field, the range as it was written, and the two ends of it. -/
structure RangeFilter where
  field : String
  column : TextColumn
  value : String
  low : Stamp
  high : Stamp
  deriving DecidableEq, Repr, Inhabited

/-- A listing that is asked for. -/
structure Query where
  contains : List ContainsFilter := []
  ranges : List RangeFilter := []
  sortBy : Option String := none
  order : Option String := none
  details : Bool := false
  page : Nat := Listing.defaultPage
  size : Nat := Listing.defaultSize
  deriving DecidableEq, Repr, Inhabited

/-- The named texts of a request, each name once. -/
abbrev Params := List (String × Option String)

namespace Params

/-- The texts with one set: in place if the name occurs, at the end otherwise. -/
def put (name : String) (value : Option String) : Params → Params
  | [] => [(name, value)]
  | p :: ps => if p.1 = name then (name, value) :: ps else p :: put name value ps

/-- The named texts as they arrive: of two under one name the later counts. -/
def ofPairs (pairs : List (String × Option String)) : Params :=
  pairs.foldl (fun ps p => put p.1 p.2 ps) []

/-- The value of the last text whose name is a word. -/
def value? (params : Params) (word : String) : Option String :=
  (params.reverse.find? fun p => Text.lower p.1 == word).bind (·.2)

/-- The value of the text with a name. -/
def named? (params : Params) (name : String) : Option String :=
  (params.lookup name).bind id

end Params

namespace Listing

/-- A list as it is written: the spaces do not count and commas stand between the items. -/
def splitList (value : Option String) : List String :=
  match Text.filled? value with
  | none => []
  | some s => Text.split ',' (String.ofList (s.toList.filter (· != ' ')))

/-- The first of two parameters that is filled, or else the second. -/
def sortParam? (params : Params) : Option String :=
  match Text.filled? (params.value? "sortby") with
  | some s => some s
  | none => params.value? "sortbyparam"

/-- Checks the sorting of a listing, and reads whether details are asked for. -/
def readSwitches (sortBy order details : Option String) : Except Rejection Bool := do
  match Text.filled? sortBy with
  | some s => require (detailsSortFields.contains s) .sortField
  | none => pure ()
  match Text.filled? order with
  | some s => require (Direction.ofWord? s).isSome .sortingOrder
  | none => pure ()
  match Text.filled? details with
  | some s =>
    require (Text.sameWord "true" s || Text.sameWord "false" s) .detailsFlag
    return Text.sameWord "true" s
  | none => throw .detailsFlag

/-- Checks that fields and values of a filter pair up and that every field is known. -/
def checkPairs {α : Type} (table : FieldTable α) (cause : Rejection) (fields values : List String) :
    Check := do
  require (fields.length == values.length) cause
  require (fields.all table.contains) cause

/-- The fields of a contains-filter and their values. -/
def checkContainsLike (fields values : List String) : Check :=
  checkPairs containsLikeFields .containsLikeFields fields values

/-- Why a pair of texts is no range filter. -/
inductive RangeFault where
  | notTwoEnds
  | unknownField
  | notInteger
  | outOfTime (fault : StampFault)
  deriving DecidableEq, Repr, Inhabited

/-- The two ends of a range as they are written, with an underscore between. -/
def rangeEnds? (value : String) : Option (String × String) :=
  match Text.split '_' value with
  | [low, high] => some (low, high)
  | _ => none

/-- The point in time that one end of a range writes in milliseconds. -/
def rangeEnd (s : String) : Except RangeFault Stamp :=
  match Text.integer? s with
  | none => .error .notInteger
  | some millis =>
    match Stamp.ofMillis millis with
    | .ok stamp => .ok stamp
    | .error fault => .error (.outOfTime fault)

/-- The two ends of a written range, if both are points in time. -/
def rangeStamps? (value : String) : Option (Stamp × Stamp) := do
  let (low, high) ← rangeEnds? value
  return (← (rangeEnd low).toOption, ← (rangeEnd high).toOption)

/-- A range as a request may write it: the ends are digits alone, as many as a number may have, and
both are points in time. -/
def isRange (value : String) : Bool :=
  (Text.split '_' value).all (fun s => Text.isNumeric s && decide (s.length ≤ Text.maxDigits)) &&
    (rangeStamps? value).isSome

/-- The fields of a range filter and their ranges. -/
def checkRange (fields values : List String) : Check := do
  checkPairs rangeFields .rangeFields fields values
  require (values.all isRange) .rangeValue

/-- The contains-filters of known fields, each with its value. -/
def containsFilters (fields values : List String) : List ContainsFilter :=
  (fields.zip values).filterMap fun (field, value) =>
    (containsLikeFields.resolve? field).map fun e =>
      { field := e.1, column := e.2, value := value }

/-- The range filter of a field in its own spelling and a written range. -/
def rangeFilter (field value : String) : Except RangeFault RangeFilter := do
  match rangeEnds? value, rangeFields.lookup field with
  | none, _ => .error .notTwoEnds
  | some _, none => .error .unknownField
  | some (low, high), some column =>
    return { field := field, column := column, value := value, low := ← rangeEnd low,
             high := ← rangeEnd high }

/-- The range filters of known fields, each with its range. -/
def rangeFilters (fields values : List String) : List RangeFilter :=
  (fields.zip values).filterMap fun (field, value) =>
    (rangeFields.resolve? field).bind fun e => (rangeFilter e.1 value).toOption

end Listing

/-- The value of a flag is one of the words for true and false. -/
def ContainsFilter.valueAllowed (f : ContainsFilter) : Bool :=
  match f.column with
  | .flag _ => Text.sameWord "true" f.value || Text.sameWord "false" f.value
  | .text _ => true

/-- The condition that a contains-filter sets. -/
def ContainsFilter.condition (f : ContainsFilter) : Condition :=
  match f.column with
  | .flag flag => .flagIs flag (Text.sameWord "true" f.value)
  | .text c => .like c (Text.Like.containing f.value)

/-- The condition that a range filter sets. -/
def RangeFilter.condition (f : RangeFilter) : Condition :=
  .between f.column f.low.text f.high.text

namespace Query

open Listing

/-- Reads a request, or refuses it. -/
def ofRequest (params : Params) : Except Failure Query := do
  let sortBy := sortParam? params
  let order := params.value? "sortingorder"
  let details ← checked (readSwitches sortBy order (params.value? "isdetailsrequired"))
  let fields := splitList (params.value? "containslikefields")
  let values := splitList (params.value? "containslikevalues")
  checked (checkContainsLike fields values)
  let contains := containsFilters fields values
  checked (require (contains.all (·.valueAllowed)) .containsLikeValue)
  let fields := splitList (params.value? "rangefields")
  let values := splitList (params.value? "rangevalues")
  checked (checkRange fields values)
  let ranges := rangeFilters fields values
  let page ← resolvePage (params.value? "page")
  let size ← resolveSize (params.value? "size")
  return { contains := contains, ranges := ranges,
           sortBy := ((Text.filled? sortBy).bind detailsSortFields.resolve?).map (·.1),
           order := order, details := details, page := page, size := size }

/-- All conditions of a query: those of the contains-filters first. -/
def conditions (q : Query) : List Condition :=
  q.contains.map (·.condition) ++ q.ranges.map (·.condition)

/-- The sorting of a query. -/
def sorting (q : Query) : Sorting :=
  Sorting.ofRequest detailsSortFields q.sortBy q.order

end Query

end DeviceRegistry
