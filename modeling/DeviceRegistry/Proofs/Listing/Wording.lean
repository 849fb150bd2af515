import DeviceRegistry.Listing.Statement
import DeviceRegistry.Proofs.Listing.Pages

/-!
# The words of a statement

The text of a statement is put together from fixed words, names of columns and places for values
(`Part`), and nothing else. Which of them it is made of depends on the fields of the query and on
its sorting, not on its values (`Query.outline`). So two requests with one outline have the same
statements, and every statement has as many values as places (`Query.statements_worded`).
-/

namespace DeviceRegistry

open Listing

/-! ## Parts -/

/-- The fixed words of the statements. -/
inductive Keyword where
  | countAll
  | selectAll
  | select
  | countOf
  | countFrom
  | devices
  | conditions
  | conjunction
  | equals
  | like
  | escape
  | between
  | orderBy
  | ascending
  | descending
  | limit
  | offset
  | groupBy
  deriving DecidableEq

/-- How a fixed word is written. -/
def Keyword.text : Keyword → String
  | countAll => "SELECT COUNT(*) FROM "
  | selectAll => "SELECT * FROM "
  | select => "SELECT "
  | countOf => ", COUNT("
  | countFrom => ") AS count FROM "
  | devices => "device_factory_data"
  | conditions => " WHERE "
  | conjunction => " AND "
  | equals => " = "
  | like => " LIKE "
  | escape => " ESCAPE '\\'"
  | between => " BETWEEN "
  | orderBy => " ORDER BY "
  | ascending => " ASC"
  | descending => " DESC"
  | limit => " LIMIT "
  | offset => " OFFSET "
  | groupBy => " GROUP BY "

/-- A part of a statement: a fixed word, the name of a column, or the place of a value. -/
inductive Part where
  | word (keyword : Keyword)
  | column (column : Column)
  | place
  deriving DecidableEq

namespace Part

/-- How a part is written. -/
def text : Part → String
  | word keyword => keyword.text
  | column c => c.name
  | place => "?"

/-- How parts are written one after the other. -/
def render : List Part → String
  | [] => ""
  | p :: ps => p.text ++ render ps

theorem render_nil : render [] = "" := rfl

theorem render_append (ps qs : List Part) : render (ps ++ qs) = render ps ++ render qs := by
  induction ps with
  | nil => exact String.empty_append.symm
  | cons p ps ih => rw [List.cons_append, render, ih, render, String.append_assoc]

theorem count_text (p : Part) : p.text.toList.count '?' = if p = place then 1 else 0 := by
  cases p with
  | word keyword => cases keyword <;> decide +kernel
  | column c =>
    cases c with
    | text c => cases c <;> decide +kernel
    | flag f => cases f <;> decide +kernel
    | _ => decide +kernel
  | place => decide +kernel

theorem count_render (ps : List Part) : (render ps).toList.count '?' = ps.count place := by
  induction ps with
  | nil => rfl
  | cons p ps ih =>
    rw [render, String.toList_append, List.count_append, ih, count_text, List.count_cons,
      Nat.add_comm]
    simp only [beq_iff_eq]

end Part

/-! ## Clauses -/

/-- The column that a contains-filter looks into. -/
def FilterColumn.column : FilterColumn → Column
  | .text c => .text c
  | .flag f => .flag f

namespace Listing

/-- The columns that the tables of fields list. -/
def fieldColumns : List Column :=
  containsLikeFields.map (·.2.column) ++ rangeFields.map (.text ·.2) ++ detailsSortFields.map (·.2)

/-- The parts of the clause of a contains-filter. -/
def containsParts : FilterColumn → List Part
  | .flag f => [.column (.flag f), .word .equals, .place]
  | .text c => [.column (.text c), .word .like, .place, .word .escape]

/-- The parts of the clause of a range filter. -/
def rangeParts (c : TextColumn) : List Part :=
  [.column (.text c), .word .between, .place, .word .conjunction, .place]

/-- The parts of the clause of all conditions. -/
def whereParts : List (List Part) → List Part
  | [] => []
  | clause :: clauses =>
    .word .conditions :: (clause ++ clauses.flatMap fun clause => .word .conjunction :: clause)

end Listing

/-- The word for a direction. -/
def Direction.word : Direction → Keyword
  | ascending => .ascending
  | descending => .descending

/-- The parts of the clause of a sorting. -/
def Sorting.parts (s : Sorting) : List Part :=
  [.word .orderBy, .column s.column, .word s.direction.word]

theorem Sorting.clause_eq (s : Sorting) : s.clause Column.name = Part.render s.parts := by
  have hword : " " ++ s.direction.keyword = Part.render [.word s.direction.word] := by
    cases s.direction <;> decide +kernel
  rw [clause, String.append_assoc, hword, String.append_assoc]
  rfl

theorem ContainsFilter.clause_eq (f : ContainsFilter) :
    f.condition.clause = Part.render (containsParts f.column) := by
  unfold condition
  cases f.column with
  | flag flag => exact congrArg (flag.name ++ ·) (by decide +kernel)
  | text c => exact congrArg (c.name ++ ·) (by decide +kernel)

theorem ContainsFilter.count_parts (f : ContainsFilter) :
    (containsParts f.column).count .place = f.condition.values.length := by
  unfold condition
  cases f.column <;> rfl

theorem RangeFilter.clause_eq (f : RangeFilter) :
    f.condition.clause = Part.render (rangeParts f.column) :=
  congrArg (f.column.name ++ ·) (by decide +kernel)

theorem RangeFilter.count_parts (f : RangeFilter) :
    (rangeParts f.column).count .place = f.condition.values.length := rfl

namespace Statement

theorem whereClause_eq {conditions : List Condition} {clauses : List (List Part)}
    (h : conditions.map (·.clause) = clauses.map Part.render) :
    whereClause conditions = Part.render (whereParts clauses) := by
  -- After the first clause each one brings the word that stands before it.
  have hjoin : ∀ (clause : List Part) (clauses : List (List Part)),
      " AND ".intercalate ((clause :: clauses).map Part.render) =
        Part.render (clause ++ clauses.flatMap fun clause => .word .conjunction :: clause) := by
    intro clause clauses
    induction clauses generalizing clause with
    | nil =>
      rw [List.flatMap_nil, List.append_nil]
      exact String.intercalate_singleton
    | cons next clauses ih =>
      have hnext := ih next
      rw [List.map_cons] at hnext
      rw [List.map_cons, List.map_cons, String.intercalate_cons_cons, hnext, List.flatMap_cons,
        Part.render_append clause, List.cons_append, Part.render, String.append_assoc]
      rfl
  unfold whereClause
  cases conditions with
  | nil =>
    obtain rfl : clauses = [] := List.map_eq_nil_iff.mp h.symm
    rfl
  | cons c cs =>
    rw [h]
    cases clauses with
    | nil => cases h
    | cons clause clauses => exact congrArg (" WHERE " ++ ·) (hjoin clause clauses)

theorem count_whereParts {conditions : List Condition} {clauses : List (List Part)}
    (h : conditions.map (·.values.length) = clauses.map (·.count .place)) :
    (whereParts clauses).count .place = (whereValues conditions).length := by
  have hsum : (whereParts clauses).count .place = (clauses.map (·.count .place)).sum := by
    cases clauses with
    | nil => rfl
    | cons clause clauses =>
      simp [whereParts, List.count_flatMap, Function.comp_def]
  rw [hsum, ← h, whereValues, List.length_flatMap]

theorem mem_whereParts {clauses : List (List Part)} {c : Column}
    (h : .column c ∈ whereParts clauses) : ∃ clause ∈ clauses, .column c ∈ clause := by
  cases clauses with
  | nil => cases h
  | cons clause clauses =>
    simpa [whereParts] using h

end Statement

/-! ## Outlines -/

/-- What a query settles about the words of its statements: the fields that it looks into, those
with a range, and its sorting. No value is part of it. -/
structure Query.Outline where
  contains : List String
  ranges : List String
  sortBy : Option String
  downwards : Bool
  deriving DecidableEq

/-- The outline of a query: its fields are in the spelling of the tables. -/
def Query.outline (q : Query) : Query.Outline :=
  { contains := q.contains.map (·.field)
    ranges := q.ranges.map (·.field)
    sortBy := q.sortBy
    downwards := q.order.any (Text.sameWord "desc") }

namespace Query.Outline

/-- The clauses of the conditions of an outline. -/
def clauses (o : Outline) : List (List Part) :=
  o.contains.map (fun field => ((containsLikeFields.lookup field).map containsParts).getD []) ++
    o.ranges.map (fun field => ((rangeFields.lookup field).map rangeParts).getD [])

/-- The sorting of an outline. -/
def sorting (o : Outline) : Sorting :=
  match o.sortBy.bind fun field => detailsSortFields.lookup field with
  | none => .byId
  | some column =>
    { column := column, direction := if o.downwards then .descending else .ascending }

/-- The parts of the statement that counts the devices. -/
def countParts (o : Outline) : List Part :=
  [.word .countAll, .word .devices] ++ whereParts o.clauses ++ []

/-- The parts of the statement that counts the devices by state. -/
def stateParts (o : Outline) : List Part :=
  [.word .select, .column (.text .state), .word .countOf, .column (.text .state),
    .word .countFrom, .word .devices] ++ whereParts o.clauses ++
    [.word .groupBy, .column (.text .state)]

/-- The parts of the statement that fetches a page. -/
def pageParts (o : Outline) : List Part :=
  [.word .selectAll, .word .devices] ++ whereParts o.clauses ++
    (o.sorting.parts ++ [.word .limit, .place, .word .offset, .place])

end Query.Outline

/-! ## Queries that are read -/

theorem Listing.lookup_containsLikeFields {e : String × FilterColumn}
    (h : e ∈ containsLikeFields) : containsLikeFields.lookup e.1 = some e.2 := by
  revert e
  decide +kernel

theorem Listing.lookup_detailsSortFields {e : String × Column} (h : e ∈ detailsSortFields) :
    detailsSortFields.lookup e.1 = some e.2 := by
  revert e
  decide +kernel

theorem Direction.ofRequest_eq (order : Option String) :
    ofRequest order =
      if order.any (Text.sameWord "desc") then .descending else .ascending := by
  split
  · next h =>
    obtain ⟨word, rfl, hword⟩ := (Option.any_eq_true _ _).mp h
    exact ofRequest_eq_descending.mpr ⟨word, rfl, hword⟩
  · next h =>
    cases hdirection : ofRequest order with
    | ascending => rfl
    | descending =>
      obtain ⟨word, rfl, hword⟩ := ofRequest_eq_descending.mp hdirection
      exact absurd hword (by simpa using h)

theorem mapM_eq_pure {m : Type → Type} [Monad m] [LawfulMonad m] {α β : Type} {f : α → m β}
    {g : α → β} {l : List α} (h : ∀ a ∈ l, f a = pure (g a)) : l.mapM f = pure (l.map g) := by
  induction l with
  | nil => exact List.mapM_nil
  | cons a l ih =>
    obtain ⟨ha, hl⟩ := List.forall_mem_cons.mp h
    rw [List.mapM_cons, ha, ih hl, pure_bind, pure_bind, List.map_cons]

/-- The conditions that are made of fields, in the spelling of the table, and values to look for. -/
def Listing.buildContains (pairs : List (String × String)) : Option (List Condition) :=
  pairs.mapM fun (field, value) => (containsLikeFields.lookup field).map fun column =>
    ContainsFilter.condition { field := field, column := column, value := value }

/-- The conditions that are made of fields, in the spelling of the table, and written ranges. -/
def Listing.buildRanges (pairs : List (String × String)) : Except RangeFault (List Condition) :=
  pairs.mapM fun (field, value) => (rangeFilter field value).map (·.condition)

/-- Everything of a query can be built from its fields and values as they are written. -/
structure Query.Builds (q : Query) : Prop where
  contains : buildContains (q.contains.map fun f => (f.field, f.value)) =
    some (q.contains.map (·.condition))
  ranges : buildRanges (q.ranges.map fun f => (f.field, f.value)) =
    .ok (q.ranges.map (·.condition))
  sorting : ∀ field, q.sortBy = some field →
    detailsSortFields.lookup field = some q.sorting.column

namespace Query.Reads

variable {params : Params} {q : Query}

theorem mem_containsLikeFields (h : q.Reads params) :
    ∀ f ∈ q.contains, (f.field, f.column) ∈ containsLikeFields := by
  refine (forall_mem_iff_of_forall₂ (P := fun _ => True) h.contains ?_).mpr fun _ _ => trivial
  exact fun _ _ f hf => iff_true_intro (FieldTable.mem_of_resolve? hf.field).1

theorem rangeFilter_eq (h : q.Reads params) :
    ∀ f ∈ q.ranges, (f.field, f.column) ∈ rangeFields ∧ rangeFilter f.field f.value = .ok f := by
  refine (forall_mem_iff_of_forall₂ (P := fun _ => True) h.ranges ?_).mpr fun _ _ => trivial
  intro pair _ f hf
  have hmem := (FieldTable.mem_of_resolve? hf.field).1
  exact iff_true_intro ⟨hmem, rangeFilter_eq_ok hmem (hf.value ▸ hf.ends)⟩

/-- The field that a query is sorted by is a name of the table, and its column is the one there. -/
theorem sorting_of_sortBy (h : q.Reads params) :
    q.sortBy = none ∧ q.sorting = .byId ∨
      ∃ e ∈ detailsSortFields, q.sortBy = some e.1 ∧
        q.sorting = { column := e.2, direction := Direction.ofRequest q.order } := by
  unfold sorting Sorting.ofRequest
  rw [h.sortBy]
  cases hfound : (Text.filled? (sortParam? params)).bind detailsSortFields.resolve? with
  | none => exact .inl ⟨rfl, rfl⟩
  | some e =>
    obtain ⟨field, -, he⟩ := Option.bind_eq_some_iff.mp hfound
    have hmem := (FieldTable.mem_of_resolve? he).1
    refine .inr ⟨e, hmem, rfl, ?_⟩
    rw [Option.map_some, resolve?_name hmem]

theorem builds (h : q.Reads params) : q.Builds := by
  refine ⟨?_, ?_, fun field hfield => ?_⟩
  · unfold buildContains
    rw [List.mapM_map, mapM_eq_pure (g := (·.condition))]
    · rfl
    · intro f hf
      exact congrArg (Option.map _) (lookup_containsLikeFields (h.mem_containsLikeFields f hf))
  · unfold buildRanges
    rw [List.mapM_map, mapM_eq_pure (g := (·.condition))]
    · rfl
    · intro f hf
      exact congrArg (Except.map _) (h.rangeFilter_eq f hf).2
  · rcases h.sorting_of_sortBy with ⟨hnone, -⟩ | ⟨e, he, hsome, hsorting⟩
    · rw [hnone] at hfield
      cases hfield
    · obtain rfl : e.1 = field := Option.some.inj (hsome.symm.trans hfield)
      rw [hsorting, lookup_detailsSortFields he]

theorem sorting_outline (h : q.Reads params) : q.outline.sorting = q.sorting := by
  rcases h.sorting_of_sortBy with ⟨hnone, hsorting⟩ | ⟨e, he, hsome, hsorting⟩
  · rw [hsorting, outline, Outline.sorting, hnone]
    rfl
  · rw [hsorting, outline, Outline.sorting, hsome, Direction.ofRequest_eq, Option.bind_some,
      lookup_detailsSortFields he]

theorem clauses_eq (h : q.Reads params) :
    q.outline.clauses = q.contains.map (fun f => containsParts f.column) ++
      q.ranges.map (fun f => rangeParts f.column) := by
  unfold Outline.clauses outline
  rw [List.map_map, List.map_map]
  congr 1
  · refine List.map_congr_left fun f hf => ?_
    rw [Function.comp_apply, lookup_containsLikeFields (h.mem_containsLikeFields f hf)]
    rfl
  · refine List.map_congr_left fun f hf => ?_
    rw [Function.comp_apply, lookup_rangeFields (h.rangeFilter_eq f hf).1]
    rfl

theorem map_clause (h : q.Reads params) :
    q.conditions.map (·.clause) = q.outline.clauses.map Part.render := by
  rw [h.clauses_eq, conditions]
  simp only [List.map_append, List.map_map, Function.comp_def, ContainsFilter.clause_eq,
    RangeFilter.clause_eq]

theorem map_length_values (h : q.Reads params) :
    q.conditions.map (·.values.length) = q.outline.clauses.map (·.count .place) := by
  rw [h.clauses_eq, conditions]
  simp only [List.map_append, List.map_map, Function.comp_def, ContainsFilter.count_parts,
    RangeFilter.count_parts]

theorem columns_clauses (h : q.Reads params) {c : Column}
    (hc : .column c ∈ whereParts q.outline.clauses) : c ∈ fieldColumns := by
  obtain ⟨clause, hclause, hc⟩ := Statement.mem_whereParts hc
  rw [h.clauses_eq] at hclause
  rcases List.mem_append.mp hclause with hclause | hclause
  · obtain ⟨f, hf, rfl⟩ := List.mem_map.mp hclause
    have hlisted : f.column.column ∈ fieldColumns :=
      List.mem_append_left _ (List.mem_append_left _
        (List.mem_map_of_mem (h.mem_containsLikeFields f hf)))
    cases hcolumn : f.column with
    | flag flag =>
      obtain rfl : c = .flag flag := by simpa [containsParts, hcolumn] using hc
      rwa [hcolumn] at hlisted
    | text column =>
      obtain rfl : c = .text column := by simpa [containsParts, hcolumn] using hc
      rwa [hcolumn] at hlisted
  · obtain ⟨f, hf, rfl⟩ := List.mem_map.mp hclause
    obtain rfl : c = .text f.column := by simpa [rangeParts] using hc
    exact List.mem_append_left _ (List.mem_append_right _
      (List.mem_map_of_mem (h.rangeFilter_eq f hf).1))

theorem column_sorting (h : q.Reads params) : q.sorting.column ∈ fieldColumns := by
  rcases h.sorting_of_sortBy with ⟨-, hsorting⟩ | ⟨e, he, -, hsorting⟩
  · rw [hsorting]
    decide +kernel
  · rw [hsorting]
    exact List.mem_append_right _ (List.mem_map_of_mem he)

end Query.Reads

/-! ## Statements -/

/-- A statement is made up of parts: its columns are listed in the tables of fields, it has a value
for each place, and its integers can be taken. -/
structure Statement.IsWorded (st : Statement) (parts : List Part) : Prop where
  text : st.text = Part.render parts
  columns : ∀ c, .column c ∈ parts → c ∈ fieldColumns
  places : st.text.toList.count '?' = st.values.length
  bindable : ∀ n, .int n ∈ st.values → Store.bindable n = .ok ()

namespace Statement

theorem bindable_whereValues {conditions : List Condition} {n : Int}
    (hn : .int n ∈ whereValues conditions) : Store.bindable n = .ok () := by
  obtain ⟨c, -, hn⟩ := List.mem_flatMap.mp hn
  cases c with
  | flagIs f set =>
    obtain rfl : n = flagValue set := by simpa [Condition.values] using hn
    cases set <;> rfl
  | like c pattern => simp [Condition.values] at hn
  | between c low high => simp [Condition.values] at hn

theorem bindable_pageValues {page size : Option String} {k n : Nat}
    (hpage : resolvePage page = .ok k) (hsize : resolveSize size = .ok n) {m : Int}
    (hm : m ∈ pageValues k n) : Store.bindable m = .ok () := by
  obtain ⟨hlow, hhigh⟩ := bounds_of_mem_pageValues hpage hsize hm
  have hmin : -Store.maxInteger - 1 ≤ 0 := by decide
  exact if_pos ⟨hmin.trans hlow, hhigh⟩

end Statement

namespace Query

/-- The statements of a query: its count, its counts by state and its page. -/
def statements (q : Query) : List Statement :=
  [q.countStatement, q.stateStatement, q.pageStatement]

/-- The parts of the three statements. -/
def Outline.statements (o : Outline) : List (List Part) :=
  [o.countParts, o.stateParts, o.pageParts]

namespace Reads

variable {params : Params} {q : Query}

/-- What stands before and after the clause of the conditions, and its values, settle the rest of a
statement. -/
theorem isWorded (h : q.Reads params) {st : Statement} (before behind : List Part)
    (values : List Cell)
    (text : st.text = Part.render before ++ Statement.whereClause q.conditions ++
      Part.render behind)
    (bound : st.values = Statement.whereValues q.conditions ++ values)
    (columns : ∀ c, .column c ∈ before ++ behind → c ∈ fieldColumns)
    (places : before.count .place + behind.count .place = values.length)
    (bindable : ∀ n, .int n ∈ values → Store.bindable n = .ok ()) :
    st.IsWorded (before ++ whereParts q.outline.clauses ++ behind) := by
  have hrender : st.text = Part.render (before ++ whereParts q.outline.clauses ++ behind) := by
    rw [text, Statement.whereClause_eq h.map_clause, Part.render_append, Part.render_append]
  refine ⟨hrender, fun c hc => ?_, ?_, fun n hn => ?_⟩
  · rcases List.mem_append.mp hc with hc | hc
    · rcases List.mem_append.mp hc with hc | hc
      · exact columns c (List.mem_append_left _ hc)
      · exact h.columns_clauses hc
    · exact columns c (List.mem_append_right _ hc)
  · rw [hrender, Part.count_render, List.count_append, List.count_append,
      Statement.count_whereParts h.map_length_values, bound, List.length_append, ← places]
    omega
  · rw [bound] at hn
    rcases List.mem_append.mp hn with hn | hn
    · exact Statement.bindable_whereValues hn
    · exact bindable n hn

theorem isWorded_count (h : q.Reads params) : q.countStatement.IsWorded q.outline.countParts := by
  have hbefore : "SELECT COUNT(*) FROM " ++ Statement.devices =
      Part.render [.word .countAll, .word .devices] := by
    decide +kernel
  unfold Outline.countParts
  refine h.isWorded _ _ [] ?_ (List.append_nil _).symm (by simp) rfl (by simp)
  show "SELECT COUNT(*) FROM " ++ Statement.devices ++ Statement.whereClause q.conditions = _
  rw [hbefore, Part.render_nil, String.append_empty]

theorem isWorded_state (h : q.Reads params) : q.stateStatement.IsWorded q.outline.stateParts := by
  have hbefore : "SELECT state, COUNT(state) AS count FROM " ++ Statement.devices =
      Part.render [.word .select, .column (.text .state), .word .countOf, .column (.text .state),
        .word .countFrom, .word .devices] := by
    decide +kernel
  have hbehind : " GROUP BY state" = Part.render [.word .groupBy, .column (.text .state)] := by
    decide +kernel
  have hstate : .text .state ∈ fieldColumns := by decide +kernel
  unfold Outline.stateParts
  refine h.isWorded _ _ [] ?_ (List.append_nil _).symm (fun c hc => ?_) rfl (by simp)
  · show "SELECT state, COUNT(state) AS count FROM " ++ Statement.devices ++
      Statement.whereClause q.conditions ++ " GROUP BY state" = _
    rw [hbefore, hbehind]
  · obtain rfl : c = .text .state := by simpa using hc
    exact hstate

theorem isWorded_page (h : q.Reads params) : q.pageStatement.IsWorded q.outline.pageParts := by
  have hbefore : "SELECT * FROM " ++ Statement.devices =
      Part.render [.word .selectAll, .word .devices] := by
    decide +kernel
  have hbehind : Statement.pageClause =
      Part.render [.word .limit, .place, .word .offset, .place] := by
    decide +kernel
  unfold Outline.pageParts
  refine h.isWorded _ _ ((Statement.pageValues q.page q.size).map Cell.int) ?_ rfl
    (fun c hc => ?_) rfl (fun n hn => ?_)
  · show "SELECT * FROM " ++ Statement.devices ++ Statement.whereClause q.conditions ++
      q.sorting.clause Column.name ++ Statement.pageClause = _
    rw [hbefore, hbehind, Sorting.clause_eq, Part.render_append, h.sorting_outline,
      ← String.append_assoc]
  · obtain rfl : c = q.sorting.column := by
      simpa [Sorting.parts, h.sorting_outline] using hc
    exact h.column_sorting
  · obtain ⟨m, hm, hmn⟩ := List.mem_map.mp hn
    cases hmn
    exact Statement.bindable_pageValues h.page h.size hm

theorem isWorded_statements (h : q.Reads params) :
    List.Forall₂ Statement.IsWorded q.statements q.outline.statements :=
  .cons h.isWorded_count (.cons h.isWorded_state (.cons h.isWorded_page .nil))

end Reads

/-- Every query that is read can be built from its fields and values as they are written, and its
three statements are made up of the parts that its outline settles: fixed words, listed columns, and
as many places as there are values, whose integers can be taken. So two requests with one outline
have statements of the same texts, whatever their values and pages are. -/
theorem statements_worded :
    (∀ (params : Params) (q : Query), ofRequest params = .ok q →
      q.Builds ∧ List.Forall₂ Statement.IsWorded q.statements q.outline.statements) ∧
    ∀ (params params' : Params) (q q' : Query), ofRequest params = .ok q →
      ofRequest params' = .ok q' → q.outline = q'.outline →
      q.statements.map (·.text) = q'.statements.map (·.text) := by
  have htexts : ∀ (params : Params) (q : Query), ofRequest params = .ok q →
      q.statements.map (·.text) = q.outline.statements.map Part.render := by
    intro params q hq
    have hreads := reads_of_ofRequest hq
    simp only [statements, Outline.statements, List.map_cons, List.map_nil,
      hreads.isWorded_count.text, hreads.isWorded_state.text, hreads.isWorded_page.text]
  refine ⟨fun params q hq => ⟨(reads_of_ofRequest hq).builds,
    (reads_of_ofRequest hq).isWorded_statements⟩, fun params params' q q' hq hq' houtline => ?_⟩
  rw [htexts params q hq, htexts params' q' hq', houtline]

/-- Two requests that look for different values in the same fields, some of them full of signs that
mean something in a statement. -/
theorem statements_worded_signs :
    let params : Params := [("isDetailsRequired", some "true"),
      ("containsLikeFields", some "model,isStolen"), ("containsLikeValues", some "M,true"),
      ("rangeFields", some "createdDate"), ("rangeValues", some "0_1"),
      ("sortBy", some "imei"), ("sortingOrder", some "desc")]
    let params' : Params := [("isDetailsRequired", some "false"),
      ("containsLikeFields", some "MODEL,isstolen"),
      ("containsLikeValues", some "'?%_\\;--,FALSE"),
      ("rangeFields", some "createddate"), ("rangeValues", some "1000_2000"),
      ("sortByParam", some "IMEI"), ("sortingOrder", some "DESC"), ("page", some "2")]
    ∃ q q', ofRequest params = .ok q ∧ ofRequest params' = .ok q' ∧ q ≠ q' ∧
      q.outline = q'.outline ∧ q.statements.map (·.text) = q'.statements.map (·.text) ∧
      q'.Builds := by
  intro params params'
  have hread : ((ofRequest params).toOption.any fun q => (ofRequest params').toOption.any fun q' =>
      decide (q ≠ q') && decide (q.outline = q'.outline)) = true := by
    decide +kernel
  obtain ⟨q, hq, hread⟩ := (Option.any_eq_true _ _).mp hread
  obtain ⟨q', hq', hread⟩ := (Option.any_eq_true _ _).mp hread
  simp only [Bool.and_eq_true, decide_eq_true_eq] at hread
  obtain ⟨hne, houtline⟩ := hread
  rw [toOption_eq_some] at hq hq'
  obtain ⟨hbuilt, hsame⟩ := statements_worded
  exact ⟨q, q', hq, hq', hne, houtline, hsame params params' q q' hq hq' houtline,
    (hbuilt params' q' hq').1⟩

end Query

end DeviceRegistry
