import LogQuery.Proofs.SortedRows
import LogQuery.Query

/-!
# Answers of pipelines

How the answer to a query follows from what is known of the rows of its table, when the rows
themselves are not known. A query is its table and its stages (`execute_of_pipeline?`). What stages
do is said in terms of the texts that rows show: conditions choose among the texts of their column
(`map_text_filter_contains`), a projection keeps the texts of its columns
(`map_text_projectRows`), and of distinct rows those are chosen that were chosen before
(`map_text_filter_contains_distinctRows`). Of rows in descending order the first is known when no
other has as great a text (`limitRows_one_sortRows`).
-/

namespace LogQuery

open Text

namespace Stage

/-- What stages make of rows, one after the other. -/
def runAll (stages : List Stage) (rows : List Record) : List Record :=
  stages.foldl (fun rows stage => stage.run rows) rows

end Stage

namespace Query

/-- The table that a query starts from, and its stages. -/
def pipeline? (query : String) : Option (String × List Stage) :=
  (Script.parse? query).map fun script => (script.table, script.stages.map Stage.parse)

/-- A query answers what its stages make of the rows of its table. -/
theorem execute_of_pipeline? {store : Store} {query table : String} {stages : List Stage}
    {rows : List Record} (hquery : pipeline? query = some (table, stages))
    (hrows : store.get? table = some rows) (elapsed : Float) :
    execute store query elapsed = .ofRows (Stage.runAll stages rows) elapsed := by
  obtain ⟨script, hscript, hpair⟩ := Option.map_eq_some_iff.mp hquery
  obtain ⟨rfl, rfl⟩ := Prod.mk.inj hpair
  have hrun : run store query = .ok (runStages script.stages rows) := by
    rw [run, hscript]
    simp only [hrows]
  rw [execute, hrun, Stage.runAll, List.foldl_map]
  rfl

end Query

namespace QueryResult

/-- The texts that an answer shows in a column. -/
def texts (result : QueryResult) (column : String) : List String :=
  result.rows.map (Record.text · column)

/-- The columns of an answer are the names that all rows have. -/
theorem columns_ofRows {rows : List Record} {columns : List String} (hne : rows ≠ [])
    (h : ∀ row ∈ rows, row.names = columns) (elapsed : Float) :
    (ofRows rows elapsed).columns = columns := by
  cases rows with
  | nil => exact absurd rfl hne
  | cons row rest => exact h row List.mem_cons_self

end QueryResult

/-- A count of fewer than `2 ^ 63` things shows its digits. -/
theorem Value.text_ofCount {n : Nat} (h : n < 2 ^ 63) :
    (Value.ofCount n).text = String.ofList (Decimal.digits n) := by
  obtain ⟨m, hm, hvalue⟩ := Stage.exists_ofCount_eq h
  rw [hm, Value.text, hvalue, Decimal.wholeText, if_neg (by omega), Int.natAbs_natCast]

namespace Condition

/-- Whether a text contains a value, letters of either size being the same. -/
def containsText (value text : String) : Bool :=
  occurs (lowercase value.toList) (lowercase text.toList)

theorem holds_contains (field value : String) (row : Record) :
    (contains field value).holds row = containsText value (Record.text row field) := by
  rw [holds, containsText]

/-- Whether a text holds a timestamp whose hour compares with the given one. -/
def hourHolds (operator : HourOperator) (hour : Int) (text : String) : Bool :=
  match Time.timestamp? text.toList with
  | some t => operator.holds t.utcHour hour
  | none => false

theorem holds_hourOfDay (field : String) (operator : HourOperator) (hour : Int) (row : Record) :
    (hourOfDay field operator hour).holds row =
      hourHolds operator hour (Record.text row field) := by
  rw [holds]
  rfl

theorem holds_equals (field value : String) (row : Record) :
    (equals field value).holds row = (Record.text row field == value) := by rw [holds]

/-- Asking what a column contains chooses among its texts. -/
theorem map_text_filter_contains (field value : String) (rows : List Record) :
    ((contains field value).filter rows).map (Record.text · field) =
      (rows.map (Record.text · field)).filter (containsText value) := by
  rw [filter_of_isSimple rfl, List.filter_map]
  refine congrArg _ (List.filter_congr fun row _ => ?_)
  exact holds_contains field value row

/-- A conjunction of simple conditions keeps the rows of which it holds in their order. -/
theorem filter_all {parts : List Condition} (h : ∀ part ∈ parts, part.isSimple = true)
    (rows : List Record) : (all parts).filter rows = rows.filter (allHold parts) := by
  have horFree : (all parts).IsOrFree := .all fun part hpart => .simple (h part hpart)
  rw [horFree.filter_eq]
  exact List.filter_congr fun row _ => holds_all parts row

end Condition

namespace Stage

variable {column : String} {rows : List Record}

/-! ## Projections and distinct rows -/

theorem get?_insertAll_filterMap {m row : Record} {columns : List String} :
    (m.insertAll (columns.filterMap fun name => (row.get? name).map (name, ·))).get? column =
      if column ∈ columns then (row.get? column).or (m.get? column) else m.get? column := by
  induction columns generalizing m with
  | nil => rfl
  | cons name columns ih =>
    rw [List.filterMap_cons]
    cases hvalue : row.get? name with
    | none =>
      rw [Option.map_none]
      by_cases hname : column = name
      · subst hname
        simp [ih, hvalue]
      · simp [ih, hname]
    | some value =>
      rw [Option.map_some]
      show ((m.insert name value).insertAll _).get? column = _
      rw [ih, OrderedMap.get?_insert]
      by_cases hname : name = column
      · subst hname
        simp [hvalue]
      · have hname' : ¬column = name := fun e => hname e.symm
        simp [hname, hname']

/-- A row with only the named columns, in the order in which they are named. -/
def projectRow (columns : List String) (row : Record) : Record :=
  .ofPairs (columns.filterMap fun column => (row.get? column).map (column, ·))

theorem projectRows_eq_map (columns : List String) (rows : List Record) :
    projectRows columns rows = rows.map (projectRow columns) := rfl

/-- A projection keeps the values of its columns, and what a row lacks it does not have afterwards
either. -/
theorem get?_projectRow {columns : List String} (h : column ∈ columns) (row : Record) :
    (projectRow columns row).get? column = row.get? column := by
  rw [projectRow, OrderedMap.ofPairs, get?_insertAll_filterMap, if_pos h]
  exact Option.or_none

theorem text_projectRow {columns : List String} (h : column ∈ columns) (row : Record) :
    Record.text (projectRow columns row) column = Record.text row column := by
  rw [Record.text, Record.text, get?_projectRow h]

theorem map_text_projectRows {columns : List String} (h : column ∈ columns) (rows : List Record) :
    (projectRows columns rows).map (Record.text · column) = rows.map (Record.text · column) := by
  rw [projectRows_eq_map, List.map_map]
  exact List.map_congr_left fun row _ => text_projectRow h row

/-- Among the texts of a column it makes no difference whether they are chosen before or after each
is taken once. -/
theorem map_text_filter_contains_distinctRows (column value : String) (rows : List Record) :
    ((Condition.contains column value).filter (distinctRows column rows)).map
        (Record.text · column) =
      firstByKey id []
        ((rows.map (Record.text · column)).filter (Condition.containsText value)) := by
  have hsame : ∀ a b : String, id a = id b →
      Condition.containsText value a = Condition.containsText value b := fun _ _ => congrArg _
  rw [Condition.map_text_filter_contains, map_text_distinctRows, columnTexts,
    filter_firstByKey hsame]

/-! ## The greatest row -/

/-- The first row in descending order, when all other rows have lesser texts. -/
theorem limitRows_one_sortRows {row : Record} (hmem : row ∈ rows)
    (h : ∀ other ∈ rows, other = row ∨ Record.text other column < Record.text row column) :
    limitRows 1 (sortRows column .descending rows) = [row] := by
  have hperm := perm_sortRows column .descending rows
  have hsorted : (sortRows column .descending rows).Pairwise fun a b =>
      Record.text b column ≤ Record.text a column := by
    rw [sortRows_eq_sortedBy]
    exact pairwise_sortedBy (fun row => Direction.descending.key (Record.text row column)) rows
  have hrow := hperm.mem_iff.mpr hmem
  cases hrows : sortRows column .descending rows with
  | nil => simp [hrows] at hrow
  | cons first rest =>
    rw [hrows] at hperm hsorted hrow
    have hfirst : first = row := by
      refine (h first (hperm.subset List.mem_cons_self)).resolve_right fun hlt => ?_
      rcases List.mem_cons.mp hrow with rfl | hrest
      · exact String.lt_irrefl _ hlt
      · exact String.not_lt.mpr (List.rel_of_pairwise_cons hsorted hrest) hlt
    rw [hfirst]
    rfl

/-! ## Groups -/

/-- Where all texts differ, there are as many of them as rows. -/
theorem distinctTexts_of_nodup (h : (rows.map (Record.text · column)).Nodup) :
    distinctTexts column rows = rows.length := by
  rw [distinctTexts_eq_length_distinctRows, length_distinctRows, columnTexts,
    firstByKey_of_nodup (by rwa [List.map_id]), List.length_map]

/-- Rows that all show the same text make one group. -/
theorem summarizeRows_of_map_eq_replicate {plan : SummaryPlan} {key : String} {n : Nat}
    (hgroup : plan.groupBy = some column)
    (h : rows.map (Record.text · column) = List.replicate (n + 1) key) :
    summarizeRows plan rows = [groupRow plan column key rows] := by
  have htexts : columnTexts column rows = [key] := by
    have hrest : ∀ text ∈ firstByKey id [] (List.replicate n key), text = key := fun text htext =>
      List.eq_of_mem_replicate ((firstByKey_sublist _ _ _).subset htext)
    rw [columnTexts, h, List.replicate_succ, firstByKey, if_neg (by simp), firstByKey_eq_filter]
    simpa using hrest
  have hkey : rows.filter (Record.text · column == key) = rows := by
    refine List.filter_eq_self.mpr fun row hrow => beq_iff_eq.mpr ?_
    refine List.eq_of_mem_replicate (n := n + 1) ?_
    rw [← h]
    exact List.mem_map_of_mem hrow
  rw [summarizeRows_eq_map hgroup, htexts, List.map_singleton, hkey]

end Stage

end LogQuery
