import LogQuery.Proofs.Pipelines

/-!
# Repeated stages

A stage that chooses, orders, projects or counts off rows from the start does nothing when it is run
a second time (`run_run`). Of rows that a condition has kept the condition holds, and they are in
the order of its keys, however many disjunctions have had a part in it; rows that are sorted are in
the order of the sort; a projection and distinct rows show of their columns what was there.
-/

namespace LogQuery

/-- What a condition has kept it keeps, in the order in which it has selected it. -/
theorem Condition.filter_filter (condition : Condition) (rows : List Record) :
    condition.filter (condition.filter rows) = condition.filter rows := by
  rw [filter_eq_sortedBy, filter_eq_sortedBy, filter_sortedBy, List.filter_filter]
  simp only [Bool.and_self, sortedBy_self]

namespace Stage

/-- Sorted rows are left in their order. -/
theorem sortRows_sortRows (column : String) (direction : Direction) (rows : List Record) :
    sortRows column direction (sortRows column direction rows) =
      sortRows column direction rows := by
  rw [sortRows_eq_sortedBy column direction rows, sortRows_eq_sortedBy, sortedBy_self]

/-- A projection finds all that it looks for in a row that it has projected. -/
theorem projectRow_projectRow (columns : List String) (row : Record) :
    projectRow columns (projectRow columns row) = projectRow columns row := by
  have hvalues : columns.filterMap
        (fun column => ((projectRow columns row).get? column).map (column, ·)) =
      columns.filterMap fun column => (row.get? column).map (column, ·) := by
    refine List.filterMap_congr ?_
    intro column hcolumn
    rw [get?_projectRow hcolumn]
  rw [projectRow, hvalues, projectRow]

/-- Projected rows have no other columns to lose. -/
theorem projectRows_projectRows (columns : List String) (rows : List Record) :
    projectRows columns (projectRows columns rows) = projectRows columns rows := by
  rw [projectRows_eq_map, projectRows_eq_map, List.map_map]
  refine List.map_congr_left ?_
  intro row _
  exact projectRow_projectRow columns row

/-- Distinct rows have different texts, and each of them is the row that is made of it. -/
theorem distinctRows_distinctRows (column : String) (rows : List Record) :
    distinctRows column (distinctRows column rows) = distinctRows column rows := by
  have hnodup : ((distinctRows column rows).map (Record.text · column)).Nodup := by
    rw [map_text_distinctRows]
    exact nodup_columnTexts column rows
  rw [distinctRows, firstByKey_of_nodup hnodup]
  refine (List.map_congr_left ?_).trans (List.map_id _)
  intro row hrow
  obtain ⟨row, -, rfl⟩ := List.mem_map.mp hrow
  rw [get?_ofPairs_singleton]
  rfl

/-- No more rows are left to drop. -/
theorem limitRows_limitRows {n : Int} (h : 0 ≤ n) (rows : List Record) :
    limitRows n (limitRows n rows) = limitRows n rows := by
  rw [limitRows, limitRows, if_pos h, if_pos h, List.take_take, Nat.min_self]

/-- The stages that are not worth repeating. -/
inductive IsRepeatable : Stage → Prop where
  | filter (condition : Condition) : IsRepeatable (.filter condition)
  | project (columns : List String) : IsRepeatable (.project columns)
  | sort (column : String) (direction : Direction) : IsRepeatable (.sort column direction)
  | distinct (column : String) : IsRepeatable (.distinct column)
  | limit {n : Int} (h : 0 ≤ n) : IsRepeatable (.limit n)

/-- A filter, a projection, a sort, distinct rows and a limit that keeps rows from the start give
the same rows in the same order when they are run once more on what they have given. -/
theorem run_run {stage : Stage} (h : stage.IsRepeatable) (rows : List Record) :
    stage.run (stage.run rows) = stage.run rows := by
  cases h with
  | filter condition => exact condition.filter_filter rows
  | project columns => exact projectRows_projectRows columns rows
  | sort column direction => exact sortRows_sortRows column direction rows
  | distinct column => exact distinctRows_distinctRows column rows
  | limit h => exact limitRows_limitRows h rows

/-- Two disjunctions, the second of which lists later ones of `sampleRows` first. -/
def reorderingCondition : Condition :=
  .all [.any [.equals "c" "true", .contains "g" ""], .any [.differs "g" "", .contains "c" "1"]]

theorem run_run_sampleRows :
    (filter reorderingCondition).IsRepeatable ∧
      ((filter reorderingCondition).run sampleRows).map (Record.text · "g") = ["7", "7", "", ""] ∧
        (filter reorderingCondition).run ((filter reorderingCondition).run sampleRows) =
          (filter reorderingCondition).run sampleRows := by
  have hrepeatable : (filter reorderingCondition).IsRepeatable := .filter reorderingCondition
  exact ⟨hrepeatable, by decide +kernel, run_run hrepeatable sampleRows⟩

end Stage

end LogQuery
