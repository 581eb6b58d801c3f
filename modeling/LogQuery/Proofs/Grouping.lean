import LogQuery.Proofs.SelectionOrder
import LogQuery.Stage.Run
import Mathlib.Algebra.Order.Ring.Nat

/-!
# Groups, distinct rows and conditions

A summary agrees with the other ways of looking at the same rows
(`summarizeRows_counts_distinctRows`): its groups are the distinct rows of the grouping column, what
it counts in a group is what an equality on that column keeps, and its distinct counts are counts of
distinct rows.

The groups are built row by row. `Groups.Describes` says what they are at every moment; one row
keeps it (`Groups.Describes.add`), hence any number of rows does (`Groups.Describes.foldl`).
-/

namespace LogQuery.Stage

/-- The texts of a column, each once, in the order in which they are first met. -/
def columnTexts (column : String) (rows : List Record) : List String :=
  firstByKey id [] (rows.map (Record.text · column))

theorem nodup_columnTexts (column : String) (rows : List Record) :
    (columnTexts column rows).Nodup := by
  have h := nodup_map_firstByKey (id : String → String) [] (rows.map (Record.text · column))
  rwa [List.map_id] at h

theorem mem_columnTexts {column text : String} {rows : List Record} :
    text ∈ columnTexts column rows ↔ ∃ row ∈ rows, Record.text row column = text := by
  have h : text ∈ (firstByKey id [] (rows.map (Record.text · column))).map id ↔ _ :=
    mem_map_firstByKey
  simpa [columnTexts] using h

/-! ## Distinct rows -/

theorem get?_ofPairs_singleton (column : String) (value : Value) :
    (OrderedMap.ofPairs [(column, value)]).get? column = some value :=
  OrderedMap.get?_insertAll_cons value List.not_mem_nil

/-- A row that lacks a column has the text of the null value there. -/
theorem text_eq_text_getD (row : Record) (column : String) :
    Record.text row column = ((row.get? column).getD .null).text := by
  rw [Record.text]
  cases row.get? column with
  | none => rfl
  | some value => rfl

/-- The text of a column of a distinct row is that of the row it was made of. -/
theorem text_ofPairs_getD (row : Record) (column : String) :
    Record.text (.ofPairs [(column, (row.get? column).getD .null)]) column =
      Record.text row column := by
  rw [text_eq_text_getD, get?_ofPairs_singleton, Option.getD_some, ← text_eq_text_getD]

/-- The distinct rows show the texts of the column, in their order. -/
theorem map_text_distinctRows (column : String) (rows : List Record) :
    (distinctRows column rows).map (Record.text · column) = columnTexts column rows := by
  rw [distinctRows, List.map_map, columnTexts, ← map_firstByKey]
  refine List.map_congr_left fun row _ => ?_
  exact text_ofPairs_getD row column

theorem length_distinctRows (column : String) (rows : List Record) :
    (distinctRows column rows).length = (columnTexts column rows).length := by
  rw [← map_text_distinctRows, List.length_map]

/-- A column has as many different texts as there are distinct rows. -/
theorem distinctTexts_eq_length_distinctRows (column : String) (rows : List Record) :
    distinctTexts column rows = (distinctRows column rows).length := by
  rw [length_distinctRows, distinctTexts, ← Std.HashSet.length_toList]
  have hnodup : (Std.HashSet.ofList (rows.map (Record.text · column))).toList.Nodup :=
    Std.HashSet.distinct_toList.imp fun hab => by simpa using hab
  refine ((List.perm_ext_iff_of_nodup hnodup (nodup_columnTexts column rows)).mpr
    fun text => ?_).length_eq
  rw [Std.HashSet.mem_toList, Std.HashSet.mem_ofList, mem_columnTexts]
  simp

/-! ## Groups -/

/-- Groups describe rows when they are named by the texts of the column, in the order in which these
are first met, and each has the rows with its text, in their order. -/
structure Groups.Describes (column : String) (rows : List Record) (groups : Groups) : Prop where
  /-- The names are the texts of the column. -/
  order : groups.order.toList = columnTexts column rows
  /-- A text has members once it has been met. -/
  contains : ∀ text, groups.members.contains text = (columnTexts column rows).contains text
  /-- The members of a group are the rows with its text. -/
  members : ∀ text, (groups.members.getD text #[]).toList =
    rows.filter (Record.text · column == text)

/-- One more row adds its text when it is new. -/
theorem columnTexts_append_singleton (column : String) (rows : List Record) (row : Record) :
    columnTexts column (rows ++ [row]) =
      if (columnTexts column rows).contains (Record.text row column) then columnTexts column rows
      else columnTexts column rows ++ [Record.text row column] := by
  have hmem : (rows.map (Record.text · column)).contains (Record.text row column) =
      (columnTexts column rows).contains (Record.text row column) := by
    rw [Bool.eq_iff_iff, List.contains_iff_mem, List.contains_iff_mem, mem_columnTexts,
      List.mem_map]
  rw [columnTexts, List.map_append, firstByKey_append, List.map_id, ← columnTexts]
  simp only [List.map_cons, List.map_nil, firstByKey, List.contains_nil, Bool.false_eq_true,
    if_false, id_eq, List.filter_cons, List.filter_nil, hmem]
  split <;> simp_all

/-- Adding a row to groups that describe some rows gives groups that describe one row more. -/
theorem Groups.Describes.add {column : String} {rows : List Record} {groups : Groups}
    (h : groups.Describes column rows) (row : Record) :
    (groups.add column row).Describes column (rows ++ [row]) := by
  refine ⟨?_, fun text => ?_, fun text => ?_⟩
  · rw [columnTexts_append_singleton, ← h.contains, ← h.order]
    show (if groups.members.contains (Record.text row column) = true then groups.order
      else groups.order.push (Record.text row column)).toList = _
    split
    · rfl
    · rw [Array.toList_push]
  · show (groups.members.insert _ _).contains text = _
    rw [Std.HashMap.contains_insert, h.contains, columnTexts_append_singleton]
    by_cases ht : Record.text row column = text
    · subst ht
      split <;> simp_all
    · have hne : (Record.text row column == text) = false := beq_false_of_ne ht
      have hne' : text ≠ Record.text row column := fun e => ht e.symm
      split <;> simp [hne, hne']
  · show ((groups.members.insert _ _).getD text #[]).toList = _
    rw [Std.HashMap.getD_insert, List.filter_append, ← h.members]
    by_cases ht : Record.text row column = text
    · subst ht
      simp
    · have hne : (Record.text row column == text) = false := beq_false_of_ne ht
      simp [hne]

/-- Adding rows one after the other to groups that describe some rows gives groups that describe
all of them. -/
theorem Groups.Describes.foldl {column : String} {done : List Record} {groups : Groups}
    (h : groups.Describes column done) (rest : List Record) :
    (rest.foldl (Groups.add column) groups).Describes column (done ++ rest) := by
  induction rest generalizing done groups with
  | nil => rwa [List.append_nil]
  | cons row rest ih =>
    have hstep := ih (h.add row)
    rwa [List.append_assoc, List.singleton_append] at hstep

theorem describes_empty (column : String) : Groups.Describes column [] {} := by
  refine ⟨rfl, fun text => ?_, fun text => ?_⟩
  · exact Std.HashMap.contains_empty
  · show (Std.HashMap.getD ∅ text #[]).toList = []
    rw [Std.HashMap.getD_empty]

/-- The groups that are built row by row describe the rows. -/
theorem describes_foldl (column : String) (rows : List Record) :
    (rows.foldl (Groups.add column) {}).Describes column rows :=
  (describes_empty column).foldl rows

/-- Taking members out of the map does not change those of other groups. -/
theorem groupRows_eq_map (plan : SummaryPlan) (column : String) {names : List String}
    {members : Std.HashMap String (Array Record)} (h : names.Nodup) :
    groupRows plan column names members =
      names.map fun key => groupRow plan column key (members.getD key #[]).toList := by
  induction names generalizing members with
  | nil => rfl
  | cons key rest ih =>
    rw [List.nodup_cons] at h
    rw [groupRows, ih h.2, List.map_cons]
    refine congrArg _ (List.map_congr_left fun other hother => ?_)
    have hne : (key == other) = false := beq_false_of_ne fun e => h.1 (e ▸ hother)
    rw [Std.HashMap.getD_erase, hne]
    rfl

/-- A summary by groups has one row for each text of the grouping column, made of the rows with this
text. -/
theorem summarizeRows_eq_map {plan : SummaryPlan} {column : String}
    (h : plan.groupBy = some column) (rows : List Record) :
    summarizeRows plan rows = (columnTexts column rows).map fun key =>
      groupRow plan column key (rows.filter (Record.text · column == key)) := by
  have hgroups := describes_foldl column rows
  rw [summarizeRows, h]
  show groupRows plan column _ _ = _
  rw [groupRows_eq_map plan column (hgroups.order ▸ nodup_columnTexts column rows), hgroups.order]
  refine List.map_congr_left fun key _ => ?_
  rw [hgroups.members]

/-! ## Counts -/

/-- A count that fits sixty-four bits is shown as it is. -/
theorem exists_ofCount_eq {n : Nat} (h : n < 2 ^ 63) :
    ∃ m : Int64, Value.ofCount n = .integer m ∧ m.toInt = n :=
  ⟨.ofNat n, Value.ofCount_of_le (by omega), Int64.toInt_ofNat_of_lt h⟩

/-- The columns of the row of a group, when their names are different. -/
theorem entries_groupRow {plan : SummaryPlan} {column : String} (key : String)
    (members : List Record)
    (h : (column :: (plan.count.toList ++ plan.distinctCount.toList.map (·.name))).Nodup) :
    (groupRow plan column key members).entries =
      (column, .string key) :: (plan.count.toList.map (·, Value.ofCount members.length) ++
        plan.distinctCount.toList.map fun distinct =>
          (distinct.name, Value.ofCount (distinctTexts distinct.column members))) := by
  refine OrderedMap.entries_ofPairs ?_
  simpa [Function.comp_def] using h

theorem filter_equals (column text : String) (rows : List Record) :
    (Condition.equals column text).filter rows = rows.filter (Record.text · column == text) := by
  rw [Condition.filter_of_isSimple rfl]
  refine List.filter_congr fun row _ => ?_
  rw [Condition.holds]

/-- What an equality with the text that a row has in a column keeps of some rows. -/
def rowsLike (row : Record) (column : String) (rows : List Record) : List Record :=
  (Condition.equals column (Record.text row column)).filter rows

theorem length_rowsLike_le (row : Record) (column : String) (rows : List Record) :
    (rowsLike row column rows).length ≤ rows.length := by
  rw [rowsLike, filter_equals]
  exact List.length_filter_le _ _

theorem length_distinctRows_le (column : String) (rows : List Record) :
    (distinctRows column rows).length ≤ rows.length := by
  rw [distinctRows, List.length_map]
  exact (firstByKey_sublist _ _ _).length_le

/-- The row of a summary at the place of a distinct row of the grouping column. -/
theorem getElem?_summarizeRows {plan : SummaryPlan} {column : String} {rows : List Record}
    {i : Nat} {row : Record} (hgroup : plan.groupBy = some column)
    (hrow : (distinctRows column rows)[i]? = some row) :
    (summarizeRows plan rows)[i]? =
      some (groupRow plan column (Record.text row column) (rowsLike row column rows)) := by
  have hkey : (columnTexts column rows)[i]? = some (Record.text row column) := by
    rw [← map_text_distinctRows, List.getElem?_map, hrow, Option.map_some]
  rw [summarizeRows_eq_map hgroup, List.getElem?_map, hkey, Option.map_some, rowsLike,
    filter_equals]

/-- A summary by groups has one row for each distinct row of the grouping column. It shows the text
of that column, how many rows an equality with this text keeps, and how many distinct rows these
have by the column of the distinct count; a count that is not asked for is not shown. -/
theorem summarizeRows_counts_distinctRows {plan : SummaryPlan} {column : String}
    {rows : List Record} (hgroup : plan.groupBy = some column)
    (hnames : (column :: (plan.count.toList ++ plan.distinctCount.toList.map (·.name))).Nodup)
    (hlength : rows.length < 2 ^ 63) :
    (summarizeRows plan rows).length = (distinctRows column rows).length ∧
      ∀ (i : Nat) (row : Record), (distinctRows column rows)[i]? = some row →
        ∃ count distinctCount : Int64,
          (summarizeRows plan rows)[i]?.map OrderedMap.entries =
              some ((column, Value.string (Record.text row column)) ::
                (plan.count.toList.map (·, Value.integer count) ++
                  plan.distinctCount.toList.map (·.name, Value.integer distinctCount))) ∧
            count.toInt = (rowsLike row column rows).length ∧
            ∀ distinct ∈ plan.distinctCount, distinctCount.toInt =
              (distinctRows distinct.column (rowsLike row column rows)).length := by
  refine ⟨?_, fun i row hrow => ?_⟩
  · rw [summarizeRows_eq_map hgroup, List.length_map, length_distinctRows]
  · have hle := length_rowsLike_le row column rows
    obtain ⟨count, hcount, hcountInt⟩ := exists_ofCount_eq (hle.trans_lt hlength)
    rw [getElem?_summarizeRows hgroup hrow, Option.map_some, entries_groupRow _ _ hnames, hcount]
    cases hdistinct : plan.distinctCount with
    | none => exact ⟨count, 0, rfl, hcountInt, by simp⟩
    | some distinct =>
      have hle' := length_distinctRows_le distinct.column (rowsLike row column rows)
      obtain ⟨distinctCount, hd, hdInt⟩ := exists_ofCount_eq ((hle'.trans hle).trans_lt hlength)
      rw [← distinctTexts_eq_length_distinctRows] at hd
      refine ⟨count, distinctCount, ?_, hcountInt, ?_⟩
      · simp only [Option.toList_some, List.map_cons, List.map_nil, hd]
      · intro other hother
        rw [Option.mem_some_iff] at hother
        rw [← hother, hdInt]

/-- Rows of two groups. In the first one the grouping column is null, missing and empty, and of the
other column's values two have the same text. -/
def sampleRows : List Record :=
  [.ofPairs [("g", .null), ("c", .integer 1)], .ofPairs [("c", .string "1")],
    .ofPairs [("g", .integer 7)], .ofPairs [("g", .string ""), ("c", .boolean true)],
    .ofPairs [("g", .string "7"), ("c", .null)]]

/-- A summary that shows all that can be asked for. -/
def samplePlan : SummaryPlan := { count := "n", distinctCount := some ⟨"d", "c"⟩, groupBy := "g" }

theorem summarizeRows_sampleRows :
    (summarizeRows samplePlan sampleRows).length = (distinctRows "g" sampleRows).length ∧
      (summarizeRows samplePlan sampleRows)[0]?.map OrderedMap.entries =
        some [("g", Value.string ""), ("n", Value.integer 3), ("d", Value.integer 2)] := by
  have hgroup : samplePlan.groupBy = some "g" := rfl
  have hbound : sampleRows.length < 2 ^ 63 := by decide
  obtain ⟨hlength, hrows⟩ := summarizeRows_counts_distinctRows hgroup (by decide) hbound
  obtain ⟨count, distinctCount, hentries, hcount, hdistinct⟩ :=
    hrows 0 (.ofPairs [("g", .null)]) rfl
  have hcount' : count = 3 := Int64.toInt_inj.mp (hcount.trans (by decide +kernel))
  have hdistinct' : distinctCount = 2 :=
    Int64.toInt_inj.mp ((hdistinct ⟨"d", "c"⟩ rfl).trans (by decide +kernel))
  subst hcount' hdistinct'
  exact ⟨hlength, hentries⟩

end LogQuery.Stage
