import LogQuery.Proofs.Grouping
import LogQuery.Stage.Parser

/-!
# Columns of a summary

A row of a summary is written column by column: the text of its group, the count, the distinct
count. Their names come from the text of the stage, and a name that comes again does not make a
column of its own but gives the one that is there another value. What a row shows under a name is
therefore what was written under it last (`get?_insertAll_cons`), and a summary shows all
that was asked for exactly when nothing that matters is written over
(`summarizeRows_showsGroups_iff`).
-/

namespace LogQuery

namespace Stage

variable {plan : SummaryPlan} {column key name : String} {members rows : List Record}
  {distinct : DistinctCount}

/-! ## The columns that are there -/

/-- The row of a group is filled column by column: its text, its count and its number of different
values. -/
theorem groupRow_eq_insertAll :
    groupRow plan column key members =
      OrderedMap.empty.insertAll
        ((column, .string key) :: (plan.count.toList.map (·, .ofCount members.length) ++
          plan.distinctCount.toList.map fun distinct =>
            (distinct.name, .ofCount (distinctTexts distinct.column members)))) := rfl

theorem notMem_names {α : Type} {asked : Option α} {label : α → String} {value : α → Value}
    (h : ∀ a ∈ asked, label a ≠ name) :
    name ∉ (asked.toList.map fun a => (label a, value a)).map (·.1) := by
  intro hmem
  rw [List.map_map] at hmem
  obtain ⟨a, ha, heq⟩ := List.mem_map.mp hmem
  exact h a (Option.mem_toList.mp ha) heq

/-- The text of a group is shown unless a count has the name of its column. -/
theorem get?_groupRow_key (hcount : ∀ name ∈ plan.count, name ≠ column)
    (hdistinct : ∀ distinct ∈ plan.distinctCount, distinct.name ≠ column) :
    (groupRow plan column key members).get? column = some (.string key) := by
  rw [groupRow_eq_insertAll]
  refine OrderedMap.get?_insertAll_cons _ ?_
  rw [List.map_append, List.mem_append, not_or]
  exact ⟨notMem_names hcount, notMem_names hdistinct⟩

/-- The count is shown unless the other one has its name. -/
theorem get?_groupRow_count (hname : name ∈ plan.count)
    (hdistinct : ∀ distinct ∈ plan.distinctCount, distinct.name ≠ name) :
    (groupRow plan column key members).get? name = some (.ofCount members.length) := by
  rw [groupRow_eq_insertAll, Option.mem_def.mp hname, Option.toList_some, List.map_singleton,
    List.singleton_append, OrderedMap.insertAll_cons]
  exact OrderedMap.get?_insertAll_cons _ (notMem_names hdistinct)

/-- The number of different values is always shown, as it is inserted last. -/
theorem get?_groupRow_distinctCount (h : distinct ∈ plan.distinctCount) :
    (groupRow plan column key members).get? distinct.name =
      some (.ofCount (distinctTexts distinct.column members)) := by
  rw [groupRow_eq_insertAll, Option.mem_def.mp h, Option.toList_some, List.map_singleton,
    OrderedMap.insertAll_cons, OrderedMap.insertAll_append]
  exact OrderedMap.get?_insertAll_cons _ List.not_mem_nil

/-- Whatever is written over the text of a group is a number. -/
theorem exists_get?_groupRow_eq_ofCount
    (h : column ∈ plan.count ∨ ∃ distinct ∈ plan.distinctCount, distinct.name = column) :
    ∃ n, (groupRow plan column key members).get? column = some (.ofCount n) := by
  by_cases hdistinct : ∃ distinct ∈ plan.distinctCount, distinct.name = column
  · obtain ⟨distinct, hmem, rfl⟩ := hdistinct
    exact ⟨_, get?_groupRow_distinctCount hmem⟩
  · have hcount : column ∈ plan.count := h.resolve_right hdistinct
    push Not at hdistinct
    exact ⟨_, get?_groupRow_count hcount hdistinct⟩

/-! ## The columns that are asked for -/

/-- A row shows a group when the text of the group stands under the grouping column, the number of
its rows under the name of the count and the number of its different texts under the name of the
distinct count, as far as these are asked for. -/
structure ShowsGroup (plan : SummaryPlan) (column key : String) (members : List Record)
    (row : Record) : Prop where
  key : row.get? column = some (.string key)
  count : ∀ name ∈ plan.count,
    ∃ n : Int64, row.get? name = some (.integer n) ∧ n.toInt = members.length
  distinctCount : ∀ distinct ∈ plan.distinctCount,
    ∃ n : Int64, row.get? distinct.name = some (.integer n) ∧
      n.toInt = (columnTexts distinct.column members).length

/-- Rows show the groups of others: there is one for each text of the grouping column, in the order
in which these are first met, and it shows the rows with that text. -/
def ShowsGroups (plan : SummaryPlan) (column : String) (rows shown : List Record) : Prop :=
  List.Forall₂
    (fun key row => ShowsGroup plan column key (rows.filter (Record.text · column == key)) row)
    (columnTexts column rows) shown

/-- Neither count has the name of the grouping column, and both have one name only if the rows of
every group are as many as their different texts. -/
structure KeepsColumns (plan : SummaryPlan) (column : String) (rows : List Record) : Prop where
  count_ne : ∀ name ∈ plan.count, name ≠ column
  distinctCount_ne : ∀ distinct ∈ plan.distinctCount, distinct.name ≠ column
  nodup : ∀ distinct ∈ plan.distinctCount, distinct.name ∈ plan.count → ∀ key,
    ((rows.filter (Record.text · column == key)).map (Record.text · distinct.column)).Nodup

/-- There are as many texts as rows when they all differ. -/
theorem length_columnTexts_eq_iff :
    (columnTexts column rows).length = rows.length ↔ (rows.map (Record.text · column)).Nodup := by
  constructor
  · intro h
    have hsublist := firstByKey_sublist (id : String → String) [] (rows.map (Record.text · column))
    have heq : columnTexts column rows = rows.map (Record.text · column) :=
      hsublist.eq_of_length (by rw [← columnTexts, h, List.length_map])
    rw [← heq]
    exact nodup_columnTexts column rows
  · intro h
    rw [columnTexts, firstByKey_of_nodup (by rwa [List.map_id]), List.length_map]

/-- A column with fewer than `2 ^ 63` texts is counted exactly. -/
theorem exists_ofCount_distinctTexts (column : String) (h : members.length < 2 ^ 63) :
    ∃ n : Int64, Value.ofCount (distinctTexts column members) = .integer n ∧
      n.toInt = (columnTexts column members).length := by
  have hle := length_distinctRows_le column members
  obtain ⟨n, hn, hint⟩ := exists_ofCount_eq (hle.trans_lt h)
  rw [← distinctTexts_eq_length_distinctRows] at hn
  rw [length_distinctRows] at hint
  exact ⟨n, hn, hint⟩

/-- A group is shown where no column overwrites another, and where the two counts share a name,
where they agree. -/
theorem showsGroup_groupRow (hcount : ∀ name ∈ plan.count, name ≠ column)
    (hdistinct : ∀ distinct ∈ plan.distinctCount, distinct.name ≠ column)
    (hnodup : ∀ distinct ∈ plan.distinctCount, distinct.name ∈ plan.count →
      (members.map (Record.text · distinct.column)).Nodup)
    (hlength : members.length < 2 ^ 63) :
    ShowsGroup plan column key members (groupRow plan column key members) := by
  constructor
  · exact get?_groupRow_key hcount hdistinct
  · intro name hname
    by_cases hover : ∃ distinct ∈ plan.distinctCount, distinct.name = name
    · -- the distinct count is written over the count, and is the same number
      obtain ⟨distinct, hmem, rfl⟩ := hover
      obtain ⟨n, hn, hint⟩ := exists_ofCount_distinctTexts distinct.column hlength
      rw [length_columnTexts_eq_iff.mpr (hnodup distinct hmem hname)] at hint
      exact ⟨n, by rw [get?_groupRow_distinctCount hmem, hn], hint⟩
    · push Not at hover
      obtain ⟨n, hn, hint⟩ := exists_ofCount_eq hlength
      exact ⟨n, by rw [get?_groupRow_count hname hover, hn], hint⟩
  · intro distinct hmem
    obtain ⟨n, hn, hint⟩ := exists_ofCount_distinctTexts distinct.column hlength
    exact ⟨n, by rw [get?_groupRow_distinctCount hmem, hn], hint⟩

namespace ShowsGroup

variable (h : ShowsGroup plan column key members (groupRow plan column key members))

include h

theorem not_overwritten :
    ¬ (column ∈ plan.count ∨ ∃ distinct ∈ plan.distinctCount, distinct.name = column) := by
  intro hover
  obtain ⟨n, hn⟩ := exists_get?_groupRow_eq_ofCount hover
  have hvalue := Option.some_inj.mp (h.key.symm.trans hn)
  exact absurd hvalue (by simp [Value.ofCount])

theorem count_ne : ∀ name ∈ plan.count, name ≠ column := by
  rintro name hname rfl
  exact h.not_overwritten (.inl hname)

theorem distinctCount_ne : ∀ distinct ∈ plan.distinctCount, distinct.name ≠ column := by
  intro distinct hmem hname
  exact h.not_overwritten (.inr ⟨distinct, hmem, hname⟩)

theorem nodup (hmem : distinct ∈ plan.distinctCount)
    (hname : distinct.name ∈ plan.count) :
    (members.map (Record.text · distinct.column)).Nodup := by
  obtain ⟨n, hcount, hint⟩ := h.count distinct.name hname
  obtain ⟨n', hdistinct, hint'⟩ := h.distinctCount distinct hmem
  have hsame : n = n' := by
    have hvalue := Option.some_inj.mp (hcount.symm.trans hdistinct)
    exact Value.integer.inj hvalue
  rw [hsame, hint'] at hint
  exact length_columnTexts_eq_iff.mp (Int.ofNat_inj.mp hint)

end ShowsGroup

/-! ## Summaries -/

theorem ShowsGroup.text_eq {row : Record} (h : ShowsGroup plan column key members row) :
    Record.text row column = key := by
  rw [Record.text, h.key]
  rfl

/-- Where all groups are shown, the column shows their texts. -/
theorem ShowsGroups.map_text_eq {shown : List Record} (h : ShowsGroups plan column rows shown) :
    shown.map (Record.text · column) = columnTexts column rows := by
  unfold ShowsGroups at h
  generalize columnTexts column rows = keys at h ⊢
  induction h with
  | nil => rfl
  | cons hrow _ ih => rw [List.map_cons, hrow.text_eq, ih]

theorem showsGroups_summarizeRows (hgroup : plan.groupBy = some column) :
    ShowsGroups plan column rows (summarizeRows plan rows) ↔
      ∀ key ∈ columnTexts column rows,
        ShowsGroup plan column key (rows.filter (Record.text · column == key))
          (groupRow plan column key (rows.filter (Record.text · column == key))) := by
  rw [ShowsGroups, summarizeRows_eq_map hgroup, List.forall₂_map_right_iff, List.forall₂_same]

/-- A summary that keeps its columns shows every group. -/
theorem showsGroups_of_keepsColumns (hgroup : plan.groupBy = some column)
    (hlength : rows.length < 2 ^ 63) (h : KeepsColumns plan column rows) :
    ShowsGroups plan column rows (summarizeRows plan rows) := by
  rw [showsGroups_summarizeRows hgroup]
  intro key _
  have hle := List.length_filter_le (Record.text · column == key) rows
  refine showsGroup_groupRow h.count_ne h.distinctCount_ne ?_ (hle.trans_lt hlength)
  intro distinct hmem hname
  exact h.nodup distinct hmem hname key

/-- A summary that shows every group keeps its columns: an overwritten one would show a count in
place of a text, or one count in place of another. -/
theorem keepsColumns_of_showsGroups (hgroup : plan.groupBy = some column) (hne : rows ≠ [])
    (h : ShowsGroups plan column rows (summarizeRows plan rows)) :
    KeepsColumns plan column rows := by
  rw [showsGroups_summarizeRows hgroup] at h
  obtain ⟨row, hrow⟩ := List.exists_mem_of_ne_nil rows hne
  have hfirst := h _ (mem_columnTexts.mpr ⟨row, hrow, rfl⟩)
  refine ⟨hfirst.count_ne, hfirst.distinctCount_ne, ?_⟩
  intro distinct hmem hname key
  by_cases hkey : key ∈ columnTexts column rows
  · exact (h key hkey).nodup hmem hname
  · have hnone : rows.filter (Record.text · column == key) = [] := by
      rw [List.filter_eq_nil_iff]
      intro row hrow heq
      exact hkey (mem_columnTexts.mpr ⟨row, hrow, eq_of_beq heq⟩)
    rw [hnone]
    exact List.nodup_nil

/-- A summary shows each group with all that was asked for, and so the texts of the grouping column
in the order in which they are first met, exactly when there are no rows or its columns are kept. -/
theorem summarizeRows_showsGroups_iff (hgroup : plan.groupBy = some column)
    (hlength : rows.length < 2 ^ 63) :
    (ShowsGroups plan column rows (summarizeRows plan rows) ∧
        (summarizeRows plan rows).map (Record.text · column) = columnTexts column rows) ↔
      rows = [] ∨ KeepsColumns plan column rows := by
  constructor
  · rintro ⟨hshows, -⟩
    by_cases hne : rows = []
    · exact .inl hne
    · exact .inr (keepsColumns_of_showsGroups hgroup hne hshows)
  · intro h
    have hshows : ShowsGroups plan column rows (summarizeRows plan rows) := by
      rcases h with rfl | h
      · rw [showsGroups_summarizeRows hgroup]
        intro key hkey
        exact absurd hkey List.not_mem_nil
      · exact showsGroups_of_keepsColumns hgroup hlength h
    exact ⟨hshows, hshows.map_text_eq⟩

/-- A summary that names its two counts alike. -/
def alikePlan : SummaryPlan :=
  { count := "n", distinctCount := some ⟨"n", "c"⟩, groupBy := "g" }

/-- Rows whose values in the counted column differ within each group. -/
def alikeRows : List Record :=
  [.ofPairs [("g", .string "a"), ("c", .integer 1)], .ofPairs [("c", .null)],
    .ofPairs [("g", .string "a"), ("c", .boolean true)]]

theorem keepsColumns_alikeRows : KeepsColumns alikePlan "g" alikeRows := by
  have htexts : (alikeRows.map (Record.text · "c")).Nodup := by decide +kernel
  refine ⟨by decide, by decide, ?_⟩
  intro distinct hmem _ key
  obtain rfl : ⟨"n", "c"⟩ = distinct := Option.some_inj.mp hmem
  exact (List.filter_sublist.map _).nodup htexts

theorem summarizeRows_showsGroups_alikeRows :
    alikePlan.groupBy = some "g" ∧ alikeRows.length < 2 ^ 63 ∧
      ShowsGroups alikePlan "g" alikeRows (summarizeRows alikePlan alikeRows) ∧
      (summarizeRows alikePlan alikeRows).map (Record.text · "g") = columnTexts "g" alikeRows := by
  have hgroup : alikePlan.groupBy = some "g" := rfl
  have hlength : alikeRows.length < 2 ^ 63 := by decide
  exact ⟨hgroup, hlength,
    (summarizeRows_showsGroups_iff hgroup hlength).mpr (.inr keepsColumns_alikeRows)⟩

/-- A summary that gives its count the name of the grouping column. -/
def overwrittenPlan : SummaryPlan := { count := "g", groupBy := "g" }

/-- A row whose group has a text that is no number. -/
def overwrittenRows : List Record := [.ofPairs [("g", .string "a")]]

theorem not_showsGroups_overwrittenRows :
    parse "summarize g = count() by g" = .summarize overwrittenPlan ∧
      overwrittenPlan.groupBy = some "g" ∧
      (summarizeRows overwrittenPlan overwrittenRows).map (Record.text · "g") = ["1"] ∧
      ¬ (ShowsGroups overwrittenPlan "g" overwrittenRows
            (summarizeRows overwrittenPlan overwrittenRows) ∧
          (summarizeRows overwrittenPlan overwrittenRows).map (Record.text · "g") =
            columnTexts "g" overwrittenRows) := by
  have hgroup : overwrittenPlan.groupBy = some "g" := rfl
  have htexts : columnTexts "g" overwrittenRows = ["a"] := by decide +kernel
  refine ⟨by rfl, hgroup, ?_, ?_⟩
  · rw [summarizeRows_eq_map hgroup, htexts]
    decide +kernel
  · rintro ⟨hshows, -⟩
    rw [showsGroups_summarizeRows hgroup, htexts] at hshows
    exact (hshows "a" List.mem_cons_self).count_ne "g" rfl rfl

end Stage

end LogQuery
