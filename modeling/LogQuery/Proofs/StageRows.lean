import LogQuery.Proofs.Grouping
import LogQuery.Proofs.JsonValue
import LogQuery.Query

/-!
# What stages keep of rows

Whatever a stage does, the values in the rows that come out are those that came in, or texts and
counts, and they stand under different names. So a stage keeps every property of values that the
null value, texts and counts have (`holdsOnly_run`), that of being exact among them
(`isExact_runStages`). It never makes more rows than there were or one (`length_run_le`,
`length_runStages_le`).
-/

namespace LogQuery

namespace OrderedMap

variable {α : Type}

theorem mem_entries_of_get? {m : OrderedMap α} {name : String} {value : α}
    (h : m.get? name = some value) : (name, value) ∈ m.entries := by
  obtain ⟨entry, hfind, rfl⟩ := Option.map_eq_some_iff.mp h
  obtain rfl : entry.1 = name := eq_of_beq (List.find?_some hfind :)
  exact List.mem_of_find?_eq_some hfind

theorem mem_insertEntry {name : String} {value : α} {entries : List (String × α)}
    {entry : String × α} (h : entry ∈ insertEntry name value entries) :
    entry = (name, value) ∨ entry ∈ entries := by
  induction entries with
  | nil => exact .inl (List.mem_singleton.mp h)
  | cons first rest ih =>
    rw [insertEntry] at h
    split at h
    next he =>
      rcases List.mem_cons.mp h with rfl | hrest
      · exact .inl (by rw [eq_of_beq he])
      · exact .inr (List.mem_cons_of_mem _ hrest)
    next =>
      rcases List.mem_cons.mp h with rfl | hrest
      · exact .inr List.mem_cons_self
      · exact (ih hrest).imp_right (List.mem_cons_of_mem _)

/-- What a record holds after insertions it held before or was given. -/
theorem mem_entries_insertAll {m : OrderedMap α} {pairs : List (String × α)} {entry : String × α}
    (h : entry ∈ (m.insertAll pairs).entries) : entry ∈ m.entries ∨ entry ∈ pairs := by
  induction pairs generalizing m with
  | nil => exact .inl h
  | cons pair pairs ih =>
    rcases ih h with hmem | hmem
    · exact (mem_insertEntry hmem).elim (fun he => .inr (he ▸ List.mem_cons_self)) .inl
    · exact .inr (List.mem_cons_of_mem _ hmem)

theorem mem_of_mem_entries_ofPairs {pairs : List (String × α)} {entry : String × α}
    (h : entry ∈ (ofPairs pairs).entries) : entry ∈ pairs :=
  (mem_entries_insertAll h).resolve_left List.not_mem_nil

end OrderedMap

/-! ## Kinds of values -/

/-- The columns of a row have different names, and their values are of a kind. -/
def Record.HoldsOnly (kind : Value → Prop) (row : Record) : Prop :=
  row.Distinct ∧ ∀ entry ∈ row.entries, kind entry.2

/-- A kind of values to which all those belong that stages make themselves. -/
structure Value.IncludesMade (kind : Value → Prop) : Prop where
  /-- What a row shows of a column that it lacks. -/
  null : kind .null
  /-- What a summary shows of the text of a group. -/
  string (s : String) : kind (.string s)
  /-- What counts are shown as. -/
  integer (n : Int64) : kind (.integer n)

theorem Record.holdsOnly_ofPairs {kind : Value → Prop} {pairs : List (String × Value)}
    (h : ∀ pair ∈ pairs, kind pair.2) : Record.HoldsOnly kind (.ofPairs pairs) := by
  refine ⟨OrderedMap.distinct_ofPairs pairs, ?_⟩
  intro entry hentry
  exact h entry (OrderedMap.mem_of_mem_entries_ofPairs hentry)

theorem Record.HoldsOnly.of_get? {kind : Value → Prop} {row : Record} {column : String}
    {value : Value} (h : row.HoldsOnly kind) (hget : row.get? column = some value) : kind value :=
  h.2 _ (OrderedMap.mem_entries_of_get? hget)

namespace Stage

variable {kind : Value → Prop} {rows : List Record}

theorem holdsOnly_projectRows (h : ∀ row ∈ rows, Record.HoldsOnly kind row)
    (columns : List String) :
    ∀ row ∈ projectRows columns rows, Record.HoldsOnly kind row := by
  refine List.forall_mem_map.mpr ?_
  intro row hrow
  refine Record.holdsOnly_ofPairs ?_
  intro pair hpair
  obtain ⟨column, -, hget⟩ := List.mem_filterMap.mp hpair
  obtain ⟨value, hvalue, rfl⟩ := Option.map_eq_some_iff.mp hget
  exact (h row hrow).of_get? hvalue

/-- A condition keeps some of the rows, in another order. -/
theorem filter_subperm (condition : Condition) (rows : List Record) :
    (condition.filter rows).Subperm rows := by
  rw [Condition.filter_eq_sortedBy]
  exact (perm_sortedBy _ _).subperm.trans List.filter_sublist.subperm

theorem limitRows_sublist (n : Int) (rows : List Record) : (limitRows n rows).Sublist rows := by
  rw [limitRows]
  split
  · exact List.take_sublist _ _
  · exact List.take_sublist _ _

theorem holdsOnly_distinctRows (hmade : Value.IncludesMade kind)
    (h : ∀ row ∈ rows, Record.HoldsOnly kind row) (column : String) :
    ∀ row ∈ distinctRows column rows, Record.HoldsOnly kind row := by
  refine List.forall_mem_map.mpr ?_
  intro row hrow
  refine Record.holdsOnly_ofPairs (List.forall_mem_singleton.mpr ?_)
  have hrow' := (firstByKey_sublist _ _ _).subset hrow
  show kind ((row.get? column).getD .null)
  cases hget : row.get? column with
  | none => exact hmade.null
  | some value => exact (h row hrow').of_get? hget

/-- The row of a group holds a text and counts. -/
theorem holdsOnly_groupRow (hmade : Value.IncludesMade kind) (plan : SummaryPlan)
    (column key : String) (members : List Record) :
    Record.HoldsOnly kind (groupRow plan column key members) := by
  refine Record.holdsOnly_ofPairs ?_
  intro pair hpair
  rw [List.cons_append, List.mem_cons, List.mem_append] at hpair
  rcases hpair with rfl | hpair | hpair
  · exact hmade.string key
  · obtain ⟨_, -, rfl⟩ := List.mem_map.mp hpair
    exact hmade.integer _
  · obtain ⟨_, -, rfl⟩ := List.mem_map.mp hpair
    exact hmade.integer _

theorem holdsOnly_count (hmade : Value.IncludesMade kind) (name : String) (n : Nat) :
    ∀ row ∈ [.ofPairs [(name, .ofCount n)]], Record.HoldsOnly kind row := by
  refine List.forall_mem_singleton.mpr (Record.holdsOnly_ofPairs ?_)
  exact List.forall_mem_singleton.mpr (hmade.integer _)

/-- A summary holds what the rows hold or what stages make. -/
theorem holdsOnly_summarizeRows (hmade : Value.IncludesMade kind)
    (h : ∀ row ∈ rows, Record.HoldsOnly kind row) (plan : SummaryPlan) :
    ∀ row ∈ summarizeRows plan rows, Record.HoldsOnly kind row := by
  cases hgroup : plan.groupBy with
  | some column =>
    rw [summarizeRows_eq_map hgroup]
    refine List.forall_mem_map.mpr ?_
    intro key _
    exact holdsOnly_groupRow hmade _ _ _ _
  | none =>
    rw [summarizeRows, hgroup]
    show ∀ row ∈ (if plan.count.isSome then _ else rows), Record.HoldsOnly kind row
    split
    · exact holdsOnly_count hmade _ _
    · exact h

/-- A stage keeps a kind of values that includes what stages make. -/
theorem holdsOnly_run (hmade : Value.IncludesMade kind)
    (h : ∀ row ∈ rows, Record.HoldsOnly kind row) (stage : Stage) :
    ∀ row ∈ stage.run rows, Record.HoldsOnly kind row := by
  cases stage with
  | filter condition => exact fun row hrow => h row ((filter_subperm condition rows).subset hrow)
  | project columns => exact holdsOnly_projectRows h columns
  | count => exact holdsOnly_count hmade _ _
  | limit n => exact fun row hrow => h row ((limitRows_sublist n rows).subset hrow)
  | sort column direction => exact fun row hrow => h row ((List.mergeSort_perm _ _).subset hrow)
  | distinct column => exact holdsOnly_distinctRows hmade h column
  | summarize plan => exact holdsOnly_summarizeRows hmade h plan
  | passthrough => exact h

/-! ## Numbers of rows -/

/-- A summary has no more rows than there are, or a single one. -/
theorem length_summarizeRows_le (plan : SummaryPlan) (rows : List Record) :
    (summarizeRows plan rows).length ≤ max 1 rows.length := by
  cases hgroup : plan.groupBy with
  | some column =>
    rw [summarizeRows_eq_map hgroup, List.length_map, ← length_distinctRows]
    exact (length_distinctRows_le column rows).trans (le_max_right _ _)
  | none =>
    rw [summarizeRows, hgroup]
    show (if _ then _ else _ : List Record).length ≤ _
    split
    · exact le_max_left _ _
    · exact le_max_right _ _

/-- A stage makes no more rows than there were, or one. -/
theorem length_run_le (stage : Stage) (rows : List Record) :
    (stage.run rows).length ≤ max 1 rows.length := by
  cases stage with
  | filter condition => exact (filter_subperm condition rows).length_le.trans (le_max_right _ _)
  | project columns =>
    rw [run, projectRows, List.length_map]
    exact le_max_right _ _
  | count => exact le_max_left _ _
  | limit n => exact (limitRows_sublist n rows).length_le.trans (le_max_right _ _)
  | sort column direction =>
    rw [run, sortRows, List.length_mergeSort]
    exact le_max_right _ _
  | distinct column => exact (length_distinctRows_le column rows).trans (le_max_right _ _)
  | summarize plan => exact length_summarizeRows_le plan rows
  | passthrough => exact le_max_right _ _

end Stage

namespace Query

/-- The stages of a query keep a kind of values that includes what stages make. -/
theorem holdsOnly_runStages {kind : Value → Prop} (hmade : Value.IncludesMade kind)
    {rows : List Record} (h : ∀ row ∈ rows, Record.HoldsOnly kind row) (stages : List String) :
    ∀ row ∈ runStages stages rows, Record.HoldsOnly kind row := by
  induction stages generalizing rows with
  | nil => exact h
  | cons stage stages ih => exact ih (Stage.holdsOnly_run hmade h _)

/-- The stages of a query make no more rows than there were, or one. -/
theorem length_runStages_le (stages : List String) (rows : List Record) :
    (runStages stages rows).length ≤ max 1 rows.length := by
  induction stages generalizing rows with
  | nil => exact le_max_right _ _
  | cons stage stages ih =>
    refine (ih ((Stage.parse stage).run rows)).trans ?_
    exact max_le (le_max_left _ _) (Stage.length_run_le _ _)

end Query

/-! ## Exact rows -/

/-- Rows under different names in each of which there are exact values. -/
def AreExact (room : Nat) (rows : List Record) : Prop :=
  ∀ row ∈ rows, (Value.object row).IsExact (room + 1)

theorem AreExact.mono {room room' : Nat} {rows : List Record} (h : AreExact room rows)
    (hle : room ≤ room') : AreExact room' rows :=
  fun row hrow => (h row hrow).mono (Nat.add_le_add_right hle 1)

theorem areExact_iff {room : Nat} {rows : List Record} :
    AreExact room rows ↔ ∀ row ∈ rows, Record.HoldsOnly (Value.IsExact room) row :=
  forall₂_congr fun _ _ => Value.isExact_object

/-- What stages make is exact. -/
theorem includesMade_isExact (room : Nat) : Value.IncludesMade (Value.IsExact room) :=
  ⟨.null, .string, .integer⟩

/-- The stages of a query make exact rows of exact rows. -/
theorem isExact_runStages {room : Nat} {rows : List Record} (h : AreExact room rows)
    (stages : List String) : AreExact room (Query.runStages stages rows) := by
  rw [areExact_iff] at h ⊢
  exact Query.holdsOnly_runStages (includesMade_isExact room) h stages

end LogQuery
