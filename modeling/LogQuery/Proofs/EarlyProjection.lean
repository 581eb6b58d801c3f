import LogQuery.Proofs.Pipelines

/-!
# Projecting early and late

A stage that looks at named columns only can be run before or after a projection to these columns
(`run_projectRows`). A condition looks at its fields: records that have the same values there are
told apart neither by whether it holds nor by the order of its selection (`agree_of_get?_eq`), and a
projection keeps the values of its columns, those that a row lacks included.
-/

namespace LogQuery

namespace Condition

/-! ## What a condition looks at -/

mutual

/-- The fields that a condition looks at. -/
def fields : Condition → List String
  | all parts => allFields parts
  | any parts => allFields parts
  | contains field _ | equals field _ | differs field _ => [field]
  | atLeast field _ | lessThan field _ | oneOf field _ => [field]
  | hourOfDay field _ _ => [field]
  | unrecognized _ => []

/-- The fields that the conditions of a list look at. -/
def allFields : List Condition → List String
  | [] => []
  | part :: rest => part.fields ++ allFields rest

end

theorem fields_subset_allFields {parts : List Condition} {part : Condition} (h : part ∈ parts) :
    part.fields ⊆ allFields parts := by
  induction parts with
  | nil => exact absurd h List.not_mem_nil
  | cons first rest ih =>
    rw [allFields]
    rcases List.mem_cons.mp h with rfl | hrest
    · exact List.subset_append_left _ _
    · exact List.Subset.trans (ih hrest) (List.subset_append_right _ _)

/-- A condition does not tell two records apart: it holds of both or of neither, and it selects them
at the same place. -/
def Agree (row row' : Record) (condition : Condition) : Prop :=
  condition.holds row = condition.holds row' ∧
    condition.selectionKey row = condition.selectionKey row'

variable {row row' : Record}

theorem agree_all {parts : List Condition} (h : ∀ part ∈ parts, part.Agree row row') :
    (all parts).Agree row row' := by
  unfold Agree
  rw [holds_all, holds_all, selectionKey_all, selectionKey_all]
  induction parts with
  | nil => exact ⟨rfl, rfl⟩
  | cons part rest ih =>
    rw [List.forall_mem_cons] at h
    obtain ⟨hholds, hkey⟩ := ih h.2
    constructor
    · rw [allHold, allHold, h.1.1, hholds]
    · rw [allKey, allKey, h.1.2, hkey]

theorem agree_any {parts : List Condition} (h : ∀ part ∈ parts, part.Agree row row') :
    (any parts).Agree row row' := by
  -- the parts are numbered, so the key is compared for every number of the first one
  have hkeys : ∀ number, anyHolds parts row = anyHolds parts row' ∧
      anyKey number parts row = anyKey number parts row' := by
    induction parts with
    | nil => exact fun _ => ⟨rfl, rfl⟩
    | cons part rest ih =>
      rw [List.forall_mem_cons] at h
      intro number
      obtain ⟨hholds, hkey⟩ := ih h.2 (number + 1)
      constructor
      · rw [anyHolds, anyHolds, h.1.1, hholds]
      · rw [anyKey, anyKey, h.1.1, h.1.2, hkey]
  unfold Agree
  rw [holds_any, holds_any, selectionKey_any, selectionKey_any]
  exact hkeys 0

/-- A simple condition asks for the text or for the number of its field. -/
theorem holds_eq_of_isSimple {leaf : Condition} (hleaf : leaf.isSimple = true)
    (h : ∀ field ∈ leaf.fields, row.get? field = row'.get? field) :
    leaf.holds row = leaf.holds row' := by
  have htext : ∀ field ∈ leaf.fields, Record.text row field = Record.text row' field := by
    intro field hfield
    rw [Record.text, Record.text, h field hfield]
  have hnumber : ∀ field ∈ leaf.fields, Record.number row field = Record.number row' field := by
    intro field hfield
    rw [Record.number, Record.number, h field hfield]
  cases leaf with
  | all parts => exact absurd hleaf (by simp [isSimple])
  | any parts => exact absurd hleaf (by simp [isSimple])
  | atLeast field value =>
    rw [holds, holds, hnumber field (by simp [fields])]
  | lessThan field value =>
    rw [holds, holds, hnumber field (by simp [fields])]
  | unrecognized text => rw [holds, holds]
  | contains field _ | equals field _ | differs field _ | oneOf field _ | hourOfDay field _ _ =>
    rw [holds, holds, htext field (by simp [fields])]

/-- A condition looks at nothing but its fields. -/
theorem agree_of_get?_eq (condition : Condition)
    (h : ∀ field ∈ condition.fields, row.get? field = row'.get? field) :
    condition.Agree row row' := by
  induction condition using inductionOn with
  | all parts ih =>
    rw [fields] at h
    exact agree_all fun part hpart =>
      ih part hpart fun field hfield => h field (fields_subset_allFields hpart hfield)
  | any parts ih =>
    rw [fields] at h
    exact agree_any fun part hpart =>
      ih part hpart fun field hfield => h field (fields_subset_allFields hpart hfield)
  | simple leaf hleaf =>
    refine ⟨holds_eq_of_isSimple hleaf h, ?_⟩
    rw [selectionKey_of_isSimple hleaf, selectionKey_of_isSimple hleaf]

end Condition

namespace Stage

variable {columns : List String}

/-- A condition on projected columns does not tell a row from its projection. -/
theorem agree_projectRow {condition : Condition} (h : condition.fields ⊆ columns) (row : Record) :
    condition.Agree (projectRow columns row) row :=
  condition.agree_of_get?_eq fun _ hfield => get?_projectRow (h hfield) row

/-- A condition selects the same rows before and after the other columns are dropped. -/
theorem filter_projectRows {condition : Condition} (h : condition.fields ⊆ columns)
    (rows : List Record) :
    condition.filter (projectRows columns rows) = projectRows columns (condition.filter rows) := by
  have hholds : condition.holds ∘ projectRow columns = condition.holds :=
    funext fun row => (agree_projectRow h row).1
  have hkey : (fun row => condition.selectionKey (projectRow columns row)) =
      condition.selectionKey :=
    funext fun row => (agree_projectRow h row).2
  calc condition.filter (projectRows columns rows)
      = sortedBy condition.selectionKey
          ((rows.map (projectRow columns)).filter condition.holds) := by
        rw [Condition.filter_eq_sortedBy, projectRows_eq_map]
    _ = sortedBy condition.selectionKey
          ((rows.filter condition.holds).map (projectRow columns)) := by
        rw [List.filter_map, hholds]
    _ = (sortedBy condition.selectionKey (rows.filter condition.holds)).map
          (projectRow columns) := by
        rw [← map_sortedBy, hkey]
    _ = projectRows columns (condition.filter rows) := by
        rw [← Condition.filter_eq_sortedBy, projectRows_eq_map]

/-- A sort by a kept column can be moved behind the projection. -/
theorem sortRows_projectRows {column : String} (h : column ∈ columns) (direction : Direction)
    (rows : List Record) :
    sortRows column direction (projectRows columns rows) =
      projectRows columns (sortRows column direction rows) := by
  have hkey : (fun row => direction.key (Record.text (projectRow columns row) column)) =
      fun row => direction.key (Record.text row column) :=
    funext fun row => by rw [text_projectRow h]
  rw [sortRows_eq_sortedBy, sortRows_eq_sortedBy, projectRows_eq_map, projectRows_eq_map,
    ← map_sortedBy, hkey]

theorem limitRows_projectRows (n : Int) (rows : List Record) :
    limitRows n (projectRows columns rows) = projectRows columns (limitRows n rows) := by
  unfold limitRows
  rw [projectRows_eq_map, projectRows_eq_map, List.length_map]
  split
  · rw [List.map_take]
  · rw [List.map_take]

/-- The stages that choose and order rows by nothing but the given columns. -/
inductive LooksAt (columns : List String) : Stage → Prop where
  | filter {condition : Condition} (h : condition.fields ⊆ columns) :
    LooksAt columns (.filter condition)
  | sort {column : String} (h : column ∈ columns) (direction : Direction) :
    LooksAt columns (.sort column direction)
  | limit (n : Int) : LooksAt columns (.limit n)

/-- A stage that looks at projected columns only can be run before or after the projection. -/
theorem run_projectRows {stage : Stage} (h : stage.LooksAt columns) (rows : List Record) :
    stage.run ((project columns).run rows) = (project columns).run (stage.run rows) := by
  cases h with
  | filter h => exact filter_projectRows h rows
  | sort h direction => exact sortRows_projectRows h direction rows
  | limit n => exact limitRows_projectRows n rows

/-- A condition that lists a later row of `sampleRows` first, on columns that some of them lack. -/
def sampleCondition : Condition :=
  .all [.any [.equals "c" "true", .all [.contains "g" "", .differs "c" "x"]], .lessThan "g" "8"]

theorem run_projectRows_sampleRows :
    (filter sampleCondition).LooksAt ["c", "nope", "g", "c"] ∧
      (filter sampleCondition).run ((project ["c", "nope", "g", "c"]).run sampleRows) =
        (project ["c", "nope", "g", "c"]).run ((filter sampleCondition).run sampleRows) := by
  have hlooks : (filter sampleCondition).LooksAt ["c", "nope", "g", "c"] :=
    .filter (by decide)
  exact ⟨hlooks, run_projectRows hlooks sampleRows⟩

end Stage

end LogQuery
