import LogQuery.Proofs.AppendedStages
import LogQuery.Proofs.Pipelines
import LogQuery.Proofs.StageRows

/-!
# Where rows come from

A query whose stages only choose, order, cut off and project rows makes nothing up
(`exists_origin_of_isPlain`): every row of its answer comes from a row of the table, no two of them
from the same place, and shows nothing that the row of the table does not hold. Without projections
it is that row.

Stages that choose rows give a part of a permutation of them (`run_subperm`), which is enough for
places: a list that is part of a permutation of another one can be put into it place by place.
-/

namespace LogQuery

/-- Every row comes from a row of the source that holds all its columns, and no two rows come from
the same place. -/
def ComesFrom (rows source : List Record) : Prop :=
  ∃ origin : Fin rows.length → Fin source.length, Function.Injective origin ∧
    ∀ i, (rows.get i).entries ⊆ (source.get (origin i)).entries

/-- Origins can be followed through several stages. -/
theorem ComesFrom.trans {rows middle source : List Record} (h : ComesFrom rows middle)
    (h' : ComesFrom middle source) : ComesFrom rows source := by
  obtain ⟨origin, hinjective, hentries⟩ := h
  obtain ⟨origin', hinjective', hentries'⟩ := h'
  refine ⟨origin' ∘ origin, hinjective'.comp hinjective, ?_⟩
  intro i
  exact List.Subset.trans (hentries i) (hentries' (origin i))

/-- The members of a part of a permutation stand at different places of the list. -/
theorem exists_injective_of_subperm {α : Type} {l l' : List α} (h : l.Subperm l') :
    ∃ place : Fin l.length → Fin l'.length, Function.Injective place ∧
      ∀ i, l.get i = l'.get (place i) := by
  classical
  refine ⟨h.idxInj, h.idxInj_injective, ?_⟩
  intro i
  exact h.getElem_idxInj_eq_getElem.symm

/-- Rows that are chosen among others come from these. -/
theorem comesFrom_of_subperm {rows source : List Record} (h : rows.Subperm source) :
    ComesFrom rows source := by
  obtain ⟨origin, hinjective, hget⟩ := exists_injective_of_subperm h
  refine ⟨origin, hinjective, ?_⟩
  intro i
  rw [hget i]
  exact List.Subset.refl _

/-- Rows that are changed one by one come from what they were when no change adds a column. -/
theorem comesFrom_map {f : Record → Record} (h : ∀ row, (f row).entries ⊆ row.entries)
    (rows : List Record) : ComesFrom (rows.map f) rows := by
  have hlength : (rows.map f).length = rows.length := List.length_map f
  refine ⟨Fin.cast hlength, Fin.cast_injective hlength, ?_⟩
  intro i
  have hget : (rows.map f).get i = f (rows.get (i.cast hlength)) := List.getElem_map f
  rw [hget]
  exact h _

namespace Stage

/-- The stages that choose and order rows. A summary of all rows that does not ask for their number
is one of them: it keeps every row. -/
inductive Chooses : Stage → Prop where
  | filter (condition : Condition) : Chooses (.filter condition)
  | limit (n : Int) : Chooses (.limit n)
  | sort (column : String) (direction : Direction) : Chooses (.sort column direction)
  | passthrough : Chooses .passthrough
  | summarize {plan : SummaryPlan} (hgroup : plan.groupBy = none) (hcount : plan.count = none) :
    Chooses (.summarize plan)

/-- The stages that choose, order and project rows. -/
inductive IsPlain : Stage → Prop where
  | chooses {stage : Stage} (h : stage.Chooses) : IsPlain stage
  | project (columns : List String) : IsPlain (.project columns)

theorem summarizeRows_eq_self {plan : SummaryPlan} (hgroup : plan.groupBy = none)
    (hcount : plan.count = none) (rows : List Record) : summarizeRows plan rows = rows := by
  rw [summarizeRows, hgroup, hcount]
  rfl

/-- A stage that chooses rows gives part of a permutation of them. -/
theorem run_subperm {stage : Stage} (h : stage.Chooses) (rows : List Record) :
    (stage.run rows).Subperm rows := by
  cases h with
  | filter condition => exact filter_subperm condition rows
  | limit n => exact (limitRows_sublist n rows).subperm
  | sort column direction => exact (List.mergeSort_perm _ _).subperm
  | passthrough => exact List.Subperm.refl rows
  | summarize hgroup hcount =>
    show (summarizeRows _ rows).Subperm rows
    rw [summarizeRows_eq_self hgroup hcount]

theorem runAll_subperm {stages : List Stage} (h : ∀ stage ∈ stages, stage.Chooses)
    (rows : List Record) : (runAll stages rows).Subperm rows := by
  induction stages generalizing rows with
  | nil => exact List.Subperm.refl rows
  | cons stage stages ih =>
    rw [List.forall_mem_cons] at h
    exact (ih h.2 (stage.run rows)).trans (run_subperm h.1 rows)

/-- A projected row has no entry that the row lacks. -/
theorem entries_projectRow_subset (columns : List String) (row : Record) :
    (projectRow columns row).entries ⊆ row.entries := by
  intro entry hentry
  obtain ⟨column, -, hget⟩ :=
    List.mem_filterMap.mp (OrderedMap.mem_of_mem_entries_ofPairs hentry)
  obtain ⟨value, hvalue, rfl⟩ := Option.map_eq_some_iff.mp hget
  exact OrderedMap.mem_entries_of_get? hvalue

/-- A plain stage makes no rows of its own. -/
theorem comesFrom_run {stage : Stage} (h : stage.IsPlain) (rows : List Record) :
    ComesFrom (stage.run rows) rows := by
  cases h with
  | chooses h => exact comesFrom_of_subperm (run_subperm h rows)
  | project columns => exact comesFrom_map (entries_projectRow_subset columns) rows

/-- However many stages choose, order and project rows, their rows come from those at the start. -/
theorem comesFrom_runAll {stages : List Stage} (h : ∀ stage ∈ stages, stage.IsPlain)
    (rows : List Record) : ComesFrom (runAll stages rows) rows := by
  induction stages generalizing rows with
  | nil => exact comesFrom_of_subperm (List.Subperm.refl rows)
  | cons stage stages ih =>
    rw [List.forall_mem_cons] at h
    exact (ih h.2 (stage.run rows)).trans (comesFrom_run h.1 rows)

theorem chooses_of_isPlain {stages : List Stage} (h : ∀ stage ∈ stages, stage.IsPlain)
    (hproject : ∀ columns, project columns ∉ stages) : ∀ stage ∈ stages, stage.Chooses := by
  intro stage hstage
  cases h stage hstage with
  | chooses h => exact h
  | project columns => exact absurd hstage (hproject columns)

end Stage

namespace Query

variable {store : Store} {query table : String} {stages : List Stage} {elapsed : Float}

/-- A query that is answered has its table in the store. -/
theorem exists_execute_eq_ofRows (hanswer : (execute store query elapsed).error = none)
    (hquery : pipeline? query = some (table, stages)) :
    ∃ source, store.get? table = some source ∧
      execute store query elapsed = .ofRows (Stage.runAll stages source) elapsed := by
  obtain ⟨rows, hrun, -⟩ := exists_run_eq_ok hanswer
  obtain ⟨script, source, hscript, hsource, -⟩ := run_eq_ok_iff.mp hrun
  have htable : script.table = table := by
    rw [pipeline?, hscript, Option.map_some, Option.some_inj] at hquery
    exact congrArg Prod.fst hquery
  rw [htable] at hsource
  exact ⟨source, hsource, execute_of_pipeline? hquery hsource elapsed⟩

/-- The rows of the answer to a query that chooses, orders and projects rows come from different
places of its table. They hold nothing that the rows of the table at these places do not hold, and
when the query does not project they are these rows. -/
theorem exists_origin_of_isPlain (hanswer : (execute store query elapsed).error = none)
    (hquery : pipeline? query = some (table, stages)) (hplain : ∀ stage ∈ stages, stage.IsPlain) :
    ∃ source, store.get? table = some source ∧
      ∃ origin : Fin (execute store query elapsed).rows.length → Fin source.length,
        Function.Injective origin ∧
          (∀ i, ((execute store query elapsed).rows.get i).entries ⊆
            (source.get (origin i)).entries) ∧
          ((∀ columns, Stage.project columns ∉ stages) →
            ∀ i, (execute store query elapsed).rows.get i = source.get (origin i)) := by
  obtain ⟨source, hsource, hrows⟩ := exists_execute_eq_ofRows hanswer hquery
  refine ⟨source, hsource, ?_⟩
  rw [hrows]
  by_cases hproject : ∀ columns, Stage.project columns ∉ stages
  · have hchooses := Stage.chooses_of_isPlain hplain hproject
    obtain ⟨origin, hinjective, hget⟩ :=
      exists_injective_of_subperm (Stage.runAll_subperm hchooses source)
    refine ⟨origin, hinjective, ?_, fun _ => hget⟩
    intro i
    exact (congrArg OrderedMap.entries (hget i)) ▸ List.Subset.refl _
  · obtain ⟨origin, hinjective, hentries⟩ := Stage.comesFrom_runAll hplain source
    exact ⟨origin, hinjective, hentries, fun h => absurd h hproject⟩

/-- A query that lists rows in another order and drops the last one, with two stages that keep
everything. -/
def pickingQuery : String :=
  "Log | where a == \"2\" or b == \"y\"\n| order by a desc | nonsense\n" ++
    "| summarize avg(a) | take -1 | project b, b, d"

/-- The stages of `pickingQuery`. -/
def pickingStages : List Stage :=
  [.filter (.any [.equals "a" "2", .equals "b" "y"]), .sort "a" .descending, .passthrough,
    .summarize {}, .limit (-1), .project ["b", "b", "d"]]

/-- A table with the same row at two places. -/
def repeatedRows : List Record :=
  [.ofPairs [("a", .integer 1), ("b", .string "y")],
    .ofPairs [("a", .integer 2), ("b", .string "x")], .ofPairs [],
    .ofPairs [("a", .integer 2), ("b", .string "x")]]

theorem isPlain_pickingStages : ∀ stage ∈ pickingStages, stage.IsPlain := by
  intro stage hstage
  simp only [pickingStages, List.mem_cons, List.not_mem_nil, or_false] at hstage
  rcases hstage with rfl | rfl | rfl | rfl | rfl | rfl
  · exact .chooses (.filter _)
  · exact .chooses (.sort _ _)
  · exact .chooses .passthrough
  · exact .chooses (.summarize rfl rfl)
  · exact .chooses (.limit _)
  · exact .project _

/-- A store with the table of `pickingQuery`. -/
def repeatedStore : Store := .ofPairs [("Log", repeatedRows)]

set_option maxRecDepth 4000 in
theorem exists_origin_pickingQuery :
    (execute repeatedStore pickingQuery 2).error = none ∧
      pipeline? pickingQuery = some ("Log", pickingStages) ∧
        ∃ source, repeatedStore.get? "Log" = some source ∧
          ∃ origin : Fin (execute repeatedStore pickingQuery 2).rows.length → Fin source.length,
            Function.Injective origin ∧
              ∀ i, ((execute repeatedStore pickingQuery 2).rows.get i).entries ⊆
                (source.get (origin i)).entries := by
  have hanswer : (execute repeatedStore pickingQuery 2).error = none := by decide +kernel
  have hquery : pipeline? pickingQuery = some ("Log", pickingStages) := by rfl
  obtain ⟨source, hsource, origin, hinjective, hentries, -⟩ :=
    exists_origin_of_isPlain hanswer hquery isPlain_pickingStages
  exact ⟨hanswer, hquery, source, hsource, origin, hinjective, hentries⟩

end Query

end LogQuery
