import LogQuery.Proofs.ScriptLayout
import LogQuery.Query

/-!
# Appended stages

A query that is answered can be carried on: a line of one stage behind it runs the stage on the rows
of the answer (`execute_append_stage`). The query may be any text. A line is cut and trimmed by
itself, so nothing that the last line of the query leaves open, a literal, a comment or a carriage
return, reaches the line behind it; what the query is read as only gets the stages of that line
(`parse?_append_line`), and stages run from left to right.
-/

namespace LogQuery

open Text

namespace Script

/-- A line at the end of a text counts, trimmed, unless it is skipped. -/
theorem significantLines_append_line {line : List Char} (hline : '\n' ∉ line) (text : List Char) :
    significantLines (text ++ '\n' :: line) =
      significantLines text ++ [trim line].filter isSignificant := by
  rw [significantLines_eq, significantLines_eq, List.splitOn_append_cons_self,
    List.splitOn_eq_singleton hline, List.map_append, List.filter_append, List.map_singleton]

/-- A line at the end of a query adds its stages and changes nothing else. -/
theorem parse?_append_line {text line : String} {script : Script} (h : parse? text = some script)
    (hline : '\n' ∉ line.toList) :
    parse? (text ++ "\n" ++ line) =
      some { script with stages := script.stages ++ lineStages (trim line.toList) } := by
  have hchars : (text ++ "\n" ++ line).toList = text.toList ++ '\n' :: line.toList := by
    rw [String.toList_append, String.toList_append, List.append_assoc]
    rfl
  have hlast : ([trim line.toList].filter isSignificant).flatMap lineStages =
      lineStages (trim line.toList) := by
    rw [flatMap_lineStages_filter, List.flatMap_singleton]
  unfold parse? at h ⊢
  rw [hchars, significantLines_append_line hline]
  cases hlines : significantLines text.toList with
  | nil =>
    rw [hlines] at h
    exact absurd h (by simp)
  | cons first rest =>
    rw [hlines] at h
    obtain rfl := Option.some_inj.mp h
    simp only [List.cons_append, List.flatMap_append, hlast, List.append_assoc]

/-- A bar with a text behind it is a line of one stage, unless the text has a bar of its own. -/
theorem lineStages_trim_bar_cons {stage : List Char} {literal : Option Char}
    (h : Scan none stage literal) : lineStages (trim ('|' :: stage)) = [trimmed stage] := by
  have hhead : (trim ('|' :: stage)).head? = some '|' := by
    rw [head?_trim, trimStart_cons (by decide), List.head?_cons]
  have hsegments : segments ('|' :: stage) = [[], stage] := by
    rw [← List.nil_append ('|' :: stage), segments_append_bar .nil, segments_of_scan h]
  rw [lineStages_of_head?_eq hhead, map_trimmed_segments_trim, hsegments]
  rfl

end Script

/-- A text is trimmed before it is read as a stage. -/
theorem Stage.parse_trimmed (s : List Char) :
    Stage.parse (Script.trimmed s) = Stage.ofTrimmed (trim s) := by
  rw [Stage.parse, Script.trimmed, String.toList_ofList, trim_trim]

namespace Query

variable {store : Store} {query stage : String} {rows : List Record} {literal : Option Char}

theorem runStages_append (stages later : List String) (rows : List Record) :
    runStages (stages ++ later) rows = runStages later (runStages stages rows) :=
  List.foldl_append

theorem run_eq_ok_iff :
    run store query = .ok rows ↔ ∃ script source, Script.parse? query = some script ∧
      store.get? script.table = some source ∧ runStages script.stages source = rows := by
  unfold run
  cases Script.parse? query with
  | none => simp
  | some script => cases hget : store.get? script.table <;> simp [hget]

theorem run_append_line {line : String} (h : run store query = .ok rows)
    (hline : '\n' ∉ line.toList) :
    run store (query ++ "\n" ++ line) =
      .ok (runStages (Script.lineStages (trim line.toList)) rows) := by
  obtain ⟨script, source, hscript, hsource, rfl⟩ := run_eq_ok_iff.mp h
  rw [run_eq_ok_iff]
  exact ⟨_, source, Script.parse?_append_line hscript hline, hsource, runStages_append _ _ _⟩

/-- The stage of a line at the end is run on the rows of the query without it. -/
theorem run_append_stage (h : run store query = .ok rows) (hline : '\n' ∉ stage.toList)
    (hbar : Script.Scan none stage.toList literal) :
    run store (query ++ "\n| " ++ stage) = .ok ((Stage.parse stage).run rows) := by
  have hchars : ("| " ++ stage).toList = '|' :: ' ' :: stage.toList := by
    rw [String.toList_append]
    rfl
  have hline' : '\n' ∉ ("| " ++ stage).toList := by
    rw [hchars, List.mem_cons, List.mem_cons, not_or, not_or]
    exact ⟨by decide, by decide, hline⟩
  have hstage : Script.lineStages (trim ("| " ++ stage).toList) =
      [Script.trimmed (' ' :: stage.toList)] := by
    rw [hchars]
    exact Script.lineStages_trim_bar_cons (.plain (by decide) (by decide) (by decide) hbar)
  have hblank : trim (' ' :: stage.toList) = trim stage.toList :=
    trim_append_left (by decide : ∀ c ∈ [' '], isBlank c = true) stage.toList
  have htext : query ++ "\n| " ++ stage = query ++ "\n" ++ ("| " ++ stage) := by
    rw [show "\n| " = "\n" ++ "| " from rfl]
    simp only [String.append_assoc]
  rw [htext, run_append_line h hline', hstage, runStages, List.foldl_cons, List.foldl_nil,
    Stage.parse_trimmed, hblank, Stage.parse]

theorem execute_of_run (h : run store query = .ok rows) (elapsed : Float) :
    execute store query elapsed = .ofRows rows elapsed := by
  rw [execute, h]
  rfl

/-- A query that is answered without an error is answered by its rows. -/
theorem exists_run_eq_ok {elapsed : Float} (h : (execute store query elapsed).error = none) :
    ∃ rows, run store query = .ok rows ∧ execute store query elapsed = .ofRows rows elapsed := by
  cases hrun : run store query with
  | ok rows => exact ⟨rows, rfl, execute_of_run hrun elapsed⟩
  | error error =>
    rw [execute, hrun] at h
    exact absurd h (by simp [QueryResult.ofOutcome, QueryResult.ofError])

/-- A stage on a line of its own behind a query runs on the rows of the query, however the query is
written and however long either takes. So a line that counts shows how many rows there were. -/
theorem execute_append_stage {elapsed : Float} (h : (execute store query elapsed).error = none)
    (hline : '\n' ∉ stage.toList) (hbar : Script.Scan none stage.toList literal)
    (elapsed' : Float) :
    (execute store (query ++ "\n| " ++ stage) elapsed').error = none ∧
      (execute store (query ++ "\n| " ++ stage) elapsed').rows =
        (Stage.parse stage).run (execute store query elapsed).rows ∧
      execute store (query ++ "\n| count") elapsed' =
        .ofRows [.ofPairs [("Count", .ofCount (execute store query elapsed).rowCount)]]
          elapsed' := by
  obtain ⟨rows, hrun, hanswer⟩ := exists_run_eq_ok h
  have hstage := execute_of_run (run_append_stage hrun hline hbar) elapsed'
  have hbar' : Script.Scan none "count".toList none := by decide
  have hcount : execute store (query ++ "\n| " ++ "count") elapsed' =
      .ofRows (Stage.count.run rows) elapsed' :=
    execute_of_run (run_append_stage hrun (by decide) hbar') elapsed'
  rw [String.append_assoc] at hcount
  rw [hstage, hanswer]
  exact ⟨rfl, rfl, hcount⟩

/-- A query whose last lines leave a literal open and end in a comment and a carriage return. -/
def sampleQuery : String :=
  " \n// '\r\n Log|take 2 |where c != \"it's | x\nstray | count\n  // '| take 0\r"

/-- A store with the table of `sampleQuery`. -/
def sampleStore : Store :=
  .ofPairs [("Log", [.ofPairs [("c", .string "it")], .ofPairs [("d", .null)], .ofPairs []])]

theorem execute_append_stage_sampleQuery :
    (execute sampleStore sampleQuery 2).error = none ∧
      (execute sampleStore (sampleQuery ++ "\n| " ++ "where d == \"a|b") 3).error = none ∧
      (execute sampleStore (sampleQuery ++ "\n| " ++ "where d == \"a|b") 3).rows =
        (Stage.parse "where d == \"a|b").run (execute sampleStore sampleQuery 2).rows ∧
      execute sampleStore (sampleQuery ++ "\n| count") 3 =
        .ofRows [.ofPairs [("Count", .ofCount (execute sampleStore sampleQuery 2).rowCount)]]
          3 := by
  have hanswer : (execute sampleStore sampleQuery 2).error = none := by decide +kernel
  have hbar : Script.Scan none "where d == \"a|b".toList (some '"') := by decide
  exact ⟨hanswer, execute_append_stage hanswer (by decide) hbar 3⟩

end Query

end LogQuery
