import LogQuery.Proofs.AppendedStages
import LogQuery.Proofs.ScriptLayout

/-!
# When queries fail

A query fails for two causes, and both can be told from its text and the names of the tables without
running anything. The first is that no line of it counts. Else the text names a table, which is what
stands in front of the first bar of the first line that counts: this is said by a relation
(`NamesTable`) on the lines as they are written, before anything is trimmed or cut, and the reader
of scripts is shown to follow it (`namesTable_iff`). The second cause is that the store lacks that
table.
-/

namespace LogQuery

open Text

namespace Script

variable {line front : List Char}

/-! ## Lines that do not count -/

theorem skippedLine_of_isSignificant_trim (h : isSignificant (trim line) = false) :
    SkippedLine line := by
  obtain ⟨pad, pad', hpad, hpad', hline⟩ := exists_pad_trim line
  rcases isSignificant_eq_false_iff.mp h with hnil | ⟨rest, hslashes⟩
  · rw [hnil, List.nil_append] at hline
    have hblank : ∀ c ∈ line, isBlank c = true := by
      intro c hc
      rw [hline] at hc
      rcases List.mem_append.mp hc with hc | hc
      · exact hpad c hc
      · exact hpad' c hc
    exact .blank hblank
  · rw [← hslashes] at hline
    rw [hline]
    exact .comment hpad (rest ++ pad')

/-- The skipped lines are those that do not count when they are trimmed. -/
theorem skippedLine_iff : SkippedLine line ↔ isSignificant (trim line) = false :=
  ⟨isSignificant_trim_of_skippedLine, skippedLine_of_isSignificant_trim⟩

/-- A text is no query when all of its lines are skipped. -/
theorem parse?_eq_none_iff {text : String} :
    parse? text = none ↔ ∀ line ∈ lines text.toList, SkippedLine line := by
  have hparse : parse? text = none ↔ significantLines text.toList = [] := by
    unfold parse?
    cases significantLines text.toList <;> simp
  rw [hparse, significantLines, List.filter_eq_nil_iff, List.forall_mem_map]
  simp only [skippedLine_iff, Bool.not_eq_true]

/-! ## The table that a text names -/

/-- The part of a line in front of its first bar outside literals, which is the whole line when it
has none. -/
inductive FrontPart (literal : Option Char) : List Char → List Char → Prop where
  | whole {line : List Char} {final : Option Char} (h : Scan literal line final) :
    FrontPart literal line line
  | bar {front : List Char} (h : Scan literal front none) (rest : List Char) :
    FrontPart literal (front ++ '|' :: rest) front

/-- The lines in front of one that counts do not, and the part of that line in front of its first
bar is the name between blank characters. -/
inductive NamesTable (text : List Char) : String → Prop where
  | intro {skipped later : List (List Char)} {line front : List Char}
    (hlines : lines text = skipped ++ line :: later) (hskipped : ∀ l ∈ skipped, SkippedLine l)
    (hline : ¬ SkippedLine line) (hfront : FrontPart none line front) :
    NamesTable text (trimmed front)

theorem exists_frontPart (literal : Option Char) (line : List Char) :
    ∃ front, FrontPart literal line front := by
  have hcuts := cuts_segmentsFrom literal line
  generalize segmentsFrom literal line = parts at hcuts
  cases hcuts with
  | last h => exact ⟨line, .whole h⟩
  | @bar _ front rest _ h _ => exact ⟨front, .bar h rest⟩

/-- The part before the first bar is the first segment of the line. -/
theorem FrontPart.head?_segments (h : FrontPart none line front) :
    (segments line).head? = some front := by
  cases h with
  | whole h => rw [segments_of_scan h, List.head?_cons]
  | bar h rest => rw [segments_append_bar h, List.head?_cons]

/-- The name in front of the first bar of a line is not changed when the line is trimmed. -/
theorem FrontPart.trimmed_head?_segments_trim (h : FrontPart none line front) :
    trimmed (((segments (trim line)).head?).getD []) = trimmed front := by
  have hhead := congrArg List.head? (map_trimmed_segments_trim line)
  rw [List.head?_map, List.head?_map, h.head?_segments] at hhead
  obtain ⟨first, hfirst, htrimmed⟩ := Option.map_eq_some_iff.mp hhead
  rw [hfirst, Option.getD_some, htrimmed]

theorem filter_map_trim_of_skipped {skipped : List (List Char)}
    (h : ∀ l ∈ skipped, SkippedLine l) : (skipped.map trim).filter isSignificant = [] := by
  rw [List.filter_eq_nil_iff, List.forall_mem_map]
  intro l hl
  rw [skippedLine_iff.mp (h l hl)]
  exact Bool.false_ne_true

/-- A text that names a table is a query of this table. -/
theorem NamesTable.exists_parse? {text table : String} (h : NamesTable text.toList table) :
    ∃ script, parse? text = some script ∧ script.table = table := by
  cases h with
  | @intro skipped later line front hlines hskipped hline hfront =>
    have hcounts : isSignificant (trim line) = true := by
      rw [skippedLine_iff, Bool.not_eq_false] at hline
      exact hline
    have hsignificant : significantLines text.toList =
        trim line :: (later.map trim).filter isSignificant := by
      rw [significantLines, hlines, List.map_append, List.filter_append,
        filter_map_trim_of_skipped hskipped, List.map_cons, List.filter_cons_of_pos hcounts,
        List.nil_append]
    unfold parse?
    rw [hsignificant]
    exact ⟨_, rfl, hfront.trimmed_head?_segments_trim⟩

/-- A query names its table. -/
theorem namesTable_of_parse? {text : String} {script : Script} (h : parse? text = some script) :
    NamesTable text.toList script.table := by
  unfold parse? at h
  cases hsignificant : significantLines text.toList with
  | nil =>
    rw [hsignificant] at h
    exact absurd h (by simp)
  | cons first rest =>
    rw [hsignificant] at h
    obtain rfl := Option.some_inj.mp h
    rw [significantLines, List.filter_map, List.map_eq_cons_iff] at hsignificant
    obtain ⟨line, others, hfilter, rfl, -⟩ := hsignificant
    obtain ⟨skipped, later, hlines, hskipped, hline, -⟩ := List.filter_eq_cons_iff.mp hfilter
    obtain ⟨front, hfront⟩ := exists_frontPart none line
    rw [hfront.trimmed_head?_segments_trim]
    refine .intro hlines ?_ ?_ hfront
    · intro l hl
      exact skippedLine_iff.mpr (Bool.eq_false_iff.mpr (hskipped l hl))
    · rw [skippedLine_iff, Bool.not_eq_false]
      exact hline

/-- The table of a script is the one that the text names. -/
theorem namesTable_iff {text table : String} :
    NamesTable text.toList table ↔ ∃ script, parse? text = some script ∧ script.table = table := by
  constructor
  · exact NamesTable.exists_parse?
  · rintro ⟨script, hscript, rfl⟩
    exact namesTable_of_parse? hscript

theorem NamesTable.eq_table {text table : String} {script : Script}
    (h : NamesTable text.toList table) (hscript : parse? text = some script) :
    table = script.table := by
  obtain ⟨script', hscript', rfl⟩ := h.exists_parse?
  rw [hscript] at hscript'
  rw [Option.some_inj.mp hscript']

/-- A text names one table, unless all its lines are skipped: then it names none. -/
theorem existsUnique_namesTable_iff {text : String} :
    (∃! table, NamesTable text.toList table) ↔ ∃ line ∈ lines text.toList, ¬ SkippedLine line := by
  constructor
  · rintro ⟨table, htable, -⟩
    obtain ⟨script, hscript, -⟩ := htable.exists_parse?
    by_contra hall
    push Not at hall
    exact absurd ((parse?_eq_none_iff.mpr hall).symm.trans hscript) (by simp)
  · rintro ⟨line, hline, hcounts⟩
    cases hparse : parse? text with
    | none => exact absurd (parse?_eq_none_iff.mp hparse line hline) hcounts
    | some script =>
      exact ⟨script.table, namesTable_of_parse? hparse, fun table htable => htable.eq_table hparse⟩

end Script

/-! ## Answers -/

/-- The two errors can be told apart by their messages. -/
theorem QueryError.message_emptyQuery_ne (name : String) (available : List String) :
    emptyQuery.message ≠ (unknownTable name available).message := by
  intro h
  have hchars : "Empty query".toList = "Unknown table: ".toList ++ name.toList ++
      ". Available tables: ".toList ++ (", ".intercalate available).toList := by
    rw [← String.toList_append, ← String.toList_append, ← String.toList_append]
    exact congrArg String.toList h
  have hfirst : some 'E' = some 'U' := congrArg List.head? hchars
  exact absurd (Option.some_inj.mp hfirst) (by decide)

namespace Query

open Script

variable {store : Store} {query table : String} {elapsed : Float}

/-- Whether and why a query fails is decided before its stages are read. -/
theorem error_execute (store : Store) (query : String) (elapsed : Float) :
    (execute store query elapsed).error =
      match parse? query with
      | none => some QueryError.emptyQuery.message
      | some script =>
        if script.table ∈ store.names then none
        else some (QueryError.unknownTable script.table store.names).message := by
  unfold execute run
  cases parse? query with
  | none => rfl
  | some script =>
    cases hget : store.get? script.table with
    | none =>
      have htable : script.table ∉ store.names := OrderedMap.get?_eq_none_iff.mp hget
      simp only [hget, if_neg htable]
      rfl
    | some rows =>
      have htable : script.table ∈ store.names := by
        by_contra hnot
        rw [OrderedMap.get?_eq_none_iff.mpr hnot] at hget
        exact absurd hget (by simp)
      simp only [hget, if_pos htable]
      rfl

/-- A query is reported as empty when no line of it counts. -/
theorem error_execute_eq_emptyQuery_iff :
    (execute store query elapsed).error = some QueryError.emptyQuery.message ↔
      parse? query = none := by
  rw [error_execute]
  cases parse? query with
  | none => simp
  | some script =>
    by_cases htable : script.table ∈ store.names
    · simp [htable]
    · simpa [htable] using (QueryError.message_emptyQuery_ne script.table store.names).symm

/-- A query that names a table fails when the store lacks the table, and in no other case. -/
theorem error_execute_of_namesTable (h : NamesTable query.toList table) :
    (execute store query elapsed).error =
      if table ∈ store.names then none
      else some (QueryError.unknownTable table store.names).message := by
  obtain ⟨script, hscript, rfl⟩ := h.exists_parse?
  rw [error_execute, hscript]

theorem exists_execute_eq_ofError (h : (execute store query elapsed).error ≠ none) :
    ∃ error, execute store query elapsed = .ofError error elapsed := by
  unfold execute at h ⊢
  cases hrun : run store query with
  | ok rows =>
    rw [hrun] at h
    exact absurd rfl h
  | error error => exact ⟨error, rfl⟩

/-- A query fails when no line of it counts, when the store lacks the table that it names, and never
for what its stages are or for the time it takes. -/
theorem execute_error_iff (store : Store) (query : String) (elapsed : Float) :
    ((execute store query elapsed).error = some "Empty query" ↔
        ∀ line ∈ lines query.toList, SkippedLine line) ∧
      ((∃! table, NamesTable query.toList table) ↔
        ∃ line ∈ lines query.toList, ¬ SkippedLine line) ∧
      (∀ table, NamesTable query.toList table →
        ((execute store query elapsed).error = some ("Unknown table: " ++ table ++
            ". Available tables: " ++ ", ".intercalate store.names) ↔ table ∉ store.names) ∧
          ((execute store query elapsed).error = none ↔ table ∈ store.names)) ∧
      ((execute store query elapsed).error = none →
        (execute store query elapsed).rowCount = (execute store query elapsed).rows.length ∧
          (execute store query elapsed).columns =
            (execute store query elapsed).rows.head?.elim [] OrderedMap.names) ∧
      ((execute store query elapsed).error ≠ none →
        (execute store query elapsed).columns = [] ∧ (execute store query elapsed).rows = [] ∧
          (execute store query elapsed).rowCount = 0) := by
  refine ⟨?_, existsUnique_namesTable_iff, ?_, ?_, ?_⟩
  · rw [← parse?_eq_none_iff]
    exact error_execute_eq_emptyQuery_iff
  · intro table htable
    rw [error_execute_of_namesTable htable]
    by_cases hmem : table ∈ store.names
    · simp [hmem]
    · rw [if_neg hmem]
      exact ⟨⟨fun _ => hmem, fun _ => rfl⟩, by simp [hmem]⟩
  · intro hnone
    obtain ⟨rows, -, hanswer⟩ := exists_run_eq_ok hnone
    rw [hanswer]
    refine ⟨rfl, ?_⟩
    cases rows <;> rfl
  · intro hfails
    obtain ⟨error, hanswer⟩ := exists_execute_eq_ofError hfails
    rw [hanswer]
    exact ⟨rfl, rfl, rfl⟩

example : (execute sampleStore "\n// Log\n'Log|' | count\nLog" 2).error =
    some "Unknown table: 'Log|'. Available tables: Log" := by decide +kernel

end Query

end LogQuery
