import LogQuery.Proofs.Occurrence
import LogQuery.Proofs.Segments

/-!
# Layouts of scripts

A script can be written in many ways: its stages stand behind the table or on lines of their own,
one or several on a line, with blank characters around them and other lines in between. These ways
are a relation between a script and the lines of a text (`Layout`), and every text with such lines
is read as the script (`parse?_of_layout`).
-/

namespace LogQuery.Script

open Text

/-! ## Lines that count -/

/-- The carriage return at the end of a line makes no difference. -/
theorem trim_dropReturn (line : List Char) : trim (dropReturn line) = trim line := by
  rw [dropReturn]
  split
  · rename_i hlast
    obtain ⟨s, rfl⟩ := List.getLast?_eq_some_iff.mp hlast
    rw [List.dropLast_concat, trim_append_right (by decide)]
  · rfl

/-- The lines that count are the trimmed parts between line feeds that count: carriage returns are
blank, and a last part without characters does not count. -/
theorem significantLines_eq (text : List Char) :
    significantLines text = ((text.splitOn '\n').map trim).filter isSignificant := by
  obtain ⟨init, last, hparts⟩ : ∃ init last, text.splitOn '\n' = init ++ [last] :=
    ⟨_, _, (List.dropLast_append_getLast (List.splitOn_ne_nil '\n' text)).symm⟩
  have hreturn : (init.map dropReturn).map trim = init.map trim := by
    rw [List.map_map]
    exact List.map_congr_left fun line _ => trim_dropReturn line
  have hlast : (([last].filter (!·.isEmpty)).map trim).filter isSignificant =
      [trim last].filter isSignificant := by
    cases last <;> rfl
  rw [significantLines, lines, hparts]
  simp only [List.dropLast_concat, List.getLast?_concat, Option.toList_some, List.map_append,
    List.filter_append, hreturn, hlast, List.map_singleton]

/-- The lines that do not count are the empty ones and the comments. -/
theorem isSignificant_eq_false_iff {line : List Char} :
    isSignificant line = false ↔ line = [] ∨ ['/', '/'] <+: line := by
  rw [isSignificant, decide_eq_false_iff_not, isSome_after?_iff]
  tauto

/-- A line has stages only when it begins with a bar. -/
theorem lineStages_of_head?_ne {line : List Char} (h : line.head? ≠ some '|') :
    lineStages line = [] := by
  unfold lineStages
  split
  · exact absurd rfl h
  · rfl

theorem lineStages_of_head?_eq {line : List Char} (h : line.head? = some '|') :
    lineStages line = ((segments line).map trimmed).drop 1 := by
  obtain ⟨rest, rfl⟩ : ∃ rest, line = '|' :: rest := List.head?_eq_some_iff.mp h
  rw [lineStages, List.map_drop]

theorem flatMap_lineStages_filter (lines : List (List Char)) :
    (lines.filter isSignificant).flatMap lineStages = lines.flatMap lineStages := by
  induction lines with
  | nil => rfl
  | cons line lines ih =>
    cases hline : isSignificant line with
    | true => rw [List.filter_cons_of_pos hline, List.flatMap_cons, List.flatMap_cons, ih]
    | false =>
      have hnone : lineStages line = [] := by
        refine lineStages_of_head?_ne ?_
        rcases isSignificant_eq_false_iff.mp hline with rfl | ⟨rest, rfl⟩
        · decide
        · exact fun hbar => absurd (Option.some_inj.mp hbar) (by decide)
      rw [List.filter_cons_of_neg (by simp [hline]), List.flatMap_cons, hnone, List.nil_append, ih]

/-! ## Layouts -/

/-- The texts that can be written as tables and stages. -/
structure IsSegment (text : String) : Prop where
  /-- There are no blank characters around it. -/
  trim_eq : trim text.toList = text.toList
  /-- Bars stand inside literals only, and every literal is closed. -/
  closed : Closed text.toList

instance (text : String) : Decidable (IsSegment text) :=
  decidable_of_iff (trim text.toList = text.toList ∧ Closed text.toList)
    ⟨fun h => ⟨h.1, h.2⟩, fun h => ⟨h.trim_eq, h.closed⟩⟩

/-- A text between any blank characters. -/
inductive Padded (text : String) : List Char → Prop where
  | intro {pad pad' : List Char} (hpad : ∀ c ∈ pad, isBlank c = true)
    (hpad' : ∀ c ∈ pad', isBlank c = true) : Padded text (pad ++ (text.toList ++ pad'))

/-- Stages one after the other, each behind a bar. -/
inductive Row : List String → List Char → Prop where
  | nil : Row [] []
  | cons {stage : String} {stages : List String} {s rest : List Char} (hs : Padded stage s)
    (hrest : Row stages rest) : Row (stage :: stages) ('|' :: (s ++ rest))

/-- The line of a table, with the stages that stand on it. -/
inductive TableLine (table : String) (stages : List String) : List Char → Prop where
  | intro {s row : List Char} (hs : Padded table s) (hrow : Row stages row) :
    TableLine table stages (s ++ row)

/-- A line of at least one stage, which can be indented. -/
inductive StageLine (stages : List String) : List Char → Prop where
  | intro {pad row : List Char} (hpad : ∀ c ∈ pad, isBlank c = true) (hne : stages ≠ [])
    (hrow : Row stages row) : StageLine stages (pad ++ row)

/-- A blank line or a comment, which can be indented. -/
inductive SkippedLine : List Char → Prop where
  | blank {line : List Char} (h : ∀ c ∈ line, isBlank c = true) : SkippedLine line
  | comment {pad : List Char} (hpad : ∀ c ∈ pad, isBlank c = true) (rest : List Char) :
    SkippedLine (pad ++ '/' :: '/' :: rest)

/-- A line whose first character that is not blank is no bar. -/
def StrayLine (line : List Char) : Prop := (trimStart line).head? ≠ some '|'

instance (line : List Char) : Decidable (StrayLine line) :=
  inferInstanceAs (Decidable ((trimStart line).head? ≠ some '|'))

/-- The lines behind the one of the table: stages in their order, and stray lines anywhere. -/
inductive Continuation : List String → List (List Char) → Prop where
  | nil : Continuation [] []
  | stray {stages : List String} {line : List Char} {lines : List (List Char)}
    (hline : StrayLine line) (h : Continuation stages lines) : Continuation stages (line :: lines)
  | stages {now later : List String} {line : List Char} {lines : List (List Char)}
    (hline : StageLine now line) (h : Continuation later lines) :
    Continuation (now ++ later) (line :: lines)

/-- The lines of a script with the given table and stages: blank lines and comments, the line of the
table, and the lines behind it. -/
inductive Layout (table : String) : List String → List (List Char) → Prop where
  | skipped {stages : List String} {line : List Char} {lines : List (List Char)}
    (hline : SkippedLine line) (h : Layout table stages lines) : Layout table stages (line :: lines)
  | table {now later : List String} {line : List Char} {lines : List (List Char)}
    (hline : TableLine table now line) (h : Continuation later lines) :
    Layout table (now ++ later) (line :: lines)

/-- Lines as a text. Each ends in a line feed or in a carriage return and a line feed; the last one
can do without. No line contains a line feed, so nothing that stands on a line does. -/
inductive Written : List (List Char) → List Char → Prop where
  | nil : Written [] []
  | last {line : List Char} (hline : '\n' ∉ line) : Written [line] line
  | feed {line : List Char} {lines : List (List Char)} {text : List Char} (hline : '\n' ∉ line)
    (h : Written lines text) : Written (line :: lines) (line ++ '\n' :: text)
  | returnFeed {line : List Char} {lines : List (List Char)} {text : List Char}
    (hline : '\n' ∉ line) (h : Written lines text) :
    Written (line :: lines) (line ++ '\r' :: '\n' :: text)

/-! ## Reading layouts -/

theorem Padded.closed {text : String} {s : List Char} (h : Padded text s) (ht : IsSegment text) :
    Closed s := by
  obtain ⟨hpad, hpad'⟩ := h
  exact (closed_of_blank hpad).append (ht.closed.append (closed_of_blank hpad'))

theorem Padded.trimmed_eq {text : String} {s : List Char} (h : Padded text s)
    (ht : IsSegment text) : trimmed s = text := by
  obtain ⟨hpad, hpad'⟩ := h
  rw [trimmed, trim_pad hpad hpad', ht.trim_eq, String.ofList_toList]

/-- What stands in front of a row of stages is the first segment, and each stage is one. -/
theorem map_trimmed_segments_append_row {s : List Char} (hs : Closed s) {stages : List String}
    {row : List Char} (hrow : Row stages row) (hstages : ∀ stage ∈ stages, IsSegment stage) :
    (segments (s ++ row)).map trimmed = trimmed s :: stages := by
  induction hrow generalizing s with
  | nil => rw [List.append_nil, segments_of_closed hs, List.map_singleton]
  | @cons stage stages t rest ht _ ih =>
    have hstage := hstages stage List.mem_cons_self
    have hrest := ih (ht.closed hstage) fun later hlater =>
      hstages later (List.mem_cons_of_mem _ hlater)
    rw [segments_append_bar hs, List.map_cons, hrest, ht.trimmed_eq hstage]

theorem lineStages_trim_of_strayLine {line : List Char} (h : StrayLine line) :
    lineStages (trim line) = [] := by
  refine lineStages_of_head?_ne ?_
  rw [head?_trim]
  exact h

theorem lineStages_trim_of_stageLine {stages : List String} {line : List Char}
    (h : StageLine stages line) (hstages : ∀ stage ∈ stages, IsSegment stage) :
    lineStages (trim line) = stages := by
  obtain ⟨hpad, hne, hrow⟩ := h
  rw [lineStages_of_head?_eq, map_trimmed_segments_trim,
    map_trimmed_segments_append_row (closed_of_blank hpad) hrow hstages, List.drop_succ_cons,
    List.drop_zero]
  rw [head?_trim, trimStart_append hpad]
  cases hrow with
  | nil => exact absurd rfl hne
  | cons => rw [trimStart, List.dropWhile_cons_of_neg (by decide), List.head?_cons]

/-- The lines behind the one of the table add their stages in order. -/
theorem flatMap_lineStages_of_continuation {stages : List String} {lines : List (List Char)}
    (h : Continuation stages lines) (hstages : ∀ stage ∈ stages, IsSegment stage) :
    (lines.map trim).flatMap lineStages = stages := by
  induction h with
  | nil => rfl
  | stray hline _ ih =>
    rw [List.map_cons, List.flatMap_cons, lineStages_trim_of_strayLine hline, ih hstages,
      List.nil_append]
  | stages hline _ ih =>
    rw [List.forall_mem_append] at hstages
    rw [List.map_cons, List.flatMap_cons, lineStages_trim_of_stageLine hline hstages.1,
      ih hstages.2]

theorem isSignificant_trim_of_skippedLine {line : List Char} (h : SkippedLine line) :
    isSignificant (trim line) = false := by
  rw [isSignificant_eq_false_iff]
  cases h with
  | blank h =>
    left
    have hstart : trimStart line = [] := List.dropWhile_eq_nil_iff.mpr h
    rw [trim, hstart]
    rfl
  | comment hpad rest =>
    right
    have hslash : isBlank '/' = false := by decide
    rw [trim_append_left hpad, trim, trimStart, List.dropWhile_cons_of_neg (by decide),
      trimEnd_cons hslash, trimEnd_cons hslash]
    exact ⟨trimEnd rest, rfl⟩

theorem IsSegment.isBlank_of_mem_head? {text : String} (h : IsSegment text) :
    ∀ c ∈ text.toList.head?, isBlank c = false := by
  rw [← h.trim_eq, head?_trim]
  exact isBlank_of_mem_head?_trimStart

/-- Two slashes at the start of a line would have to stand in the table. -/
theorem isSignificant_trim_append {table rest : List Char} (hne : table ≠ [])
    (hfirst : ∀ c ∈ table.head?, isBlank c = false) (hcomment : ¬ ['/', '/'] <+: table)
    (hrest : ∀ c ∈ rest.head?, c ≠ '/') : isSignificant (trim (table ++ rest)) = true := by
  have hstart : trimStart (table ++ rest) = table ++ rest := by
    obtain ⟨c, tail, rfl⟩ := List.exists_cons_of_ne_nil hne
    have hc : isBlank c = false := hfirst c rfl
    rw [List.cons_append, trimStart, List.dropWhile_cons_of_neg (by simp [hc])]
  by_contra hfalse
  rw [Bool.not_eq_true, isSignificant_eq_false_iff] at hfalse
  rcases hfalse with hnil | hslashes
  · have hhead := head?_trim (table ++ rest)
    rw [hnil, hstart, List.head?_append_of_ne_nil _ hne] at hhead
    exact hne (List.head?_eq_none_iff.mp hhead.symm)
  · rw [trim, hstart] at hslashes
    have hprefix := hslashes.trans (trimEnd_isPrefix _)
    cases rest with
    | nil =>
      rw [List.append_nil] at hprefix
      exact hcomment hprefix
    | cons c rest =>
      have hc : c ∉ ['/', '/'] := by
        have hslash := hrest c rfl
        simp [hslash]
      rw [prefix_append_cons_iff hc] at hprefix
      exact hcomment hprefix

theorem isSignificant_trim_of_tableLine {table : String} {stages : List String} {line : List Char}
    (h : TableLine table stages line) (hne : table.toList ≠ [])
    (hcomment : ¬ ['/', '/'] <+: table.toList) (htable : IsSegment table) :
    isSignificant (trim line) = true := by
  cases h with
  | @intro s row hs hrow =>
    cases hs with
    | @intro pad pad' hpad hpad' =>
      rw [List.append_assoc, trim_append_left hpad, List.append_assoc]
      refine isSignificant_trim_append hne htable.isBlank_of_mem_head? hcomment ?_
      rintro c hc rfl
      cases pad' with
      | nil =>
        cases hrow with
        | nil => exact absurd hc (by simp)
        | cons => exact absurd (Option.some_inj.mp hc) (by decide)
      | cons x pad' =>
        obtain rfl : x = '/' := Option.some_inj.mp hc
        exact absurd (hpad' _ List.mem_cons_self) (by decide)

/-- Of the lines of a layout that count, the first one is cut into the table and its stages, and
the others add theirs. -/
theorem significantLines_of_layout {table : String} {stages : List String}
    {lines : List (List Char)} (h : Layout table stages lines) (hne : table.toList ≠ [])
    (hcomment : ¬ ['/', '/'] <+: table.toList) (htable : IsSegment table)
    (hstages : ∀ stage ∈ stages, IsSegment stage) :
    ∃ first rest now, (lines.map trim).filter isSignificant = first :: rest ∧
      (segments first).map trimmed = table :: now ∧ now ++ rest.flatMap lineStages = stages := by
  induction h with
  | skipped hline _ ih =>
    rw [List.map_cons, List.filter_cons_of_neg (by simp [isSignificant_trim_of_skippedLine hline])]
    exact ih hstages
  | @table now later line lines hline hlines =>
    rw [List.forall_mem_append] at hstages
    have hcount := isSignificant_trim_of_tableLine hline hne hcomment htable
    refine ⟨trim line, (lines.map trim).filter isSignificant, now, ?_, ?_, ?_⟩
    · rw [List.map_cons, List.filter_cons_of_pos hcount]
    · obtain ⟨hs, hrow⟩ := hline
      rw [map_trimmed_segments_trim,
        map_trimmed_segments_append_row (hs.closed htable) hrow hstages.1, hs.trimmed_eq htable]
    · rw [flatMap_lineStages_filter, flatMap_lineStages_of_continuation hlines hstages.2]

/-- The lines that count in a written text are those of its lines that count. -/
theorem significantLines_of_written {lines : List (List Char)} {text : List Char}
    (h : Written lines text) : significantLines text = (lines.map trim).filter isSignificant := by
  rw [significantLines_eq]
  induction h with
  | nil => rfl
  | last hline => rw [List.splitOn_eq_singleton hline]
  | feed hline _ ih =>
    rw [List.splitOn_append_cons_self_of_not_mem hline, List.map_cons, List.map_cons,
      List.filter_cons, List.filter_cons, ih]
  | @returnFeed line lines text hline _ ih =>
    have hreturn : '\n' ∉ line ++ ['\r'] := by
      rw [List.mem_append, not_or]
      exact ⟨hline, by decide⟩
    have htext : line ++ '\r' :: '\n' :: text = (line ++ ['\r']) ++ '\n' :: text := by
      rw [List.append_assoc, List.singleton_append]
    rw [htext, List.splitOn_append_cons_self_of_not_mem hreturn, List.map_cons, List.map_cons,
      trim_append_right (by decide), List.filter_cons, List.filter_cons, ih]

/-- Every layout of a script is read as the script. -/
theorem parse?_of_layout {table : String} {stages : List String} {lines : List (List Char)}
    {text : String} (hne : table ≠ "") (hcomment : ¬ "//".toList <+: table.toList)
    (htable : IsSegment table) (hstages : ∀ stage ∈ stages, IsSegment stage)
    (hlayout : Layout table stages lines) (htext : Written lines text.toList) :
    parse? text = some ⟨table, stages⟩ := by
  have hne' : table.toList ≠ [] := fun hnil => hne (String.toList_eq_nil_iff.mp hnil)
  obtain ⟨first, rest, now, hlines, hfirst, hrest⟩ :=
    significantLines_of_layout hlayout hne' hcomment htable hstages
  obtain ⟨segment, others, hsegments, htable', hnow⟩ := List.map_eq_cons_iff.mp hfirst
  unfold parse?
  rw [significantLines_of_written htext, hlines]
  simp only [hsegments, List.head?_cons, Option.getD_some, htable', List.drop_succ_cons,
    List.drop_zero, hnow, hrest]

/-- A text with every kind of line and both ways to end them. -/
def sampleText : String :=
  "// note\r\n \tLog | where a == 'x|y' |take 2\r\n\nstray | count\n  | take 1|"

theorem parse?_sampleText :
    parse? sampleText = some ⟨"Log", ["where a == 'x|y'", "take 2", "take 1", ""]⟩ := by
  have hlast : StageLine ["take 1", ""] "  | take 1|".toList := by
    have hrow := Row.cons (@Padded.intro "take 1" [' '] [] (by decide) (by decide))
      (Row.cons (@Padded.intro "" [] [] (by decide) (by decide)) Row.nil)
    exact @StageLine.intro _ [' ', ' '] _ (by decide) (by decide) hrow
  have htable : TableLine "Log" ["where a == 'x|y'", "take 2"]
      " \tLog | where a == 'x|y' |take 2".toList := by
    have hrow := Row.cons (@Padded.intro "where a == 'x|y'" [' '] [' '] (by decide) (by decide))
      (Row.cons (@Padded.intro "take 2" [] [] (by decide) (by decide)) Row.nil)
    exact TableLine.intro (@Padded.intro "Log" [' ', '\t'] [' '] (by decide) (by decide)) hrow
  have hlayout : Layout "Log" ["where a == 'x|y'", "take 2", "take 1", ""]
      ["// note".toList, " \tLog | where a == 'x|y' |take 2".toList, [], "stray | count".toList,
        "  | take 1|".toList] := by
    have hcomment : SkippedLine "// note".toList :=
      @SkippedLine.comment [] (by decide) " note".toList
    have hstages := Continuation.stages hlast Continuation.nil
    have hblank : StrayLine [] := by decide
    have hstray : StrayLine "stray | count".toList := by decide
    exact .skipped hcomment (.table htable (.stray hblank (.stray hstray hstages)))
  have hchars : sampleText.toList =
      "// note".toList ++ '\r' :: '\n' :: (" \tLog | where a == 'x|y' |take 2".toList ++
        '\r' :: '\n' :: ([] ++ '\n' :: ("stray | count".toList ++
          '\n' :: "  | take 1|".toList))) := by decide +kernel
  have htext : Written
      ["// note".toList, " \tLog | where a == 'x|y' |take 2".toList, [], "stray | count".toList,
        "  | take 1|".toList] sampleText.toList := by
    rw [hchars]
    exact .returnFeed (by decide) (.returnFeed (by decide)
      (.feed (by decide) (.feed (by decide) (.last (by decide)))))
  exact parse?_of_layout (by decide) (by decide) (by decide) (by decide) hlayout htext

end LogQuery.Script
