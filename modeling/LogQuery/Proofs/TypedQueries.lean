import LogQuery.Proofs.BufferedLines
import LogQuery.Proofs.ScriptLayout
import LogQuery.Query

/-!
# Typed queries

A query that is typed line by line means what it means as one text (`pushAll_reads_as_given`). The
buffer takes blank characters off the ends of lines, or leaves those in front of the last semicolon,
while the text keeps them all; but of each line only the trimmed form counts when a query is read,
so two texts with the same trimmed lines are the same query (`Script.parse?_joined_congr`).
-/

namespace LogQuery

open Text

namespace Script

/-- A query is read from nothing but the lines that count. -/
theorem parse?_congr {text text' : String}
    (h : significantLines text.toList = significantLines text'.toList) :
    parse? text = parse? text' := by
  rw [parse?, parse?, h]

/-- Of joined lines those count that count on their own. -/
theorem significantLines_joined {lines : List (List Char)} (hne : lines ≠ [])
    (hlines : ∀ line ∈ lines, '\n' ∉ line) :
    significantLines (joined ['\n'] lines) = (lines.map trim).filter isSignificant := by
  rw [significantLines_eq, splitOn_joined hne hlines]

/-- Lines that only differ in the blank characters around them are read alike. -/
theorem parse?_joined_congr {lines lines' : List (List Char)} (hne : lines ≠ [])
    (hlines : ∀ line ∈ lines, '\n' ∉ line) (hlines' : ∀ line ∈ lines', '\n' ∉ line)
    (h : lines.map trim = lines'.map trim) :
    parse? (String.ofList (joined ['\n'] lines)) =
      parse? (String.ofList (joined ['\n'] lines')) := by
  have hne' : lines' ≠ [] := by
    rintro rfl
    exact hne (List.map_eq_nil_iff.mp h)
  apply parse?_congr
  rw [String.toList_ofList, String.toList_ofList, significantLines_joined hne hlines,
    significantLines_joined hne' hlines', h]

end Script

/-- Of a query only the script that it is read as decides the answer. -/
theorem Query.execute_congr {query query' : String}
    (h : Script.parse? query = Script.parse? query') (store : Store) (elapsed : Float) :
    execute store query elapsed = execute store query' elapsed := by
  rw [execute, execute, run, run, h]

namespace Shell.Buffer

variable {buffer : Buffer} {line : List Char} {lines typed : List (List Char)}

/-- A line that does not end a query: it is not blank and has no semicolon at its end. Nor does it
contain a line feed. -/
structure IsOpen (line : List Char) : Prop where
  newline_notMem : '\n' ∉ line
  shown : allBlank line = false
  getLast?_ne : (trimEnd line).getLast? ≠ some ';'

instance (line : List Char) : Decidable (IsOpen line) :=
  decidable_of_iff ('\n' ∉ line ∧ allBlank line = false ∧ (trimEnd line).getLast? ≠ some ';')
    ⟨fun h => ⟨h.1, h.2.1, h.2.2⟩, fun h => ⟨h.newline_notMem, h.shown, h.getLast?_ne⟩⟩

/-- The ways to type lines and submit them: with a blank line behind them, or with a semicolon
behind the last one. -/
inductive Submits (lines : List (List Char)) : List (List Char) → Prop where
  | blank {closing : List Char} (h : allBlank closing = true) : Submits lines (lines ++ [closing])
  | semicolon {init : List (List Char)} {last : List Char} (h : lines = init ++ [last]) :
    Submits lines (init ++ [last ++ [';']])

/-! ## What is held and what is submitted -/

theorem IsOpen.push (h : IsOpen line) (buffer : Buffer) :
    buffer.push line = ({ lines := buffer.lines ++ [trimEnd line] }, none) := by
  have hshown : ¬ allBlank line = true := Bool.eq_false_iff.mp h.shown
  have hends : endsQuery line = false := by
    rw [endsQuery, h.shown, Bool.false_or]
    exact beq_false_of_ne h.getLast?_ne
  rw [push_eq, hends, contributed, if_neg hshown, if_pos h.getLast?_ne]
  rfl

/-- Lines that end no query wait. -/
theorem pushAll_of_isOpen (buffer : Buffer) (h : ∀ line ∈ lines, IsOpen line) :
    buffer.pushAll lines = ({ lines := buffer.lines ++ lines.map trimEnd }, []) := by
  induction lines generalizing buffer with
  | nil => rw [pushAll, List.map_nil, List.append_nil]
  | cons line rest ih =>
    rw [List.forall_mem_cons] at h
    rw [pushAll, h.1.push, ih _ h.2, List.append_assoc, List.singleton_append, List.map_cons]
    rfl

theorem push_blank (hline : allBlank line = true) (hne : buffer.lines ≠ []) :
    buffer.push line = ({}, some (String.ofList (joined ['\n'] buffer.lines))) := by
  have hends : endsQuery line = true := by
    rw [endsQuery, hline, Bool.true_or]
  rw [push_eq, if_pos hends, contributed, if_pos hline, List.append_nil, query?_of_ne_nil hne]

/-- A semicolon keeps the blank characters in front of it. -/
theorem push_semicolon (hline : allBlank line = false) (buffer : Buffer) :
    buffer.push (line ++ [';']) =
      ({}, some (String.ofList (joined ['\n'] (buffer.lines ++ [line])))) := by
  have htrim : trimEnd (line ++ [';']) = line ++ [';'] :=
    trimEnd_append_of_ne_nil (by decide) line
  have hends : endsQuery (line ++ [';']) = true := by
    rw [endsQuery, htrim, List.getLast?_concat]
    exact Bool.or_true _
  have hshown : ¬ allBlank (line ++ [';']) = true := by
    rw [allBlank_append, hline, Bool.false_and]
    exact Bool.false_ne_true
  have hcontributed : contributed (line ++ [';']) = [line] := by
    rw [contributed, if_neg hshown, htrim, List.getLast?_concat, if_neg (not_not.mpr rfl),
      List.dropLast_concat, if_neg (Bool.eq_false_iff.mp hline)]
  rw [push_eq, if_pos hends, hcontributed, query?_of_ne_nil (by simp)]

theorem pushAll_append_singleton (h : ∀ line ∈ lines, IsOpen line) (last : List Char) :
    pushAll {} (lines ++ [last]) =
      ((push { lines := lines.map trimEnd } last).1,
        (push { lines := lines.map trimEnd } last).2.toList) := by
  rw [pushAll_append, pushAll_of_isOpen {} h]
  exact Prod.ext rfl (List.append_nil _)

/-- Lines that are typed and submitted make up one query, which has the lines as they are but for
blank characters around them. -/
theorem exists_pushAll_eq (hne : lines ≠ []) (hlines : ∀ line ∈ lines, IsOpen line)
    (htyped : Submits lines typed) :
    ∃ kept, pushAll {} typed = ({}, [String.ofList (joined ['\n'] kept)]) ∧
      (∀ line ∈ kept, '\n' ∉ line) ∧ kept.map trim = lines.map trim := by
  have hends : ∀ lines : List (List Char), (lines.map trimEnd).map trim = lines.map trim := by
    intro lines
    rw [List.map_map]
    exact List.map_congr_left fun line _ => trim_trimEnd line
  have hnewline : ∀ lines : List (List Char), (∀ line ∈ lines, IsOpen line) →
      ∀ line ∈ lines.map trimEnd, '\n' ∉ line := by
    intro lines hlines
    rw [List.forall_mem_map]
    exact fun line hline hmem =>
      (hlines line hline).newline_notMem ((trimEnd_isPrefix line).subset hmem)
  cases htyped with
  | blank hblank =>
    refine ⟨lines.map trimEnd, ?_, hnewline lines hlines, hends lines⟩
    have hheld : lines.map trimEnd ≠ [] := mt List.map_eq_nil_iff.mp hne
    rw [pushAll_append_singleton hlines, push_blank hblank hheld]
    rfl
  | @semicolon init last h =>
    subst h
    rw [List.forall_mem_append, List.forall_mem_singleton] at hlines
    refine ⟨init.map trimEnd ++ [last], ?_, ?_, ?_⟩
    · rw [pushAll_append_singleton hlines.1, push_semicolon hlines.2.shown]
      rfl
    · rw [List.forall_mem_append, List.forall_mem_singleton]
      exact ⟨hnewline init hlines.1, hlines.2.newline_notMem⟩
    · rw [List.map_append, hends, List.map_append]

/-- Lines of which none ends a query are submitted as one query by a blank line behind them or a
semicolon behind the last. It is read as the text that the lines make up: as the same script, or as
none. So it has the same answer on every store. -/
theorem pushAll_reads_as_given (hne : lines ≠ []) (hlines : ∀ line ∈ lines, IsOpen line)
    (htyped : Submits lines typed) :
    ∃ query, pushAll {} typed = ({}, [query]) ∧
      Script.parse? query = Script.parse? (String.ofList (joined ['\n'] lines)) ∧
      ∀ store elapsed, Query.execute store query elapsed =
        Query.execute store (String.ofList (joined ['\n'] lines)) elapsed := by
  obtain ⟨kept, hpush, hkept, htrim⟩ := exists_pushAll_eq hne hlines htyped
  have hkeptne : kept ≠ [] := by
    rintro rfl
    exact hne (List.map_eq_nil_iff.mp htrim.symm)
  have hparse := Script.parse?_joined_congr hkeptne hkept
    (fun line hline => (hlines line hline).newline_notMem) htrim
  exact ⟨_, hpush, hparse, Query.execute_congr hparse⟩

/-- Lines with comments, indentation, carriage returns and a literal that stays open. -/
def sampleQuery : List (List Char) :=
  ["// note;\r ! ", "\tT | where a == 'x;|y\r", "  | count \r \t"].map String.toList

theorem pushAll_sampleQuery :
    sampleQuery ≠ [] ∧ (∀ line ∈ sampleQuery, IsOpen line) ∧
      Submits sampleQuery (sampleQuery ++ [" \t\r".toList]) ∧
      (∃ query, pushAll {} (sampleQuery ++ [" \t\r".toList]) = ({}, [query]) ∧
        Script.parse? query = some ⟨"T", ["where a == 'x;|y", "count"]⟩) ∧
      ∃ query, pushAll {} (sampleQuery.dropLast ++ ["  | count \r \t;".toList]) = ({}, [query]) ∧
        Script.parse? query = some ⟨"T", ["where a == 'x;|y", "count"]⟩ := by
  have hne : sampleQuery ≠ [] := List.cons_ne_nil _ _
  have hlines : ∀ line ∈ sampleQuery, IsOpen line := by decide +kernel
  have hblank : Submits sampleQuery (sampleQuery ++ [" \t\r".toList]) := .blank (by decide)
  have hsemicolon : Submits sampleQuery (sampleQuery.dropLast ++ ["  | count \r \t;".toList]) :=
    @Submits.semicolon _ _ "  | count \r \t".toList (by decide +kernel)
  have hgiven : Script.parse? (String.ofList (joined ['\n'] sampleQuery)) =
      some ⟨"T", ["where a == 'x;|y", "count"]⟩ := by
    rfl
  obtain ⟨query, hpush, hread, -⟩ := pushAll_reads_as_given hne hlines hblank
  obtain ⟨query', hpush', hread', -⟩ := pushAll_reads_as_given hne hlines hsemicolon
  exact ⟨hne, hlines, hblank, ⟨query, hpush, hread.trans hgiven⟩, query', hpush',
    hread'.trans hgiven⟩

end Shell.Buffer

end LogQuery
