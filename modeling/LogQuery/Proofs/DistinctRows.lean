import LogQuery.Proofs.Grouping

/-!
# Distinct rows

Of the rows that have the same text in a column the first one is kept, and of it the value in that
column (`distinctRows_keeps_first`). Texts do not tell the kinds of values apart: a row that lacks
the column is merged with one that has null or an empty string there, and which of them is shown
depends on which comes first.
-/

namespace LogQuery.Stage

/-- The rows whose text of a column no row before them has. -/
def newRows (column : String) (rows : List Record) : List Record :=
  newByKey (Record.text · column) rows

/-- What is shown of a row: the value in a column, null if there is none. -/
def onlyColumn (column : String) (row : Record) : Record :=
  ⟨[(column, (row.get? column).getD .null)]⟩

theorem distinctRows_eq_map_firstByKey (column : String) (rows : List Record) :
    distinctRows column rows =
      (firstByKey (Record.text · column) [] rows).map (onlyColumn column) := rfl

/-- Distinct rows are the rows with a new text, each with the column alone. -/
theorem distinctRows_eq_map_newRows (column : String) (rows : List Record) :
    distinctRows column rows = (newRows column rows).map (onlyColumn column) := by
  rw [distinctRows_eq_map_firstByKey, firstByKey_eq_newByKey, newRows]

/-- Rows of one text are shown by the record of the first of them. -/
theorem filter_text_distinctRows (column : String) (rows : List Record) (text : String) :
    (distinctRows column rows).filter (Record.text · column == text) =
      ((rows.find? (Record.text · column == text)).map (onlyColumn column)).toList := by
  have htext : ∀ row : Record,
      Record.text (onlyColumn column row) column = Record.text row column :=
    fun row => text_ofPairs_getD row column
  have hfirst := filter_key_firstByKey (Record.text · column) rows text
  rw [distinctRows_eq_map_firstByKey, List.filter_map, Option.toList_map, ← hfirst]
  refine congrArg _ (List.filter_congr ?_)
  intro row _
  rw [Function.comp_apply, htext]

/-- Records keep the first row of each text of a column when there is one for each text and it shows
the first row that has it. -/
structure KeepsFirstRows (column : String) (rows distinct : List Record) : Prop where
  /-- The records show the rows whose texts are new, from left to right. -/
  eq_map : distinct = (newRows column rows).map (onlyColumn column)
  nodup : (distinct.map (Record.text · column)).Nodup
  /-- The texts of the records are the texts of the rows. -/
  covers : ∀ text, text ∈ distinct.map (Record.text · column) ↔
    ∃ row ∈ rows, Record.text row column = text
  /-- Rows of one text have one record, that of the first of them. -/
  merged : ∀ text : String, distinct.filter (Record.text · column == text) =
    ((rows.find? (Record.text · column == text)).map (onlyColumn column)).toList

/-- The distinct rows of a column show, for each text that is met from left to right, the value of
the first row that has it. The text of a missing value is that of null, the text of null that of the
empty string, and a number has the text of the string that it is written as. -/
theorem distinctRows_keeps_first (column : String) (rows : List Record) :
    KeepsFirstRows column rows (distinctRows column rows) ∧
      (∀ row : Record, Record.text row column = ((row.get? column).getD .null).text) ∧
        Value.null.text = (Value.string "").text ∧
          ∀ n, (Value.integer n).text =
            (Value.string (String.ofList (Decimal.wholeText n.toInt))).text := by
  refine ⟨⟨?_, ?_, ?_, ?_⟩, fun row => text_eq_text_getD row column, rfl, fun _ => rfl⟩
  · exact distinctRows_eq_map_newRows column rows
  · rw [map_text_distinctRows]
    exact nodup_columnTexts column rows
  · intro text
    rw [map_text_distinctRows, mem_columnTexts]
  · exact filter_text_distinctRows column rows

example : distinctRows "c" [⟨[("c", .integer 1)]⟩, ⟨[]⟩, ⟨[("c", .null)]⟩, ⟨[("c", .string "")]⟩,
      ⟨[("c", .string "1")]⟩] = [⟨[("c", .integer 1)]⟩, ⟨[("c", .null)]⟩] := rfl

end LogQuery.Stage
