import LogQuery.Proofs.HistoryLog
import LogQuery.Proofs.JsonReading

/-!
# History files

The file of a history is read back as it was written (`read_fileText`). No entry takes more than one
line of it, whatever characters it has, and no line of it is taken for anything but a quoted entry.
-/

namespace LogQuery

open Text

/-! ## Quoted entries -/

namespace Json

theorem newline_notMem_escape (c : Char) : '\n' ∉ escape c := by
  by_cases hcontrol : c.toNat < 0x20
  · have hall : ∀ n < 0x20, '\n' ∉ escape (Char.ofNat n) := by decide
    have hc := hall _ hcontrol
    rwa [Char.ofNat_toNat] at hc
  · have hc : '\n' ≠ c := by
      rintro rfl
      exact hcontrol (by decide)
    unfold escape
    repeat' split
    all_goals first | contradiction | decide | simp [hc]

/-- An entry in its quotes stays on one line. -/
theorem newline_notMem_quote (s : List Char) : '\n' ∉ quote s := by
  rw [quote, List.mem_cons, List.mem_append, not_or, not_or]
  refine ⟨by decide, ?_, by decide⟩
  intro hmem
  obtain ⟨c, -, hc⟩ := List.mem_flatMap.mp hmem
  exact newline_notMem_escape c hc

theorem getLast?_quote (s : List Char) : (quote s).getLast? = some '"' := by
  rw [quote, ← List.cons_append, List.getLast?_concat]

end Json

/-! ## Lines with their ends -/

namespace Text

/-- Texts on lines of their own are cut at the ends of the lines, with nothing behind the last. -/
theorem splitOn_flatMap_newline {texts : List (List Char)} (h : ∀ text ∈ texts, '\n' ∉ text) :
    (texts.flatMap (· ++ ['\n'])).splitOn '\n' = texts ++ [[]] := by
  induction texts with
  | nil => rfl
  | cons text rest ih =>
    rw [List.forall_mem_cons] at h
    rw [List.flatMap_cons, List.append_assoc, List.singleton_append,
      List.splitOn_append_cons_self_of_not_mem h.1, ih h.2, List.cons_append]

/-- Texts that are written one on each line are the lines. -/
theorem lines_flatMap_newline {texts : List (List Char)} (h : ∀ text ∈ texts, '\n' ∉ text)
    (hreturn : ∀ text ∈ texts, text.getLast? ≠ some '\r') :
    lines (texts.flatMap (· ++ ['\n'])) = texts := by
  have hkeep : ∀ text ∈ texts, dropReturn text = text := fun text htext =>
    if_neg (hreturn text htext)
  unfold lines
  simp only [splitOn_flatMap_newline h, List.dropLast_concat, List.getLast?_concat]
  rw [List.map_congr_left hkeep, List.map_id']
  exact List.append_nil texts

end Text

namespace Shell

namespace History

/-! ## Reading back -/

theorem entryOfLine_quote (entry : String) : entryOfLine (Json.quote entry.toList) = entry := by
  rw [entryOfLine, (Json.reads_string entry).parse?]

theorem entriesOfLines_quote (entries : List String) :
    entriesOfLines (entries.map fun entry => Json.quote entry.toList) = entries := by
  have hshown : ∀ text ∈ entries.map fun entry => Json.quote entry.toList,
      (!allBlank text) = true := by
    intro text htext
    obtain ⟨entry, -, rfl⟩ := List.mem_map.mp htext
    rw [Json.quote, allBlank, List.all_cons]
    rfl
  have hread : (entryOfLine ∘ fun entry => Json.quote entry.toList) = id := by
    funext entry
    exact entryOfLine_quote entry
  rw [entriesOfLines, List.filter_eq_self.mpr hshown, List.map_map, hread, List.map_id]

/-- The file of a history is read back as it was written, up to the limit of the reader. -/
theorem read_fileText (history : History) (limit : Nat) :
    read limit history.fileText.toUTF8 =
      ({ limit, entries := latest limit history.entries }, true) := by
  have hfile : history.fileText.toList =
      (history.entries.map fun entry => Json.quote entry.toList).flatMap (· ++ ['\n']) := by
    rw [fileText, String.toList_ofList, List.flatMap_map]
  have hlines : lines history.fileText.toList =
      history.entries.map fun entry => Json.quote entry.toList := by
    rw [hfile]
    apply lines_flatMap_newline
    · intro text htext
      obtain ⟨entry, -, rfl⟩ := List.mem_map.mp htext
      exact Json.newline_notMem_quote _
    · intro text htext
      obtain ⟨entry, -, rfl⟩ := List.mem_map.mp htext
      rw [Json.getLast?_quote]
      decide
  rw [read, decodedLines_toUTF8, hlines]
  dsimp only
  rw [entriesOfLines_quote]

/-- A saved history is read back. -/
theorem read_fileText_ofLog (limit : Nat) (log : List String) :
    read limit (ofLog limit log).fileText.toUTF8 = (ofLog limit log, true) := by
  rw [read_fileText, ofLog, latest_latest]

end History

end Shell

end LogQuery
