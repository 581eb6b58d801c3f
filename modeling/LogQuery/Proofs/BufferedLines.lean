import LogQuery.Proofs.Trimming
import LogQuery.Shell.Buffer

/-!
# Buffered lines

Lines that are typed one after the other come out again as lines of queries. One equation says what
a line does (`lines_push`): what the buffer held and what the line contributes is what is submitted
and what is held afterwards. So it is with any number of lines (`lines_pushAll`), and nothing that
they contribute is lost, comes twice or changes its place (`accounts_pushAll`).
-/

namespace LogQuery

open Text

namespace Text

/-- Texts without a character are read back from the text that joins them by it. -/
theorem splitOn_joined {c : Char} {texts : List (List Char)} (hne : texts ≠ [])
    (h : ∀ text ∈ texts, c ∉ text) : (joined [c] texts).splitOn c = texts := by
  induction texts with
  | nil => exact absurd rfl hne
  | cons text rest ih =>
    rw [List.forall_mem_cons] at h
    cases rest with
    | nil => exact List.splitOn_eq_singleton h.1
    | cons next rest =>
      have htext : joined [c] (text :: next :: rest) = text ++ c :: joined [c] (next :: rest) := by
        simp [joined]
      rw [htext, List.splitOn_append_cons_self_of_not_mem h.1, ih (List.cons_ne_nil _ _) h.2]

end Text

namespace Shell.Buffer

variable {buffer : Buffer} {line text : List Char} {lines : List (List Char)} {query : String}

/-! ## Contributions -/

/-- What a line adds to its query: nothing if it is blank; if it does not end in a semicolon, the
line without the blank characters at its end; and if it does, that without the semicolon, or nothing
if what remains is blank. -/
def contributed (line : List Char) : List (List Char) :=
  if allBlank line then []
  else if (trimEnd line).getLast? ≠ some ';' then [trimEnd line]
  else if allBlank (trimEnd line).dropLast then []
  else [(trimEnd line).dropLast]

theorem toList_contribution (line : List Char) :
    (contribution line).toList = contributed line := by
  unfold contributed contribution body
  dsimp only
  by_cases hblank : allBlank line = true
  · rw [if_pos hblank, trimEnd_eq_nil hblank]
    rfl
  · by_cases hend : (trimEnd line).getLast? = some ';'
    · rw [if_neg hblank, if_neg (not_not.mpr hend), if_pos hend]
      split <;> rfl
    · rw [if_neg hblank, if_pos hend, if_neg hend, allBlank_trimEnd, if_neg hblank]
      rfl

theorem allBlank_of_mem_contributed (h : text ∈ contributed line) : allBlank text = false := by
  rw [← toList_contribution, Option.mem_toList] at h
  unfold contribution at h
  split at h
  · exact absurd h (by simp)
  · rename_i hblank
    obtain rfl := Option.some_inj.mp h
    exact Bool.eq_false_iff.mpr hblank

theorem contributed_subset (h : text ∈ contributed line) : text ⊆ line := by
  have htrim := (trimEnd_isPrefix line).subset
  unfold contributed at h
  split at h
  · exact absurd h List.not_mem_nil
  · split at h
    · obtain rfl := List.mem_singleton.mp h
      exact htrim
    · split at h
      · exact absurd h List.not_mem_nil
      · obtain rfl := List.mem_singleton.mp h
        exact List.Subset.trans (List.dropLast_subset _) htrim

/-! ## One line -/

theorem query?_of_ne_nil (h : lines ≠ []) :
    query? lines = some (String.ofList (joined ['\n'] lines)) := by
  rw [query?, if_neg (by simpa using h)]

theorem push_eq (buffer : Buffer) (line : List Char) :
    buffer.push line =
      if endsQuery line then ({}, query? (buffer.lines ++ contributed line))
      else ({ lines := buffer.lines ++ contributed line }, none) := by
  rw [push, toList_contribution]

/-- A line submits a query when it is blank or ends in a semicolon, and there is something to
submit. -/
theorem isSome_push_iff (buffer : Buffer) (line : List Char) :
    (buffer.push line).2.isSome = true ↔
      (allBlank line = true ∨ (trimEnd line).getLast? = some ';') ∧
        buffer.lines ++ contributed line ≠ [] := by
  have hends : endsQuery line = true ↔
      allBlank line = true ∨ (trimEnd line).getLast? = some ';' := by
    rw [endsQuery, Bool.or_eq_true, beq_iff_eq]
  rw [push_eq, ← hends]
  by_cases h : endsQuery line = true
  · rw [if_pos h, and_iff_right h, query?]
    cases buffer.lines ++ contributed line <;> simp
  · rw [if_neg h]
    simp [h]

/-- A submitted query is made of what was held and what the line contributes. -/
theorem exists_lines_of_push (h : query ∈ (buffer.push line).2) :
    ∃ text rest, buffer.lines ++ contributed line = text :: rest ∧
      query = String.ofList (joined ['\n'] (text :: rest)) := by
  rw [push_eq] at h
  split at h
  · cases hlines : buffer.lines ++ contributed line with
    | nil =>
      rw [hlines] at h
      exact absurd h (by simp [query?])
    | cons text rest =>
      rw [hlines, query?_of_ne_nil (List.cons_ne_nil text rest)] at h
      exact ⟨text, rest, rfl, (Option.some_inj.mp h).symm⟩
  · exact absurd h (by simp)

theorem lines_push_of_isSome (h : (buffer.push line).2.isSome = true) :
    (buffer.push line).1.lines = [] := by
  rw [push_eq] at h ⊢
  split
  · rfl
  · rename_i hends
    rw [if_neg hends] at h
    exact absurd h (by simp)

theorem lines_push_subset (buffer : Buffer) (line : List Char) :
    (buffer.push line).1.lines ⊆ buffer.lines ++ contributed line := by
  rw [push_eq]
  split
  · exact List.nil_subset _
  · exact List.Subset.refl _

/-- The lines of a query. -/
def queryLines (query : String) : List (List Char) := query.toList.splitOn '\n'

/-- What is held and what a line contributes is what is submitted and what is held afterwards. -/
theorem lines_push (h : ∀ text ∈ buffer.lines ++ contributed line, '\n' ∉ text) :
    (buffer.push line).2.toList.flatMap queryLines ++ (buffer.push line).1.lines =
      buffer.lines ++ contributed line := by
  rw [push_eq]
  split
  · cases hlines : buffer.lines ++ contributed line with
    | nil => rfl
    | cons text rest =>
      rw [hlines] at h
      rw [query?_of_ne_nil (List.cons_ne_nil text rest)]
      dsimp only
      rw [List.append_nil, Option.toList_some, List.flatMap_singleton, queryLines,
        String.toList_ofList, splitOn_joined (List.cons_ne_nil text rest) h]
  · rfl

/-- None of the collected lines is blank. -/
def IsShown (buffer : Buffer) : Prop := ∀ line ∈ buffer.lines, allBlank line = false

theorem IsShown.append_contributed (h : buffer.IsShown) (line : List Char) :
    ∀ text ∈ buffer.lines ++ contributed line, allBlank text = false := by
  rw [List.forall_mem_append]
  exact ⟨h, fun text htext => allBlank_of_mem_contributed htext⟩

/-- No line makes a line of blank characters wait. -/
theorem IsShown.push (h : buffer.IsShown) (line : List Char) : (buffer.push line).1.IsShown :=
  fun text htext => h.append_contributed line text (lines_push_subset buffer line htext)

theorem allBlank_joined {sep : List Char} (h : allBlank text = false)
    (rest : List (List Char)) : allBlank (joined sep (text :: rest)) = false := by
  cases rest with
  | nil => exact h
  | cons next rest =>
    rw [joined, allBlank_append, allBlank_append, h, Bool.false_and, Bool.false_and]
    exact List.cons_ne_nil _ _

/-- A submitted query never is blank. -/
theorem trim_ne_nil_of_push (h : buffer.IsShown) (hquery : query ∈ (buffer.push line).2) :
    trim query.toList ≠ [] := by
  obtain ⟨text, rest, hlines, rfl⟩ := exists_lines_of_push hquery
  have hshown := h.append_contributed line text (hlines ▸ List.mem_cons_self)
  rw [String.toList_ofList]
  exact trim_ne_nil (allBlank_joined hshown rest)

/-! ## Any number of lines -/

/-- The buffer after lines one after the other, and the queries that they submit. -/
def pushAll (buffer : Buffer) : List (List Char) → Buffer × List String
  | [] => (buffer, [])
  | line :: rest =>
    (((buffer.push line).1.pushAll rest).1,
      (buffer.push line).2.toList ++ ((buffer.push line).1.pushAll rest).2)

theorem pushAll_append (buffer : Buffer) (lines later : List (List Char)) :
    buffer.pushAll (lines ++ later) =
      (((buffer.pushAll lines).1.pushAll later).1,
        (buffer.pushAll lines).2 ++ ((buffer.pushAll lines).1.pushAll later).2) := by
  induction lines generalizing buffer with
  | nil => rfl
  | cons line rest ih => rw [List.cons_append, pushAll, ih, pushAll, List.append_assoc]

/-- Nothing that is held or contributed is lost, comes twice or changes its place. -/
theorem lines_pushAll (h : ∀ text ∈ buffer.lines ++ lines.flatMap contributed, '\n' ∉ text) :
    (buffer.pushAll lines).2.flatMap queryLines ++ (buffer.pushAll lines).1.lines =
      buffer.lines ++ lines.flatMap contributed := by
  induction lines generalizing buffer with
  | nil => exact (List.append_nil _).symm
  | cons line rest ih =>
    rw [List.flatMap_cons, ← List.append_assoc, List.forall_mem_append] at h
    have hrest : ∀ text ∈ (buffer.push line).1.lines ++ rest.flatMap contributed, '\n' ∉ text := by
      rw [List.forall_mem_append]
      exact ⟨fun text htext => h.1 text (lines_push_subset buffer line htext), h.2⟩
    rw [pushAll, List.flatMap_append, List.append_assoc, ih hrest, ← List.append_assoc,
      lines_push h.1, List.append_assoc, List.flatMap_cons]

/-- A query is made up of lines that were waiting or pushed. -/
theorem exists_lines_of_mem_pushAll (h : query ∈ (buffer.pushAll lines).2) :
    ∃ text rest, query = String.ofList (joined ['\n'] (text :: rest)) ∧
      text :: rest ⊆ buffer.lines ++ lines.flatMap contributed := by
  induction lines generalizing buffer with
  | nil => exact absurd h List.not_mem_nil
  | cons line later ih =>
    rw [List.flatMap_cons, ← List.append_assoc]
    rcases List.mem_append.mp h with hnow | hlater
    · obtain ⟨text, rest, hlines, hquery⟩ := exists_lines_of_push (Option.mem_toList.mp hnow)
      rw [hlines]
      exact ⟨text, rest, hquery, List.subset_append_left _ _⟩
    · obtain ⟨text, rest, hquery, hsubset⟩ := ih hlater
      refine ⟨text, rest, hquery, List.Subset.trans hsubset (List.append_subset.mpr ⟨?_, ?_⟩)⟩
      · exact List.subset_append_of_subset_left _ (lines_push_subset buffer line)
      · exact List.subset_append_right _ _

/-- Lines that are typed into an empty buffer are accounted for when what they contribute is in the
queries or still held, and queries are submitted where they end and nowhere else. -/
structure Accounts (lines : List (List Char)) : Prop where
  /-- The lines of the submitted queries, and then those that are held, are what the lines
  contribute. -/
  lines_eq : (pushAll {} lines).2.flatMap queryLines ++ (pushAll {} lines).1.lines =
    lines.flatMap contributed
  /-- A line submits when it is blank or ends in a semicolon and something is held then or
  contributed by it. -/
  submits_iff : ∀ before line, before ++ [line] <+: lines →
    (((pushAll {} before).1.push line).2.isSome = true ↔
      (allBlank line = true ∨ (trimEnd line).getLast? = some ';') ∧
        (pushAll {} before).1.lines ++ contributed line ≠ [])
  /-- After a submission nothing is held. -/
  lines_eq_nil : ∀ before line, before ++ [line] <+: lines →
    ((pushAll {} before).1.push line).2.isSome = true →
      ((pushAll {} before).1.push line).1.lines = []
  /-- A submitted query has a line that is not blank. -/
  shown : ∀ query ∈ (pushAll {} lines).2, ∃ line ∈ queryLines query, allBlank line = false

/-- The buffer accounts for all lines that are typed. -/
theorem accounts_pushAll (h : ∀ line ∈ lines, '\n' ∉ line) : Accounts lines := by
  have hcontributed : ∀ text ∈ lines.flatMap contributed, '\n' ∉ text := by
    intro text htext hmem
    obtain ⟨line, hline, htext⟩ := List.mem_flatMap.mp htext
    exact h line hline (contributed_subset htext hmem)
  refine ⟨lines_pushAll hcontributed, fun before line _ => isSome_push_iff _ line,
    fun before line _ hsome => lines_push_of_isSome hsome, ?_⟩
  intro query hquery
  obtain ⟨text, rest, rfl, hsubset⟩ := exists_lines_of_mem_pushAll hquery
  have hsplit := splitOn_joined (List.cons_ne_nil text rest) fun shown hshown =>
    hcontributed shown (hsubset hshown)
  obtain ⟨line, -, htext⟩ := List.mem_flatMap.mp (hsubset List.mem_cons_self)
  refine ⟨text, ?_, allBlank_of_mem_contributed htext⟩
  rw [queryLines, String.toList_ofList, hsplit]
  exact List.mem_cons_self

/-- Lines of every kind: one that is held, blank ones, a lone semicolon, and semicolons behind and
inside of a text. -/
def sampleLines : List (List Char) :=
  [" \t", "T \r", "", ";", " | count ;; ", "// x", " ; ", "U;V", "  "].map String.toList

theorem accounts_sampleLines :
    (∀ line ∈ sampleLines, '\n' ∉ line) ∧ Accounts sampleLines ∧
      (pushAll {} sampleLines).2 = ["T", " | count ;", "// x", "U;V"] := by
  have hlines : ∀ line ∈ sampleLines, '\n' ∉ line := by decide
  exact ⟨hlines, accounts_pushAll hlines, by decide +kernel⟩

end Shell.Buffer

end LogQuery
