import LogQuery.Proofs.Trimming
import LogQuery.Script

/-!
# Segments

What the cutting of a line at its bars does with texts that are put together. Whether a bar
separates depends on the literals in front of it only, and these are described by a relation of
their own (`Scan`): a text that it leads through belongs to the first segment of what follows
(`segmentsFrom_append`), and a text whose literals are closed is the segment in front of a bar
(`segments_append_bar`). From these two the cutting itself follows a relation (`Cuts`) that no line
meets in two ways (`cuts_iff`).

A line is trimmed before it is cut, and its segments are trimmed once more. The first trimming does
not change what the second one leaves (`map_trimmed_segments_trim`).
-/

namespace LogQuery.Script

open Text

/-! ## Literals -/

/-- Reading the characters of a text leads from one open literal to another and meets no bar outside
literals. Either quotation mark opens a literal, and only the same mark closes it. -/
inductive Scan : Option Char → List Char → Option Char → Prop where
  /-- No character. -/
  | nil {literal : Option Char} : Scan literal [] literal
  /-- A character outside literals that is neither a bar nor a quotation mark. -/
  | plain {c : Char} {rest : List Char} {final : Option Char} (hbar : c ≠ '|') (hdouble : c ≠ '"')
    (hsingle : c ≠ '\'') (h : Scan none rest final) : Scan none (c :: rest) final
  /-- A quotation mark that opens a literal. -/
  | opens {c : Char} {rest : List Char} {final : Option Char} (hmark : c = '"' ∨ c = '\'')
    (h : Scan (some c) rest final) : Scan none (c :: rest) final
  /-- Any character but the mark that closes the literal. -/
  | inside {mark c : Char} {rest : List Char} {final : Option Char} (hc : c ≠ mark)
    (h : Scan (some mark) rest final) : Scan (some mark) (c :: rest) final
  /-- The mark that closes the literal. -/
  | closes {mark : Char} {rest : List Char} {final : Option Char} (h : Scan none rest final) :
    Scan (some mark) (mark :: rest) final

/-- A text without a bar outside literals in which every literal is closed. -/
def Closed (s : List Char) : Prop := Scan none s none

variable {literal middle final : Option Char} {c : Char} {s t : List Char}

theorem Scan.append (hs : Scan literal s middle) (ht : Scan middle t final) :
    Scan literal (s ++ t) final := by
  induction hs with
  | nil => exact ht
  | plain hbar hdouble hsingle _ ih => exact .plain hbar hdouble hsingle (ih ht)
  | opens hmark _ ih => exact .opens hmark (ih ht)
  | inside hc _ ih => exact .inside hc (ih ht)
  | closes _ ih => exact .closes (ih ht)

theorem closed_of_blank {pad : List Char} (h : ∀ c ∈ pad, isBlank c = true) : Closed pad := by
  induction pad with
  | nil => exact .nil
  | cons c pad ih =>
    have hc : isBlank c = true := h c List.mem_cons_self
    have hne : ∀ x, isBlank x = false → c ≠ x := by
      rintro x hx rfl
      exact Bool.false_ne_true (hx.symm.trans hc)
    exact .plain (hne _ (by decide)) (hne _ (by decide)) (hne _ (by decide))
      (ih fun x hx => h x (List.mem_cons_of_mem _ hx))

theorem scan_nil_iff : Scan literal [] final ↔ literal = final := by
  constructor
  · intro h
    cases h
    rfl
  · rintro rfl
    exact .nil

theorem scan_cons_iff :
    Scan literal (c :: s) final ↔
      ¬ (c = '|' ∧ literal = none) ∧ Scan (quoteAfter c literal) s final := by
  constructor
  · intro h
    cases h with
    | plain hbar hdouble hsingle h =>
      refine ⟨fun hc => hbar hc.1, ?_⟩
      rwa [quoteAfter, if_neg (not_or.mpr ⟨hdouble, hsingle⟩)]
    | opens hmark h =>
      refine ⟨?_, by rwa [quoteAfter, if_pos hmark]⟩
      rintro ⟨rfl, -⟩
      exact absurd hmark (by decide)
    | inside hc h => exact ⟨by simp, by rwa [quoteAfter, if_neg hc]⟩
    | closes h => exact ⟨by simp, by rwa [quoteAfter, if_pos rfl]⟩
  · rintro ⟨hbar, h⟩
    cases literal with
    | none =>
      rw [quoteAfter] at h
      by_cases hmark : c = '"' ∨ c = '\''
      · rw [if_pos hmark] at h
        exact .opens hmark h
      · rw [if_neg hmark] at h
        rw [not_or] at hmark
        exact .plain (fun hc => hbar ⟨hc, rfl⟩) hmark.1 hmark.2 h
    | some mark =>
      rw [quoteAfter] at h
      by_cases hc : c = mark
      · rw [if_pos hc] at h
        exact hc ▸ .closes h
      · rw [if_neg hc] at h
        exact .inside hc h

instance decidableScan : (literal : Option Char) → (s : List Char) → (final : Option Char) →
    Decidable (Scan literal s final)
  | literal, [], final => decidable_of_iff (literal = final) scan_nil_iff.symm
  | literal, c :: s, final =>
    have := decidableScan (quoteAfter c literal) s final
    decidable_of_iff (¬ (c = '|' ∧ literal = none) ∧ Scan (quoteAfter c literal) s final)
      scan_cons_iff.symm

instance (s : List Char) : Decidable (Closed s) := decidableScan none s none

/-! ## Segments -/

/-- A text without a bar outside literals belongs to the first segment of what it is followed by. -/
theorem segmentsFrom_append (h : Scan literal s final) (rest : List Char) :
    segmentsFrom literal (s ++ rest) = (segmentsFrom final rest).modifyHead (s ++ ·) := by
  induction s generalizing literal with
  | nil =>
    cases h
    rw [List.nil_append]
    cases segmentsFrom final rest <;> rfl
  | cons c s ih =>
    rw [scan_cons_iff] at h
    rw [List.cons_append, segmentsFrom, if_neg h.1, ih h.2, List.modifyHead_modifyHead]
    rfl

/-- A text behind which no literal is open is the segment in front of a bar. -/
theorem segmentsFrom_append_bar (h : Scan literal s none) (rest : List Char) :
    segmentsFrom literal (s ++ '|' :: rest) = s :: segments rest := by
  rw [segmentsFrom_append h, segmentsFrom, if_pos ⟨rfl, rfl⟩, List.modifyHead_cons,
    List.append_nil, segments]

/-- A text whose literals are closed is the segment in front of a bar. -/
theorem segments_append_bar (h : Closed s) (rest : List Char) :
    segments (s ++ '|' :: rest) = s :: segments rest :=
  segmentsFrom_append_bar h rest

theorem segmentsFrom_of_scan (h : Scan literal s final) : segmentsFrom literal s = [s] := by
  have hall := segmentsFrom_append h []
  rw [List.append_nil] at hall
  rw [hall, segmentsFrom, List.modifyHead_cons, List.append_nil]

theorem segments_of_scan (h : Scan none s final) : segments s = [s] := segmentsFrom_of_scan h

theorem segments_of_closed (h : Closed s) : segments s = [s] := segments_of_scan h

theorem segmentsFrom_of_bar_notMem (h : '|' ∉ s) : segmentsFrom literal s = [s] := by
  induction s generalizing literal with
  | nil => rfl
  | cons c s ih =>
    rw [List.mem_cons, not_or] at h
    rw [segmentsFrom, if_neg (fun hbar => h.1 hbar.1.symm), ih h.2]
    rfl

/-- What is written behind a line without a bar belongs to its last segment. -/
theorem segmentsFrom_append_of_bar_notMem {pad : List Char} (h : '|' ∉ pad)
    (literal : Option Char) (s : List Char) :
    ∃ init last, segmentsFrom literal s = init ++ [last] ∧
      segmentsFrom literal (s ++ pad) = init ++ [last ++ pad] := by
  induction s generalizing literal with
  | nil => exact ⟨[], [], rfl, segmentsFrom_of_bar_notMem h⟩
  | cons c s ih =>
    rw [List.cons_append, segmentsFrom, segmentsFrom]
    split
    · obtain ⟨init, last, hs, hpad⟩ := ih none
      exact ⟨[] :: init, last, by rw [hs, List.cons_append], by rw [hpad, List.cons_append]⟩
    · obtain ⟨init, last, hs, hpad⟩ := ih (quoteAfter c literal)
      rw [hs, hpad]
      cases init with
      | nil => exact ⟨[], c :: last, rfl, rfl⟩
      | cons first init => exact ⟨(c :: first) :: init, last, rfl, rfl⟩

/-! ## Cuts -/

/-- A line cut at its bars outside literals, when the given literal is open at its start. Every cut
stands where no literal is open, so behind it the reading starts anew. -/
inductive Cuts : Option Char → List Char → List (List Char) → Prop where
  | last {literal final : Option Char} {line : List Char} (h : Scan literal line final) :
    Cuts literal line [line]
  | bar {literal : Option Char} {front rest : List Char} {parts : List (List Char)}
    (h : Scan literal front none) (hrest : Cuts none rest parts) :
    Cuts literal (front ++ '|' :: rest) (front :: parts)

/-- A character that is no bar outside literals belongs to the first segment. -/
theorem Cuts.cons {parts : List (List Char)} (hbar : ¬ (c = '|' ∧ literal = none))
    (h : Cuts (quoteAfter c literal) s parts) :
    Cuts literal (c :: s) (parts.modifyHead (c :: ·)) := by
  cases h with
  | last h => exact .last (scan_cons_iff.mpr ⟨hbar, h⟩)
  | bar h hrest => exact .bar (scan_cons_iff.mpr ⟨hbar, h⟩) hrest

/-- The reader cuts a line at the bars outside literals. -/
theorem cuts_segmentsFrom (literal : Option Char) (line : List Char) :
    Cuts literal line (segmentsFrom literal line) := by
  induction line generalizing literal with
  | nil => exact .last .nil
  | cons c line ih =>
    rw [segmentsFrom]
    split
    · rename_i hbar
      obtain ⟨rfl, rfl⟩ := hbar
      exact .bar .nil (ih none)
    · rename_i hbar
      exact (ih (quoteAfter c literal)).cons hbar

/-- There is no other way to do so. -/
theorem Cuts.eq_segmentsFrom {parts : List (List Char)} (h : Cuts literal s parts) :
    parts = segmentsFrom literal s := by
  induction h with
  | last h => rw [segmentsFrom_of_scan h]
  | bar h _ ih => rw [segmentsFrom_append_bar h, segments, ih]

/-- From any open literal a line is cut in one way. -/
theorem cuts_iff {parts : List (List Char)} :
    Cuts literal s parts ↔ parts = segmentsFrom literal s := by
  constructor
  · exact Cuts.eq_segmentsFrom
  · rintro rfl
    exact cuts_segmentsFrom literal s

/-! ## Trimmed lines -/

theorem bar_notMem_of_blank {pad : List Char} (h : ∀ c ∈ pad, isBlank c = true) : '|' ∉ pad :=
  fun hmem => absurd (h _ hmem) (by decide)

/-- Trimming a line does not change its trimmed segments. -/
theorem map_trimmed_segments_trim (line : List Char) :
    (segments (trim line)).map trimmed = (segments line).map trimmed := by
  obtain ⟨pad, pad', hpad, hpad', hline⟩ := exists_pad_trim line
  obtain ⟨init, last, hs, hright⟩ :=
    segmentsFrom_append_of_bar_notMem (bar_notMem_of_blank hpad') none (trim line)
  have hlast : trimmed (last ++ pad') = trimmed last := by
    rw [trimmed, trim_append_right hpad', trimmed]
  have hleft := segmentsFrom_append (closed_of_blank hpad) (trim line ++ pad')
  rw [← hline, hright] at hleft
  rw [segments, segments, hleft, hs]
  cases init with
  | nil =>
    have hfirst : trimmed (pad ++ (last ++ pad')) = trimmed last := by
      rw [trimmed, trim_append_left hpad, ← trimmed, hlast]
    simp [hfirst]
  | cons first init =>
    have hfirst : trimmed (pad ++ first) = trimmed first := by
      rw [trimmed, trim_append_left hpad, trimmed]
    simp [hfirst, hlast]

end LogQuery.Script
