import LogQuery.Proofs.Segments

/-!
# The only way to cut a line

The segments of a line can be told without reading the line from its start: joined with bars they
are the line, none of them has a bar outside literals when it is read on its own, and none but the
last one leaves a literal open (`IsSplit`). A line has one such list of segments, and it is the one
that the reader of scripts finds (`segments_unique_split`).

The reader carries the open literal from segment to segment, while here every segment is read from
outside literals. Both agree because a cut is made where no literal is open, which is what the
relation `Cuts` says of the reader; so it is enough to compare that relation with the three
conditions, segment by segment (`cuts_none_iff`).
-/

namespace LogQuery.Script

open Text

/-- A cutting of a line that loses nothing and heeds the literals. -/
structure IsSplit (line : List Char) (parts : List (List Char)) : Prop where
  /-- Joined with bars, the segments are the line. -/
  joined_eq : joined ['|'] parts = line
  /-- Read from outside literals, no segment has a bar outside literals. -/
  scans : ∀ part ∈ parts, ∃ final, Scan none part final
  /-- Every segment but the last one ends outside literals. -/
  closed_dropLast : ∀ part ∈ parts.dropLast, Closed part

variable {line part next : List Char} {parts : List (List Char)}

/-- Without segments nothing but the empty line is cut. -/
theorem isSplit_nil_iff : IsSplit line [] ↔ line = [] := by
  constructor
  · intro h
    exact h.joined_eq.symm
  · rintro rfl
    exact ⟨rfl, by simp, by simp⟩

/-- A single segment is the whole line. -/
theorem isSplit_singleton_iff :
    IsSplit line [part] ↔ part = line ∧ ∃ final, Scan none part final := by
  constructor
  · intro h
    exact ⟨h.joined_eq, h.scans part List.mem_cons_self⟩
  · rintro ⟨rfl, hscan⟩
    exact ⟨rfl, by simpa using hscan, by simp⟩

/-- In front of another segment stand a text whose literals are closed and a bar, and the segments
behind it are a cutting of the rest. -/
theorem isSplit_cons_cons_iff :
    IsSplit line (part :: next :: parts) ↔
      ∃ rest, line = part ++ '|' :: rest ∧ Closed part ∧ IsSplit rest (next :: parts) := by
  have hdrop : (part :: next :: parts).dropLast = part :: (next :: parts).dropLast := rfl
  have hjoined : joined ['|'] (part :: next :: parts) =
      part ++ '|' :: joined ['|'] (next :: parts) := by
    simp [joined]
  constructor
  · intro h
    have hclosed : ∀ p ∈ part :: (next :: parts).dropLast, Closed p := hdrop ▸ h.closed_dropLast
    refine ⟨joined ['|'] (next :: parts), ?_, hclosed part List.mem_cons_self, rfl, ?_, ?_⟩
    · rw [← hjoined, h.joined_eq]
    · exact fun p hp => h.scans p (List.mem_cons_of_mem part hp)
    · exact fun p hp => hclosed p (List.mem_cons_of_mem part hp)
  · rintro ⟨rest, rfl, hpart, hrest⟩
    refine ⟨by rw [hjoined, hrest.joined_eq], ?_, ?_⟩
    · exact List.forall_mem_cons.mpr ⟨⟨none, hpart⟩, hrest.scans⟩
    · rw [hdrop]
      exact List.forall_mem_cons.mpr ⟨hpart, hrest.closed_dropLast⟩

/-- Cutting a line from outside literals is cutting it into segments of which each is read from
outside literals. -/
theorem cuts_none_iff : Cuts none line parts ↔ parts ≠ [] ∧ IsSplit line parts := by
  induction parts generalizing line with
  | nil =>
    constructor
    · intro h
      cases h
    · rintro ⟨hne, -⟩
      exact absurd rfl hne
  | cons part parts ih =>
    cases parts with
    | nil =>
      rw [isSplit_singleton_iff]
      constructor
      · intro h
        cases h with
        | last h => exact ⟨List.cons_ne_nil _ _, rfl, _, h⟩
        | bar _ hrest => cases hrest
      · rintro ⟨-, rfl, final, h⟩
        exact .last h
    | cons next parts =>
      rw [isSplit_cons_cons_iff]
      constructor
      · intro h
        cases h with
        | bar h hrest => exact ⟨List.cons_ne_nil _ _, _, rfl, h, (ih.mp hrest).2⟩
      · rintro ⟨-, rest, rfl, h, hrest⟩
        exact .bar h (ih.mpr ⟨List.cons_ne_nil _ _, hrest⟩)

/-- Joined with bars, the segments of a line give the line back; none of them has a bar outside
literals, and only the last one may leave a literal open. There is at least one segment, and no
other segments do this for the line. No segment at all does it for the empty line only, which is cut
into one empty segment. -/
theorem segments_unique_split (line : List Char) :
    segments line ≠ [] ∧ IsSplit line (segments line) ∧
      (∀ parts, parts ≠ [] → IsSplit line parts → parts = segments line) ∧
      (IsSplit line [] ↔ line = []) := by
  obtain ⟨hne, hsplit⟩ := cuts_none_iff.mp (cuts_segmentsFrom none line)
  refine ⟨hne, hsplit, ?_, isSplit_nil_iff⟩
  intro parts hnil hparts
  exact cuts_iff.mp (cuts_none_iff.mpr ⟨hnil, hparts⟩)

example : (segments "Log|where u in ('|', \"it's|\")||take \"é|1".toList).map String.ofList =
    ["Log", "where u in ('|', \"it's|\")", "", "take \"é|1"] := by decide +kernel

end LogQuery.Script
