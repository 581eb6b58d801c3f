import LogQuery.Proofs.ByteOrder
import LogQuery.Proofs.Grouping

/-!
# Sorted rows

A sort by a column is the stable sort by the bytes of its texts, in both directions
(`sortRows_unique_stable`): no other arrangement of the rows has them in order and leaves rows of
the same text as they were. So a descending sort is not an ascending one read backwards, but that of
the rows read backwards (`sortRows_descending_eq_reverse`), and the sort that comes first decides
about what later sorts leave open (`isArranged_iff`).

Both directions are handled at once: the texts, in the order of a direction, are a linear order
`Direction.Key`, and a sort of rows is a sort by such keys (`sortRows_eq_sortedBy`).
-/

namespace LogQuery

open Text

namespace Direction

/-- Whether the first of two keys may stand before the second one. -/
def AtMost {κ : Type} [LE κ] : Direction → κ → κ → Prop
  | ascending, a, b => a ≤ b
  | descending, a, b => b ≤ a

/-- Whether the first of two keys has to stand before the second one. -/
def Less {κ : Type} [LT κ] : Direction → κ → κ → Prop
  | ascending, a, b => a < b
  | descending, a, b => b < a

/-- Texts in the order of a direction. -/
def Key : Direction → Type
  | ascending => String
  | descending => Stringᵒᵈ

instance (direction : Direction) : LinearOrder direction.Key :=
  match direction with
  | ascending => inferInstanceAs (LinearOrder String)
  | descending => inferInstanceAs (LinearOrder Stringᵒᵈ)

/-- A text as a key. -/
def key (direction : Direction) : String ≃ direction.Key :=
  match direction with
  | ascending => Equiv.refl String
  | descending => OrderDual.toDual

variable {direction : Direction} {s t : String}

theorem key_le_key_iff :
    direction.key s ≤ direction.key t ↔ direction.AtMost (bytes s) (bytes t) := by
  have hbytes : ∀ s t : String, s ≤ t ↔ bytes s ≤ bytes t := by
    intro s t
    rw [← List.not_lt, bytes_lt_bytes_iff, not_lt]
  cases direction with
  | ascending => exact hbytes s t
  | descending => exact hbytes t s

theorem key_lt_key_iff :
    direction.key s < direction.key t ↔ direction.Less (bytes s) (bytes t) := by
  cases direction with
  | ascending => exact bytes_lt_bytes_iff.symm
  | descending => exact bytes_lt_bytes_iff.symm

end Direction

namespace Stage

variable {column : String} {direction : Direction} {rows sorted : List Record}

/-- Rows are sorted by the key that the direction makes of their text. -/
theorem sortRows_eq_sortedBy (column : String) (direction : Direction) (rows : List Record) :
    sortRows column direction rows =
      sortedBy (fun row => direction.key (Record.text row column)) rows := by
  have horder : inOrder column direction =
      keyLe fun row => direction.key (Record.text row column) := by
    funext a b
    cases direction with
    | ascending =>
      rw [Bool.eq_iff_iff, keyLe_iff, inOrder, decide_eq_true_eq]
      exact Iff.rfl
    | descending =>
      rw [Bool.eq_iff_iff, keyLe_iff, inOrder, decide_eq_true_eq]
      exact Iff.rfl
  rw [sortRows, sortedBy, horder]

theorem perm_sortRows (column : String) (direction : Direction) (rows : List Record) :
    (sortRows column direction rows).Perm rows := List.mergeSort_perm _ _

/-! ## The stable sort -/

/-- Rows are sorted by a column when none is added or lost, the bytes of their texts are in order,
and the rows of each text are in their old order. -/
structure IsStableSort (column : String) (direction : Direction) (rows sorted : List Record) :
    Prop where
  perm : sorted.Perm rows
  /-- Texts are in the order of their bytes. -/
  ordered : sorted.Pairwise fun a b =>
    direction.AtMost (bytes (Record.text a column)) (bytes (Record.text b column))
  /-- Rows of the same text keep their order. -/
  stable : ∀ text : String, sorted.filter (Record.text · column = text) =
    rows.filter (Record.text · column = text)

theorem isStableSort_sortRows (column : String) (direction : Direction) (rows : List Record) :
    IsStableSort column direction rows (sortRows column direction rows) where
  perm := perm_sortRows column direction rows
  ordered := by
    rw [sortRows_eq_sortedBy]
    refine (pairwise_sortedBy _ rows).imp ?_
    intro a b hab
    exact Direction.key_le_key_iff.mp hab
  stable := by
    intro text
    have hkeys := filter_key_sortedBy (fun row => direction.key (Record.text row column)) rows
      (direction.key text)
    simpa only [EmbeddingLike.apply_eq_iff_eq, ← sortRows_eq_sortedBy] using hkeys

/-- Only one arrangement of the rows is sorted. -/
theorem IsStableSort.eq_sortRows (h : IsStableSort column direction rows sorted) :
    sorted = sortRows column direction rows := by
  rw [sortRows_eq_sortedBy]
  refine eq_sortedBy ?_ ?_
  · refine h.ordered.imp ?_
    intro a b hab
    exact Direction.key_le_key_iff.mpr hab
  · intro k
    obtain ⟨text, rfl⟩ := direction.key.surjective k
    simpa only [EmbeddingLike.apply_eq_iff_eq] using h.stable text

/-- A descending sort is an ascending one from back to front: read forwards, rows of the same text
would change places. -/
theorem sortRows_descending_eq_reverse (column : String) (rows : List Record) :
    sortRows column .descending rows = (sortRows column .ascending rows.reverse).reverse := by
  have h := isStableSort_sortRows column .ascending rows.reverse
  refine (IsStableSort.eq_sortRows ⟨?_, ?_, ?_⟩).symm
  · exact (List.reverse_perm _).trans (h.perm.trans (List.reverse_perm rows))
  · rw [List.pairwise_reverse]
    exact h.ordered
  · intro text
    rw [List.filter_reverse, h.stable, List.filter_reverse, List.reverse_reverse]

/-! ## Several sorts -/

/-- Whether a row at a place comes before another one when rows are compared by the texts of some
columns, one column after the other, and by their places where all these texts are the same. -/
def ComesBefore : List (String × Direction) → Record × Nat → Record × Nat → Prop
  | [], a, b => a.2 < b.2
  | (column, direction) :: rest, a, b =>
    direction.Less (bytes (Record.text a.1 column)) (bytes (Record.text b.1 column)) ∨
      Record.text a.1 column = Record.text b.1 column ∧ ComesBefore rest a b

/-- Rows are arranged by some columns when, taken with the places they had, every row comes before
those behind it. -/
def IsArranged (columns : List (String × Direction)) (rows sorted : List Record) : Prop :=
  ∃ placed : List (Record × Nat), placed.Perm rows.zipIdx ∧
    placed.Pairwise (ComesBefore columns) ∧ placed.map Prod.fst = sorted

theorem comesBefore_asymm {columns : List (String × Direction)} {a b : Record × Nat}
    (h : ComesBefore columns a b) : ¬ ComesBefore columns b a := by
  induction columns with
  | nil =>
    unfold ComesBefore at h ⊢
    omega
  | cons criterion rest ih =>
    obtain ⟨column, direction⟩ := criterion
    unfold ComesBefore at h ⊢
    rw [← Direction.key_lt_key_iff] at h ⊢
    rintro (hba | ⟨e, hba⟩)
    · rcases h with hab | ⟨e, -⟩
      · exact lt_asymm hab hba
      · exact hba.ne (congrArg direction.key e.symm)
    · rcases h with hab | ⟨-, hab⟩
      · exact hab.ne (congrArg direction.key e.symm)
      · exact ih hab hba

/-- There is one way only to arrange rows. -/
theorem IsArranged.eq {columns : List (String × Direction)} {sorted' : List Record}
    (h : IsArranged columns rows sorted) (h' : IsArranged columns rows sorted') :
    sorted = sorted' := by
  obtain ⟨placed, hperm, hordered, rfl⟩ := h
  obtain ⟨placed', hperm', hordered', rfl⟩ := h'
  have hplaced : placed = placed' := by
    refine List.Perm.eq_of_pairwise ?_ hordered hordered' (hperm.trans hperm'.symm)
    intro a b _ _ hab hba
    exact absurd hba (comesBefore_asymm hab)
  rw [hplaced]

/-- Rows as they stand are arranged by their places. -/
theorem isArranged_nil (rows : List Record) : IsArranged [] rows rows := by
  refine ⟨rows.zipIdx, List.Perm.refl _, ?_, List.zipIdx_map_fst 0 rows⟩
  have hplaces : (rows.zipIdx.map Prod.snd).Pairwise (· < ·) := by
    rw [List.zipIdx_map_snd]
    exact List.pairwise_lt_range'
  rw [List.pairwise_map] at hplaces
  exact hplaces

/-- Sorting arranged rows by one more column arranges them by that column first. -/
theorem isArranged_sortRows {columns : List (String × Direction)}
    (h : IsArranged columns rows sorted) (column : String) (direction : Direction) :
    IsArranged ((column, direction) :: columns) rows (sortRows column direction sorted) := by
  obtain ⟨placed, hperm, hordered, rfl⟩ := h
  let key : Record × Nat → direction.Key := fun a => direction.key (Record.text a.1 column)
  refine ⟨sortedBy key placed, (perm_sortedBy key placed).trans hperm, ?_, ?_⟩
  · rw [List.pairwise_iff_forall_sublist]
    intro a b hab
    have hle : key a ≤ key b :=
      List.pairwise_iff_forall_sublist.mp (pairwise_sortedBy key placed) hab
    rcases hle.lt_or_eq with hlt | heq
    · exact .inl (Direction.key_lt_key_iff.mp hlt)
    · -- among the rows of one text the arrangement is the old one
      have hclass := hab.filter (key · = key b)
      rw [List.filter_eq_self.mpr (by simp [heq]), filter_key_sortedBy] at hclass
      refine .inr ⟨direction.key.injective heq, ?_⟩
      exact List.pairwise_iff_forall_sublist.mp hordered (hclass.trans List.filter_sublist)
  · rw [sortRows_eq_sortedBy, ← map_sortedBy]

/-- Sorting by one column after the other, the last of the list first, arranges the rows by all of
them. -/
theorem isArranged_iff {columns : List (String × Direction)} :
    IsArranged columns rows sorted ↔
      sorted =
        columns.foldr (fun criterion rows => sortRows criterion.1 criterion.2 rows) rows := by
  have harranged : IsArranged columns rows
      (columns.foldr (fun criterion rows => sortRows criterion.1 criterion.2 rows) rows) := by
    induction columns with
    | nil => exact isArranged_nil rows
    | cons criterion rest ih => exact isArranged_sortRows ih criterion.1 criterion.2
  constructor
  · intro h
    exact h.eq harranged
  · rintro rfl
    exact harranged

/-- Sorting by a column gives the only list of the same rows in which the bytes of its texts are in
order and rows of the same text are in their old order; a row that lacks the column counts as one
with the null value there, whose text is empty. Descending is ascending from back to front. Two
sorts put the rows in the order of the second column, then of the first one, then of their
places. -/
theorem sortRows_unique_stable (column : String) (direction : Direction) (rows : List Record) :
    (∀ sorted, IsStableSort column direction rows sorted ↔
        sorted = sortRows column direction rows) ∧
      (∀ row : Record, Record.text row column = ((row.get? column).getD .null).text) ∧
        Value.null.text = "" ∧
          sortRows column .descending rows =
            (sortRows column .ascending rows.reverse).reverse ∧
            ∀ (first : String) (direction' : Direction) (sorted : List Record),
              IsArranged [(column, direction), (first, direction')] rows sorted ↔
                sorted = sortRows column direction (sortRows first direction' rows) := by
  refine ⟨?_, fun row => text_eq_text_getD row column, rfl,
    sortRows_descending_eq_reverse column rows, ?_⟩
  · intro sorted
    constructor
    · exact IsStableSort.eq_sortRows
    · rintro rfl
      exact isStableSort_sortRows column direction rows
  · intro first direction' sorted
    exact isArranged_iff

end Stage

end LogQuery
