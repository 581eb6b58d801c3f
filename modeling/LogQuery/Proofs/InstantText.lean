import LogQuery.Proofs.Calendar
import LogQuery.Proofs.PaddedNumbers
import LogQuery.Proofs.SortedRows
import LogQuery.Stage.Parser

/-!
# The texts of instants

The text of an instant consists of numbers of fixed widths, the greater units first, so up to the
end of the year 9999 the texts of instants are in the order of the instants
(`isoText_lt_isoText_iff`), and a sort by such texts is a sort in time
(`sortRows_eq_sortedBy_instant`).
-/

namespace LogQuery

namespace Time

variable {width m n : Nat} {s t : List Char}

/-- The first instant of the year 10000, whose text is longer than the texts before it. -/
def endOfYears : Nat := 253402300800000

/-! ## The parts of a text -/

/-- A number and the separator after it decide first, then what follows. -/
theorem field_lt_iff (separator : Char) (hwidth : 0 < width) (hm : m < 10 ^ width)
    (hn : n < 10 ^ width) :
    padded width m ++ separator :: s < padded width n ++ separator :: t ↔
      m < n ∨ m = n ∧ s < t := by
  rw [padded_append_lt_iff hwidth hm hn, List.cons_lt_cons_iff]
  simp

/-- The time of day in the text of an instant. -/
def clockText (time : Nat) : List Char :=
  padded 2 (time / 3600000) ++ ':' :: (padded 2 (time / 60000 % 60) ++
    ':' :: (padded 2 (time / 1000 % 60) ++ '.' :: (padded 3 (time % 1000) ++ ['Z'])))

/-- The text of an instant is its date and its time of day, each padded. -/
theorem isoText_eq {year month day : Nat}
    (h : dateOfDay (epochDay + m / dayMillis) = (year, month, day)) :
    isoText m = padded 4 year ++ '-' :: (padded 2 month ++ '-' :: (padded 2 day ++
      'T' :: clockText (m % dayMillis))) := by
  unfold isoText clockText
  rw [h]
  simp only [List.append_assoc, List.cons_append]

/-- Times of day are ordered as their texts are. -/
theorem clockText_lt_iff (hm : m < dayMillis) (hn : n < dayMillis) :
    clockText m < clockText n ↔ m < n := by
  unfold dayMillis at hm hn
  unfold clockText
  rw [field_lt_iff ':' (by decide) (by omega) (by omega),
    field_lt_iff ':' (by decide) (by omega) (by omega),
    field_lt_iff '.' (by decide) (by omega) (by omega),
    field_lt_iff 'Z' (by decide) (by omega) (by omega)]
  have hnil : ¬ ([] : List Char) < [] := List.lt_irrefl _
  simp only [hnil, and_false, or_false]
  omega

/-! ## Texts in order -/

/-- Up to the end of the year 9999 a year has four digits. -/
theorem yearOfDay_lt (h : m < endOfYears) : yearOfDay (epochDay + m / dayMillis) < 10000 := by
  have hday : epochDay + m / dayMillis < daysBeforeYear 10000 := by
    unfold endOfYears at h
    unfold dayMillis epochDay daysBeforeYear
    omega
  have hyear := (yearOfDay_bounds (epochDay + m / dayMillis)).1
  exact strictMono_daysBeforeYear.lt_iff_lt.mp (hyear.trans_lt hday)

/-- Instants are ordered as their texts are, by date and then by time of day. -/
theorem isoText_lt_isoText_iff (hm : m < endOfYears) (hn : n < endOfYears) :
    isoText m < isoText n ↔ m < n := by
  obtain ⟨year, month, day, h⟩ : ∃ y mo d, dateOfDay (epochDay + m / dayMillis) = (y, mo, d) :=
    ⟨_, _, _, rfl⟩
  obtain ⟨year', month', day', h'⟩ : ∃ y mo d, dateOfDay (epochDay + n / dayMillis) = (y, mo, d) :=
    ⟨_, _, _, rfl⟩
  obtain ⟨hdate, hday⟩ := isDate_dateOfDay _ h
  obtain ⟨hdate', hday'⟩ := isDate_dateOfDay _ h'
  have hyear : year < 10000 := by
    rw [← show yearOfDay (epochDay + m / dayMillis) = year from congrArg Prod.fst h]
    exact yearOfDay_lt hm
  have hyear' : year' < 10000 := by
    rw [← show yearOfDay (epochDay + n / dayMillis) = year' from congrArg Prod.fst h']
    exact yearOfDay_lt hn
  obtain ⟨hmonth, hdayOfMonth⟩ := isDate_bounds hdate
  obtain ⟨hmonth', hdayOfMonth'⟩ := isDate_bounds hdate'
  have hclock : clockText (m % dayMillis) < clockText (n % dayMillis) ↔
      m % dayMillis < n % dayMillis :=
    clockText_lt_iff (Nat.mod_lt m (by decide)) (Nat.mod_lt n (by decide))
  -- both directions are needed: two dates of which neither is the earlier one are the same
  have hdates := dayOfDate_lt_iff hdate hdate'
  have hdates' := dayOfDate_lt_iff hdate' hdate
  rw [hday, hday'] at hdates hdates'
  rw [isoText_eq h, isoText_eq h', field_lt_iff '-' (by decide) hyear hyear',
    field_lt_iff '-' (by decide) hmonth hmonth',
    field_lt_iff 'T' (by decide) hdayOfMonth hdayOfMonth', hclock]
  unfold dayMillis at *
  omega

theorem ofList_isoText_lt_iff (hm : m < endOfYears) (hn : n < endOfYears) :
    String.ofList (isoText m) < String.ofList (isoText n) ↔ m < n := by
  rw [String.lt_iff_toList_lt, String.toList_ofList, String.toList_ofList,
    isoText_lt_isoText_iff hm hn]

theorem ofList_isoText_inj (hm : m < endOfYears) (hn : n < endOfYears) :
    String.ofList (isoText m) = String.ofList (isoText n) ↔ m = n := by
  constructor
  · intro h
    have hlt : ¬ m < n := by
      rw [← ofList_isoText_lt_iff hm hn, h]
      exact String.lt_irrefl _
    have hgt : ¬ n < m := by
      rw [← ofList_isoText_lt_iff hn hm, h]
      exact String.lt_irrefl _
    omega
  · rintro rfl
    rfl

end Time

namespace Stage

open Text Time

variable {column : String} {instant : Record → Nat} {rows : List Record}

/-! ## Rows in order -/

/-- Sorting by the text of an instant is sorting by the instant. -/
theorem sortRows_eq_sortedBy_instant (h : ∀ row ∈ rows, instant row < endOfYears ∧
      Record.text row column = String.ofList (isoText (instant row))) :
    sortRows column .ascending rows = sortedBy instant rows := by
  rw [sortRows_eq_sortedBy]
  refine sortedBy_congr ?_
  intro a ha b hb
  obtain ⟨hlt, htext⟩ := h a ha
  obtain ⟨hlt', htext'⟩ := h b hb
  rw [htext, htext', ← not_lt, ← not_lt]
  exact not_congr (ofList_isoText_lt_iff hlt' hlt)

theorem parse_orderBy_timeGenerated :
    parse "order by TimeGenerated" = .sort "TimeGenerated" .ascending := by
  rfl

/-- Rows are sorted in time when none is added or lost, they ascend in time, and the rows of each
instant are in their old order. -/
structure IsSortedInTime (instant : Record → Nat) (rows sorted : List Record) : Prop where
  perm : sorted.Perm rows
  ordered : sorted.Pairwise fun a b => instant a ≤ instant b
  stable : ∀ m, sorted.filter (instant · = m) = rows.filter (instant · = m)

/-- Up to the end of the year 9999 the texts of instants are, byte for byte, in the order of the
instants, so rows that show instants as the time they were generated at are sorted in time. -/
theorem orderBy_timeGenerated_chronological :
    (∀ m n, m < endOfYears → n < endOfYears →
      (bytes (String.ofList (isoText m)) < bytes (String.ofList (isoText n)) ↔ m < n) ∧
      (String.ofList (isoText m) = String.ofList (isoText n) ↔ m = n)) ∧
    ∀ (instant : Record → Nat) (rows : List Record),
      (∀ row ∈ rows, instant row < endOfYears ∧
        Record.text row "TimeGenerated" = String.ofList (isoText (instant row))) →
      IsSortedInTime instant rows ((parse "order by TimeGenerated").run rows) := by
  constructor
  · intro m n hm hn
    rw [bytes_lt_bytes_iff]
    exact ⟨ofList_isoText_lt_iff hm hn, ofList_isoText_inj hm hn⟩
  · intro instant rows h
    have hsorted : (parse "order by TimeGenerated").run rows = sortedBy instant rows := by
      rw [parse_orderBy_timeGenerated]
      exact sortRows_eq_sortedBy_instant h
    rw [hsorted]
    constructor
    · exact perm_sortedBy instant rows
    · exact pairwise_sortedBy instant rows
    · exact filter_key_sortedBy instant rows

/-- Two rows of which the one with the later time stands first: the first of March and the last
millisecond of the leap day before it. -/
theorem orderBy_timeGenerated_chronological_leapDay :
    let rows : List Record := [.ofPairs [("TimeGenerated", .string "2024-03-01T00:00:00.000Z")],
      .ofPairs [("TimeGenerated", .string "2024-02-29T23:59:59.999Z")]]
    let instant : Record → Nat := fun row =>
      if Record.text row "TimeGenerated" = "2024-03-01T00:00:00.000Z" then 1709251200000
      else 1709251199999
    (∀ row ∈ rows, instant row < endOfYears ∧
      Record.text row "TimeGenerated" = String.ofList (isoText (instant row))) ∧
    IsSortedInTime instant rows ((parse "order by TimeGenerated").run rows) := by
  intro rows instant
  have h : ∀ row ∈ rows, instant row < endOfYears ∧
      Record.text row "TimeGenerated" = String.ofList (isoText (instant row)) := by decide +kernel
  exact ⟨h, orderBy_timeGenerated_chronological.2 instant rows h⟩

end Stage

end LogQuery
