/-!
# Ranges of code points

A property of characters that a standard lists rather than computes is kept here as an ascending
list of closed ranges of code points. Membership walks the list and stops at the first range that
begins above the code point asked for, so that the characters at the bottom of the code space, by
far the most frequent ones, are decided at once.
-/

namespace LogQuery.Text

/-- A closed range of code points, given by its first and its last member. -/
abbrev Range := Nat × Nat

/-- Whether a code point lies in one of the ranges, which have to be ascending. -/
def inRanges : List Range → Nat → Bool
  | [], _ => false
  | (first, last) :: rest, n =>
    if n < first then false else if n ≤ last then true else inRanges rest n

/-- Whether the ranges are ascending, each apart from the next. -/
def ascending : List Range → Bool
  | [] => true
  | [(first, last)] => first ≤ last
  | (first, last) :: (next, stop) :: rest =>
    first ≤ last && last < next && ascending ((next, stop) :: rest)

/-- Nothing below the first range belongs to the property. -/
theorem inRanges_of_lt {first last n : Nat} {rest : List Range} (h : n < first) :
    inRanges ((first, last) :: rest) n = false := by
  simp [inRanges, h]

theorem inRanges_of_mem {first last n : Nat} {rest : List Range} (low : first ≤ n)
    (high : n ≤ last) : inRanges ((first, last) :: rest) n = true := by
  simp [inRanges, Nat.not_lt.mpr low, high]

/-- A code point of the property lies in one of the ranges. -/
theorem exists_range_of_inRanges {ranges : List Range} {n : Nat} (h : inRanges ranges n = true) :
    ∃ range ∈ ranges, range.1 ≤ n ∧ n ≤ range.2 := by
  induction ranges with
  | nil => exact absurd h (by simp [inRanges])
  | cons range rest ih =>
    obtain ⟨first, last⟩ := range
    rw [inRanges] at h
    split at h
    · exact absurd h (by simp)
    · rename_i low
      split at h
      · rename_i high
        exact ⟨(first, last), List.mem_cons_self, Nat.not_lt.mp low, high⟩
      · obtain ⟨range, hmem, hrange⟩ := ih h
        exact ⟨range, List.mem_cons_of_mem _ hmem, hrange⟩

end LogQuery.Text
