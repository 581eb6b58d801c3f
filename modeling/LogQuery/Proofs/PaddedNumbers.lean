import LogQuery.Decimal.Reader
import LogQuery.Time.Calendar
import Mathlib.Algebra.Order.Ring.Nat
import Mathlib.Data.List.Lex

/-!
# Numbers of a fixed width

A number that fits into a width is written there with exactly as many digits, from which it is read
back. Rows of digits of one length are in the order of the numbers that they denote
(`digitsValueFrom_lt_iff`), so texts that begin with numbers of one width are compared by these
numbers first (`padded_append_lt_iff`).
-/

namespace LogQuery.Time

open Decimal

variable {width m n : Nat} {a b s t : List Char}

/-! ## Digits in order -/

theorem digit_bounds {c : Char} (h : isDigit c = true) : 48 ≤ c.toNat ∧ c.toNat ≤ 57 := by
  rw [isDigit, Bool.and_eq_true, decide_eq_true_eq, decide_eq_true_eq] at h
  exact ⟨UInt32.le_iff_toNat_le.mp h.1, UInt32.le_iff_toNat_le.mp h.2⟩

theorem digitsValueFrom_cons (n : Nat) (c : Char) (ds : List Char) :
    digitsValueFrom n (c :: ds) = digitsValueFrom (10 * n + (c.toNat - 48)) ds := by
  unfold digitsValueFrom
  exact List.foldl_cons

/-- Of two numbers with equally many digits still to come the greater one stays the greater, and
equal ones are told apart by these digits. -/
theorem digitsValueFrom_lt_iff (ha : ∀ c ∈ a, isDigit c = true) (hb : ∀ c ∈ b, isDigit c = true)
    (hlength : a.length = b.length) :
    digitsValueFrom m a < digitsValueFrom n b ↔ m < n ∨ m = n ∧ a < b := by
  induction a generalizing b m n with
  | nil =>
    obtain rfl := List.eq_nil_of_length_eq_zero hlength.symm
    simp [digitsValueFrom]
  | cons c a ih =>
    obtain ⟨d, b, rfl⟩ := List.exists_cons_of_length_eq_add_one hlength.symm
    rw [List.forall_mem_cons] at ha hb
    have hc := digit_bounds ha.1
    have hd := digit_bounds hb.1
    have heq : c = d ↔ c.toNat = d.toNat := Char.toNat_inj.symm
    have hlt : c < d ↔ c.toNat < d.toNat := Iff.rfl
    -- what remains does not depend on the digits behind the first one but for their order
    rw [digitsValueFrom_cons, digitsValueFrom_cons, ih ha.2 hb.2 (Nat.succ.inj hlength),
      List.cons_lt_cons_iff, heq, hlt]
    by_cases hab : a < b
    · simp only [hab, and_true]
      omega
    · simp only [hab, and_false, or_false]
      omega

theorem digitsValueFrom_lt (ha : ∀ c ∈ a, isDigit c = true) :
    digitsValueFrom n a < (n + 1) * 10 ^ a.length := by
  induction a generalizing n with
  | nil => simp [digitsValueFrom]
  | cons c a ih =>
    rw [List.forall_mem_cons] at ha
    have hc := digit_bounds ha.1
    have hrest := ih (n := 10 * n + (c.toNat - 48)) ha.2
    have hle : 10 * n + (c.toNat - 48) + 1 ≤ (n + 1) * 10 := by omega
    rw [digitsValueFrom_cons, List.length_cons, Nat.pow_succ']
    calc digitsValueFrom (10 * n + (c.toNat - 48)) a
        < (10 * n + (c.toNat - 48) + 1) * 10 ^ a.length := hrest
      _ ≤ (n + 1) * 10 * 10 ^ a.length := Nat.mul_le_mul_right _ hle
      _ = (n + 1) * (10 * 10 ^ a.length) := Nat.mul_assoc _ _ _

/-- Digits stand for a number below the power of ten of their length. -/
theorem digitsValue_lt (ha : ∀ c ∈ a, isDigit c = true) : digitsValue a < 10 ^ a.length := by
  have h := digitsValueFrom_lt (n := 0) ha
  rwa [Nat.zero_add, Nat.one_mul] at h

/-- Texts that begin with others of equal length are ordered by these first. -/
theorem append_lt_append_iff (hlength : a.length = b.length) :
    a ++ s < b ++ t ↔ a < b ∨ a = b ∧ s < t := by
  induction a generalizing b with
  | nil =>
    obtain rfl := List.eq_nil_of_length_eq_zero hlength.symm
    simp
  | cons c a ih =>
    obtain ⟨d, b, rfl⟩ := List.exists_cons_of_length_eq_add_one hlength.symm
    rw [List.cons_append, List.cons_append, List.cons_lt_cons_iff, List.cons_lt_cons_iff,
      ih (Nat.succ.inj hlength), List.cons_eq_cons]
    tauto

/-! ## Numbers with zeros in front -/

theorem length_padded (hwidth : 0 < width) (h : n < 10 ^ width) :
    (padded width n).length = width := by
  have hdigits : (digits n).length ≤ width :=
    (Nat.length_toDigits_le_iff (by decide) hwidth).mpr h
  unfold padded
  rw [List.length_append, List.length_replicate]
  omega

theorem isDigit_of_mem_padded : ∀ c ∈ padded width n, isDigit c = true := by
  intro c hc
  rcases List.mem_append.mp hc with hc | hc
  · rw [List.eq_of_mem_replicate hc]
    rfl
  · exact isDigit_of_mem_digits hc

theorem digitsValue_padded (width n : Nat) : digitsValue (padded width n) = n := by
  have hzeros : ∀ k, digitsValue (List.replicate k '0' ++ digits n) = digitsValue (digits n) := by
    intro k
    induction k with
    | zero => rfl
    | succ k ih => exact ih
  exact (hzeros _).trans (digitsValue_digits n)

/-- Numbers of one width are ordered as their texts are, whatever follows. -/
theorem padded_append_lt_iff (hwidth : 0 < width) (hm : m < 10 ^ width) (hn : n < 10 ^ width) :
    padded width m ++ s < padded width n ++ t ↔ m < n ∨ m = n ∧ s < t := by
  have hlength : (padded width m).length = (padded width n).length := by
    rw [length_padded hwidth hm, length_padded hwidth hn]
  have hlt : padded width m < padded width n ↔ m < n := by
    have hvalue := digitsValueFrom_lt_iff (m := 0) (n := 0) isDigit_of_mem_padded
      isDigit_of_mem_padded hlength
    rw [← digitsValue, ← digitsValue, digitsValue_padded, digitsValue_padded] at hvalue
    simpa using hvalue.symm
  have heq : padded width m = padded width n ↔ m = n := by
    constructor
    · intro h
      rw [← digitsValue_padded width m, h, digitsValue_padded]
    · rintro rfl
      rfl
  rw [append_lt_append_iff hlength, hlt, heq]

end LogQuery.Time
