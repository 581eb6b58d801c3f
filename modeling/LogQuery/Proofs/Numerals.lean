import LogQuery.Decimal.Layout
import LogQuery.Json.Number
import Mathlib.Data.List.Basic
import Mathlib.Data.List.TakeWhile

/-!
# Reading numerals

The digits that a text starts with are taken off it up to the first other character
(`takeWhile_isDigit_append`). A numeral is written by its parts (`Numeral.text`), of which each ends
where the next one starts, so a written numeral is taken off the front of every text that does not
go on with a number (`numeral?_text`).
-/

namespace LogQuery

namespace Decimal

variable {ds rest : List Char}

theorem takeWhile_isDigit_append (h : ∀ c ∈ ds, isDigit c = true)
    (hrest : ∀ c ∈ rest.head?, isDigit c = false) : (ds ++ rest).takeWhile isDigit = ds := by
  rw [List.takeWhile_append_of_pos h]
  cases rest with
  | nil => exact List.append_nil ds
  | cons c rest => rw [List.takeWhile_cons_of_neg (by simp [hrest c rfl]), List.append_nil]

theorem dropWhile_isDigit_append (h : ∀ c ∈ ds, isDigit c = true)
    (hrest : ∀ c ∈ rest.head?, isDigit c = false) : (ds ++ rest).dropWhile isDigit = rest := by
  rw [List.dropWhile_append_of_pos h]
  cases rest with
  | nil => rfl
  | cons c rest => exact List.dropWhile_cons_of_neg (by simp [hrest c rfl])

/-- Only zero is written with a leading zero. -/
theorem head?_digits {n : Nat} (h : n ≠ 0) : (digits n).head? ≠ some '0' := by
  induction n using Nat.strongRecOn with
  | ind n ih =>
    by_cases hlt : n < 10
    · have hsmall : ∀ m < 10, m ≠ 0 → (digits m).head? ≠ some '0' := by decide
      exact hsmall n hlt h
    · have hdigits : digits n = digits (n / 10) ++ [Nat.digitChar (n % 10)] :=
        Nat.toDigits_of_base_le (by decide) (by omega)
      rw [hdigits, List.head?_append_of_ne_nil _ (digits_ne_nil _)]
      exact ih (n / 10) (by omega) (by omega)

end Decimal

namespace Json

open Decimal

variable {rest : List Char}

/-- Whether a number can go on with a character. -/
def isNumberChar (c : Char) : Bool := isDigit c || c = '.' || c = 'e' || c = 'E'

/-- A text that no number goes on with. -/
def Stops (rest : List Char) : Prop := ∀ c ∈ rest.head?, isNumberChar c = false

namespace Numeral

/-- A point with the digits behind it, if there are any. -/
def fractionText (ds : List Char) : List Char := if ds = [] then [] else '.' :: ds

/-- An exponent with its sign, if there is one. -/
def exponentText : Option (Bool × List Char) → List Char
  | none => []
  | some (negative, ds) => 'e' :: (if negative then '-' else '+') :: ds

/-- The numeral without its sign. -/
def sizeText (numeral : Numeral) : List Char :=
  numeral.whole ++ (fractionText numeral.fraction ++ exponentText numeral.exponent)

/-- The numeral as it is written. -/
def text (numeral : Numeral) : List Char :=
  if numeral.negative then '-' :: numeral.sizeText else numeral.sizeText

/-- The parts that a written numeral can have. -/
structure IsWellFormed (numeral : Numeral) : Prop where
  whole_ne_nil : numeral.whole ≠ []
  /-- A zero before the point stands alone. -/
  length_whole : numeral.whole.head? = some '0' → numeral.whole.length = 1
  isDigit_whole : ∀ c ∈ numeral.whole, isDigit c = true
  isDigit_fraction : ∀ c ∈ numeral.fraction, isDigit c = true
  /-- An exponent has digits, and nothing else behind its sign. -/
  isDigit_exponent : ∀ part ∈ numeral.exponent, part.2 ≠ [] ∧ ∀ c ∈ part.2, isDigit c = true

variable {numeral : Numeral}

/-- What stops a number neither is a digit nor makes a fraction. -/
theorem head?_exponentText_append (exponent : Option (Bool × List Char)) (h : Stops rest) :
    ∀ c ∈ (exponentText exponent ++ rest).head?, isDigit c = false ∧ c ≠ '.' := by
  intro c hc
  cases exponent with
  | none =>
    have hstops := h c hc
    simp only [isNumberChar, Bool.or_eq_false_iff, decide_eq_false_iff_not] at hstops
    exact ⟨hstops.1.1.1, hstops.1.1.2⟩
  | some part =>
    obtain rfl : 'e' = c := Option.some_inj.mp hc
    decide

theorem exponentPart?_exponentText {exponent : Option (Bool × List Char)}
    (h : ∀ part ∈ exponent, part.2 ≠ [] ∧ ∀ c ∈ part.2, isDigit c = true) (hrest : Stops rest) :
    exponentPart? (exponentText exponent ++ rest) = some (exponent, rest) := by
  cases exponent with
  | none =>
    cases rest with
    | nil => rfl
    | cons c rest =>
      have hc := hrest c rfl
      simp only [isNumberChar, Bool.or_eq_false_iff, decide_eq_false_iff_not] at hc
      exact if_neg (by simp [hc.1.2, hc.2])
  | some part =>
    obtain ⟨negative, ds⟩ := part
    obtain ⟨hne, hdigits⟩ := h _ rfl
    have hstop : ∀ c ∈ rest.head?, isDigit c = false := fun c hc =>
      (head?_exponentText_append none hrest c hc).1
    have htake := takeWhile_isDigit_append hdigits hstop
    have hdrop := dropWhile_isDigit_append hdigits hstop
    cases negative
    all_goals
      simp only [exponentText, List.cons_append, exponentPart?, true_or, if_true, htake, hdrop,
        Bool.false_eq_true, if_false]

theorem fractionPart?_fractionText {ds : List Char} (h : ∀ c ∈ ds, isDigit c = true)
    (hrest : ∀ c ∈ rest.head?, isDigit c = false ∧ c ≠ '.') :
    fractionPart? (fractionText ds ++ rest) = some (ds, rest) := by
  have hstop : ∀ c ∈ rest.head?, isDigit c = false := fun c hc => (hrest c hc).1
  rw [fractionText]
  split
  next hnil =>
    subst hnil
    rw [List.nil_append, fractionPart?]
    rintro tail rfl
    exact (hrest '.' rfl).2 rfl
  next hne =>
    obtain ⟨d, ds', rfl⟩ := List.exists_cons_of_ne_nil hne
    simp only [List.cons_append, fractionPart?]
    rw [← List.cons_append, takeWhile_isDigit_append h hstop, dropWhile_isDigit_append h hstop]

/-- A written numeral is read as it is, whatever follows that no number goes on with. -/
theorem numeral?_text (h : numeral.IsWellFormed) (hrest : Stops rest) :
    numeral? (numeral.text ++ rest) = some (numeral, rest) := by
  obtain ⟨negative, whole, fraction, exponent⟩ := numeral
  have hexponent := exponentPart?_exponentText h.isDigit_exponent hrest
  have hfraction := fractionPart?_fractionText h.isDigit_fraction
    (head?_exponentText_append exponent hrest)
  have hstop : ∀ c ∈ (fractionText fraction ++ (exponentText exponent ++ rest)).head?,
      isDigit c = false := by
    intro c hc
    rw [fractionText] at hc
    split at hc
    · exact (head?_exponentText_append exponent hrest c hc).1
    · obtain rfl : '.' = c := Option.some_inj.mp hc
      rfl
  have htake := takeWhile_isDigit_append h.isDigit_whole hstop
  have hdrop := dropWhile_isDigit_append h.isDigit_whole hstop
  have hzero : (whole.isEmpty || (whole.head? == some '0' && decide (1 < whole.length))) =
      false := by
    have hlength := h.length_whole
    have hne := h.whole_ne_nil
    by_cases hhead : whole.head? = some '0'
    · simp [hne, hlength hhead]
    · simp [hne, hhead]
  cases negative with
  | true =>
    simp [text, sizeText, numeral?, htake, hdrop, hzero, hfraction, hexponent]
  | false =>
    have hsign : ∀ tail, whole ++ (fractionText fraction ++ (exponentText exponent ++ rest)) ≠
        '-' :: tail := by
      intro tail he
      obtain ⟨c, ds, hcons⟩ := List.exists_cons_of_ne_nil h.whole_ne_nil
      have hc := h.isDigit_whole c (hcons ▸ List.mem_cons_self)
      simp only [] at hcons
      rw [hcons, List.cons_append] at he
      rw [(List.cons.inj he).1] at hc
      exact absurd hc (by decide)
    simp only [text, sizeText, Bool.false_eq_true, if_false, List.append_assoc]
    rw [numeral?]
    · simp [htake, hdrop, hzero, hfraction, hexponent]
    · exact hsign

end Numeral

end Json

end LogQuery
