import LogQuery.Proofs.Grouping
import LogQuery.Proofs.Occurrence
import Mathlib.Data.List.TakeWhile

/-!
# Lower case of parts of a text

A text contains a value when the lower case of the value occurs in that of the text. All characters
have one lower case wherever they stand, except the capital sigma, which depends on the characters
around it that are not case-ignorable. So a value that occurs in a text as it is written is found
there, unless it has a sigma that becomes final, or is no longer final, by what stands around the
value. A value without such a sigma is found in every text that it occurs in, and any other value is
missed in some text (`contains_of_infix_iff`).
-/

namespace LogQuery

namespace Text

variable {before after before' after' s t : List Char} {c : Char}

/-! ## Characters in their context -/

/-- Whether a capital sigma is final between the characters before it, nearest first, and those
after it. -/
def isFinal (before after : List Char) : Bool := casedFirst before && !casedFirst after

/-- A sigma is written in its final form at the end of a word. -/
theorem lowerChar_sigma (before after : List Char) :
    lowerChar before 'Σ' after = if isFinal before after = true then ['ς'] else ['σ'] := rfl

/-- Of all characters only the sigma looks at its context. -/
theorem lowerChar_eq_iff : lowerChar before c after = lowerChar before' c after' ↔
    (c = 'Σ' → isFinal before after = isFinal before' after') := by
  by_cases hc : c = 'Σ'
  · rw [hc, lowerChar_sigma, lowerChar_sigma]
    cases isFinal before after <;> cases isFinal before' after' <;> simp
  · rw [lowerChar, lowerChar, if_neg hc, if_neg hc]
    exact iff_of_true rfl fun h => absurd h hc

theorem length_lowerChar (before after before' after' : List Char) (c : Char) :
    (lowerChar before c after).length = (lowerChar before' c after').length := by
  unfold lowerChar
  split
  · rw [apply_ite List.length, apply_ite List.length]
    simp only [List.length_singleton, ite_self]
  · rfl

theorem lowerChar_ne_nil (before after : List Char) (c : Char) : lowerChar before c after ≠ [] := by
  unfold lowerChar
  split
  · split <;> exact List.cons_ne_nil _ _
  · split <;> exact List.cons_ne_nil _ _

/-- The lower case of a text between the characters `before`, nearest first, and `after`. -/
def lowercaseBetween (before : List Char) : List Char → (after : List Char) → List Char
  | [], _ => []
  | c :: rest, after =>
    lowerChar before c (rest ++ after) ++ lowercaseBetween (c :: before) rest after

theorem lowercaseAfter_append (before s t : List Char) :
    lowercaseAfter before (s ++ t) =
      lowercaseBetween before s t ++ lowercaseAfter (s.reverse ++ before) t := by
  induction s generalizing before with
  | nil => rfl
  | cons c rest ih =>
    rw [List.cons_append, lowercaseAfter, ih, lowercaseBetween, List.append_assoc,
      List.reverse_cons, List.append_assoc, List.singleton_append]

theorem lowercaseBetween_nil (before s : List Char) :
    lowercaseBetween before s [] = lowercaseAfter before s := by
  have happend := lowercaseAfter_append before s []
  rwa [List.append_nil, lowercaseAfter, List.append_nil, eq_comm] at happend

/-- The context never changes how long a text becomes. -/
theorem length_lowercaseBetween (before before' after after' s : List Char) :
    (lowercaseBetween before s after).length = (lowercaseBetween before' s after').length := by
  induction s generalizing before before' with
  | nil => rfl
  | cons c rest ih =>
    rw [lowercaseBetween, lowercaseBetween, List.length_append, List.length_append,
      ih (c :: before) (c :: before'), length_lowerChar]

/-- In two contexts a text has the same lower case when each sigma is final in both or in
neither. -/
theorem lowercaseBetween_eq_iff :
    lowercaseBetween before s after = lowercaseBetween before' s after' ↔
      ∀ x y, s = x ++ 'Σ' :: y →
        isFinal (x.reverse ++ before) (y ++ after) =
          isFinal (x.reverse ++ before') (y ++ after') := by
  induction s generalizing before before' with
  | nil => exact iff_of_true rfl fun x y h => absurd h.symm (by simp)
  | cons c rest ih =>
    rw [lowercaseBetween, lowercaseBetween]
    constructor
    · intro h x y hs
      obtain ⟨hc, hrest⟩ := List.append_inj h (length_lowerChar _ _ _ _ c)
      cases x with
      | nil =>
        obtain ⟨rfl, rfl⟩ := List.cons.inj hs
        exact lowerChar_eq_iff.mp hc rfl
      | cons d x =>
        obtain ⟨rfl, rfl⟩ := List.cons.inj hs
        rw [List.reverse_cons, List.append_assoc, List.append_assoc]
        exact ih.mp hrest x y rfl
    · intro h
      congr 1
      · refine lowerChar_eq_iff.mpr fun hc => ?_
        exact h [] rest (congrArg (· :: rest) hc)
      · refine ih.mpr fun x y hs => ?_
        have hcons := h (c :: x) y (congrArg (c :: ·) hs)
        rwa [List.reverse_cons, List.append_assoc, List.append_assoc] at hcons

/-! ## Neighbours of a sigma -/

/-- The nearest character that is not case-ignorable. -/
def neighbor? (s : List Char) : Option Char := s.find? (!isCaseIgnorable ·)

theorem casedFirst_eq (s : List Char) : casedFirst s = (neighbor? s).any isCased := by
  rw [casedFirst, ← List.find?_not_eq_head?_dropWhile, neighbor?]
  cases s.find? (!isCaseIgnorable ·) <;> rfl

theorem neighbor?_append (s t : List Char) :
    neighbor? (s ++ t) = (neighbor? s).or (neighbor? t) := List.find?_append

/-- Whether a sigma is final is known from characters around it, whatever else is around them: a
cased letter follows, or something else than one precedes, or the nearest character is known on
either side. -/
def Settles (before after : List Char) : Prop :=
  (∃ c ∈ neighbor? after, isCased c = true) ∨ (∃ c ∈ neighbor? before, isCased c = false) ∨
    ((neighbor? before).isSome ∧ (neighbor? after).isSome)

/-- What settles whether a sigma is final settles it in every longer context. -/
theorem isFinal_append (h : Settles s t) (before after : List Char) :
    isFinal (s ++ before) (t ++ after) = isFinal s t := by
  simp only [isFinal, casedFirst_eq, neighbor?_append]
  rcases h with ⟨c, hc, hcased⟩ | ⟨c, hc, hcased⟩ | ⟨hs, ht⟩
  · rw [Option.mem_def.mp hc, Option.some_or, Option.any_some, hcased, Bool.not_true,
      Bool.and_false, Bool.and_false]
  · rw [Option.mem_def.mp hc, Option.some_or, Option.any_some, hcased, Bool.false_and,
      Bool.false_and]
  · rw [Option.or_of_isSome hs, Option.or_of_isSome ht]

/-- A sigma that is not settled becomes final when any letter stands in front, or is no longer final
when any letter stands behind. -/
theorem changes_of_not_settles (h : ¬ Settles s t) :
    (∀ letter, neighbor? [letter] = some letter → isCased letter = true →
        isFinal (s ++ [letter]) t ≠ isFinal s t) ∨
      ∀ letter, neighbor? [letter] = some letter → isCased letter = true →
        isFinal s (t ++ [letter]) ≠ isFinal s t := by
  simp only [isFinal, casedFirst_eq, neighbor?_append]
  simp only [Settles, not_or, not_exists, not_and, Bool.not_eq_true, Bool.not_eq_false] at h
  obtain ⟨hafter, hbefore, hboth⟩ := h
  cases hs : neighbor? s with
  | none =>
    refine .inl fun letter hletter hcased => ?_
    have hopen : (neighbor? t).any isCased = false := by
      cases ht : neighbor? t with
      | none => rfl
      | some d => exact hafter d ht
    simp [hletter, hcased, hopen]
  | some d =>
    refine .inr fun letter hletter hcased => ?_
    have hd : isCased d = true := hbefore d hs
    have ht : neighbor? t = none := by simpa [hs] using hboth
    simp [hletter, hcased, hd, ht]

/-! ## Values in texts -/

variable {value : List Char}

/-- No sigma of a value depends on what stands around the value. -/
def HasSettledSigmas (value : List Char) : Prop :=
  ∀ x y, value = x ++ 'Σ' :: y → Settles x.reverse y

theorem hasSettledSigmas_of_notMem (h : 'Σ' ∉ value) : HasSettledSigmas value := by
  rintro x y rfl
  exact absurd List.mem_append_cons_self h

/-- A text with settled sigmas is lowered as if it stood alone. -/
theorem lowercaseBetween_of_hasSettledSigmas (h : HasSettledSigmas value)
    (before after : List Char) : lowercaseBetween before value after = lowercase value := by
  rw [lowercase, ← lowercaseBetween_nil, lowercaseBetween_eq_iff]
  intro x y hvalue
  rw [List.append_nil, List.append_nil]
  exact isFinal_append (h x y hvalue) before after

theorem lowercase_infix (h : HasSettledSigmas value) (hin : value <:+: t) :
    lowercase value <:+: lowercase t := by
  obtain ⟨before, after, rfl⟩ := hin
  have hparts : lowercase (before ++ value ++ after) =
      lowercaseBetween [] before (value ++ after) ++
        (lowercase value ++ lowercaseAfter (value.reverse ++ (before.reverse ++ [])) after) := by
    rw [lowercase, List.append_assoc, lowercaseAfter_append, lowercaseAfter_append,
      lowercaseBetween_of_hasSettledSigmas h]
  rw [hparts]
  exact List.infix_append' _ _ _

/-! ## Values that are missed -/

/-- Letters that are their own lower case. -/
theorem exists_letter_ne (d : Option Char) : ∃ letter, some letter ≠ d ∧
    neighbor? [letter] = some letter ∧ isCased letter = true ∧
      ∀ before after, lowerChar before letter after = [letter] := by
  by_cases hd : d = some 'a'
  · refine ⟨'b', ?_, by decide +kernel, by decide +kernel, fun _ _ => ?_⟩
    · rw [hd]
      decide
    · exact show [Char.ofNat _] = ['b'] by decide +kernel
  · refine ⟨'a', Ne.symm hd, by decide +kernel, by decide +kernel, fun _ _ => ?_⟩
    exact show [Char.ofNat _] = ['a'] by decide +kernel

theorem eq_of_infix_cons (hne : s ≠ []) (hlength : s.length = t.length) (hhead : some c ≠ s.head?)
    (hin : s <:+: c :: t) : s = t := by
  rcases List.infix_cons_iff.mp hin with hprefix | hin
  · rcases List.prefix_cons_iff.mp hprefix with hnil | ⟨rest, rfl, -⟩
    · exact absurd hnil hne
    · exact absurd rfl hhead
  · exact hin.eq_of_length hlength

theorem eq_of_infix_concat (hne : s ≠ []) (hlength : s.length = t.length)
    (hlast : some c ≠ s.getLast?) (hin : s <:+: t ++ [c]) : s = t := by
  rcases List.infix_concat_iff.mp hin with hsuffix | hin
  · rcases List.suffix_concat_iff.mp hsuffix with hnil | ⟨rest, rfl, -⟩
    · exact absurd hnil hne
    · exact absurd List.getLast?_concat.symm hlast
  · exact hin.eq_of_length hlength

/-- A value that is found behind a letter has the same sigmas there as alone. -/
theorem isFinal_eq_of_infix_cons (hne : lowercase value ≠ [])
    (hhead : some c ≠ (lowercase value).head?) (hc : ∀ before after, lowerChar before c after = [c])
    (hin : lowercase value <:+: lowercase (c :: value)) (x y : List Char)
    (hvalue : value = x ++ 'Σ' :: y) : isFinal (x.reverse ++ [c]) y = isFinal x.reverse y := by
  rw [lowercase, lowercase, lowercaseAfter, hc, List.singleton_append, ← lowercaseBetween_nil,
    ← lowercaseBetween_nil] at hin
  rw [lowercase, ← lowercaseBetween_nil] at hne hhead
  have hsame := eq_of_infix_cons hne (length_lowercaseBetween _ _ _ _ _) hhead hin
  have hfinal := lowercaseBetween_eq_iff.mp hsame x y hvalue
  rw [List.append_nil, List.append_nil] at hfinal
  exact hfinal.symm

/-- A value that is found in front of a letter has the same sigmas there as alone. -/
theorem isFinal_eq_of_infix_concat (hne : lowercase value ≠ [])
    (hlast : some c ≠ (lowercase value).getLast?)
    (hc : ∀ before after, lowerChar before c after = [c])
    (hin : lowercase value <:+: lowercase (value ++ [c])) (x y : List Char)
    (hvalue : value = x ++ 'Σ' :: y) : isFinal x.reverse (y ++ [c]) = isFinal x.reverse y := by
  rw [lowercase, lowercase, lowercaseAfter_append, lowercaseAfter, hc, lowercaseAfter,
    List.append_nil, ← lowercaseBetween_nil] at hin
  rw [lowercase, ← lowercaseBetween_nil] at hne hlast
  have hsame := eq_of_infix_concat hne (length_lowercaseBetween _ _ _ _ _) hlast hin
  have hfinal := lowercaseBetween_eq_iff.mp hsame x y hvalue
  rw [List.append_nil, List.append_nil] at hfinal
  exact hfinal.symm

/-- A value with a sigma that is not settled occurs in a text whose lower case does not have that of
the value: one letter next to the value is enough. -/
theorem exists_text_of_not_hasSettledSigmas (h : ¬ HasSettledSigmas value) :
    ∃ t, value <:+: t ∧ ¬ lowercase value <:+: lowercase t := by
  obtain ⟨x, y, hvalue, hsigma⟩ : ∃ x y, value = x ++ 'Σ' :: y ∧ ¬ Settles x.reverse y := by
    simpa [HasSettledSigmas] using h
  have hne : lowercase value ≠ [] := by
    rw [hvalue, lowercase, lowercaseAfter_append, lowercaseAfter]
    exact List.append_ne_nil_of_right_ne_nil _
      (List.append_ne_nil_of_left_ne_nil (lowerChar_ne_nil _ _ _) _)
  by_contra hfound
  simp only [not_exists, not_and, not_not] at hfound
  -- a letter with which the lower case of the value does not begin, and one with which it
  -- does not end, so that the value cannot be found one place further on
  obtain ⟨front, hhead, hfront, hcased, hlower⟩ := exists_letter_ne (lowercase value).head?
  obtain ⟨back, hlast, hback, hcased', hlower'⟩ := exists_letter_ne (lowercase value).getLast?
  have hbehind := isFinal_eq_of_infix_cons hne hhead hlower
    (hfound (front :: value) (List.suffix_cons front value).isInfix) x y hvalue
  have hbefore := isFinal_eq_of_infix_concat hne hlast hlower'
    (hfound (value ++ [back]) (List.prefix_append value [back]).isInfix) x y hvalue
  rcases changes_of_not_settles hsigma with hchange | hchange
  · exact hchange front hfront hcased hbehind
  · exact hchange back hback hcased' hbefore

end Text

namespace Condition

open Text

/-- A value is found wherever it occurs as it is written exactly when none of its sigmas depends on
what stands around the value. -/
theorem contains_of_infix_iff (value : String) :
    (∀ (record : Record) (field : String),
        value.toList <:+: (Record.text record field).toList →
          (contains field value).holds record = true) ↔
      HasSettledSigmas value.toList := by
  constructor
  · intro h
    by_contra hsigmas
    obtain ⟨t, hin, hmissed⟩ := exists_text_of_not_hasSettledSigmas hsigmas
    have hrow : Record.text (.ofPairs [("", .string (String.ofList t))]) "" = String.ofList t := by
      rw [Stage.text_eq_text_getD, Stage.get?_ofPairs_singleton]
      rfl
    have hfound := h (.ofPairs [("", .string (String.ofList t))]) "" (by
      rw [hrow, String.toList_ofList]
      exact hin)
    rw [holds, occurs_iff, hrow, String.toList_ofList] at hfound
    exact hmissed hfound
  · intro h record field hin
    rw [holds, occurs_iff]
    exact lowercase_infix h hin

/-- A value without a sigma is found wherever it occurs. -/
theorem contains_of_infix {value : String} (h : 'Σ' ∉ value.toList) (record : Record)
    (field : String) (hin : value.toList <:+: (Record.text record field).toList) :
    (contains field value).holds record = true := by
  rw [holds, occurs_iff]
  exact lowercase_infix (hasSettledSigmas_of_notMem h) hin

/-- A row with a word that has a sigma in its middle. -/
def sigmaRow : Record := .ofPairs [("u", .string "ΑΣΑ")]

/-- The sigma is the end of a word in the value, and no longer in the text that goes on with the
next letter. -/
theorem not_contains_sigmaRow :
    "ΑΣ".toList <:+: (Record.text sigmaRow "u").toList ∧
      (contains "u" "ΑΣ").holds sigmaRow = false := by
  have htext : Record.text sigmaRow "u" = "ΑΣΑ" := by decide +kernel
  have hlower : lowercase "ΑΣ".toList = ['α', 'ς'] ∧ lowercase "ΑΣΑ".toList = ['α', 'σ', 'α'] := by
    decide +kernel
  rw [holds, htext, hlower.1, hlower.2]
  exact ⟨⟨[], ['Α'], rfl⟩, rfl⟩

end Condition

end LogQuery
