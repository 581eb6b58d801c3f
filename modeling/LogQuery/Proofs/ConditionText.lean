import LogQuery.Condition.Parser
import LogQuery.Decimal.Layout
import LogQuery.Proofs.Occurrence
import LogQuery.Proofs.Trimming
import Mathlib.Algebra.Ring.Int.Defs

/-!
# Conditions as texts

How a condition is written. The conditions that can be written are conjunctions of disjunctions of
simple conditions (`IsNormal`), where a single part stands for itself. Their fields are names, their
values are texts that cannot be taken for anything else, and what is said here of fields and values
is all that reading them back needs.
-/

namespace LogQuery.Condition

open Text

/-! ## Names and values -/

/-- The words that are looked for between blanks. -/
def keywords : List (List Char) :=
  ["and".toList, "or".toList, "contains".toList, "==".toList, "!=".toList, ">=".toList, "<".toList]

/-- Whether a character may stand in the name of a field. -/
def isNameChar (c : Char) : Bool := c.isAlphanum || c = '_'

/-- The names of fields that can be written: words of ASCII letters, digits and underscores that do
not start with a digit, other than the words that reading looks for. -/
structure IsField (field : String) : Prop where
  /-- The first character is no digit, and there is one. -/
  first : ∃ c ∈ field.toList.head?, c.isDigit = false
  name : ∀ c ∈ field.toList, isNameChar c = true
  /-- The name is not one of the words that reading looks for. -/
  not_reserved : field ∉ ["and", "or", "contains", "in"]

instance (field : String) : Decidable (IsField field) :=
  decidable_of_iff (field.toList.head?.any (!·.isDigit) = true ∧
      (∀ c ∈ field.toList, isNameChar c = true) ∧ field ∉ ["and", "or", "contains", "in"]) <| by
    have hfirst : field.toList.head?.any (!·.isDigit) = true ↔
        ∃ c ∈ field.toList.head?, c.isDigit = false := by
      cases field.toList.head? <;> simp
    rw [hfirst]
    exact ⟨fun h => ⟨h.1, h.2.1, h.2.2⟩, fun h => ⟨h.first, h.name, h.not_reserved⟩⟩

/-- The values that can be written between double quotation marks: texts without the mark in which
no word that reading looks for stands between blanks. -/
structure IsQuotable (value : String) : Prop where
  no_mark : '"' ∉ value.toList
  /-- No word that reading looks for stands between blanks. -/
  no_keyword : ∀ word ∈ keywords, ¬ marked ' ' word <:+: value.toList

instance (value : String) : Decidable (IsQuotable value) :=
  decidable_of_iff
    ('"' ∉ value.toList ∧ ∀ word ∈ keywords, ¬ marked ' ' word <:+: value.toList)
    ⟨fun h => ⟨h.1, h.2⟩, fun h => ⟨h.no_mark, h.no_keyword⟩⟩

/-- The values that can be written in a list. -/
structure IsListable (value : String) : Prop extends IsQuotable value where
  no_single_mark : '\'' ∉ value.toList
  no_comma : ',' ∉ value.toList
  no_parenthesis : ')' ∉ value.toList

instance (value : String) : Decidable (IsListable value) :=
  decidable_of_iff
    (IsQuotable value ∧ '\'' ∉ value.toList ∧ ',' ∉ value.toList ∧ ')' ∉ value.toList)
    ⟨fun h => ⟨h.1, h.2.1, h.2.2.1, h.2.2.2⟩,
      fun h => ⟨h.toIsQuotable, h.no_single_mark, h.no_comma, h.no_parenthesis⟩⟩

/-- Whether a character may stand in a number to compare with. -/
def isNumeralChar (c : Char) : Bool := c.isDigit || c = '+' || c = '-' || c = '.'

/-- The numbers to compare with that can be written: texts of digits, signs and points. -/
structure IsNumeral (value : String) : Prop where
  ne_nil : value.toList ≠ []
  numeral : ∀ c ∈ value.toList, isNumeralChar c = true

instance (value : String) : Decidable (IsNumeral value) :=
  decidable_of_iff (value.toList ≠ [] ∧ ∀ c ∈ value.toList, isNumeralChar c = true)
    ⟨fun h => ⟨h.1, h.2⟩, fun h => ⟨h.ne_nil, h.numeral⟩⟩

/-! ## Conditions that can be written -/

/-- The simple conditions that can be written. -/
inductive IsLeaf : Condition → Prop where
  | contains {field value : String} (hf : IsField field) (hv : IsQuotable value) :
    IsLeaf (.contains field value)
  | equals {field value : String} (hf : IsField field) (hv : IsQuotable value) :
    IsLeaf (.equals field value)
  | differs {field value : String} (hf : IsField field) (hv : IsQuotable value) :
    IsLeaf (.differs field value)
  | atLeast {field value : String} (hf : IsField field) (hv : IsNumeral value) :
    IsLeaf (.atLeast field value)
  | lessThan {field value : String} (hf : IsField field) (hv : IsNumeral value) :
    IsLeaf (.lessThan field value)
  | oneOf {field : String} {values : List String} (hf : IsField field) (hne : values ≠ [])
    (hv : ∀ value ∈ values, IsListable value) : IsLeaf (.oneOf field values)
  | hourOfDay {field : String} {operator : HourOperator} {hour : Int} (hf : IsField field)
    (hop : operator ≠ .unsupported) (h0 : 0 ≤ hour) (hmax : hour ≤ 2 ^ 63 - 1) :
    IsLeaf (.hourOfDay field operator hour)

/-- The simple conditions and the disjunctions of at least two of them. -/
inductive IsDisjunction : Condition → Prop where
  | leaf {condition : Condition} (h : IsLeaf condition) : IsDisjunction condition
  | any {parts : List Condition} (hlength : 2 ≤ parts.length) (h : ∀ part ∈ parts, IsLeaf part) :
    IsDisjunction (.any parts)

/-- The conditions that can be written: disjunctions and the conjunctions of at least two of
them. -/
inductive IsNormal : Condition → Prop where
  | disjunction {condition : Condition} (h : IsDisjunction condition) : IsNormal condition
  | all {parts : List Condition} (hlength : 2 ≤ parts.length)
    (h : ∀ part ∈ parts, IsDisjunction part) : IsNormal (.all parts)

/-! ## Writing -/

/-- A value between double quotation marks. -/
def quoted (value : String) : List Char := '"' :: (value.toList ++ ['"'])

/-- A field, an operator between blanks and an operand. -/
def compared (field : String) (operator operand : List Char) : List Char :=
  field.toList ++ (marked ' ' operator ++ operand)

/-- Values between quotation marks, separated by commas and blanks. -/
def listed (values : List String) : List Char := joined [',', ' '] (values.map quoted)

/-- The operator of an hour condition. -/
def hourSign : HourOperator → List Char
  | .atLeast => ['>', '=']
  | .lessThan => ['<']
  | .exactly => ['=', '=']
  | .unsupported => ['!']

/-- How a simple condition is written. -/
def leafText : Condition → List Char
  | contains field value => compared field "contains".toList (quoted value)
  | equals field value => compared field "==".toList (quoted value)
  | differs field value => compared field "!=".toList (quoted value)
  | atLeast field value => compared field ">=".toList value.toList
  | lessThan field value => compared field "<".toList value.toList
  | oneOf field values => field.toList ++ (" in (".toList ++ (listed values ++ [')']))
  | hourOfDay field operator hour =>
    "hourofday(".toList ++ (field.toList ++ (')' :: (hourSign operator ++ Decimal.wholeText hour)))
  | unrecognized text => text.toList
  | all _ | any _ => []

/-- How a disjunction is written. -/
def disjunctionText : Condition → List Char
  | any parts => joined (marked ' ' "or".toList) (parts.map leafText)
  | leaf => leafText leaf

/-- How a condition is written. -/
def conjunctionText : Condition → List Char
  | all parts => joined (marked ' ' "and".toList) (parts.map disjunctionText)
  | condition => disjunctionText condition

/-- The text of a condition. -/
def text (condition : Condition) : String := String.ofList (conjunctionText condition)

theorem leafText_oneOf (field : String) (values : List String) :
    leafText (oneOf field values) =
      compared field "in".toList ('(' :: (listed values ++ [')'])) := rfl

theorem leafText_hourOfDay (field : String) (operator : HourOperator) (hour : Int) :
    leafText (hourOfDay field operator hour) =
      "hourofday(".toList ++
        (field.toList ++ (')' :: (hourSign operator ++ Decimal.wholeText hour))) := rfl

theorem disjunctionText_any (parts : List Condition) :
    disjunctionText (any parts) = joined (marked ' ' "or".toList) (parts.map leafText) := rfl

theorem conjunctionText_all (parts : List Condition) :
    conjunctionText (all parts) =
      joined (marked ' ' "and".toList) (parts.map disjunctionText) := rfl

/-! ## Characters -/

/-- A property that the characters of the ASCII set have one by one holds of all of them. -/
theorem forall_ascii {P : Char → Prop} (h : ∀ n < 128, P (Char.ofNat n)) {c : Char}
    (hc : c.toNat < 128) : P c := by
  have hP := h c.toNat hc
  rwa [Char.ofNat_toNat] at hP

theorem toNat_lt_of_le {c d : Char} (h : c.val ≤ d.val) (hd : d.toNat < 128) : c.toNat < 128 := by
  rw [UInt32.le_iff_toNat_le] at h
  exact Nat.lt_of_le_of_lt h hd

theorem toNat_lt_of_isDigit {c : Char} (h : c.isDigit = true) : c.toNat < 128 := by
  have hlast : c.val ≤ '9'.val := of_decide_eq_true (Bool.and_eq_true_iff.mp h).2
  exact toNat_lt_of_le hlast (by decide)

theorem toNat_lt_of_isAlpha {c : Char} (h : c.isAlpha = true) : c.toNat < 128 := by
  rcases Bool.or_eq_true_iff.mp h with hupper | hlower
  · have hlast : c.val ≤ 'Z'.val := (of_decide_eq_true hupper).2
    exact toNat_lt_of_le hlast (by decide)
  · have hlast : c.val ≤ 'z'.val := of_decide_eq_true (Bool.and_eq_true_iff.mp hlower).2
    exact toNat_lt_of_le hlast (by decide)

theorem toNat_lt_of_isNameChar {c : Char} (h : isNameChar c = true) : c.toNat < 128 := by
  rw [isNameChar, Bool.or_eq_true] at h
  rcases h with h | h
  · rcases Bool.or_eq_true_iff.mp h with halpha | hdigit
    · exact toNat_lt_of_isAlpha halpha
    · exact toNat_lt_of_isDigit hdigit
  · rw [of_decide_eq_true h]
    decide

theorem toNat_lt_of_isNumeralChar {c : Char} (h : isNumeralChar c = true) : c.toNat < 128 := by
  simp only [isNumeralChar, Bool.or_eq_true, decide_eq_true_eq] at h
  rcases h with ((h | rfl) | rfl) | rfl
  · exact toNat_lt_of_isDigit h
  all_goals decide

theorem isWord_of_isNameChar {c : Char} (h : isNameChar c = true) : isWord c = true :=
  forall_ascii (P := fun c => isNameChar c = true → isWord c = true) (by decide)
    (toNat_lt_of_isNameChar h) h

theorem isBlank_of_isNameChar {c : Char} (h : isNameChar c = true) : isBlank c = false :=
  forall_ascii (P := fun c => isNameChar c = true → isBlank c = false) (by decide)
    (toNat_lt_of_isNameChar h) h

theorem isBlank_of_isNumeralChar {c : Char} (h : isNumeralChar c = true) : isBlank c = false :=
  forall_ascii (P := fun c => isNumeralChar c = true → isBlank c = false) (by decide)
    (toNat_lt_of_isNumeralChar h) h

/-- Whether a character is one of those that a condition can end with. -/
def isClosing (c : Char) : Bool := c = '"' || c = ')' || isNumeralChar c

theorem isBlank_of_isClosing {c : Char} (h : isClosing c = true) : isBlank c = false := by
  simp only [isClosing, Bool.or_eq_true, decide_eq_true_eq] at h
  rcases h with (rfl | rfl) | h
  · decide
  · decide
  · exact isBlank_of_isNumeralChar h

/-- The words that join conditions, and the blanks around them, have no character that a condition
ends with. -/
theorem notMem_joiner_of_isClosing {c : Char} (h : isClosing c = true) :
    ∀ word ∈ ["and".toList, "or".toList], c ∉ marked ' ' word := by
  have hjoiners : ∀ word ∈ ["and".toList, "or".toList], ∀ x ∈ marked ' ' word,
      isClosing x = false := by decide
  intro word hword hmem
  exact Bool.false_ne_true ((hjoiners word hword c hmem).symm.trans h)

theorem notMem_keyword : ∀ word ∈ keywords, ∀ c ∈ [' ', '"', '(', ')', ','], c ∉ word := by decide

theorem notMem_marked_keyword {word : List Char} (h : word ∈ keywords) :
    ∀ c ∈ ['"', '(', ')', ','], c ∉ marked ' ' word := by
  intro c hc hmem
  have hword := notMem_keyword word h c (by simp at hc ⊢; tauto)
  have hblank : c ≠ ' ' := by
    rintro rfl
    exact absurd hc (by decide)
  rcases List.mem_cons.mp hmem with he | hmem
  · exact hblank he
  · rcases List.mem_append.mp hmem with hmem | hmem
    · exact hword hmem
    · exact hblank (List.mem_singleton.mp hmem)

/-! ## Fields -/

namespace IsField

variable {field : String}

theorem ne_nil (h : IsField field) : field.toList ≠ [] := by
  obtain ⟨c, hc, -⟩ := h.first
  intro hnil
  rw [hnil] at hc
  exact absurd hc (by simp)

theorem notMem (h : IsField field) {c : Char} (hc : isNameChar c = false) : c ∉ field.toList :=
  fun hmem => Bool.false_ne_true (hc.symm.trans (h.name c hmem))

theorem blank_notMem (h : IsField field) : ' ' ∉ field.toList := h.notMem (by decide)

theorem ne_keyword (h : IsField field) {word : List Char} (hword : word ∈ keywords) :
    word ≠ field.toList := by
  rintro rfl
  simp only [keywords, List.mem_cons, List.not_mem_nil, or_false] at hword
  have hname := h.name
  have hreserved := h.not_reserved
  simp only [List.mem_cons, List.not_mem_nil, or_false, not_or] at hreserved
  rcases hword with he | he | he | he | he | he | he
  · exact hreserved.1 (String.toList_inj.mp he)
  · exact hreserved.2.1 (String.toList_inj.mp he)
  · exact hreserved.2.2.1 (String.toList_inj.mp he)
  all_goals
    rw [he] at hname
    exact absurd hname (by decide)

theorem trim_toList (h : IsField field) : trim field.toList = field.toList := by
  refine trim_eq_self (fun c hc => ?_) fun c hc => ?_
  · exact isBlank_of_isNameChar (h.name c (List.mem_of_mem_head? hc))
  · exact isBlank_of_isNameChar (h.name c (List.mem_of_mem_getLast? hc))

theorem verbatim_toList (h : IsField field) : verbatim field.toList = field := by
  rw [verbatim, h.trim_toList, String.ofList_toList]

theorem unquoted_toList (h : IsField field) : unquoted field.toList = field := by
  rw [unquoted, h.trim_toList, List.filter_eq_self.mpr fun c hc => ?_, String.ofList_toList]
  rw [decide_eq_true_eq]
  rintro rfl
  exact h.notMem (by decide) hc

end IsField

/-! ## Operands -/

theorem trim_quoted (value : String) : trim (quoted value) = quoted value := by
  refine trim_eq_self (fun c hc => ?_) fun c hc => ?_
  · obtain rfl : '"' = c := by simpa [quoted] using hc
    decide
  · obtain rfl : '"' = c := by simpa [quoted, List.getLast?_cons] using hc
    decide

theorem unquoted_quoted {value : String} (h : IsQuotable value) :
    unquoted (quoted value) = value := by
  have hfilter : value.toList.filter (· ≠ '"') = value.toList := by
    refine List.filter_eq_self.mpr fun c hc => ?_
    rw [decide_eq_true_eq]
    rintro rfl
    exact h.no_mark hc
  rw [unquoted, trim_quoted, quoted, List.filter_cons_of_neg (by simp), List.filter_append, hfilter]
  simp

theorem verbatim_numeral {value : String} (h : IsNumeral value) :
    verbatim value.toList = value := by
  rw [verbatim, trim_eq_self (fun c hc => ?_) fun c hc => ?_, String.ofList_toList]
  · exact isBlank_of_isNumeralChar (h.numeral c (List.mem_of_mem_head? hc))
  · exact isBlank_of_isNumeralChar (h.numeral c (List.mem_of_mem_getLast? hc))

end LogQuery.Condition
