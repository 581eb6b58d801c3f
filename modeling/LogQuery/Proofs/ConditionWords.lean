import LogQuery.Proofs.ConditionText

/-!
# Words in written conditions

Reading a condition looks for words between blanks anywhere in its text. Of the words that are
looked for a simple condition has its own operator only (`not_infix_leafText`), also behind a blank.
Simple conditions and disjunctions are therefore `Standalone`: they begin and end with characters
that are not blank, and the words that join them occur neither in them nor between a blank in front
of them and their first words. Parts that were joined meet no other occurrence of the word that
joins them (`Standalone.pieces_joined`).
-/

namespace LogQuery.Condition

open Text

/-! ## Words in simple conditions -/

/-- A word that is looked for does not occur in a quoted value. -/
theorem not_infix_quoted {word : List Char} (hword : word ∈ keywords) {value : String}
    (h : IsQuotable value) {rest : List Char} (hrest : ¬ marked ' ' word <:+: rest) :
    ¬ marked ' ' word <:+: ' ' :: (quoted value ++ rest) := by
  have hmark := notMem_marked_keyword hword '"' (by simp)
  have htext : ' ' :: (quoted value ++ rest) = [' '] ++ '"' :: (value.toList ++ '"' :: rest) := by
    simp [quoted]
  rw [htext, infix_append_cons_iff hmark, infix_append_cons_iff hmark, not_or, not_or]
  exact ⟨not_infix_of_length_lt (by simp [marked]), h.no_keyword word hword, hrest⟩

/-- A word that is looked for occurs in a comparison as its operator only. -/
theorem not_infix_compared {word operator operand : List Char} (hword : word ∈ keywords)
    {field : String} (hfield : IsField field) (hoperator : ' ' ∉ operator) (hne : word ≠ operator)
    (hoperand : ¬ marked ' ' word <:+: ' ' :: operand) :
    ¬ marked ' ' word <:+: ' ' :: compared field operator operand := by
  have hblank : ' ' ∉ word := notMem_keyword word hword ' ' (by simp)
  have htext : ' ' :: compared field operator operand =
      ' ' :: (field.toList ++ ' ' :: (operator ++ ' ' :: operand)) := by
    simp [compared, marked]
  rw [htext, marked_infix_cons_iff hblank hfield.blank_notMem,
    marked_infix_cons_iff hblank hoperator, not_or, not_or]
  exact ⟨hfield.ne_keyword hword, hne, hoperand⟩

/-- A word that is looked for does not occur among listed values. -/
theorem not_infix_listed {word : List Char} (hword : word ∈ keywords) {values : List String}
    (hvalues : ∀ value ∈ values, IsListable value) :
    ¬ marked ' ' word <:+: ' ' :: (listed values ++ [')']) := by
  have hend : ¬ marked ' ' word <:+: [')'] := not_infix_of_length_lt (by simp [marked])
  induction values with
  | nil => exact not_marked_infix_cons (by simp [listed, joined])
  | cons value values ih =>
    have hvalue := (hvalues value List.mem_cons_self).toIsQuotable
    cases values with
    | nil => exact not_infix_quoted hword hvalue hend
    | cons next values =>
      have htext : listed (value :: next :: values) ++ [')'] =
          quoted value ++ ([] ++ ',' :: ' ' :: (listed (next :: values) ++ [')'])) := by
        simp [listed, joined]
      rw [htext]
      refine not_infix_quoted hword hvalue ?_
      rw [infix_append_cons_iff (notMem_marked_keyword hword ',' (by simp)), not_or]
      exact ⟨not_infix_of_length_lt (by simp [marked]),
        ih fun v hv => hvalues v (List.mem_cons_of_mem _ hv)⟩

/-- The word that makes a simple condition what it is; empty when it is not one of those that are
looked for. -/
def operatorWord : Condition → List Char
  | contains .. => "contains".toList
  | equals .. => "==".toList
  | differs .. => "!=".toList
  | atLeast .. => ">=".toList
  | lessThan .. => "<".toList
  | _ => []

theorem blank_notMem_numeral {value : String} (h : IsNumeral value) : ' ' ∉ value.toList :=
  fun hmem => absurd (h.numeral ' ' hmem) (by decide)

theorem isDigit_of_mem_wholeText {hour : Int} (h : 0 ≤ hour) {c : Char}
    (hc : c ∈ Decimal.wholeText hour) : c.isDigit = true := by
  rw [Decimal.wholeText, if_neg (by omega)] at hc
  exact Decimal.isDigit_of_mem_digits hc

/-- An hour condition is written without a blank. -/
theorem blank_notMem_hourText {field : String} {operator : HourOperator} {hour : Int}
    (hfield : IsField field) (h0 : 0 ≤ hour) :
    ' ' ∉ leafText (.hourOfDay field operator hour) := by
  have hsign : ' ' ∉ hourSign operator := by cases operator <;> decide
  have hhour : ' ' ∉ Decimal.wholeText hour := fun hmem =>
    absurd (isDigit_of_mem_wholeText h0 hmem) (by decide)
  rw [leafText_hourOfDay]
  simp only [List.mem_append, List.mem_cons, not_or]
  exact ⟨by decide, hfield.blank_notMem, by decide, hsign, hhour⟩

/-- A word that is looked for occurs in a simple condition as its operator only, also behind a
blank. -/
theorem not_infix_leafText {word : List Char} (hword : word ∈ keywords) {condition : Condition}
    (h : IsLeaf condition) (hne : word ≠ operatorWord condition) :
    ¬ marked ' ' word <:+: ' ' :: leafText condition := by
  have hnil : ¬ marked ' ' word <:+: [] := not_infix_of_length_lt (by simp [marked])
  cases h with
  | contains hf hv =>
    refine not_infix_compared hword hf (by decide) hne ?_
    simpa using not_infix_quoted hword hv hnil
  | equals hf hv =>
    refine not_infix_compared hword hf (by decide) hne ?_
    simpa using not_infix_quoted hword hv hnil
  | differs hf hv =>
    refine not_infix_compared hword hf (by decide) hne ?_
    simpa using not_infix_quoted hword hv hnil
  | atLeast hf hv =>
    exact not_infix_compared hword hf (by decide) hne
      (not_marked_infix_cons (blank_notMem_numeral hv))
  | lessThan hf hv =>
    exact not_infix_compared hword hf (by decide) hne
      (not_marked_infix_cons (blank_notMem_numeral hv))
  | @oneOf field values hf _ hv =>
    have hin : word ≠ "in".toList := by
      rintro rfl
      exact absurd hword (by decide)
    rw [leafText_oneOf]
    refine not_infix_compared hword hf (by decide) hin ?_
    have hopen : ' ' :: '(' :: (listed values ++ [')']) =
        [' '] ++ '(' :: (listed values ++ [')']) := rfl
    rw [hopen, infix_append_cons_iff (notMem_marked_keyword hword '(' (by simp)), not_or]
    exact ⟨not_infix_of_length_lt (by simp [marked]),
      not_infix_of_not_infix_cons (not_infix_listed hword hv)⟩
  | hourOfDay hf _ h0 _ => exact not_marked_infix_cons (blank_notMem_hourText hf h0)

/-! ## Texts that can be joined -/

/-- The words that join conditions. -/
def joiners : List (List Char) := ["and".toList, "or".toList]

theorem mem_keywords_of_mem_joiners {word : List Char} (h : word ∈ joiners) : word ∈ keywords := by
  have hall : ∀ word ∈ joiners, word ∈ keywords := by decide
  exact hall word h

/-- A text that ends with a character that a condition can end with. -/
def EndsClosing (s : List Char) : Prop := ∃ a c, s = a ++ [c] ∧ isClosing c = true

theorem EndsClosing.append {s : List Char} (h : EndsClosing s) (t : List Char) :
    EndsClosing (t ++ s) := by
  obtain ⟨a, c, rfl, hc⟩ := h
  exact ⟨t ++ a, c, by rw [List.append_assoc], hc⟩

theorem endsClosing_of_forall {s : List Char} (hne : s ≠ [])
    (h : ∀ c ∈ s, isNumeralChar c = true) : EndsClosing s := by
  refine ⟨s.dropLast, s.getLast hne, (List.dropLast_append_getLast hne).symm, ?_⟩
  rw [isClosing, h _ (List.getLast_mem hne), Bool.or_true]

/-- A text that begins and ends with characters that are not blank. -/
structure Framed (s : List Char) : Prop where
  /-- The first character is not blank. -/
  first : ∀ c ∈ s.head?, isBlank c = false
  /-- The last character is one that a condition can end with. -/
  last : EndsClosing s

/-- A text that can be joined to others by a word: the word stands between blanks neither in it nor
between a blank in front of it and its first characters. -/
structure Standalone (word s : List Char) : Prop extends Framed s where
  /-- The word does not occur. -/
  free : ¬ marked ' ' word <:+: ' ' :: s

namespace Framed

variable {operator s : List Char} {parts : List (List Char)}

theorem trim_eq (h : Framed s) : trim s = s := by
  refine trim_eq_self h.first fun c hc => ?_
  obtain ⟨a, d, rfl, hd⟩ := h.last
  rw [List.getLast?_concat, Option.mem_some_iff] at hc
  exact hc ▸ isBlank_of_isClosing hd

theorem append {t : List Char} (hs : Framed s) (ht : EndsClosing t) : Framed (s ++ t) := by
  refine ⟨fun c hc => hs.first c ?_, ht.append s⟩
  obtain ⟨a, d, rfl, -⟩ := hs.last
  rwa [List.head?_append_of_ne_nil _ (by simp)] at hc

theorem joined (hne : parts ≠ []) (h : ∀ part ∈ parts, Framed part) :
    Framed (joined operator parts) := by
  induction parts with
  | nil => exact absurd rfl hne
  | cons part rest ih =>
    have hpart := h part List.mem_cons_self
    cases rest with
    | nil => exact hpart
    | cons next rest =>
      have hrest := ih (List.cons_ne_nil _ _) fun p hp => h p (List.mem_cons_of_mem _ hp)
      rw [Text.joined, List.append_assoc]
      · exact hpart.append (hrest.last.append operator)
      · exact List.cons_ne_nil _ _

end Framed

namespace Standalone

variable {word operator s rest : List Char} {parts : List (List Char)}

/-- Behind a text that can be joined by the word the search starts anew. -/
theorem infix_append_iff (h : Standalone word s) (hword : word ∈ joiners) :
    marked ' ' word <:+: ' ' :: (s ++ rest) ↔ marked ' ' word <:+: rest := by
  obtain ⟨a, c, hs, hc⟩ := h.last
  have hfree := h.free
  rw [hs] at hfree ⊢
  have hclosing := notMem_joiner_of_isClosing hc word hword
  have htext : ' ' :: (a ++ [c] ++ rest) = (' ' :: a) ++ c :: rest := by simp
  rw [htext, infix_append_cons_iff hclosing]
  refine or_iff_right fun hin => hfree (hin.trans ?_)
  exact List.infix_cons_iff.mpr (Or.inl (List.cons_prefix_cons.mpr ⟨rfl, List.prefix_append _ _⟩))

/-- Parts that were joined by the word are the pieces between its occurrences. -/
theorem pieces_joined (hword : word ∈ joiners) (hne : parts ≠ [])
    (h : ∀ part ∈ parts, Standalone word part) :
    pieces (marked ' ' word) (joined (marked ' ' word) parts) = parts := by
  refine Text.pieces_joined (marked_ne_nil _ _) hne fun part hpart hin => ?_
  rw [dropLast_marked] at hin
  have hend : ¬ marked ' ' word <:+: ' ' :: (part ++ ' ' :: word) := by
    rw [(h part hpart).infix_append_iff hword]
    exact not_infix_of_length_lt (by simp [marked])
  exact not_infix_of_not_infix_cons hend hin

/-- Parts without a word that are joined by another one make a text without the word. -/
theorem joined (hword : word ∈ joiners) (hoperator : operator ∈ joiners) (hother : word ≠ operator)
    (hne : parts ≠ []) (h : ∀ part ∈ parts, Standalone word part) :
    Standalone word (joined (marked ' ' operator) parts) := by
  refine ⟨Framed.joined hne fun part hpart => (h part hpart).toFramed, ?_⟩
  have hblank : ∀ w ∈ joiners, ' ' ∉ w := by decide
  induction parts with
  | nil => exact absurd rfl hne
  | cons part rest ih =>
    have hpart := h part List.mem_cons_self
    cases rest with
    | nil => exact hpart.free
    | cons next rest =>
      have hrest := ih (List.cons_ne_nil _ _) fun p hp => h p (List.mem_cons_of_mem _ hp)
      have htext : Text.joined (marked ' ' operator) (part :: next :: rest) =
          part ++ ' ' :: (operator ++ ' ' :: Text.joined (marked ' ' operator) (next :: rest)) := by
        simp [Text.joined, marked]
      rw [htext, hpart.infix_append_iff hword,
        marked_infix_cons_iff (hblank _ hword) (hblank _ hoperator), not_or]
      exact ⟨hother, hrest⟩

end Standalone

/-- A simple condition can be joined to others. -/
theorem standalone_leafText {condition : Condition} (h : IsLeaf condition) {word : List Char}
    (hword : word ∈ joiners) : Standalone word (leafText condition) := by
  have hfirst : ∀ {field : String} (rest : List Char), IsField field →
      ∀ c ∈ (field.toList ++ rest).head?, isBlank c = false := by
    intro field rest hf c hc
    rw [List.head?_append_of_ne_nil _ hf.ne_nil] at hc
    exact isBlank_of_isNameChar (hf.name c (List.mem_of_mem_head? hc))
  have hquoted : ∀ value : String, EndsClosing (quoted value) := fun value =>
    ⟨'"' :: value.toList, '"', rfl, rfl⟩
  have hnumeral : ∀ {value : String}, IsNumeral value → EndsClosing value.toList := fun hv =>
    endsClosing_of_forall hv.ne_nil hv.numeral
  have hother : word ≠ operatorWord condition := by
    have hall : ∀ w ∈ joiners, w ≠ [] ∧ w ≠ "contains".toList ∧ w ≠ "==".toList ∧
        w ≠ "!=".toList ∧ w ≠ ">=".toList ∧ w ≠ "<".toList := by decide
    obtain ⟨h1, h2, h3, h4, h5, h6⟩ := hall word hword
    cases h <;> assumption
  refine ⟨⟨?_, ?_⟩, not_infix_leafText (mem_keywords_of_mem_joiners hword) h hother⟩
  · cases h with
    | hourOfDay hf =>
      intro c hc
      obtain rfl : 'h' = c := Option.some_inj.mp hc
      decide
    | contains hf | equals hf | differs hf | atLeast hf | lessThan hf | oneOf hf =>
      exact hfirst _ hf
  · cases h with
    | contains | equals | differs => exact ((hquoted _).append _).append _
    | atLeast _ hv | lessThan _ hv => exact ((hnumeral hv).append _).append _
    | oneOf =>
      have hend : EndsClosing [')'] := ⟨[], ')', rfl, rfl⟩
      exact ((hend.append _).append _).append _
    | hourOfDay _ _ h0 _ =>
      rw [leafText_hourOfDay]
      refine (((endsClosing_of_forall ?_ fun c hc => ?_).append (_ :: _)).append _).append _
      · rw [Decimal.wholeText, if_neg (by omega)]
        exact Decimal.digits_ne_nil _
      · rw [isNumeralChar, isDigit_of_mem_wholeText h0 hc]
        rfl

end LogQuery.Condition
