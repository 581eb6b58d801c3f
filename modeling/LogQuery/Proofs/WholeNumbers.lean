import LogQuery.Proofs.ConditionReading
import LogQuery.Proofs.Pipelines
import LogQuery.Proofs.StageReading

/-!
# Whole numbers in queries

Limits and conditions on the hour name whole numbers by their digits, of which there can be any
number. A number is kept in a word of 64 bits, and one that is too great for it is read as the
greatest that fits. That is never seen (`readsExactly_of_isRunOf`): no table has as many rows as the
greatest word says, and no day as many hours. The negative numbers stay in reach as well, since the
least word of all is the opposite of no number that is read.
-/

namespace LogQuery

open Text

/-- A text of characters of one kind, of which there is at least one. -/
def IsRunOf (p : Char → Bool) (text : String) : Prop :=
  text.toList ≠ [] ∧ ∀ c ∈ text.toList, p c = true

instance (p : Char → Bool) (text : String) : Decidable (IsRunOf p text) :=
  inferInstanceAs (Decidable (_ ∧ _))

/-- What stands behind digits and does not go on with another one. -/
def EndsDigits (rest : List Char) : Prop := ∀ c ∈ rest.head?, Decimal.isDigit c = false

theorem EndsDigits.of_isPrefix {s t : List Char} (h : EndsDigits s) (ht : t <+: s) :
    EndsDigits t := by
  obtain ⟨rest, rfl⟩ := ht
  cases t with
  | nil => exact fun c hc => absurd hc (by simp)
  | cons d t => exact h

namespace Stage

variable {digits more : List Char} {n : Nat} {rows : List Record}

/-! ## Limits -/

/-- The verbs of a limit, each with the space behind it. -/
def limitVerbs : List String := ["limit ", "take "]

/-- A limit is read from what stands behind its verb, without the blank characters at the end and
up to the next space. -/
theorem ofTrimmed_limit {verb : String} (hverb : verb ∈ limitVerbs) {number : List Char}
    (hne : number ≠ []) (hblank : ∀ c ∈ number, isBlank c = false) (hmore : EndsDigits more) :
    ∃ rest, EndsDigits rest ∧ ofTrimmed (trim (verb.toList ++ (number ++ more))) =
      ((leadingInt? (number ++ rest)).map limit).getD .passthrough := by
  have hend : trimEnd (number ++ more) = number ++ trimEnd more :=
    trimEnd_append_of_not_blank hblank more
  have hshown : trimEnd (number ++ more) ≠ [] := by
    rw [hend]
    exact List.append_ne_nil_of_left_ne_nil hne _
  have hkeep : ∀ c ∈ number, decide (c ≠ ' ') = true := by
    intro c hc
    rw [decide_eq_true_eq]
    rintro rfl
    exact absurd (hblank _ hc) (by decide)
  have hnumber : (number ++ trimEnd more).takeWhile (· ≠ ' ') =
      number ++ (trimEnd more).takeWhile (· ≠ ' ') := List.takeWhile_append_of_pos hkeep
  refine ⟨(trimEnd more).takeWhile (· ≠ ' '), ?_, ?_⟩
  · exact hmore.of_isPrefix ((List.takeWhile_prefix _).trans (trimEnd_isPrefix more))
  · rw [ofTrimmed_trim_limit (List.mem_map_of_mem hverb) hshown, hend, hnumber]

/-- A limit of any number of digits is read, capped at the greatest number. -/
theorem ofTrimmed_limit_digits {verb : String} (hverb : verb ∈ limitVerbs) (hne : digits ≠ [])
    (h : ∀ c ∈ digits, Decimal.isDigit c = true) (hmore : EndsDigits more) {sign : List Char}
    (hsign : sign ∈ [[], ['+']]) :
    ofTrimmed (trim (verb.toList ++ (sign ++ (digits ++ more)))) =
      .limit (Condition.cappedValue digits) := by
  have hblank : ∀ c ∈ sign ++ digits, isBlank c = false := by
    have hsigns : ∀ sign ∈ [[], ['+']], ∀ c ∈ sign, isBlank c = false := by decide
    rw [List.forall_mem_append]
    exact ⟨hsigns sign hsign, fun c hc => isBlank_of_isDigit (h c hc)⟩
  obtain ⟨rest, hrest, hread⟩ := ofTrimmed_limit hverb
    (List.append_ne_nil_of_right_ne_nil sign hne) hblank hmore
  rw [List.append_assoc, List.append_assoc, leadingInt?_append hne h hrest hsign] at hread
  exact hread

/-- So is a negative one. -/
theorem ofTrimmed_limit_minus_digits {verb : String} (hverb : verb ∈ limitVerbs)
    (hne : digits ≠ []) (h : ∀ c ∈ digits, Decimal.isDigit c = true) (hmore : EndsDigits more) :
    ofTrimmed (trim (verb.toList ++ ('-' :: (digits ++ more)))) =
      .limit (-(Condition.cappedValue digits : Int)) := by
  have hblank : ∀ c ∈ '-' :: digits, isBlank c = false := by
    rw [List.forall_mem_cons]
    exact ⟨by decide, fun c hc => isBlank_of_isDigit (h c hc)⟩
  obtain ⟨rest, hrest, hread⟩ := ofTrimmed_limit hverb (List.cons_ne_nil '-' digits) hblank hmore
  rw [List.cons_append, List.cons_append, leadingInt?_minus_append hne h hrest] at hread
  exact hread

/-- A limit that is greater than every table takes all rows, whatever it is replaced by. -/
theorem limitRows_capped (hrows : rows.length < 2 ^ 63) :
    limitRows (min n Condition.maxWhole : Nat) rows = rows.take (min n rows.length) := by
  rw [limitRows, if_pos (Int.natCast_nonneg _), Int.toNat_natCast, List.take_eq_take_iff,
    Condition.maxWhole]
  omega

/-- A capped number drops as many rows as the number itself: there are fewer rows than the cap. -/
theorem limitRows_neg_capped (hrows : rows.length < 2 ^ 63) (hn : 1 ≤ n) :
    limitRows (-(min n Condition.maxWhole : Nat)) rows = rows.take (rows.length - n) := by
  have hneg : ¬ (0 : Int) ≤ -(min n Condition.maxWhole : Nat) := by
    rw [Condition.maxWhole]
    omega
  have hkept : rows.length - min n Condition.maxWhole = rows.length - n := by
    rw [Condition.maxWhole]
    omega
  rw [limitRows, if_neg hneg, Int.natAbs_neg, Int.natAbs_natCast, hkept]

end Stage

/-! ## Conditions on the hour -/

theorem Time.Timestamp.utcHour_lt (t : Timestamp) : t.utcHour < 24 := by
  unfold utcHour
  omega

namespace Condition

variable {s : List Char} {hour n : Nat} {field : String} {operator : HourOperator}

theorem conjunction_eq_leaf (h : ' ' ∉ s) : conjunction s = leaf s := by
  have hfree : ∀ word, ¬ marked ' ' word <:+: s := fun word hin =>
    h (hin.subset List.mem_cons_self)
  rw [conjunction_eq_disjunction (hfree _), disjunction_eq_leaf (hfree _)]

/-- A comparison of hours is read with any number of digits. -/
theorem conjunction_trim_hour {digits : List Char} (hfield : IsRunOf isWord field)
    (operator : HourOperator) (hne : digits ≠ []) (h : ∀ c ∈ digits, Decimal.isDigit c = true) :
    conjunction (trim ("hourofday(".toList ++
      (field.toList ++ (')' :: (hourSign operator ++ digits))))) =
        .hourOfDay field operator (cappedValue digits) := by
  have hread := hourAt?_append hfield.1 hfield.2 operator hne h
  rw [String.ofList_toList] at hread
  have hspace : ' ' ∉ "hourofday(".toList ++
      (field.toList ++ (')' :: (hourSign operator ++ digits))) := by
    have hname : ' ' ∉ field.toList := fun hmem =>
      absurd (hfield.2 ' ' hmem) (by decide)
    have hsign : ' ' ∉ hourSign operator := by cases operator <;> decide
    have hdigits : ' ' ∉ digits := fun hmem => absurd (h ' ' hmem) (by decide)
    simp only [List.mem_append, List.mem_cons, not_or]
    exact ⟨by decide, hname, by decide, hsign, hdigits⟩
  have hlast : EndsClosing digits := endsClosing_of_forall hne fun c hc => by
    rw [isNumeralChar, show c.isDigit = true from h c hc]
    rfl
  have hframed : Framed ("hourofday(".toList ++
      (field.toList ++ (')' :: (hourSign operator ++ digits)))) := by
    refine ⟨fun c hc => ?_, (((hlast.append _).append [')']).append _).append _⟩
    obtain rfl : 'h' = c := Option.some_inj.mp hc
    decide
  rw [hframed.trim_eq, conjunction_eq_leaf hspace, leaf_of_hourAt? hspace hread]

/-- An hour compares with a number as with the greatest word when the number does not fit. -/
theorem holds_capped (hhour : hour < 24) (operator : HourOperator) :
    operator.holds hour (min n maxWhole : Nat) = operator.holds hour n := by
  have hmax : (24 : Nat) < maxWhole := by decide
  cases operator with
  | unsupported => rfl
  | atLeast | lessThan | exactly =>
    rw [HourOperator.holds, HourOperator.holds, decide_eq_decide]
    omega

/-- A capped number compares with an hour as the number itself does. -/
theorem holds_hourOfDay_capped (record : Record) :
    (hourOfDay field operator (min n maxWhole : Nat)).holds record = true ↔
      ∃ t, Time.timestamp? (Record.text record field).toList = some t ∧
        operator.holds t.utcHour n = true := by
  rw [holds_hourOfDay, hourHolds]
  cases Time.timestamp? (Record.text record field).toList with
  | none => simp
  | some t =>
    dsimp only
    rw [holds_capped t.utcHour_lt]
    simp

end Condition

/-! ## Exactness -/

/-- Digits are taken for a number, however great it is: by limits with and without a sign, whatever
follows the number, and by conditions on the hour. -/
structure ReadsExactly (digits : String) (n : Nat) : Prop where
  keepsFirst : ∀ verb ∈ Stage.limitVerbs, ∀ sign ∈ ["", "+"], ∀ more : String,
    EndsDigits more.toList → ∀ rows : List Record, rows.length < 2 ^ 63 →
      (Stage.parse (verb ++ sign ++ digits ++ more)).run rows = rows.take (min n rows.length)
  dropsLast : ∀ verb ∈ Stage.limitVerbs, ∀ more : String, EndsDigits more.toList →
    ∀ rows : List Record, rows.length < 2 ^ 63 → 1 ≤ n →
      (Stage.parse (verb ++ "-" ++ digits ++ more)).run rows = rows.take (rows.length - n)
  hourLessThan : ∀ field, IsRunOf isWord field → ∀ record : Record,
    (Condition.parse ("hourofday(" ++ field ++ ")<" ++ digits)).holds record = true ↔
      ∃ t, Time.timestamp? (Record.text record field).toList = some t ∧ t.utcHour < n
  hourAtLeast : ∀ field, IsRunOf isWord field → ∀ record : Record,
    (Condition.parse ("hourofday(" ++ field ++ ")>=" ++ digits)).holds record = true ↔
      ∃ t, Time.timestamp? (Record.text record field).toList = some t ∧ n ≤ t.utcHour
  hourExactly : ∀ field, IsRunOf isWord field → ∀ record : Record,
    (Condition.parse ("hourofday(" ++ field ++ ")==" ++ digits)).holds record = true ↔
      ∃ t, Time.timestamp? (Record.text record field).toList = some t ∧ t.utcHour = n
  /-- One word stands for the number in all places, and taking its opposite does not overflow. -/
  fitsWord : ∃ size : Int64, 0 ≤ size.toInt ∧ (-size).toInt = -size.toInt ∧
    (∀ verb ∈ Stage.limitVerbs, ∀ more : String, EndsDigits more.toList →
      (∀ sign ∈ ["", "+"], Stage.parse (verb ++ sign ++ digits ++ more) = .limit size.toInt) ∧
        Stage.parse (verb ++ "-" ++ digits ++ more) = .limit (-size).toInt) ∧
    ∀ field, IsRunOf isWord field → ∀ operator,
      Condition.parse ("hourofday(" ++ field ++ ")" ++
        String.ofList (Condition.hourSign operator) ++ digits) =
          .hourOfDay field operator size.toInt

section

variable {digits : String}

theorem Stage.parse_limit (h : IsRunOf Decimal.isDigit digits) {verb sign more : String}
    (hverb : verb ∈ limitVerbs) (hsign : sign ∈ ["", "+"]) (hmore : EndsDigits more.toList) :
    parse (verb ++ sign ++ digits ++ more) = .limit (Condition.cappedValue digits.toList) := by
  have hsigns : sign.toList ∈ [[], ['+']] := by
    have hall : ∀ sign ∈ ["", "+"], sign.toList ∈ [[], ['+']] := by decide
    exact hall sign hsign
  rw [parse, String.toList_append, String.toList_append, String.toList_append, List.append_assoc,
    List.append_assoc]
  exact ofTrimmed_limit_digits hverb h.1 h.2 hmore hsigns

theorem Stage.parse_limit_minus (h : IsRunOf Decimal.isDigit digits) {verb more : String}
    (hverb : verb ∈ limitVerbs) (hmore : EndsDigits more.toList) :
    parse (verb ++ "-" ++ digits ++ more) =
      .limit (-(Condition.cappedValue digits.toList : Int)) := by
  rw [parse, String.toList_append, String.toList_append, String.toList_append, List.append_assoc,
    List.append_assoc]
  exact ofTrimmed_limit_minus_digits hverb h.1 h.2 hmore

theorem Condition.parse_hour (h : IsRunOf Decimal.isDigit digits) {field : String}
    (hfield : IsRunOf isWord field) (operator : HourOperator) :
    parse ("hourofday(" ++ field ++ ")" ++ String.ofList (hourSign operator) ++ digits) =
      .hourOfDay field operator (cappedValue digits.toList) := by
  simp only [parse, String.toList_append, String.toList_ofList, List.append_assoc]
  exact conjunction_trim_hour hfield operator h.1 h.2

/-- An hour is compared with the number that the digits stand for, however many they are. -/
theorem Condition.holds_parse_hour (h : IsRunOf Decimal.isDigit digits) {field : String}
    (hfield : IsRunOf isWord field) {operator : HourOperator} {sign : String}
    (hsign : sign = ")" ++ String.ofList (hourSign operator)) (record : Record) :
    (parse ("hourofday(" ++ field ++ sign ++ digits)).holds record = true ↔
      ∃ t, Time.timestamp? (Record.text record field).toList = some t ∧
        operator.holds t.utcHour (Nat.ofDigitChars 10 digits.toList 0 : Nat) = true := by
  have hjoin : "hourofday(" ++ field ++ ")" ++ String.ofList (hourSign operator) ++ digits =
      "hourofday(" ++ field ++ sign ++ digits := by
    rw [hsign]
    exact congrArg (· ++ digits) String.append_assoc
  rw [← hjoin, parse_hour h hfield]
  exact holds_hourOfDay_capped record

theorem exists_word (n : Nat) :
    ∃ size : Int64, size.toInt = (min n Condition.maxWhole : Nat) ∧
      (-size).toInt = -(min n Condition.maxWhole : Nat) := by
  have hle : min n Condition.maxWhole ≤ 2 ^ 63 - 1 := Nat.min_le_right _ _
  have hsize : (Int64.ofInt (min n Condition.maxWhole : Nat)).toInt =
      (min n Condition.maxWhole : Nat) := Int64.toInt_ofInt_of_le (by omega) (by omega)
  refine ⟨_, hsize, ?_⟩
  rw [Int64.toInt_neg, hsize, Int.bmod_eq_of_le (by omega) (by omega)]

/-- Digits are read as the number that they denote. -/
theorem readsExactly_of_isRunOf (h : IsRunOf Decimal.isDigit digits) :
    ReadsExactly digits (Nat.ofDigitChars 10 digits.toList 0) := by
  refine ⟨?_, ?_, ?_, ?_, ?_, ?_⟩
  · intro verb hverb sign hsign more hmore rows hrows
    rw [Stage.parse_limit h hverb hsign hmore]
    exact Stage.limitRows_capped hrows
  · intro verb hverb more hmore rows hrows hn
    rw [Stage.parse_limit_minus h hverb hmore]
    exact Stage.limitRows_neg_capped hrows hn
  · intro field hfield record
    have hsign : ")<" = ")" ++ String.ofList (Condition.hourSign .lessThan) := rfl
    rw [Condition.holds_parse_hour h hfield hsign]
    simp [HourOperator.holds]
  · intro field hfield record
    have hsign : ")>=" = ")" ++ String.ofList (Condition.hourSign .atLeast) := rfl
    rw [Condition.holds_parse_hour h hfield hsign]
    simp [HourOperator.holds]
  · intro field hfield record
    have hsign : ")==" = ")" ++ String.ofList (Condition.hourSign .exactly) := rfl
    rw [Condition.holds_parse_hour h hfield hsign]
    simp [HourOperator.holds]
  · obtain ⟨size, hsize, hneg⟩ := exists_word (Nat.ofDigitChars 10 digits.toList 0)
    refine ⟨size, ?_, ?_, ?_, ?_⟩
    · rw [hsize]
      exact Int.natCast_nonneg _
    · rw [hneg, hsize]
    · intro verb hverb more hmore
      refine ⟨fun sign hsign => ?_, ?_⟩
      · rw [Stage.parse_limit h hverb hsign hmore, hsize]
        rfl
      · rw [Stage.parse_limit_minus h hverb hmore, hneg]
        rfl
    · intro field hfield operator
      rw [Condition.parse_hour h hfield, hsize]
      rfl

end

/-- Ten times the greatest word and more is read as what it is. -/
theorem readsExactly_twentyNines :
    IsRunOf Decimal.isDigit "99999999999999999999" ∧
      ReadsExactly "99999999999999999999" 99999999999999999999 := by
  have hdigits : IsRunOf Decimal.isDigit "99999999999999999999" := by decide
  have hvalue : Nat.ofDigitChars 10 "99999999999999999999".toList 0 = 99999999999999999999 := by
    decide
  have hexact := readsExactly_of_isRunOf hdigits
  rw [hvalue] at hexact
  exact ⟨hdigits, hexact⟩

end LogQuery
