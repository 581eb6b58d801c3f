import LogQuery.Proofs.ConditionWords

/-!
# Reading written conditions

Reading a condition that was written gives it back (`parse_text_of_isNormal`). The pieces that the
text is cut into are simple conditions; in each of them its own operator is the first that is found
(`comparison?_compared`), or none is and it has the form of a list or of an hour condition
(`membershipAt?_leafText`, `hourAt?_leafText`).
-/

namespace LogQuery.Condition

open Text

/-! ## Reading simple conditions -/

/-- A comparison is read with the first operator of the list that occurs in it. -/
theorem comparison?_compared
    {before after : List (List Char × (List Char → String) × (String → String → Condition))}
    {operator : List Char} {operand : List Char → String} {make : String → String → Condition}
    (hlist : comparisons = before ++ (marked ' ' operator, operand, make) :: after)
    {field : String} {value : List Char}
    (hbefore : ∀ entry ∈ before, ¬ entry.1 <:+: compared field operator value)
    (hfield : ' ' ∉ field.toList) (hvalue : ¬ marked ' ' operator <:+: value) :
    comparison? (compared field operator value) =
      some (make (operand field.toList) (operand value)) := by
  have hpieces : pieces (marked ' ' operator) (compared field operator value) =
      [field.toList, value] := by
    rw [compared, pieces_append (marked_ne_nil _ _), pieces_of_not_infix hvalue]
    rw [dropLast_marked, marked, cons_infix_append_iff hfield]
    exact not_infix_of_length_lt (by simp)
  rw [comparison?, hlist, List.findSome?_append, List.findSome?_eq_none_iff.mpr, Option.none_or,
    List.findSome?_cons]
  · simp only [hpieces]
  · rintro ⟨operator', operand', make'⟩ hentry
    have hone := pieces_of_not_infix (hbefore _ hentry)
    simp only [hone]

theorem leaf_of_comparison? {s : List Char} {condition : Condition}
    (h : comparison? s = some condition) : leaf s = condition := by
  unfold leaf
  rw [h]
  rfl

/-- A text in which no operator occurs is no comparison. -/
theorem comparison?_eq_none {s : List Char} (h : ∀ entry ∈ comparisons, ¬ entry.1 <:+: s) :
    comparison? s = none := by
  refine List.findSome?_eq_none_iff.mpr ?_
  rintro ⟨operator, operand, make⟩ hentry
  have hone := pieces_of_not_infix (h _ hentry)
  simp only [hone]

/-- A simple condition without one of the operators is no comparison. -/
theorem comparison?_leafText {condition : Condition} (h : IsLeaf condition)
    (hword : operatorWord condition = []) : comparison? (leafText condition) = none := by
  have hall : ∀ entry ∈ comparisons, ∃ word ∈ keywords, word ≠ [] ∧ entry.1 = marked ' ' word := by
    decide
  refine comparison?_eq_none fun entry hentry => ?_
  obtain ⟨word, hmem, hne, he⟩ := hall _ hentry
  rw [he]
  exact not_infix_of_not_infix_cons (not_infix_leafText hmem h (hword ▸ hne))

/-- The values of a list are read back, also after a blank in front of them. -/
theorem map_splitOn_listed (pad : List Char) (hpad : ∀ c ∈ pad, c = ' ') {values : List String}
    (hne : values ≠ []) (h : ∀ value ∈ values, IsListable value) :
    (((pad ++ listed values).splitOn ',').map fun value =>
      String.ofList ((trim value).filter (!isQuote ·))) = values := by
  induction values generalizing pad with
  | nil => exact absurd rfl hne
  | cons value rest ih =>
    have hvalue := h value List.mem_cons_self
    have hcomma : ',' ∉ pad ++ quoted value := by
      rw [List.mem_append, not_or]
      refine ⟨fun hmem => absurd (hpad _ hmem) (by decide), ?_⟩
      simpa [quoted] using hvalue.no_comma
    have hread : String.ofList ((trim (pad ++ quoted value)).filter (!isQuote ·)) = value := by
      have hblank : ∀ c ∈ pad, isBlank c = true := by
        intro c hc
        rw [hpad c hc]
        decide
      have htrim : trim (pad ++ quoted value) = quoted value := by
        rw [trim, trimStart_append hblank]
        exact trim_quoted value
      have hkeep : value.toList.filter (!isQuote ·) = value.toList := by
        refine List.filter_eq_self.mpr fun c hc => ?_
        have hdouble : c ≠ '"' := fun e => hvalue.no_mark (e ▸ hc)
        have hsingle : c ≠ '\'' := fun e => hvalue.no_single_mark (e ▸ hc)
        simp [isQuote, hdouble, hsingle]
      rw [htrim, quoted, List.filter_cons_of_neg (by decide), List.filter_append, hkeep,
        List.filter_cons_of_neg (by decide), List.filter_nil, List.append_nil,
        String.ofList_toList]
    cases rest with
    | nil =>
      rw [listed, List.map_singleton, joined, List.splitOn_eq_singleton hcomma, List.map_singleton,
        hread]
    | cons next rest =>
      have htext : pad ++ listed (value :: next :: rest) =
          (pad ++ quoted value) ++ ',' :: ([' '] ++ listed (next :: rest)) := by
        simp [listed, joined]
      rw [htext, List.splitOn_append_cons_self_of_not_mem hcomma, List.map_cons, hread,
        ih [' '] (by simp) (List.cons_ne_nil _ _) fun v hv => h v (List.mem_cons_of_mem _ hv)]

theorem parenthesis_notMem_listed {values : List String}
    (h : ∀ value ∈ values, IsListable value) : ')' ∉ listed values := by
  induction values with
  | nil => exact List.not_mem_nil
  | cons value rest ih =>
    have hvalue : ')' ∉ quoted value := by
      simpa [quoted] using (h value List.mem_cons_self).no_parenthesis
    cases rest with
    | nil => exact hvalue
    | cons next rest =>
      have hrest := ih fun v hv => h v (List.mem_cons_of_mem _ hv)
      have htext : listed (value :: next :: rest) =
          quoted value ++ ([',', ' '] ++ listed (next :: rest)) := by
        simp [listed, joined]
      rw [htext, List.mem_append, List.mem_append, not_or, not_or]
      exact ⟨hvalue, by decide, hrest⟩

theorem membershipAt?_leafText {field : String} {values : List String} (hf : IsField field)
    (hne : values ≠ []) (hv : ∀ value ∈ values, IsListable value) :
    membershipAt? (leafText (.oneOf field values)) = some (.oneOf field values) := by
  have hname : run? isWord (leafText (.oneOf field values)) =
      some (field.toList, ' ' :: 'i' :: 'n' :: ' ' :: '(' :: (listed values ++ [')'])) :=
    run?_append_cons hf.ne_nil (fun c hc => isWord_of_isNameChar (hf.name c hc)) (by decide)
  have hblank : run? isBlank (' ' :: 'i' :: 'n' :: ' ' :: '(' :: (listed values ++ [')'])) =
      some ([' '], 'i' :: 'n' :: ' ' :: '(' :: (listed values ++ [')'])) :=
    run?_append_cons (List.cons_ne_nil ' ' []) (by decide) (by decide)
  have hopen : trimStart (' ' :: '(' :: (listed values ++ [')'])) =
      '(' :: (listed values ++ [')']) := by
    rw [trimStart, List.dropWhile_cons_of_pos (by decide), List.dropWhile_cons_of_neg (by decide)]
  have hlisted : listed values ≠ [] := by
    obtain ⟨value, rest, rfl⟩ := List.exists_cons_of_ne_nil hne
    cases rest <;> simp [listed, joined, quoted]
  have hinside : ∀ c ∈ listed values, decide (c ≠ ')') = true := by
    intro c hc
    rw [decide_eq_true_eq]
    rintro rfl
    exact parenthesis_notMem_listed hv hc
  have hvalues : run? (· ≠ ')') (listed values ++ [')']) = some (listed values, [')']) :=
    run?_append_cons hlisted hinside (by decide)
  have hread := map_splitOn_listed [] (by simp) hne hv
  rw [List.nil_append] at hread
  unfold membershipAt?
  rw [hname]
  simp only [Option.bind_eq_bind, Option.bind_some, hblank, after?, if_true, hopen, hvalues,
    Option.pure_def, hread, String.ofList_toList]

theorem cappedValue_wholeText {hour : Int} (h0 : 0 ≤ hour) (hmax : hour ≤ 2 ^ 63 - 1) :
    (cappedValue (Decimal.wholeText hour) : Int) = hour := by
  rw [Decimal.wholeText, if_neg (by omega), cappedValue, Decimal.digitsValue_digits, maxWhole]
  omega

theorem hourOperator_hourSign (operator : HourOperator) :
    hourOperator (hourSign operator) = operator := by
  cases operator <;> rfl

/-- A digit is neither blank nor part of the operator of an hour condition. -/
theorem isOrderSign_of_isDigit {c : Char} (h : c.isDigit = true) : isOrderSign c = false :=
  forall_ascii (P := fun c => c.isDigit = true → isOrderSign c = false) (by decide)
    (toNat_lt_of_isDigit h) h

/-- An hour condition is read with any field of word characters and with any number of digits. -/
theorem hourAt?_append {field ds : List Char} (hne : field ≠ [])
    (hfield : ∀ c ∈ field, isWord c = true) (operator : HourOperator) (hds : ds ≠ [])
    (hdigits : ∀ c ∈ ds, c.isDigit = true) :
    hourAt? ("hourofday(".toList ++ (field ++ (')' :: (hourSign operator ++ ds)))) =
      some (.hourOfDay (String.ofList field) operator (cappedValue ds)) := by
  obtain ⟨d, ds', htext⟩ := List.exists_cons_of_ne_nil hds
  have hd : d.isDigit = true := hdigits d (htext ▸ List.mem_cons_self)
  have hname : run? isWord (field ++ (')' :: (hourSign operator ++ ds))) =
      some (field, ')' :: (hourSign operator ++ ds)) := run?_append_cons hne hfield (by decide)
  have hstart : trimStart (hourSign operator ++ ds) = hourSign operator ++ ds := by
    cases operator <;> exact trimStart_cons (by decide) _
  have hsign : run? isOrderSign (hourSign operator ++ ds) = some (hourSign operator, ds) := by
    rw [htext]
    refine run?_append_cons ?_ ?_ (isOrderSign_of_isDigit hd)
    · cases operator <;> exact List.cons_ne_nil _ _
    · cases operator <;> decide
  have hblank : trimStart ds = ds := by
    rw [htext]
    refine trimStart_cons (isBlank_of_isNumeralChar ?_) ds'
    rw [isNumeralChar, hd]
    rfl
  have hhour : run? Decimal.isDigit ds = some (ds, []) := run?_eq_self hds hdigits
  have hclose : ∀ s : List Char, after? [')'] (')' :: s) = some s := after?_append [')']
  unfold hourAt?
  rw [after?_append]
  simp only [Option.bind_eq_bind, Option.bind_some, hname, hclose, hstart, hsign, hblank, hhour,
    Option.pure_def, hourOperator_hourSign]

theorem hourAt?_leafText {field : String} (hf : IsField field) (operator : HourOperator)
    {hour : Int} (h0 : 0 ≤ hour) (hmax : hour ≤ 2 ^ 63 - 1) :
    hourAt? (leafText (.hourOfDay field operator hour)) =
      some (.hourOfDay field operator hour) := by
  have hdigits : Decimal.wholeText hour ≠ [] := by
    rw [Decimal.wholeText, if_neg (by omega)]
    exact Decimal.digits_ne_nil _
  rw [leafText_hourOfDay, hourAt?_append hf.ne_nil
    (fun c hc => isWord_of_isNameChar (hf.name c hc)) operator hdigits
    (fun c hc => isDigit_of_mem_wholeText h0 hc), String.ofList_toList,
    cappedValue_wholeText h0 hmax]

/-- A text without a blank that begins with an hour condition is that condition. -/
theorem leaf_of_hourAt? {s : List Char} {condition : Condition} (h : ' ' ∉ s)
    (hread : hourAt? s = some condition) : leaf s = condition := by
  have hoperators : ∀ entry ∈ comparisons, ' ' ∈ entry.1 := by decide
  have hcomparison : comparison? s = none := comparison?_eq_none fun entry hentry hin =>
    h (hin.subset (hoperators entry hentry))
  have hin : ¬ occurs " in ".toList s = true := fun hoccurs =>
    h ((occurs_iff.mp hoccurs).subset List.mem_cons_self)
  unfold leaf
  rw [hcomparison, if_neg hin, firstMatch?_of_eq_some hread]
  rfl

/-- A comparison is read back when its operands are, and no word that is looked for occurs in what
is written for the value. -/
theorem leaf_compared (n : Nat) {operator : List Char} {operand : List Char → String}
    {make : String → String → Condition}
    (hlist : comparisons =
      comparisons.take n ++ (marked ' ' operator, operand, make) :: comparisons.drop (n + 1))
    (hbefore : ∀ entry ∈ comparisons.take n,
      ∃ word ∈ keywords, word ≠ operator ∧ entry.1 = marked ' ' word)
    (hoperator : operator ∈ keywords) {field value : String} {written : List Char}
    (hf : IsField field) (hfield : operand field.toList = field) (hvalue : operand written = value)
    (hfree : ∀ word ∈ keywords, ¬ marked ' ' word <:+: ' ' :: written) :
    leaf (compared field operator written) = make field value := by
  have hblank : ' ' ∉ operator := notMem_keyword operator hoperator ' ' (by simp)
  have hread := comparison?_compared hlist (fun entry hentry => ?_) hf.blank_notMem
    (not_infix_of_not_infix_cons (hfree operator hoperator))
  · rw [hfield, hvalue] at hread
    exact leaf_of_comparison? hread
  · obtain ⟨word, hword, hne, he⟩ := hbefore entry hentry
    rw [he]
    exact not_infix_of_not_infix_cons (not_infix_compared hword hf hblank hne (hfree word hword))

/-- A written comparison is read as it was. -/
theorem leaf_leafText {condition : Condition} (h : IsLeaf condition) :
    leaf (leafText condition) = condition := by
  have hquoted : ∀ {value : String}, IsQuotable value →
      ∀ word ∈ keywords, ¬ marked ' ' word <:+: ' ' :: quoted value := by
    intro value hv word hword
    have hnil : ¬ marked ' ' word <:+: [] := not_infix_of_length_lt (by simp [marked])
    simpa using not_infix_quoted hword hv hnil
  have hnumeral : ∀ {value : String}, IsNumeral value →
      ∀ word ∈ keywords, ¬ marked ' ' word <:+: ' ' :: value.toList := fun hv word _ =>
    not_marked_infix_cons (blank_notMem_numeral hv)
  cases h with
  | contains hf hv =>
    exact leaf_compared 0 rfl (by decide) (by decide) hf hf.unquoted_toList (unquoted_quoted hv)
      (hquoted hv)
  | equals hf hv =>
    exact leaf_compared 1 rfl (by decide) (by decide) hf hf.unquoted_toList (unquoted_quoted hv)
      (hquoted hv)
  | differs hf hv =>
    exact leaf_compared 2 rfl (by decide) (by decide) hf hf.unquoted_toList (unquoted_quoted hv)
      (hquoted hv)
  | atLeast hf hv =>
    exact leaf_compared 3 rfl (by decide) (by decide) hf hf.verbatim_toList (verbatim_numeral hv)
      (hnumeral hv)
  | lessThan hf hv =>
    exact leaf_compared 4 rfl (by decide) (by decide) hf hf.verbatim_toList (verbatim_numeral hv)
      (hnumeral hv)
  | @oneOf field values hf hne hv =>
    have hin : occurs " in ".toList (leafText (.oneOf field values)) = true := by
      refine occurs_iff.mpr ⟨field.toList, '(' :: (listed values ++ [')']), ?_⟩
      rw [leafText_oneOf, compared, List.append_assoc]
      rfl
    have hread := firstMatch?_of_eq_some (membershipAt?_leafText hf hne hv)
    unfold leaf
    rw [comparison?_leafText (.oneOf hf hne hv) rfl, if_pos hin, hread]
    rfl
  | @hourOfDay field operator hour hf hop h0 hmax =>
    exact leaf_of_hourAt? (blank_notMem_hourText hf h0) (hourAt?_leafText hf operator h0 hmax)

/-! ## Reading disjunctions and conjunctions -/

/-- Parts that are read back one by one are read back together. -/
theorem map_read_trim {word : List Char} {parts : List Condition}
    {write : Condition → List Char} {read : List Char → Condition}
    (hwrite : ∀ part ∈ parts, Standalone word (write part))
    (hread : ∀ part ∈ parts, read (write part) = part) :
    (parts.map write).map (fun piece => read (trim piece)) = parts := by
  rw [List.map_map]
  refine (List.map_congr_left fun part hpart => ?_).trans (List.map_id parts)
  rw [Function.comp_apply, (hwrite part hpart).trim_eq, hread part hpart, id]

theorem map_ne_nil_of_two_le_length {α β : Type} {f : α → β} {parts : List α}
    (h : 2 ≤ parts.length) : parts.map f ≠ [] := by
  rw [Ne, List.map_eq_nil_iff]
  exact List.ne_nil_of_length_pos (by omega)

theorem exists_eq_cons_cons {α : Type} {parts : List α} (h : 2 ≤ parts.length) :
    ∃ first second rest, parts = first :: second :: rest := by
  match parts, h with
  | first :: second :: rest, _ => exact ⟨first, second, rest, rfl⟩

theorem disjunction_eq_leaf {s : List Char} (h : ¬ marked ' ' "or".toList <:+: s) :
    disjunction s = leaf s := by
  have hone : pieces " or ".toList s = [s] := pieces_of_not_infix h
  unfold disjunction
  rw [hone]

/-- A text with the word in it is read as the comparisons between its occurrences. -/
theorem disjunction_eq_any {s : List Char} {parts : List (List Char)}
    (h : pieces (marked ' ' "or".toList) s = parts) (hlength : 2 ≤ parts.length) :
    disjunction s = .any (parts.map fun part => leaf (trim part)) := by
  have hpieces : pieces " or ".toList s = parts := h
  obtain ⟨first, second, rest, rfl⟩ := exists_eq_cons_cons hlength
  unfold disjunction
  rw [hpieces]

theorem conjunction_eq_disjunction {s : List Char} (h : ¬ marked ' ' "and".toList <:+: s) :
    conjunction s = disjunction s := by
  have hone : pieces " and ".toList s = [s] := pieces_of_not_infix h
  unfold conjunction
  rw [hone]

/-- Each piece between the outer words is read on its own. -/
theorem conjunction_eq_all {s : List Char} {parts : List (List Char)}
    (h : pieces (marked ' ' "and".toList) s = parts) (hlength : 2 ≤ parts.length) :
    conjunction s = .all (parts.map fun part => disjunction (trim part)) := by
  have hpieces : pieces " and ".toList s = parts := h
  obtain ⟨first, second, rest, rfl⟩ := exists_eq_cons_cons hlength
  unfold conjunction
  rw [hpieces]

theorem disjunctionText_of_isLeaf {condition : Condition} (h : IsLeaf condition) :
    disjunctionText condition = leafText condition := by
  cases h <;> rfl

theorem conjunctionText_of_isDisjunction {condition : Condition} (h : IsDisjunction condition) :
    conjunctionText condition = disjunctionText condition := by
  cases h with
  | leaf h => cases h <;> rfl
  | any => rfl

/-- Simple conditions and disjunctions can be joined by ` and `. -/
theorem standalone_disjunctionText {condition : Condition} (h : IsDisjunction condition) :
    Standalone "and".toList (disjunctionText condition) := by
  have hand : "and".toList ∈ joiners := by decide
  cases h with
  | leaf h =>
    rw [disjunctionText_of_isLeaf h]
    exact standalone_leafText h hand
  | @any parts hlength h =>
    rw [disjunctionText_any]
    exact Standalone.joined hand (by decide) (by decide) (map_ne_nil_of_two_le_length hlength)
      (List.forall_mem_map.mpr fun part hpart => standalone_leafText (h part hpart) hand)

/-- A written disjunction is read as it was. -/
theorem disjunction_disjunctionText {condition : Condition} (h : IsDisjunction condition) :
    disjunction (disjunctionText condition) = condition := by
  have hor : "or".toList ∈ joiners := by decide
  cases h with
  | leaf h =>
    have hfree := (standalone_leafText h hor).free
    rw [disjunctionText_of_isLeaf h, disjunction_eq_leaf, leaf_leafText h]
    exact not_infix_of_not_infix_cons hfree
  | @any parts hlength h =>
    have hwrite : ∀ part ∈ parts, Standalone "or".toList (leafText part) := fun part hpart =>
      standalone_leafText (h part hpart) hor
    have hparts := map_read_trim hwrite fun part hpart => leaf_leafText (h part hpart)
    have hpieces := Standalone.pieces_joined hor (map_ne_nil_of_two_le_length hlength)
      (List.forall_mem_map.mpr hwrite)
    rw [disjunctionText_any, disjunction_eq_any hpieces (by rwa [List.length_map]), hparts]

/-- What can be written is read back. -/
theorem conjunction_conjunctionText {condition : Condition} (h : IsNormal condition) :
    conjunction (conjunctionText condition) = condition := by
  have hand : "and".toList ∈ joiners := by decide
  cases h with
  | disjunction h =>
    have hfree := (standalone_disjunctionText h).free
    rw [conjunctionText_of_isDisjunction h, conjunction_eq_disjunction,
      disjunction_disjunctionText h]
    exact not_infix_of_not_infix_cons hfree
  | @all parts hlength h =>
    have hwrite : ∀ part ∈ parts, Standalone "and".toList (disjunctionText part) :=
      fun part hpart => standalone_disjunctionText (h part hpart)
    have hparts := map_read_trim hwrite fun part hpart => disjunction_disjunctionText (h part hpart)
    have hpieces := Standalone.pieces_joined hand (map_ne_nil_of_two_le_length hlength)
      (List.forall_mem_map.mpr hwrite)
    rw [conjunctionText_all, conjunction_eq_all hpieces (by rwa [List.length_map]), hparts]

/-- The text of a condition begins and ends with characters that are not blank. -/
theorem framed_conjunctionText {condition : Condition} (h : IsNormal condition) :
    Framed (conjunctionText condition) := by
  cases h with
  | disjunction h =>
    rw [conjunctionText_of_isDisjunction h]
    exact (standalone_disjunctionText h).toFramed
  | all hlength h =>
    rw [conjunctionText_all]
    refine Framed.joined (map_ne_nil_of_two_le_length hlength) ?_
    rw [List.forall_mem_map]
    exact fun part hpart => (standalone_disjunctionText (h part hpart)).toFramed

/-- Reading the text of a condition gives the condition back. -/
theorem parse_text_of_isNormal {condition : Condition} (h : IsNormal condition) :
    parse condition.text = condition := by
  rw [parse, text, String.toList_ofList, (framed_conjunctionText h).trim_eq,
    conjunction_conjunctionText h]

/-- A conjunction in which words are close to being taken for others. -/
def sampleCondition : Condition :=
  .all [.any [.contains "order" " or", .oneOf "hourofday" ["x in (y", ""]],
    .hourOfDay "Band" .atLeast 9223372036854775807, .lessThan "n" "-.5"]

theorem parse_text_sampleCondition :
    sampleCondition.text =
      "order contains \" or\" or hourofday in (\"x in (y\", \"\")" ++
        " and hourofday(Band)>=9223372036854775807 and n < -.5" ∧
    IsNormal sampleCondition ∧ parse sampleCondition.text = sampleCondition := by
  have hany : ∀ part ∈ [.contains "order" " or", .oneOf "hourofday" ["x in (y", ""]],
      IsLeaf part := by
    rw [List.forall_mem_cons, List.forall_mem_singleton]
    exact ⟨.contains (by decide) (by decide), .oneOf (by decide) (by decide) (by decide)⟩
  have hnormal : IsNormal sampleCondition := by
    refine .all (by decide) ?_
    rw [List.forall_mem_cons, List.forall_mem_cons, List.forall_mem_singleton]
    refine ⟨.any (by decide) hany, .leaf ?_, .leaf ?_⟩
    · exact .hourOfDay (by decide) (by decide) (by decide) (by decide)
    · exact .lessThan (by decide) (by decide)
  exact ⟨by decide +kernel, hnormal, parse_text_of_isNormal hnormal⟩

end LogQuery.Condition
