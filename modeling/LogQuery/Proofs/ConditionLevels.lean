import LogQuery.Proofs.SuccessiveFilters

/-!
# The levels of a condition

Reading a condition looks for ` and ` first, for ` or ` where there is no ` and `, and for an
operator where there is neither, and it reads every piece that it cuts off by the same rule
(`Reads`). The rule gives each text one condition, which has two levels at most: no piece that was
cut out at a word has that word in it, nor any word that its text did not have
(`hasLevels_parse`). So whether a text holds of a record is said by the pieces of its pieces.
-/

namespace LogQuery.Condition

open Text

/-- The rule by which texts are read: the first of the words ` and ` and ` or ` that occurs in a
trimmed text cuts it into pieces, which are read in the same way, and a text without them is a
simple condition. -/
inductive Reads : List Char → Condition → Prop where
  | all {s : List Char} {read : List Char → Condition} (hand : " and ".toList <:+: trim s)
    (h : ∀ piece ∈ pieces " and ".toList (trim s), Reads piece (read piece)) :
    Reads s (.all ((pieces " and ".toList (trim s)).map read))
  | any {s : List Char} {read : List Char → Condition} (hand : ¬ " and ".toList <:+: trim s)
    (hor : " or ".toList <:+: trim s)
    (h : ∀ piece ∈ pieces " or ".toList (trim s), Reads piece (read piece)) :
    Reads s (.any ((pieces " or ".toList (trim s)).map read))
  | leaf {s : List Char} (hand : ¬ " and ".toList <:+: trim s)
    (hor : ¬ " or ".toList <:+: trim s) : Reads s (Condition.leaf (trim s))

/-! ## The rule -/

variable {s : List Char}

theorem not_infix_trim {word : List Char} (h : ¬ word <:+: s) : ¬ word <:+: trim s :=
  fun hin => h (hin.trans (trim_isInfix s))

/-- Without ` and `, a text is read as a disjunction. -/
theorem reads_disjunction (hand : ¬ " and ".toList <:+: trim s) :
    Reads s (disjunction (trim s)) := by
  by_cases hor : " or ".toList <:+: trim s
  · rw [disjunction_eq_any rfl (two_le_length_pieces (by decide) hor)]
    refine .any hand hor ?_
    intro piece hpiece
    have hinfix : piece <:+: trim s := isInfix_of_mem_pieces (by decide) hpiece
    refine .leaf (not_infix_trim ?_) (not_infix_trim ?_)
    · exact fun hin => hand (hin.trans hinfix)
    · exact not_infix_of_mem_pieces (by decide) hpiece
  · rw [disjunction_eq_leaf hor]
    exact .leaf hand hor

/-- The rule has a reading of every text, the one of the parser. -/
theorem reads_conjunction (s : List Char) : Reads s (conjunction (trim s)) := by
  by_cases hand : " and ".toList <:+: trim s
  · rw [conjunction_eq_all rfl (two_le_length_pieces (by decide) hand)]
    refine .all hand ?_
    intro piece hpiece
    exact reads_disjunction (not_infix_trim (not_infix_of_mem_pieces (by decide) hpiece))
  · rw [conjunction_eq_disjunction hand]
    exact reads_disjunction hand

/-- It has no other one. -/
theorem Reads.eq_conjunction {condition : Condition} (h : Reads s condition) :
    condition = conjunction (trim s) := by
  induction h with
  | @all s read hand h ih =>
    rw [conjunction_eq_all rfl (two_le_length_pieces (by decide) hand)]
    refine congrArg Condition.all (List.map_congr_left ?_)
    intro piece hpiece
    rw [ih piece hpiece, conjunction_eq_disjunction]
    exact not_infix_trim (not_infix_of_mem_pieces (by decide) hpiece)
  | @any s read hand hor h ih =>
    rw [conjunction_eq_disjunction hand,
      disjunction_eq_any rfl (two_le_length_pieces (by decide) hor)]
    refine congrArg Condition.any (List.map_congr_left ?_)
    intro piece hpiece
    have hinfix : piece <:+: trim s := isInfix_of_mem_pieces (by decide) hpiece
    rw [ih piece hpiece, conjunction_eq_disjunction, disjunction_eq_leaf]
    · exact not_infix_trim (not_infix_of_mem_pieces (by decide) hpiece)
    · exact not_infix_trim fun hin => hand (hin.trans hinfix)
  | leaf hand hor => rw [conjunction_eq_disjunction hand, disjunction_eq_leaf hor]

/-- A text is read by the rule as one condition only. -/
theorem reads_iff {condition : Condition} :
    Reads s condition ↔ condition = parse (String.ofList s) := by
  rw [parse_ofList]
  constructor
  · exact Reads.eq_conjunction
  · rintro rfl
    exact reads_conjunction s

/-! ## Simple conditions -/

theorem isSimple_of_comparison? {condition : Condition} (h : comparison? s = some condition) :
    condition.isSimple = true := by
  have hmake : ∀ entry ∈ comparisons, ∀ field value, (entry.2.2 field value).isSimple = true := by
    simp [comparisons, isSimple]
  obtain ⟨⟨operator, operand, make⟩, hentry, hread⟩ := List.exists_of_findSome?_eq_some h
  dsimp only at hread
  split at hread
  · rw [← Option.some_inj.mp hread]
    exact hmake _ hentry _ _
  · exact absurd hread (by simp)

theorem isSimple_of_membershipAt? {condition : Condition}
    (h : membershipAt? s = some condition) : condition.isSimple = true := by
  simp only [membershipAt?, Option.bind_eq_bind, Option.bind_eq_some_iff, Option.pure_def] at h
  obtain ⟨⟨field, _⟩, -, _, -, _, -, _, -, ⟨values, _⟩, -, _, -, hread⟩ := h
  rw [← Option.some_inj.mp hread]
  rfl

theorem isSimple_of_hourAt? {condition : Condition} (h : hourAt? s = some condition) :
    condition.isSimple = true := by
  simp only [hourAt?, Option.bind_eq_bind, Option.bind_eq_some_iff, Option.pure_def] at h
  obtain ⟨_, -, ⟨field, _⟩, -, _, -, ⟨operator, _⟩, -, ⟨ds, _⟩, -, hread⟩ := h
  rw [← Option.some_inj.mp hread]
  rfl

/-- A text that is not cut is read as a simple condition. -/
theorem isSimple_leaf (s : List Char) : (Condition.leaf s).isSimple = true := by
  unfold Condition.leaf
  cases hcomparison : comparison? s with
  | some condition => exact isSimple_of_comparison? hcomparison
  | none =>
    cases hmembership : if occurs " in ".toList s then firstMatch? membershipAt? s else none with
    | some condition =>
      split at hmembership
      · obtain ⟨_, -, hread⟩ := exists_suffix_of_firstMatch? hmembership
        exact isSimple_of_membershipAt? hread
      · exact absurd hmembership (by simp)
    | none =>
      cases hhour : firstMatch? hourAt? s with
      | some condition =>
        obtain ⟨_, -, hread⟩ := exists_suffix_of_firstMatch? hhour
        exact isSimple_of_hourAt? hread
      | none => rfl

/-! ## Levels -/

/-- The conditions of one level at most: simple conditions and disjunctions of at least two of
them. -/
inductive IsClause : Condition → Prop where
  | simple {condition : Condition} (h : condition.isSimple = true) : IsClause condition
  | any {parts : List Condition} (hlength : 2 ≤ parts.length)
    (h : ∀ part ∈ parts, part.isSimple = true) : IsClause (.any parts)

/-- The conditions of two levels at most: those of one level and conjunctions of at least two of
them. -/
inductive IsTwoLevel : Condition → Prop where
  | clause {condition : Condition} (h : IsClause condition) : IsTwoLevel condition
  | all {parts : List Condition} (hlength : 2 ≤ parts.length)
    (h : ∀ part ∈ parts, IsClause part) : IsTwoLevel (.all parts)

/-- The pieces that ` or ` cuts the trimmed pieces into that ` and ` cuts a trimmed text into. -/
def clauses (s : List Char) : List (List (List Char)) :=
  (pieces " and ".toList (trim s)).map fun piece => pieces " or ".toList (trim piece)

/-- Parts put together, where a single part stands for itself. -/
def level (join : List Condition → Condition) : List Condition → Condition
  | [part] => part
  | parts => join parts

/-- A piece of a text read as a condition by itself. -/
def ofPiece (piece : List Char) : Condition := parse (String.ofList piece)

theorem level_of_two_le_length {join : List Condition → Condition} {parts : List Condition}
    (h : 2 ≤ parts.length) : level join parts = join parts := by
  obtain ⟨first, second, rest, rfl⟩ := exists_eq_cons_cons h
  rfl

theorem isClause_level {parts : List Condition} (hne : parts ≠ [])
    (h : ∀ part ∈ parts, part.isSimple = true) : IsClause (level .any parts) := by
  match parts, hne with
  | [part], _ => exact .simple (h part List.mem_cons_self)
  | first :: second :: rest, _ => exact .any (by simp) h

theorem isTwoLevel_level {parts : List Condition} (hne : parts ≠ [])
    (h : ∀ part ∈ parts, IsClause part) : IsTwoLevel (level .all parts) := by
  match parts, hne with
  | [part], _ => exact .clause (h part List.mem_cons_self)
  | first :: second :: rest, _ => exact .all (by simp) h

theorem allHold_eq_all (parts : List Condition) (record : Record) :
    allHold parts record = parts.all fun part => part.holds record := by
  induction parts with
  | nil => rfl
  | cons part rest ih => rw [allHold, ih, List.all_cons]

theorem anyHolds_eq_any (parts : List Condition) (record : Record) :
    anyHolds parts record = parts.any fun part => part.holds record := by
  induction parts with
  | nil => rfl
  | cons part rest ih => rw [anyHolds, ih, List.any_cons]

/-- That a single part stands for itself makes no difference to whether parts put together hold. -/
theorem holds_level {join : List Condition → Condition} {record : Record}
    {hold : List Condition → Bool} (hjoin : ∀ parts, (join parts).holds record = hold parts)
    (hone : ∀ part, part.holds record = hold [part]) (parts : List Condition) :
    (level join parts).holds record = hold parts := by
  match parts with
  | [] => exact hjoin []
  | [part] => exact hone part
  | first :: second :: rest => exact hjoin (first :: second :: rest)

/-! ## Pieces of pieces -/

theorem ofPiece_eq_leaf {piece : List Char} (hand : ¬ " and ".toList <:+: piece)
    (hor : ¬ " or ".toList <:+: piece) : ofPiece piece = Condition.leaf (trim piece) := by
  rw [ofPiece, parse_ofList, conjunction_eq_disjunction (not_infix_trim hand),
    disjunction_eq_leaf (not_infix_trim hor)]

/-- The pieces of a clause have neither word in them. -/
theorem not_infix_of_mem_clauses {clause : List (List Char)} (hclause : clause ∈ clauses s)
    {piece : List Char} (h : piece ∈ clause) :
    ¬ " and ".toList <:+: piece ∧ ¬ " or ".toList <:+: piece := by
  obtain ⟨part, hpart, rfl⟩ := List.mem_map.mp hclause
  have hinfix : piece <:+: trim part := isInfix_of_mem_pieces (by decide) h
  have hand : ¬ " and ".toList <:+: trim part :=
    not_infix_trim (not_infix_of_mem_pieces (by decide) hpart)
  exact ⟨fun hin => hand (hin.trans hinfix), not_infix_of_mem_pieces (by decide) h⟩

theorem isSimple_of_mem_clauses {clause : List (List Char)} (hclause : clause ∈ clauses s)
    {piece : List Char} (h : piece ∈ clause) : (ofPiece piece).isSimple = true := by
  obtain ⟨hand, hor⟩ := not_infix_of_mem_clauses hclause h
  rw [ofPiece_eq_leaf hand hor]
  exact isSimple_leaf _

theorem disjunction_trim_eq_level (s : List Char) :
    disjunction (trim s) =
      level .any ((pieces " or ".toList (trim s)).map fun piece => leaf (trim piece)) := by
  by_cases hor : " or ".toList <:+: trim s
  · have hlength := two_le_length_pieces (by decide) hor
    rw [disjunction_eq_any rfl hlength, level_of_two_le_length (by rwa [List.length_map])]
    rfl
  · rw [disjunction_eq_leaf hor, pieces_of_not_infix hor, List.map_singleton, level, trim_trim]

theorem conjunction_trim_eq_level (s : List Char) :
    conjunction (trim s) = level .all
      ((pieces " and ".toList (trim s)).map fun piece => disjunction (trim piece)) := by
  by_cases hand : " and ".toList <:+: trim s
  · have hlength := two_le_length_pieces (by decide) hand
    rw [conjunction_eq_all rfl hlength, level_of_two_le_length (by rwa [List.length_map])]
    rfl
  · rw [conjunction_eq_disjunction hand, pieces_of_not_infix hand, List.map_singleton, level,
      trim_trim]

/-- A text is read as the conjunction of the disjunctions of its pieces, each read by itself. -/
theorem parse_eq_level (text : String) :
    parse text =
      level .all ((clauses text.toList).map fun clause => level .any (clause.map ofPiece)) := by
  rw [parse, conjunction_trim_eq_level, clauses, List.map_map]
  refine congrArg (level .all) (List.map_congr_left ?_)
  intro part hpart
  rw [disjunction_trim_eq_level, Function.comp_apply]
  refine congrArg (level .any) (List.map_congr_left ?_)
  intro piece hpiece
  obtain ⟨hand, hor⟩ := not_infix_of_mem_clauses (List.mem_map_of_mem hpart) hpiece
  rw [ofPiece_eq_leaf hand hor]

/-- What is read never is deeper than two levels. -/
theorem isTwoLevel_parse (text : String) : IsTwoLevel (parse text) := by
  have hne : ∀ word s : List Char, pieces word s ≠ [] := fun word s => piecesAfter_ne_nil word 0 s
  rw [parse_eq_level]
  refine isTwoLevel_level ?_ (List.forall_mem_map.mpr ?_)
  · rw [Ne, List.map_eq_nil_iff, clauses, List.map_eq_nil_iff]
    exact hne _ _
  · intro clause hclause
    refine isClause_level ?_ (List.forall_mem_map.mpr ?_)
    · obtain ⟨part, -, rfl⟩ := List.mem_map.mp hclause
      rw [Ne, List.map_eq_nil_iff]
      exact hne _ _
    · intro piece hpiece
      exact isSimple_of_mem_clauses hclause hpiece

/-- What is read holds when in every clause some piece does. -/
theorem holds_parse (text : String) (record : Record) :
    (parse text).holds record = (clauses text.toList).all fun clause =>
      clause.any fun piece => (ofPiece piece).holds record := by
  have hall : ∀ parts, (level .all parts).holds record = parts.all fun part => part.holds record :=
    holds_level (fun parts => by rw [holds_all, allHold_eq_all]) fun part => by simp
  have hany : ∀ parts, (level .any parts).holds record = parts.any fun part => part.holds record :=
    holds_level (fun parts => by rw [holds_any, anyHolds_eq_any]) fun part => by simp
  rw [parse_eq_level, hall, List.all_map]
  refine congrArg (List.all _) (funext ?_)
  intro clause
  rw [Function.comp_apply, hany, List.any_map]
  rfl

/-- What the condition is that a text is read as. -/
structure HasLevels (text : String) (condition : Condition) : Prop where
  /-- The rule gives this condition and no other. -/
  rule : ∀ other, Reads text.toList other ↔ other = condition
  /-- There are two levels at most, of at least two parts each. -/
  shape : IsTwoLevel condition
  /-- The condition is put together of the pieces of the pieces. -/
  eq_level : condition =
    level .all ((clauses text.toList).map fun clause => level .any (clause.map ofPiece))
  /-- Every piece is without the two words and is read as a simple condition. -/
  simple : ∀ clause ∈ clauses text.toList, ∀ piece ∈ clause,
    ¬ " and ".toList <:+: piece ∧ ¬ " or ".toList <:+: piece ∧ (ofPiece piece).isSimple = true
  /-- It holds of a record when in every clause some piece does. -/
  holds_iff : ∀ record, condition.holds record = (clauses text.toList).all fun clause =>
    clause.any fun piece => (ofPiece piece).holds record

/-- Every text is read by the rule, and as one condition only: the conjunction of the disjunctions
of simple conditions, where a single part stands for itself, for which each piece of its pieces is
read by itself. -/
theorem hasLevels_parse (text : String) : HasLevels text (parse text) where
  rule := by
    intro other
    rw [reads_iff, String.ofList_toList]
  shape := isTwoLevel_parse text
  eq_level := parse_eq_level text
  simple := by
    intro clause hclause piece hpiece
    obtain ⟨hand, hor⟩ := not_infix_of_mem_clauses hclause hpiece
    exact ⟨hand, hor, isSimple_of_mem_clauses hclause hpiece⟩
  holds_iff := holds_parse text

/-- Of two words that share a blank only the first one cuts. -/
example :
    clauses " x or or y and  and z and and or w ".toList =
      [["x".toList, "or y".toList], [[]], ["z".toList], ["and".toList, "w".toList]] := by decide

end LogQuery.Condition
