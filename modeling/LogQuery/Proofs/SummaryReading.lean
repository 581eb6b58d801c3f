import LogQuery.Proofs.ConditionReading
import LogQuery.Proofs.StageText

/-!
# Reading written summaries

Reading the argument of a summary gives its plan back (`parseSummary_append`). Both parts of reading
search. The group is what follows the last word `by` between blanks, of which there is none in the
group itself (`groupedAt?_append`). An aggregation is looked for at every place of the text. What is
found there cannot begin in one aggregation and end in another, because no name reaches over the
comma between them, and behind the equality sign of the other aggregation stands the other function
(`Seeks.firstMatch?_append_comma`, `lacks_assigned`).
-/

namespace LogQuery.Stage

open Text Condition

variable {α : Type} {s t a b : List Char}

/-! ## Groups -/

theorem afterBy?_of_not_blank (h : ∀ c ∈ s.head?, isBlank c = false) : afterBy? s = none := by
  rw [afterBy?, run?_eq_none h]
  rfl

theorem afterBy?_by {group : List Char} (h : IsUnbroken group) :
    afterBy? (" by ".toList ++ group) = some group := by
  have hfirst : ∀ c ∈ group.head?, isBlank c = false := fun c hc =>
    h.not_blank c (List.mem_of_mem_head? hc)
  have hbefore : run? isBlank (' ' :: 'b' :: 'y' :: ' ' :: group) =
      some ([' '], 'b' :: 'y' :: ' ' :: group) :=
    run?_append_cons (List.cons_ne_nil ' ' []) (by decide) (by decide)
  have hafter : run? isBlank (' ' :: group) = some ([' '], group) :=
    run?_append (List.cons_ne_nil ' ' []) (by decide) hfirst
  have hline : group.takeWhile (· ≠ '\n') = group := by
    refine List.takeWhile_eq_self_iff.mpr fun c hc => ?_
    rw [decide_eq_true_eq]
    rintro rfl
    exact absurd (h.not_blank _ hc) (by decide)
  obtain ⟨c, rest, rfl⟩ := List.exists_cons_of_ne_nil h.ne_nil
  show afterBy? (' ' :: 'b' :: 'y' :: ' ' :: c :: rest) = _
  rw [afterBy?, hbefore]
  simp only [Option.bind_eq_bind, Option.bind_some, after?, if_true, hafter, hline, Option.pure_def]

/-- A group does not hold the word `by` with a blank behind it. -/
theorem afterBy?_blank_cons {group : List Char} (h : IsUnbroken group) :
    afterBy? (' ' :: group) = none := by
  have hbefore : run? isBlank (' ' :: group) = some ([' '], group) :=
    run?_append (List.cons_ne_nil ' ' []) (by decide) fun c hc =>
      h.not_blank c (List.mem_of_mem_head? hc)
  rw [afterBy?, hbefore]
  simp only [Option.bind_eq_bind, Option.bind_some]
  cases hafter : after? ['b', 'y'] group with
  | none => simp only [Option.bind_none]
  | some rest =>
    rw [after?_eq_some_iff] at hafter
    subst hafter
    have hrest : run? isBlank rest = none := run?_eq_none fun c hc =>
      h.not_blank c (List.mem_append_right _ (List.mem_of_mem_head? hc))
    simp only [Option.bind_some, hrest, Option.bind_none]

/-- A text has no group when the word `by` stands between blanks nowhere behind its first
character. -/
theorem groupedAt?_cons_eq_none (h : ∀ t, t <:+ s → afterBy? t = none) (c : Char) :
    groupedAt? (c :: s) = none := by
  induction s generalizing c with
  | nil =>
    rw [groupedAt?, groupedAt?, h [] List.suffix_rfl]
    split <;> rfl
  | cons d s ih =>
    have hrest := ih (fun t ht => h t (ht.trans (List.suffix_cons d s))) d
    rw [groupedAt?, hrest, h (d :: s) List.suffix_rfl]
    split <;> rfl

/-- What stands before a text is part of the aggregations when the text has a group, as long as it
keeps to the line. -/
theorem groupedAt?_append_of_some {front group : List Char} (hline : '\n' ∉ front)
    (h : groupedAt? s = some (t, group)) : groupedAt? (front ++ s) = some (front ++ t, group) := by
  induction front with
  | nil => exact h
  | cons c front ih =>
    rw [List.mem_cons, not_or] at hline
    rw [List.cons_append, groupedAt?, if_neg (Ne.symm hline.1), ih hline.2]
    rfl

/-- Behind the word `by` in front of a group no other one stands between blanks. -/
theorem groupedAt?_by_eq_none {group : List Char} (h : IsUnbroken group) :
    groupedAt? (" by ".toList ++ group) = none := by
  refine groupedAt?_cons_eq_none (s := "by ".toList ++ group) (fun t ht => ?_) ' '
  rcases List.suffix_cons_iff.mp ht with rfl | ht
  · exact afterBy?_of_not_blank (by simp; decide)
  rcases List.suffix_cons_iff.mp ht with rfl | ht
  · exact afterBy?_of_not_blank (by simp; decide)
  rcases List.suffix_cons_iff.mp ht with rfl | ht
  · exact afterBy?_blank_cons h
  · exact afterBy?_of_not_blank fun c hc => h.not_blank c (ht.subset (List.mem_of_mem_head? hc))

/-- The aggregations of a written summary are what stands before its last word `by`, and its group
is what stands behind it. -/
theorem groupedAt?_append {aggregations group : List Char} (hne : aggregations ≠ [])
    (hline : '\n' ∉ aggregations) (h : IsUnbroken group) :
    groupedAt? (aggregations ++ (" by ".toList ++ group)) = some (aggregations, group) := by
  obtain ⟨front, c, rfl⟩ := (List.eq_nil_or_concat' aggregations).resolve_left hne
  rw [List.mem_append, not_or] at hline
  have hlast : groupedAt? (c :: (" by ".toList ++ group)) = some ([c], group) := by
    rw [groupedAt?, if_neg, groupedAt?_by_eq_none h, afterBy?_by h]
    · rfl
    · rintro rfl
      exact hline.2 (List.mem_singleton_self _)
  rw [List.append_assoc]
  exact groupedAt?_append_of_some hline.1 hlast

/-! ## Searching for aggregations -/

theorem isWord_of_isBlank {c : Char} (h : isBlank c = true) : isWord c = false := by
  have hapart : ∀ range ∈ blankRanges, ∀ k < range.2 - range.1 + 1,
      inRanges wordRanges (range.1 + k) = false := by decide +kernel
  obtain ⟨range, hrange, hlow, hhigh⟩ := exists_range_of_inRanges h
  have hword := hapart range hrange (c.toNat - range.1) (by omega)
  rwa [Nat.add_sub_cancel' hlow] at hword

/-- What a search for a function behind a name finds is the function behind the name's equality
sign. -/
def Seeks (call : List Char) (match? : List Char → Option α) : Prop :=
  ∀ t, (∀ name rest, aliasAt? t = some (name, rest) → after? call rest = none) → match? t = none

theorem seeks_countAt? : Seeks "count()".toList countAt? := by
  intro t h
  unfold countAt?
  cases halias : aliasAt? t with
  | none => rfl
  | some found =>
    obtain ⟨name, rest⟩ := found
    simp only [Option.bind_eq_bind, Option.bind_some, h name rest halias, Option.bind_none]

theorem seeks_distinctCountAt? : Seeks "dcount(".toList distinctCountAt? := by
  intro t h
  unfold distinctCountAt?
  cases halias : aliasAt? t with
  | none => rfl
  | some found =>
    obtain ⟨name, rest⟩ := found
    simp only [Option.bind_eq_bind, Option.bind_some, h name rest halias, Option.bind_none]

/-- No equality sign of a text has a function behind it, whatever follows the text. -/
def Lacks (call s : List Char) : Prop :=
  ∀ front back rest, s = front ++ '=' :: back → after? call (trimStart (back ++ rest)) = none

theorem lacks_of_notMem {call : List Char} (h : '=' ∉ s) : Lacks call s := by
  rintro front back rest rfl
  exact absurd (List.mem_append_right _ List.mem_cons_self) h

/-- What a name is read from ends with an equality sign behind word characters and blanks. -/
theorem exists_eq_of_aliasAt? {name : String} {rest : List Char}
    (h : aliasAt? t = some (name, rest)) :
    ∃ front back, t = front ++ '=' :: back ∧ (∀ c ∈ front, isWord c = true ∨ isBlank c = true) ∧
      rest = trimStart back := by
  unfold aliasAt? at h
  simp only [Option.bind_eq_bind, Option.bind_eq_some_iff, Option.pure_def, Option.some_inj,
    Prod.mk.injEq] at h
  obtain ⟨⟨word, s⟩, hrun, back, hafter, -, rfl⟩ := h
  obtain ⟨rfl, hword⟩ := eq_append_of_run? hrun
  rw [after?_eq_some_iff] at hafter
  refine ⟨word ++ s.takeWhile isBlank, back, ?_, fun c hc => ?_, rfl⟩
  · have hblank : s.takeWhile isBlank ++ trimStart s = s := List.takeWhile_append_dropWhile
    rw [hafter] at hblank
    rw [List.append_assoc]
    exact congrArg (word ++ ·) hblank.symm
  · rcases List.mem_append.mp hc with hc | hc
    · exact Or.inl (hword c hc)
    · exact Or.inr (List.mem_takeWhile_imp hc)

/-- The search for a function finds nothing in a text that lacks it. -/
theorem Seeks.firstMatch?_eq_none {call : List Char} {match? : List Char → Option α}
    (h : Seeks call match?) (hs : Lacks call s) : firstMatch? match? s = none := by
  refine Text.firstMatch?_eq_none fun t ht => h t fun name rest halias => ?_
  obtain ⟨front, back, rfl, -, rfl⟩ := exists_eq_of_aliasAt? halias
  obtain ⟨before, rfl⟩ := ht
  have hnone := hs (before ++ front) back [] (by simp)
  rwa [List.append_nil] at hnone

/-- A name is read at places only where a word begins. -/
theorem aliasAt?_eq_none (h : ∀ c ∈ s.head?, isWord c = false) : aliasAt? s = none := by
  rw [aliasAt?, run?_eq_none h]
  rfl

/-- The search for a function goes on behind the comma after a text that lacks it: a name does not
reach over the comma. -/
theorem Seeks.firstMatch?_append_comma {call : List Char} {match? : List Char → Option α}
    (h : Seeks call match?) (ha : Lacks call a) :
    firstMatch? match? (a ++ (", ".toList ++ b)) = firstMatch? match? b := by
  have hnone : ∀ c, isWord c = false → ∀ s, match? (c :: s) = none := by
    intro c hc s
    refine h _ fun name rest halias => ?_
    rw [aliasAt?_eq_none (by simpa using hc)] at halias
    exact absurd halias (by simp)
  have hseparator : firstMatch? match? (", ".toList ++ b) = firstMatch? match? b := by
    show firstMatch? match? (',' :: ' ' :: b) = _
    rw [firstMatch?, firstMatch?, hnone ',' (by decide), hnone ' ' (by decide), Option.none_or,
      Option.none_or]
  rw [firstMatch?_append, hseparator]
  intro t ht _
  refine h _ fun name rest halias => ?_
  obtain ⟨front, back, heq, hfront, rfl⟩ := exists_eq_of_aliasAt? halias
  obtain ⟨before, rfl⟩ := ht
  have hseparated : t ++ ',' :: ' ' :: b = front ++ '=' :: back := heq
  rcases List.append_eq_append_iff.mp hseparated with
    ⟨middle, hmiddle, hback⟩ | ⟨middle, hmiddle, hback⟩
  · -- the equality sign stands behind the comma, which is then part of the name
    cases middle with
    | nil => exact absurd (List.cons.inj hback).1 (by decide)
    | cons c middle =>
      obtain ⟨rfl, -⟩ := List.cons.inj hback
      have hcomma := hfront ',' (by simp [hmiddle])
      exact absurd hcomma (by decide)
  · cases middle with
    | nil => exact absurd (List.cons.inj hback).1 (by decide)
    | cons c middle =>
      obtain ⟨rfl, rfl⟩ := List.cons.inj hback
      exact ha (before ++ front) middle _ (by simp [hmiddle])

/-! ## Reading aggregations -/

variable {name gap gap' call rest : List Char}

/-- The function behind a name is what its equality sign has behind it. -/
theorem lacks_assigned {other : List Char} (hname : IsName name) (hgap : IsGap gap)
    (hgap' : IsGap gap') (hne : call ≠ []) (hblank : ∀ c ∈ call.head?, isBlank c = false)
    (hequals : '=' ∉ call) (h : ∀ rest, after? other (call ++ rest) = none) :
    Lacks other (assigned name gap gap' call) := by
  intro front back rest heq
  have hfront : '=' ∉ name ++ gap := by
    rw [List.mem_append, not_or]
    exact ⟨hname.notMem (by decide), hgap.notMem (by decide)⟩
  have hback : '=' ∉ gap' ++ call := by
    rw [List.mem_append, not_or]
    exact ⟨hgap'.notMem (by decide), hequals⟩
  have htext : (name ++ gap) ++ '=' :: (gap' ++ call) = front ++ '=' :: back := by
    rw [← heq, assigned, List.append_assoc]
  obtain ⟨-, -, rfl⟩ := (List.append_cons_inj_of_notMem hfront hback).mp htext
  have hstart : trimStart (call ++ rest) = call ++ rest := by
    refine trimStart_eq_self fun c hc => hblank c ?_
    rwa [List.head?_append_of_ne_nil _ hne] at hc
  rw [List.append_assoc, trimStart_append hgap'.isBlank, hstart, h]

/-- The name in front of a call is read, whatever blank characters stand around the sign. -/
theorem aliasAt?_assigned (hname : IsName name) (hgap : IsGap gap) (hgap' : IsGap gap')
    (hne : call ≠ []) (hblank : ∀ c ∈ call.head?, isBlank c = false) :
    aliasAt? (assigned name gap gap' call ++ rest) = some (String.ofList name, call ++ rest) := by
  have hword : run? isWord (name ++ (gap ++ '=' :: (gap' ++ (call ++ rest)))) =
      some (name, gap ++ '=' :: (gap' ++ (call ++ rest))) := by
    refine run?_append hname.ne_nil (fun c hc => isWord_of_isNameChar (hname.name c hc)) ?_
    cases gap with
    | nil => simp; decide
    | cons d gap =>
      intro c hc
      obtain rfl : d = c := by simpa using hc
      exact isWord_of_isBlank (hgap.isBlank d List.mem_cons_self)
  have hstart : trimStart (call ++ rest) = call ++ rest := by
    refine trimStart_eq_self fun c hc => hblank c ?_
    rwa [List.head?_append_of_ne_nil _ hne] at hc
  have htext : assigned name gap gap' call ++ rest =
      name ++ (gap ++ '=' :: (gap' ++ (call ++ rest))) := by simp [assigned]
  rw [htext, aliasAt?, hword]
  simp only [Option.bind_eq_bind, Option.bind_some, trimStart_append hgap.isBlank,
    trimStart_cons (show isBlank '=' = false by decide), after?, if_true,
    trimStart_append hgap'.isBlank, hstart, Option.pure_def]

theorem countAt?_assigned {name : String} (hname : IsName name.toList) (hgap : IsGap gap)
    (hgap' : IsGap gap') (rest : List Char) :
    countAt? (assigned name.toList gap gap' "count()".toList ++ rest) = some name := by
  unfold countAt?
  rw [aliasAt?_assigned hname hgap hgap' (by decide) (by decide), Option.bind_eq_bind,
    Option.bind_some]
  simp only [after?_append, Option.bind_eq_bind, Option.bind_some, Option.pure_def,
    String.ofList_toList]

/-- A character that is neither in the word of the function nor in a name is not in the function. -/
theorem notMem_distinctCall {column : List Char} (h : IsName column) {c : Char}
    (hc : isNameChar c = false) (hword : c ∉ ['(', ')']) : c ∉ distinctCall column := by
  have hfunction : ∀ x ∈ "dcount".toList, isNameChar x = true := by decide
  have htext : distinctCall column = "dcount".toList ++ ('(' :: (column ++ [')'])) := rfl
  rw [List.mem_cons, List.mem_singleton, not_or] at hword
  rw [htext]
  simp only [List.mem_append, List.mem_cons, List.not_mem_nil, or_false, not_or]
  exact ⟨fun hmem => Bool.false_ne_true (hc.symm.trans (hfunction c hmem)), hword.1,
    h.notMem hc, hword.2⟩

theorem isTrimmed_distinctCall (column : List Char) : IsTrimmed (distinctCall column) := by
  have hclose : IsTrimmed [')'] := by decide
  have htext : distinctCall column = ("dcount(".toList ++ column) ++ [')'] :=
    (List.append_assoc _ _ _).symm
  rw [htext]
  exact hclose.append (by simp) fun c hc => (Option.some_inj.mp hc) ▸ rfl

theorem distinctCountAt?_assigned {name column : String} (hname : IsName name.toList)
    (hcolumn : IsName column.toList) (hgap : IsGap gap) (hgap' : IsGap gap') (rest : List Char) :
    distinctCountAt? (assigned name.toList gap gap' (distinctCall column.toList) ++ rest) =
      some ⟨name, column⟩ := by
  have hword : run? isWord (column.toList ++ ')' :: rest) = some (column.toList, ')' :: rest) :=
    run?_append_cons hcolumn.ne_nil (fun c hc => isWord_of_isNameChar (hcolumn.name c hc))
      (by decide)
  have htext : distinctCall column.toList ++ rest =
      "dcount(".toList ++ (column.toList ++ ')' :: rest) := by
    unfold distinctCall
    rw [List.append_assoc, List.append_assoc, List.singleton_append]
  unfold distinctCountAt?
  rw [aliasAt?_assigned hname hgap hgap' (isTrimmed_distinctCall _).ne_nil
    (isTrimmed_distinctCall _).isBlank_of_mem_head?, Option.bind_eq_bind, Option.bind_some, htext]
  simp only [after?_append, Option.bind_eq_bind, Option.bind_some, hword, after?, if_true,
    Option.pure_def, String.ofList_toList]

theorem WritesCount.occurs {name : String} (h : WritesCount name s) :
    "count()".toList <:+: s := by
  cases h with
  | bare => exact List.infix_rfl
  | @named _ gap gap' =>
    exact ⟨name.toList ++ (gap ++ '=' :: gap'), [], by simp [assigned]⟩

/-- In a count no count of different values is found. -/
theorem WritesCount.lacks {name : String} (h : WritesCount name s) : Lacks "dcount(".toList s := by
  cases h with
  | bare => exact lacks_of_notMem (by decide)
  | named hname hgap hgap' =>
    exact lacks_assigned hname hgap hgap' (by decide) (by decide) (by decide) fun _ => rfl

/-- In a count of different values no count is found, though its name ends in the same letters. -/
theorem WritesDistinctCount.lacks {distinct : DistinctCount} (h : WritesDistinctCount distinct s) :
    Lacks "count()".toList s := by
  cases h with
  | @named _ column _ _ hname hcolumn hgap hgap' =>
    refine lacks_assigned hname hgap hgap' (isTrimmed_distinctCall _).ne_nil
      (isTrimmed_distinctCall _).isBlank_of_mem_head? ?_ fun _ => rfl
    exact notMem_distinctCall hcolumn (by decide) (by decide)

/-- The count of a distinct count has a column between its parentheses. -/
theorem WritesDistinctCount.not_occurs {distinct : DistinctCount}
    (h : WritesDistinctCount distinct s) : ¬ "count()".toList <:+: s := by
  cases h with
  | @named name column gap gap' hname hcolumn hgap hgap' =>
    rintro ⟨front, back, heq⟩
    have hopening : ∀ {t : List Char}, IsGap t → '(' ∉ t := fun ht => ht.notMem (by decide)
    have hfront : '(' ∉ name.toList ++ (gap ++ '=' :: (gap' ++ "dcount".toList)) := by
      simp [hname.notMem (c := '(') (by decide), hopening hgap, hopening hgap']
    have hback : '(' ∉ column.toList ++ [')'] := by
      simpa using hcolumn.notMem (by decide)
    have hcall : distinctCall column.toList = "dcount".toList ++ '(' :: (column.toList ++ [')']) :=
      rfl
    have htext : (name.toList ++ (gap ++ '=' :: (gap' ++ "dcount".toList))) ++
        '(' :: (column.toList ++ [')']) = (front ++ "count".toList) ++ '(' :: (')' :: back) := by
      rw [hcall] at heq
      simpa [assigned] using heq.symm
    obtain ⟨-, -, hclose⟩ := (List.append_cons_inj_of_notMem hfront hback).mp htext
    obtain ⟨c, rest, hcons⟩ := List.exists_cons_of_ne_nil hcolumn.ne_nil
    rw [hcons] at hclose
    obtain ⟨rfl, -⟩ := List.cons.inj hclose
    exact absurd (hcolumn.name ')' (hcons ▸ List.mem_cons_self)) (by decide)

/-- The name of a count is read, whatever follows it, as long as nothing there is a count. -/
theorem WritesCount.getD_firstMatch? {name : String} (h : WritesCount name s)
    (ht : firstMatch? countAt? t = none) :
    (firstMatch? countAt? s).getD defaultCountAlias = name ∧
      (firstMatch? countAt? (s ++ (", ".toList ++ t))).getD defaultCountAlias = name := by
  cases h with
  | bare =>
    have hlacks : Lacks "count()".toList "count()".toList := lacks_of_notMem (by decide)
    rw [seeks_countAt?.firstMatch?_eq_none hlacks, seeks_countAt?.firstMatch?_append_comma hlacks,
      ht]
    exact ⟨rfl, rfl⟩
  | named hname hgap hgap' =>
    have halone := countAt?_assigned hname hgap hgap' []
    rw [List.append_nil] at halone
    rw [firstMatch?_of_eq_some halone,
      firstMatch?_of_eq_some (countAt?_assigned hname hgap hgap' _)]
    exact ⟨rfl, rfl⟩

theorem WritesDistinctCount.firstMatch?_append {distinct : DistinctCount}
    (h : WritesDistinctCount distinct s) (rest : List Char) :
    firstMatch? distinctCountAt? (s ++ rest) = some distinct := by
  cases h with
  | named hname hcolumn hgap hgap' =>
    exact firstMatch?_of_eq_some (distinctCountAt?_assigned hname hcolumn hgap hgap' rest)

/-- The aggregations of a summary are read back. -/
theorem WritesAggregations.read {count : Option String} {distinctCount : Option DistinctCount}
    (h : WritesAggregations count distinctCount s) :
    (if occurs "count()".toList s then
        some ((firstMatch? countAt? s).getD defaultCountAlias) else none) = count ∧
      firstMatch? distinctCountAt? s = distinctCount := by
  have hnone : firstMatch? countAt? [] = none := rfl
  cases h with
  | count h =>
    rw [if_pos (occurs_iff.mpr h.occurs), (h.getD_firstMatch? hnone).1]
    exact ⟨rfl, seeks_distinctCountAt?.firstMatch?_eq_none h.lacks⟩
  | distinctCount h =>
    have hread := h.firstMatch?_append []
    rw [List.append_nil] at hread
    rw [if_neg (mt occurs_iff.mp h.not_occurs)]
    exact ⟨rfl, hread⟩
  | countFirst h h' =>
    have hcount := seeks_countAt?.firstMatch?_eq_none h'.lacks
    have hread := h'.firstMatch?_append []
    rw [List.append_nil] at hread
    rw [if_pos (occurs_iff.mpr (h.occurs.trans (List.prefix_append _ _).isInfix)),
      (h.getD_firstMatch? hcount).2, seeks_distinctCountAt?.firstMatch?_append_comma h.lacks]
    exact ⟨rfl, hread⟩
  | @distinctCountFirst _ _ text text' h h' =>
    have hin : "count()".toList <:+: text' ++ (", ".toList ++ text) :=
      h.occurs.trans ((List.suffix_append _ _).trans (List.suffix_append _ _)).isInfix
    rw [if_pos (occurs_iff.mpr hin), seeks_countAt?.firstMatch?_append_comma h'.lacks,
      (h.getD_firstMatch? hnone).1]
    exact ⟨rfl, h'.firstMatch?_append _⟩

theorem isTrimmed_assigned (hname : IsName name) (hgap : IsGap gap) (hgap' : IsGap gap')
    (hcall : IsTrimmed call) (hline : '\n' ∉ call) :
    IsTrimmed (assigned name gap gap' call) ∧ '\n' ∉ assigned name gap gap' call := by
  constructor
  · have htext : assigned name gap gap' call = (name ++ (gap ++ '=' :: gap')) ++ call := by
      simp [assigned]
    rw [htext]
    refine hcall.append (by simp [hname.ne_nil]) fun c hc => ?_
    rw [List.head?_append_of_ne_nil _ hname.ne_nil] at hc
    exact hname.isUnbroken.not_blank c (List.mem_of_mem_head? hc)
  · have hfeed : ∀ {t : List Char}, IsGap t → '\n' ∉ t := fun ht hmem => (ht _ hmem).2 rfl
    simp [assigned, hname.notMem (c := '\n') (by decide), hfeed hgap, hfeed hgap', hline]

theorem WritesCount.isTrimmed {name : String} (h : WritesCount name s) :
    IsTrimmed s ∧ '\n' ∉ s := by
  cases h with
  | bare => decide
  | named hname hgap hgap' => exact isTrimmed_assigned hname hgap hgap' (by decide) (by decide)

theorem WritesDistinctCount.isTrimmed {distinct : DistinctCount}
    (h : WritesDistinctCount distinct s) : IsTrimmed s ∧ '\n' ∉ s := by
  cases h with
  | @named name column gap gap' hname hcolumn hgap hgap' =>
    exact isTrimmed_assigned hname hgap hgap' (isTrimmed_distinctCall _)
      (notMem_distinctCall hcolumn (by decide) (by decide))

theorem isTrimmed_append_comma (hs : IsTrimmed s ∧ '\n' ∉ s) (ht : IsTrimmed t ∧ '\n' ∉ t) :
    IsTrimmed (s ++ (", ".toList ++ t)) ∧ '\n' ∉ s ++ (", ".toList ++ t) := by
  constructor
  · rw [← List.append_assoc]
    refine ht.1.append (by simp [hs.1.ne_nil]) fun c hc => ?_
    rw [List.head?_append_of_ne_nil _ hs.1.ne_nil] at hc
    exact hs.1.isBlank_of_mem_head? c hc
  · simp [hs.2, ht.2]

theorem WritesAggregations.isTrimmed {count : Option String}
    {distinctCount : Option DistinctCount} (h : WritesAggregations count distinctCount s) :
    IsTrimmed s ∧ '\n' ∉ s := by
  cases h with
  | count h => exact h.isTrimmed
  | distinctCount h => exact h.isTrimmed
  | countFirst h h' => exact isTrimmed_append_comma h.isTrimmed h'.isTrimmed
  | distinctCountFirst h h' => exact isTrimmed_append_comma h'.isTrimmed h.isTrimmed

theorem isTrimmed_summary {count : Option String} {distinctCount : Option DistinctCount}
    {aggregations : List Char} {group : String}
    (h : WritesAggregations count distinctCount aggregations) (hgroup : IsUnbroken group.toList) :
    IsTrimmed (aggregations ++ (" by ".toList ++ group.toList)) := by
  obtain ⟨htrim, -⟩ := h.isTrimmed
  rw [← List.append_assoc]
  refine hgroup.isTrimmed.append (by simp) fun c hc => ?_
  rw [List.head?_append_of_ne_nil _ htrim.ne_nil] at hc
  exact htrim.isBlank_of_mem_head? c hc

/-! ## Plans -/

/-- A written summary is read as it was, whichever of its counts come first. -/
theorem parseSummary_append {count : Option String} {distinctCount : Option DistinctCount}
    {aggregations : List Char} {group : String}
    (h : WritesAggregations count distinctCount aggregations) (hgroup : IsUnbroken group.toList) :
    parseSummary (aggregations ++ (" by ".toList ++ group.toList)) =
      { count, distinctCount, groupBy := some group } := by
  obtain ⟨htrim, hline⟩ := h.isTrimmed
  obtain ⟨hcount, hdistinct⟩ := h.read
  unfold parseSummary
  rw [firstMatch?_of_eq_some (groupedAt?_append htrim.ne_nil hline hgroup)]
  simp only [htrim.trim_eq, hcount, hdistinct, hgroup.isTrimmed.trim_eq, String.ofList_toList]

end LogQuery.Stage
