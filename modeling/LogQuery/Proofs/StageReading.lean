import LogQuery.Proofs.Numerals
import LogQuery.Proofs.SummaryReading

/-!
# Reading written stages

Reading a stage that was written gives it back, whichever of its texts was chosen
(`parse_of_writes`). No verb begins with another one, so a text that begins with a verb is the stage
that the verb makes of it (`ofTrimmed_append`). Of the verbs of a sort only the one that is written
is erased, since both have more spaces than the argument (`eraseFirst_verbs`).
-/

namespace LogQuery.Stage

open Text Condition

variable {s t : List Char}

/-! ## Verbs -/

/-- No verb begins with another one. -/
theorem pairwise_verbs :
    verbs.Pairwise fun entry entry' => ¬ entry.1 <+: entry'.1 ∧ ¬ entry'.1 <+: entry.1 := by
  have hwords : (verbs.map (·.1)).Pairwise fun verb verb' =>
      ¬ verb <+: verb' ∧ ¬ verb' <+: verb := by decide
  exact List.pairwise_map.mp hwords

theorem ofTrimmed_append {verb : List Char} {make : List Char → List Char → Stage}
    (h : (verb, make) ∈ verbs) (rest : List Char) :
    ofTrimmed (verb ++ rest) = make (verb ++ rest) rest := by
  have hblank : ∀ entry ∈ verbs, ' ' ∈ entry.1 := by
    have hwords : ∀ word ∈ verbs.map (·.1), ' ' ∈ word := by decide
    exact List.forall_mem_map.mp hwords
  have hcount : verb ++ rest ≠ "count".toList := by
    intro he
    have hmem : ' ' ∈ "count".toList := he ▸ List.mem_append_left _ (hblank _ h)
    exact absurd hmem (by decide)
  obtain ⟨before, after, hverbs⟩ := List.append_of_mem h
  have hbefore : ∀ entry ∈ before,
      (after? entry.1 (verb ++ rest)).map (entry.2 (verb ++ rest)) = none := by
    intro entry hentry
    have hapart := pairwise_verbs
    rw [hverbs] at hapart
    obtain ⟨hne, hne'⟩ := (List.pairwise_append.mp hapart).2.2 entry hentry _ List.mem_cons_self
    rw [Option.map_eq_none_iff, ← Option.not_isSome_iff_eq_none, isSome_after?_iff]
    intro hpre
    rcases List.prefix_or_prefix_of_prefix hpre (List.prefix_append verb rest) with hle | hge
    · exact hne hle
    · exact hne' hge
  unfold ofTrimmed
  rw [if_neg hcount, hverbs, List.findSome?_append,
    List.findSome?_eq_none_iff.mpr fun entry hentry => hbefore entry hentry, Option.none_or,
    List.findSome?_cons]
  simp only [after?_append, Option.map_some, Option.getD_some]

/-- A verb followed by a text that is not blank is the stage that the verb makes of the text without
the blank characters it ends with. -/
theorem ofTrimmed_trim_append_of_ne_nil {verb : List Char} {make : List Char → List Char → Stage}
    (h : (verb, make) ∈ verbs) {rest : List Char} (hrest : trimEnd rest ≠ []) :
    ofTrimmed (trim (verb ++ rest)) = make (verb ++ trimEnd rest) (trimEnd rest) := by
  have hfirst : ∀ entry ∈ verbs, entry.1 ≠ [] ∧ ∀ c ∈ entry.1.head?, isBlank c = false := by
    have hwords : ∀ word ∈ verbs.map (·.1), word ≠ [] ∧ ∀ c ∈ word.head?, isBlank c = false := by
      decide
    exact List.forall_mem_map.mp hwords
  obtain ⟨hne, hblank⟩ := hfirst _ h
  have hstart : trimStart (verb ++ rest) = verb ++ rest := by
    refine trimStart_eq_self fun c hc => hblank c ?_
    rwa [List.head?_append_of_ne_nil _ hne] at hc
  rw [trim, hstart, trimEnd_append_of_ne_nil hrest, ofTrimmed_append h]

/-- A verb followed by a trimmed text is the stage that the verb makes of it. -/
theorem ofTrimmed_trim_append {verb : List Char} {make : List Char → List Char → Stage}
    (h : (verb, make) ∈ verbs) {rest : List Char} (hrest : IsTrimmed rest) :
    ofTrimmed (trim (verb ++ rest)) = make (verb ++ rest) rest := by
  have hend : trimEnd rest = rest := by
    have htrim := hrest.trim_eq
    rwa [trim, trimStart_eq_self hrest.isBlank_of_mem_head?] at htrim
  have hread := ofTrimmed_trim_append_of_ne_nil h (hend ▸ hrest.ne_nil)
  rwa [hend] at hread

/-! ## Columns -/

/-- Trimmed texts without commas are read back from the text that joins them, also after a blank in
front of it. -/
theorem map_trim_splitOn_joined (pad : List Char) (hpad : ∀ c ∈ pad, c = ' ')
    {parts : List (List Char)} (hne : parts ≠ [])
    (h : ∀ part ∈ parts, trim part = part ∧ ',' ∉ part) :
    ((pad ++ joined ", ".toList parts).splitOn ',').map trim = parts := by
  induction parts generalizing pad with
  | nil => exact absurd rfl hne
  | cons part rest ih =>
    obtain ⟨htrim, hpart⟩ := h part List.mem_cons_self
    have hcomma : ',' ∉ pad ++ part := by
      rw [List.mem_append, not_or]
      exact ⟨fun hmem => absurd (hpad _ hmem) (by decide), hpart⟩
    have hread : trim (pad ++ part) = part := by
      rw [trim_append_left, htrim]
      intro c hc
      rw [hpad c hc]
      decide
    cases rest with
    | nil =>
      rw [joined, List.splitOn_eq_singleton hcomma, List.map_singleton, hread]
    | cons next rest =>
      have htext : pad ++ joined ", ".toList (part :: next :: rest) =
          (pad ++ part) ++ ',' :: ([' '] ++ joined ", ".toList (next :: rest)) := by
        simp [joined]
      rw [htext, List.splitOn_append_cons_self_of_not_mem hcomma, List.map_cons, hread,
        ih [' '] (by simp) (List.cons_ne_nil _ _) fun p hp => h p (List.mem_cons_of_mem _ hp)]

/-- Written columns are read as they were. -/
theorem columns_of_joined {columns : List String} (hne : columns ≠ [])
    (h : ∀ column ∈ columns, IsTrimmed column.toList ∧ ',' ∉ column.toList) :
    ((joined ", ".toList (columns.map String.toList)).splitOn ',').map
      (fun column => String.ofList (trim column)) = columns := by
  have hparts : ∀ part ∈ columns.map String.toList, trim part = part ∧ ',' ∉ part :=
    List.forall_mem_map.mpr fun column hmem => ⟨(h column hmem).1.trim_eq, (h column hmem).2⟩
  have hread := map_trim_splitOn_joined [] (by simp) (by simpa using hne) hparts
  rw [List.nil_append] at hread
  rw [← Function.comp_def, ← List.map_map, hread, List.map_map]
  simp [Function.comp_def]

theorem isTrimmed_joined {sep : List Char} {parts : List (List Char)} (hne : parts ≠ [])
    (h : ∀ part ∈ parts, IsTrimmed part) : IsTrimmed (joined sep parts) := by
  induction parts with
  | nil => exact absurd rfl hne
  | cons part rest ih =>
    have hpart := h part List.mem_cons_self
    cases rest with
    | nil => exact hpart
    | cons next rest =>
      have hrest := ih (List.cons_ne_nil _ _) fun p hp => h p (List.mem_cons_of_mem _ hp)
      refine hrest.append (by simp [hpart.ne_nil]) fun c hc => hpart.isBlank_of_mem_head? c ?_
      rwa [List.head?_append_of_ne_nil _ hpart.ne_nil] at hc

/-! ## Limits -/

section

variable {ds rest : List Char}

theorem isBlank_of_isDigit {c : Char} (h : c.isDigit = true) : isBlank c = false := by
  refine isBlank_of_isNumeralChar ?_
  rw [isNumeralChar, h]
  rfl

/-- Of a number that is not negative as much is read as fits, and so it is behind a plus sign. -/
theorem leadingInt?_append (hne : ds ≠ []) (h : ∀ c ∈ ds, Decimal.isDigit c = true)
    (hrest : ∀ c ∈ rest.head?, Decimal.isDigit c = false) {sign : List Char}
    (hsign : sign ∈ [[], ['+']]) :
    leadingInt? (sign ++ (ds ++ rest)) = some (Condition.cappedValue ds : Int) := by
  have htake := Decimal.takeWhile_isDigit_append h hrest
  obtain ⟨d, ds', rfl⟩ := List.exists_cons_of_ne_nil hne
  have hd := h d List.mem_cons_self
  rw [List.mem_cons, List.mem_singleton] at hsign
  rcases hsign with rfl | rfl
  · have hstart : trimStart (d :: ds' ++ rest) = d :: ds' ++ rest :=
      trimStart_cons (isBlank_of_isDigit hd) _
    rw [List.nil_append, leadingInt?, hstart]
    split
    next negative digits hsplit =>
      split at hsplit
      · rename_i he
        obtain rfl := (List.cons.inj he).1
        exact absurd hd (by decide)
      · rename_i he
        obtain rfl := (List.cons.inj he).1
        exact absurd hd (by decide)
      · obtain ⟨rfl, rfl⟩ := hsplit
        rw [htake]
        rfl
  · rw [leadingInt?, List.singleton_append, trimStart_cons (by decide)]
    simp only [htake]
    rfl

/-- Of a negative number, too, as much is read as fits. -/
theorem leadingInt?_minus_append (hne : ds ≠ []) (h : ∀ c ∈ ds, Decimal.isDigit c = true)
    (hrest : ∀ c ∈ rest.head?, Decimal.isDigit c = false) :
    leadingInt? ('-' :: (ds ++ rest)) = some (-(Condition.cappedValue ds : Int)) := by
  have htake := Decimal.takeWhile_isDigit_append h hrest
  obtain ⟨d, ds', rfl⟩ := List.exists_cons_of_ne_nil hne
  rw [leadingInt?, trimStart_cons (by decide)]
  simp only [htake]
  rfl

end

theorem leadingInt?_wholeText {n : Int} (h : n.natAbs ≤ 2 ^ 63 - 1) :
    leadingInt? (Decimal.wholeText n) = some n := by
  have hdigits : ∀ c ∈ Decimal.digits n.natAbs, Decimal.isDigit c = true := fun c =>
    Decimal.isDigit_of_mem_digits
  have hvalue : Condition.cappedValue (Decimal.digits n.natAbs) = n.natAbs := by
    rw [Condition.cappedValue, Decimal.digitsValue_digits, Condition.maxWhole]
    omega
  have hne := Decimal.digits_ne_nil n.natAbs
  rw [Decimal.wholeText, ← List.append_nil (Decimal.digits n.natAbs)]
  split
  · rw [leadingInt?_minus_append hne hdigits (by simp), hvalue, Option.some_inj]
    omega
  · rw [← List.nil_append (Decimal.digits n.natAbs ++ []),
      leadingInt?_append hne hdigits (by simp) List.mem_cons_self, hvalue, Option.some_inj]
    omega

theorem blank_notMem_wholeText (n : Int) : ∀ c ∈ Decimal.wholeText n, isBlank c = false := by
  have hdigits : ∀ c ∈ Decimal.digits n.natAbs, isBlank c = false := fun c hc =>
    isBlank_of_isDigit (Decimal.isDigit_of_mem_digits hc)
  intro c hc
  rw [Decimal.wholeText] at hc
  split at hc
  · rcases List.mem_cons.mp hc with rfl | hc
    · decide
    · exact hdigits c hc
  · exact hdigits c hc

theorem isUnbroken_wholeText (n : Int) : IsUnbroken (Decimal.wholeText n) := by
  refine ⟨?_, blank_notMem_wholeText n⟩
  rw [Decimal.wholeText]
  split
  · exact List.cons_ne_nil _ _
  · exact Decimal.digits_ne_nil _

theorem IsUnbroken.space_notMem (h : IsUnbroken s) : ' ' ∉ s :=
  fun hmem => absurd (h.not_blank _ hmem) (by decide)

theorem head?_splitOn (c : Char) (s : List Char) :
    (s.splitOn c).head? = some (s.takeWhile (· ≠ c)) := by
  by_cases hc : c ∈ s
  · obtain ⟨a, b, rfl, ha⟩ := List.eq_append_cons_of_mem hc
    have hkeep : ∀ x ∈ a, decide (x ≠ c) = true := by
      intro x hx
      rw [decide_eq_true_eq]
      rintro rfl
      exact ha hx
    rw [List.splitOn_append_cons_self_of_not_mem ha, List.head?_cons,
      List.takeWhile_append_of_pos hkeep, List.takeWhile_cons_of_neg (by simp), List.append_nil]
  · have hkeep : ∀ x ∈ s, decide (x ≠ c) = true := by
      intro x hx
      rw [decide_eq_true_eq]
      rintro rfl
      exact hc hx
    rw [List.splitOn_eq_singleton hc, List.head?_cons, List.takeWhile_eq_self_iff.mpr hkeep]

/-- A limit goes by the text behind its verb up to the next space. -/
theorem parseLimit_append {verb : List Char} (hverb : ' ' ∉ verb) (s : List Char) :
    parseLimit (verb ++ ' ' :: s) =
      ((leadingInt? (s.takeWhile (· ≠ ' '))).map limit).getD .passthrough := by
  have hsecond : (verb :: s.splitOn ' ')[1]? = some (s.takeWhile (· ≠ ' ')) := by
    rw [List.getElem?_cons_succ, ← List.head?_eq_getElem?, head?_splitOn]
  rw [parseLimit, List.splitOn_append_cons_self_of_not_mem hverb, hsecond, Option.bind_some]
  cases leadingInt? (s.takeWhile (· ≠ ' ')) <;> rfl

/-- A limit is the same behind either of its verbs. -/
theorem ofTrimmed_trim_limit {verb : List Char} (hverb : verb ∈ ["limit ".toList, "take ".toList])
    (h : trimEnd s ≠ []) : ofTrimmed (trim (verb ++ s)) =
      ((leadingInt? ((trimEnd s).takeWhile (· ≠ ' '))).map limit).getD .passthrough := by
  rw [List.mem_cons, List.mem_singleton] at hverb
  rcases hverb with rfl | rfl
  · rw [ofTrimmed_trim_append_of_ne_nil (List.mem_of_getElem? (i := 2) rfl) h]
    exact parseLimit_append (show ' ' ∉ "limit".toList by decide) _
  · rw [ofTrimmed_trim_append_of_ne_nil (List.mem_of_getElem? (i := 3) rfl) h]
    exact parseLimit_append (show ' ' ∉ "take".toList by decide) _

/-- A written limit is read with its number. -/
theorem parseLimit_append_wholeText {verb : List Char} (hverb : ' ' ∉ verb) {n : Int}
    (h : n.natAbs ≤ 2 ^ 63 - 1) :
    parseLimit (verb ++ ' ' :: Decimal.wholeText n) = .limit n := by
  have hnumber : (Decimal.wholeText n).takeWhile (· ≠ ' ') = Decimal.wholeText n := by
    refine List.takeWhile_eq_self_iff.mpr fun c hc => ?_
    rw [decide_eq_true_eq]
    rintro rfl
    exact (isUnbroken_wholeText n).space_notMem hc
  rw [parseLimit_append hverb, hnumber, leadingInt?_wholeText h]
  rfl

/-! ## Sorts -/

theorem cut?_append {part : List Char} (hne : part ≠ []) (rest : List Char) :
    cut? part (part ++ rest) = some ([], rest) := by
  obtain ⟨c, w, rfl⟩ := List.exists_cons_of_ne_nil hne
  rw [List.cons_append, cut?, ← List.cons_append, after?_append]

theorem cut?_eq_none {part : List Char} (h : ¬ part <:+: s) : cut? part s = none := by
  induction s with
  | nil =>
    rw [List.infix_nil] at h
    rw [cut?, if_neg (by simpa using h)]
  | cons c s ih =>
    rw [List.infix_cons_iff, not_or, ← isSome_after?_iff, Option.not_isSome_iff_eq_none] at h
    rw [cut?, h.1, ih h.2]
    rfl

theorem eraseFirst_append {part : List Char} (hne : part ≠ []) (rest : List Char) :
    eraseFirst part (part ++ rest) = rest := by
  rw [eraseFirst, cut?_append hne]
  rfl

theorem eraseFirst_eq_self {part : List Char} (h : ¬ part <:+: s) : eraseFirst part s = s := by
  rw [eraseFirst, cut?_eq_none h]

theorem eraseFirst_cons {part : List Char} {c : Char} (h : ¬ part <+: c :: s) :
    eraseFirst part (c :: s) = c :: eraseFirst part s := by
  rw [← isSome_after?_iff, Option.not_isSome_iff_eq_none] at h
  rw [eraseFirst, eraseFirst, cut?, h]
  cases cut? part s <;> rfl

/-- A text is kept in front of another one when what is erased begins with no end of it, nor an end
of it with what is erased. -/
theorem eraseFirst_append_of_apart {part kept : List Char}
    (h : ∀ rest ∈ kept.tails, rest ≠ [] → ¬ part <+: rest ∧ ¬ rest <+: part) (s : List Char) :
    eraseFirst part (kept ++ s) = kept ++ eraseFirst part s := by
  induction kept with
  | nil => rfl
  | cons c kept ih =>
    rw [List.tails_cons, List.forall_mem_cons] at h
    have hstart : ¬ part <+: c :: (kept ++ s) := by
      intro hpre
      obtain ⟨hle, hge⟩ := h.1 (List.cons_ne_nil c kept)
      rcases List.prefix_or_prefix_of_prefix hpre (List.prefix_append (c :: kept) s) with hp | hp
      · exact hle hp
      · exact hge hp
    rw [List.cons_append, eraseFirst_cons hstart, ih h.2, List.cons_append]

/-- Behind one verb of a sort only the other verb is erased. -/
theorem eraseFirst_verbs_order_by (s : List Char) :
    eraseFirst "sort by ".toList (eraseFirst "order by ".toList ("order by ".toList ++ s)) =
      eraseFirst "sort by ".toList s := by
  rw [eraseFirst_append (by decide)]

theorem eraseFirst_verbs_sort_by (s : List Char) :
    eraseFirst "sort by ".toList (eraseFirst "order by ".toList ("sort by ".toList ++ s)) =
      eraseFirst "order by ".toList s := by
  rw [eraseFirst_append_of_apart (by decide), eraseFirst_append (by decide)]

/-- The order of a sort is written with at most one space. -/
theorem count_space_order {direction : Direction} {order : List Char}
    (h : WritesDirection direction order) : order.count ' ' ≤ 1 := by
  cases h with
  | silent | ascending => decide
  | @descending word h =>
    have hword : ' ' ∉ word := by
      intro hmem
      have hlower : ' ' ∈ word.map Char.toLower := List.mem_map.mpr ⟨' ', hmem, rfl⟩
      exact absurd (h ▸ hlower) (by decide)
    rw [List.count_cons_self, List.count_eq_zero_of_not_mem hword]

/-- The verbs of a sort are erased, the one that is written and no other text. -/
theorem eraseFirst_verbs {verb argument : List Char}
    (hverb : verb ∈ ["order by ".toList, "sort by ".toList]) (h : argument.count ' ' ≤ 1) :
    eraseFirst "sort by ".toList (eraseFirst "order by ".toList (verb ++ argument)) = argument := by
  -- both verbs have two spaces
  have hfree : ∀ verb ∈ ["order by ".toList, "sort by ".toList], ¬ verb <:+: argument := by
    intro verb hmem hin
    have htwo : ∀ verb ∈ ["order by ".toList, "sort by ".toList], verb.count ' ' = 2 := by decide
    have hle := hin.sublist.count_le ' '
    rw [htwo verb hmem] at hle
    omega
  rw [List.mem_cons, List.mem_singleton] at hverb
  rcases hverb with rfl | rfl
  · rw [eraseFirst_verbs_order_by, eraseFirst_eq_self (hfree _ (by simp))]
  · rw [eraseFirst_verbs_sort_by, eraseFirst_eq_self (hfree _ (by simp))]

/-- A written sort is read with its column and its order. -/
theorem parseSort_append {verb : List Char} {column : String} {direction : Direction}
    {order : List Char} (hverb : verb ∈ ["order by ".toList, "sort by ".toList])
    (h : IsUnbroken column.toList) (horder : WritesDirection direction order)
    (htrim : trim (column.toList ++ order) = column.toList ++ order) :
    parseSort (verb ++ (column.toList ++ order)) = .sort column direction := by
  have hcolumn := h.space_notMem
  have hspaces : (column.toList ++ order).count ' ' ≤ 1 := by
    rw [List.count_append, List.count_eq_zero_of_not_mem hcolumn, Nat.zero_add]
    exact count_space_order horder
  rw [parseSort, eraseFirst_verbs hverb hspaces, htrim]
  cases horder with
  | silent =>
    rw [List.append_nil, List.splitOn_eq_singleton hcolumn]
    simp only [String.ofList_toList]
  | ascending =>
    have htext : " asc".toList = ' ' :: "asc".toList := rfl
    rw [htext, List.splitOn_append_cons_self_of_not_mem hcolumn,
      List.splitOn_eq_singleton (by decide)]
    simp only [String.ofList_toList]
    rfl
  | @descending word hword =>
    have hspace : ' ' ∉ word := by
      have hone := count_space_order (.descending hword)
      rw [List.count_cons_self] at hone
      exact List.count_eq_zero.mp (by omega)
    rw [List.splitOn_append_cons_self_of_not_mem hcolumn, List.splitOn_eq_singleton hspace]
    simp only [String.ofList_toList, hword, if_true]

/-- A letter that a small letter is made of is not blank. -/
theorem isBlank_of_toLower_mem {c : Char} {word : List Char} (h : c.toLower ∈ word)
    (hword : ∀ x ∈ word, isBlank x = false) : isBlank c = false := by
  by_cases hupper : c.isUpper = true
  · have hlast : c.val ≤ 'Z'.val := (of_decide_eq_true hupper).2
    exact forall_ascii (P := fun c => c.isUpper = true → isBlank c = false) (by decide)
      (toNat_lt_of_le hlast (by decide)) hupper
  · have hself : c.toLower = c := dif_neg fun h => hupper (decide_eq_true h)
    exact hword c (hself ▸ h)

theorem isTrimmed_sort {column : List Char} {direction : Direction} {order : List Char}
    (h : IsUnbroken column) (horder : WritesDirection direction order) :
    IsTrimmed (column ++ order) := by
  have hfirst : ∀ c ∈ column.head?, isBlank c = false := fun c hc =>
    h.not_blank c (List.mem_of_mem_head? hc)
  cases horder with
  | silent =>
    rw [List.append_nil]
    exact h.isTrimmed
  | ascending =>
    have hword : IsTrimmed "asc".toList := by decide
    have htext : column ++ " asc".toList = (column ++ [' ']) ++ "asc".toList := by simp
    rw [htext]
    refine hword.append (by simp) fun c hc => hfirst c ?_
    rwa [List.head?_append_of_ne_nil _ h.ne_nil] at hc
  | @descending word hword =>
    have hunbroken : IsUnbroken word := by
      refine ⟨?_, fun c hc => ?_⟩
      · rintro rfl
        exact absurd hword (by decide)
      · have hmem : c.toLower ∈ "desc".toList := hword ▸ List.mem_map_of_mem hc
        exact isBlank_of_toLower_mem hmem (by decide)
    have htext : column ++ ' ' :: word = (column ++ [' ']) ++ word := by simp
    rw [htext]
    refine hunbroken.isTrimmed.append (by simp) fun c hc => hfirst c ?_
    rwa [List.head?_append_of_ne_nil _ h.ne_nil] at hc

/-! ## Reading stages -/

/-- Reading a text of a stage gives the stage back. -/
theorem parse_of_writes {stage : Stage} {text : String} (h : Writes stage text.toList) :
    parse text = stage := by
  rw [parse]
  generalize text.toList = s at h
  cases h with
  | @project columns hne h =>
    have hjoined : IsTrimmed (joined ", ".toList (columns.map String.toList)) :=
      isTrimmed_joined (by simpa using hne)
        (List.forall_mem_map.mpr fun column hmem => (h column hmem).1)
    rw [ofTrimmed_trim_append (List.mem_of_getElem? (i := 1) rfl) hjoined, columns_of_joined hne h]
  | @limit verb n hverb h =>
    have hnumber := (isUnbroken_wholeText n).isTrimmed
    rw [List.mem_cons, List.mem_singleton] at hverb
    rcases hverb with rfl | rfl
    · rw [ofTrimmed_trim_append (List.mem_of_getElem? (i := 2) rfl) hnumber]
      exact parseLimit_append_wholeText (show ' ' ∉ "limit".toList by decide) h
    · rw [ofTrimmed_trim_append (List.mem_of_getElem? (i := 3) rfl) hnumber]
      exact parseLimit_append_wholeText (show ' ' ∉ "take".toList by decide) h
  | @sort verb column direction order hverb h horder =>
    have htrim := isTrimmed_sort h horder
    have hread := parseSort_append hverb h horder htrim.trim_eq
    rw [List.mem_cons, List.mem_singleton] at hverb
    rcases hverb with rfl | rfl
    · rw [ofTrimmed_trim_append (List.mem_of_getElem? (i := 4) rfl) htrim, hread]
    · rw [ofTrimmed_trim_append (List.mem_of_getElem? (i := 5) rfl) htrim, hread]
  | @distinct column h =>
    rw [ofTrimmed_trim_append (List.mem_of_getElem? (i := 6) rfl) h, h.trim_eq,
      String.ofList_toList]
  | count => rfl
  | countAll => rfl
  | @summarize count distinctCount group aggregations h hgroup =>
    have hargument := isTrimmed_summary h hgroup
    rw [ofTrimmed_trim_append (List.mem_of_getElem? (i := 7) rfl) hargument, hargument.trim_eq,
      parseSummary_append h hgroup]

/-- A summary whose names are the words that reading looks for. -/
def sampleSummary : Stage :=
  .summarize { count := "by", distinctCount := some ⟨"count", "by"⟩, groupBy := "by" }

theorem parse_sampleSummary :
    Writes sampleSummary "summarize count = dcount(by), by=  count() by by".toList ∧
      parse "summarize count = dcount(by), by=  count() by by" = sampleSummary := by
  have hcount : WritesCount "by" "by=  count()".toList :=
    @WritesCount.named "by" [] [' ', ' '] (by decide) (by decide) (by decide)
  have hdistinct : WritesDistinctCount ⟨"count", "by"⟩ "count = dcount(by)".toList :=
    @WritesDistinctCount.named "count" "by" [' '] [' '] (by decide) (by decide) (by decide)
      (by decide)
  have hwrites : Writes sampleSummary "summarize count = dcount(by), by=  count() by by".toList :=
    .summarize (.distinctCountFirst hcount hdistinct) (by decide)
  exact ⟨hwrites, parse_of_writes hwrites⟩

end LogQuery.Stage
