import LogQuery.Proofs.FirstOccurrence
import LogQuery.Proofs.StableSort

/-!
# The order of selection

The rows that a condition keeps are the rows of which it holds, sorted stably by a key
(`filter_eq_sortedBy`). The key of a row says which parts of the disjunctions it matches: a
disjunction puts the number of the first part that holds in front of that part's key, and a
conjunction takes the keys of its parts, the last part first. Simple conditions have the empty key,
so they keep the order of the rows.

Positions are selected and rows are taken out of slots. Both are described for any candidates: the
candidates must be different positions of the table, which every selection preserves.
-/

namespace LogQuery.Condition

/-! ## Conditions by their parts -/

/-- Whether a condition is a simple one. -/
def isSimple : Condition → Bool
  | all _ | any _ => false
  | _ => true

/-- What holds of simple conditions and passes from the parts to a conjunction and to a disjunction
holds of every condition. -/
@[elab_as_elim]
theorem inductionOn {motive : Condition → Prop} (condition : Condition)
    (all : ∀ parts, (∀ part ∈ parts, motive part) → motive (.all parts))
    (any : ∀ parts, (∀ part ∈ parts, motive part) → motive (.any parts))
    (simple : ∀ leaf, leaf.isSimple = true → motive leaf) : motive condition := by
  refine @Condition.rec motive (fun parts => ∀ part ∈ parts, motive part)
    all any ?_ ?_ ?_ ?_ ?_ ?_ ?_ ?_ ?_ ?_ condition
  case refine_9 => simp
  case refine_10 =>
    intro part rest hpart hrest p hp
    rcases List.mem_cons.mp hp with rfl | hp
    · exact hpart
    · exact hrest p hp
  all_goals intros; exact simple _ rfl

theorem holds_all (parts : List Condition) (record : Record) :
    (all parts).holds record = allHold parts record := by rw [holds]

theorem holds_any (parts : List Condition) (record : Record) :
    (any parts).holds record = anyHolds parts record := by rw [holds]

/-- A simple condition selects the candidates of whose rows it holds. -/
theorem select_of_isSimple {leaf : Condition} (h : leaf.isSimple = true) (table : Array Record)
    (candidates : List Nat) :
    leaf.select table candidates = candidates.filter fun i => table[i]?.any leaf.holds := by
  cases leaf with
  | all parts => exact absurd h (by simp [isSimple])
  | any parts => exact absurd h (by simp [isSimple])
  | _ => rfl

/-! ## Keys -/

mutual

/-- The place of a record among those that a condition selects: which parts of its disjunctions hold
of the record first. -/
def selectionKey : Condition → Record → List Nat
  | all parts, record => allKey parts record
  | any parts, record => anyKey 0 parts record
  | _, _ => []

/-- The keys of all parts, that of the last part first. -/
def allKey : List Condition → Record → List Nat
  | [], _ => []
  | part :: rest, record => allKey rest record ++ part.selectionKey record

/-- The number of the first part that holds, counted from `number`, and the key of that part. -/
def anyKey (number : Nat) : List Condition → Record → List Nat
  | [], _ => []
  | part :: rest, record =>
    if part.holds record then number :: part.selectionKey record
    else anyKey (number + 1) rest record

end

theorem selectionKey_of_isSimple {leaf : Condition} (h : leaf.isSimple = true) (record : Record) :
    leaf.selectionKey record = [] := by
  cases leaf with
  | all parts => exact absurd h (by simp [isSimple])
  | any parts => exact absurd h (by simp [isSimple])
  | _ => rfl

theorem selectionKey_all (parts : List Condition) (record : Record) :
    (all parts).selectionKey record = allKey parts record := by rw [selectionKey]

theorem selectionKey_any (parts : List Condition) (record : Record) :
    (any parts).selectionKey record = anyKey 0 parts record := by rw [selectionKey]

/-- The conditions in which no disjunction occurs. -/
inductive IsOrFree : Condition → Prop where
  | simple {condition : Condition} (h : condition.isSimple = true) : IsOrFree condition
  | all {parts : List Condition} (h : ∀ part ∈ parts, IsOrFree part) : IsOrFree (.all parts)

theorem allKey_eq_nil {parts : List Condition} {record : Record}
    (h : ∀ part ∈ parts, part.selectionKey record = []) : allKey parts record = [] := by
  induction parts with
  | nil => rw [allKey]
  | cons part rest ih =>
    rw [List.forall_mem_cons] at h
    rw [allKey, ih h.2, h.1, List.append_nil]

/-- Without a disjunction there is nothing by which records could be told apart. -/
theorem IsOrFree.selectionKey_eq_nil {condition : Condition} (h : condition.IsOrFree)
    (record : Record) : condition.selectionKey record = [] := by
  induction h with
  | simple h => exact selectionKey_of_isSimple h record
  | all h ih =>
    rw [selectionKey_all]
    exact allKey_eq_nil ih

/-- The key of a disjunction that holds starts with the number of one of its parts. -/
theorem exists_anyKey_eq_cons {parts : List Condition} {record : Record} (number : Nat)
    (h : anyHolds parts record = true) :
    ∃ first rest, anyKey number parts record = first :: rest ∧ number ≤ first := by
  induction parts generalizing number with
  | nil => simp [anyHolds] at h
  | cons part rest ih =>
    rw [anyKey]
    by_cases hp : part.holds record = true
    · rw [if_pos hp]
      exact ⟨number, _, rfl, le_rfl⟩
    · rw [if_neg hp]
      rw [anyHolds, Bool.or_eq_true] at h
      obtain ⟨first, key, he, hle⟩ := ih (number + 1) (h.resolve_left hp)
      exact ⟨first, key, he, by omega⟩

/-- Keys are compared like words of a code: none of them starts with another one. -/
def IsCode (holds : Record → Bool) (key : Record → List Nat) : Prop :=
  ∀ r r', holds r = true → holds r' = true → key r <+: key r' → key r = key r'

/-- The keys of all parts of a conjunction are words of a code when those of each part are. -/
theorem isCode_allKey {parts : List Condition}
    (h : ∀ part ∈ parts, IsCode part.holds part.selectionKey) :
    IsCode (allHold parts) (allKey parts) := by
  induction parts with
  | nil =>
    intro r r' _ _ _
    rw [allKey, allKey]
  | cons part rest ih =>
    intro r r' hr hr' hpre
    rw [allHold, Bool.and_eq_true] at hr hr'
    rw [allKey, allKey] at hpre ⊢
    have hrest := ih fun p hp => h p (List.mem_cons_of_mem _ hp)
    -- the keys of the last parts start one another, so they are the same
    have heq : allKey rest r = allKey rest r' := by
      rcases List.prefix_or_prefix_of_prefix ((List.prefix_append _ _).trans hpre)
        (List.prefix_append _ _) with hle | hge
      · exact hrest r r' hr.2 hr'.2 hle
      · exact (hrest r' r hr'.2 hr.2 hge).symm
    rw [heq, List.prefix_append_right_inj] at hpre
    rw [heq, h part List.mem_cons_self r r' hr.1 hr'.1 hpre]

/-- So are the numbers of the parts of a disjunction, with the keys of the parts behind them. -/
theorem isCode_anyKey {parts : List Condition}
    (h : ∀ part ∈ parts, IsCode part.holds part.selectionKey) (number : Nat) :
    IsCode (anyHolds parts) (anyKey number parts) := by
  induction parts generalizing number with
  | nil =>
    intro r r' _ _ _
    rw [anyKey, anyKey]
  | cons part rest ih =>
    intro r r' hr hr' hpre
    rw [anyHolds, Bool.or_eq_true] at hr hr'
    rw [anyKey, anyKey] at hpre ⊢
    by_cases hp : part.holds r = true
    · by_cases hp' : part.holds r' = true
      · rw [if_pos hp, if_pos hp', List.cons_prefix_cons] at hpre
        rw [if_pos hp, if_pos hp', h part List.mem_cons_self r r' hp hp' hpre.2]
      · obtain ⟨first, key, he, hle⟩ :=
          exists_anyKey_eq_cons (number + 1) (hr'.resolve_left hp')
        rw [if_pos hp, if_neg hp', he, List.cons_prefix_cons] at hpre
        omega
    · by_cases hp' : part.holds r' = true
      · obtain ⟨first, key, he, hle⟩ := exists_anyKey_eq_cons (number + 1) (hr.resolve_left hp)
        rw [if_neg hp, if_pos hp', he, List.cons_prefix_cons] at hpre
        omega
      · rw [if_neg hp, if_neg hp'] at hpre ⊢
        exact ih (fun p hp => h p (List.mem_cons_of_mem _ hp)) (number + 1) r r'
          (hr.resolve_left hp) (hr'.resolve_left hp') hpre

/-- No key of a record that a condition keeps starts with the key of another such record. -/
theorem isCode_selectionKey (condition : Condition) :
    IsCode condition.holds condition.selectionKey := by
  induction condition using inductionOn with
  | all parts ih =>
    intro r r' hr hr' hpre
    rw [holds_all] at hr hr'
    rw [selectionKey_all, selectionKey_all] at hpre ⊢
    exact isCode_allKey ih r r' hr hr' hpre
  | any parts ih =>
    intro r r' hr hr' hpre
    rw [holds_any] at hr hr'
    rw [selectionKey_any, selectionKey_any] at hpre ⊢
    exact isCode_anyKey ih 0 r r' hr hr' hpre
  | simple leaf hleaf =>
    intro r r' _ _ _
    rw [selectionKey_of_isSimple hleaf, selectionKey_of_isSimple hleaf]

/-- Words are compared by their first letters, and by what follows where these are the same. -/
theorem cons_le_cons_iff {a b : Nat} {u v : List Nat} :
    a :: u ≤ b :: v ↔ a < b ∨ a = b ∧ u ≤ v := by
  rw [← not_lt, ← not_lt (a := v), List.cons_lt_cons_iff]
  by_cases h : v < u
  · simp only [h, and_true, not_true_eq_false, and_false, or_false]
    omega
  · simp only [h, and_false, or_false, not_false_eq_true, and_true]
    omega

/-- Of two words the first parts are compared before the second ones, when neither first part starts
with the other. -/
theorem append_le_append_iff {u u' v v' : List Nat} (h : u <+: u' → u = u')
    (h' : u' <+: u → u' = u) : u ++ v ≤ u' ++ v' ↔ u < u' ∨ u = u' ∧ v ≤ v' := by
  induction u generalizing u' with
  | nil =>
    have hu : [] = u' := h u'.nil_prefix
    subst hu
    simp
  | cons a u ih =>
    cases u' with
    | nil => exact absurd (h' (List.nil_prefix)) (by simp)
    | cons b u' =>
      rw [List.cons_append, List.cons_append, cons_le_cons_iff, List.cons_lt_cons_iff]
      by_cases hab : a = b
      · subst hab
        rw [ih (fun hp => (List.cons.inj (h (List.cons_prefix_cons.mpr ⟨rfl, hp⟩))).2)
          (fun hp => (List.cons.inj (h' (List.cons_prefix_cons.mpr ⟨rfl, hp⟩))).2)]
        simp
      · simp [hab]

/-! ## What is selected -/

section Positions

variable {table : Array Record} {row : Nat → Record}

/-- Candidates are different positions of the table, the rows at them being given by `row`. -/
structure Candidates (table : Array Record) (row : Nat → Record)
    (candidates : List Nat) : Prop where
  /-- No position is a candidate twice. -/
  nodup : candidates.Nodup
  /-- Every candidate is the position of its row. -/
  get : ∀ i ∈ candidates, table[i]? = some (row i)

theorem Candidates.filter {candidates : List Nat} (h : Candidates table row candidates)
    (p : Nat → Bool) : Candidates table row (candidates.filter p) :=
  ⟨h.nodup.filter p, fun i hi => h.get i (List.mem_of_mem_filter hi)⟩

theorem Candidates.sortedBy {κ : Type} [LinearOrder κ] {candidates : List Nat}
    (h : Candidates table row candidates) (key : Nat → κ) :
    Candidates table row (sortedBy key candidates) :=
  ⟨(perm_sortedBy key candidates).nodup_iff.mpr h.nodup, fun i hi => h.get i (mem_sortedBy.mp hi)⟩

/-- A condition sorts by its key what it selects from any candidates. -/
def SelectsByKey (table : Array Record) (row : Nat → Record) (condition : Condition) : Prop :=
  ∀ candidates, Candidates table row candidates →
    condition.select table candidates =
      LogQuery.sortedBy (fun i => condition.selectionKey (row i))
        (candidates.filter fun i => condition.holds (row i))

/-- What a first condition keeps, sorted by its key, and what others keep of that, sorted by theirs,
is what the conjunction of all of them keeps, sorted by its key. -/
theorem sortedBy_allKey_cons {α : Type} (row : α → Record) (part : Condition)
    (rest : List Condition) (l : List α) :
    LogQuery.sortedBy (fun a => allKey rest (row a))
        ((LogQuery.sortedBy (fun a => part.selectionKey (row a))
          (l.filter fun a => part.holds (row a))).filter fun a => allHold rest (row a)) =
      LogQuery.sortedBy (fun a => allKey (part :: rest) (row a))
        (l.filter fun a => allHold (part :: rest) (row a)) := by
  rw [filter_sortedBy, List.filter_filter]
  simp only [allKey, allHold, Bool.and_comm (part.holds _)]
  refine sortedBy_sortedBy fun a ha b hb => ?_
  simp only [List.mem_filter, Bool.and_eq_true] at ha hb
  have hcode : IsCode (allHold rest) (allKey rest) :=
    isCode_allKey fun p _ => isCode_selectionKey p
  exact append_le_append_iff (hcode _ _ ha.2.1 hb.2.1) (hcode _ _ hb.2.1 ha.2.1)

/-- A conjunction of conditions that sort what they select does so too: every part sorts again what
the parts before it have sorted. -/
theorem selectAll_eq_sortedBy {parts : List Condition}
    (h : ∀ part ∈ parts, SelectsByKey table row part) {candidates : List Nat}
    (hc : Candidates table row candidates) :
    selectAll table parts candidates =
      LogQuery.sortedBy (fun i => allKey parts (row i))
        (candidates.filter fun i => allHold parts (row i)) := by
  induction parts generalizing candidates with
  | nil =>
    simp only [selectAll, allKey, allHold, List.filter_true]
    exact (sortedBy_of_forall_eq fun _ _ _ _ => rfl).symm
  | cons part rest ih =>
    have hpart := h part List.mem_cons_self candidates hc
    have hrest := ih (fun p hp => h p (List.mem_cons_of_mem _ hp))
      ((hc.filter fun i => part.holds (row i)).sortedBy fun i => part.selectionKey (row i))
    rw [selectAll, hpart, hrest, sortedBy_allKey_cons]

/-- A disjunction of conditions that sort what they select sorts by the number of the first part
that holds and then by the key of that part. -/
theorem firstByKey_selectAny_eq_sortedBy {parts : List Condition}
    (h : ∀ part ∈ parts, SelectsByKey table row part) (number : Nat) {candidates : List Nat}
    (hc : Candidates table row candidates) :
    firstByKey id [] (selectAny table parts candidates) =
      LogQuery.sortedBy (fun i => anyKey number parts (row i))
        (candidates.filter fun i => anyHolds parts (row i)) := by
  induction parts generalizing number with
  | nil =>
    simp only [selectAny, anyHolds, List.filter_false]
    rw [firstByKey, LogQuery.sortedBy, List.mergeSort_nil]
  | cons part rest ih =>
    have hpart := h part List.mem_cons_self candidates hc
    have hrest := ih (fun p hp => h p (List.mem_cons_of_mem _ hp)) (number + 1)
    set chosen := candidates.filter fun i => anyHolds (part :: rest) (row i) with hchosen
    -- what the first part selects, and what is left for the other parts
    have hfirst : firstByKey id [] (part.select table candidates) =
        LogQuery.sortedBy (fun i => anyKey number (part :: rest) (row i))
          (chosen.filter fun i => part.holds (row i)) := by
      have hnodup := ((hc.filter fun i => part.holds (row i)).sortedBy
        fun i => part.selectionKey (row i)).nodup
      rw [hpart, firstByKey_of_nodup (by simpa using hnodup), hchosen, List.filter_filter]
      have hkeep : (candidates.filter fun i =>
          part.holds (row i) && anyHolds (part :: rest) (row i)) =
            candidates.filter fun i => part.holds (row i) := by
        refine List.filter_congr fun i _ => ?_
        rw [anyHolds]
        cases part.holds (row i) <;> rfl
      rw [hkeep]
      refine sortedBy_congr fun i hi j hj => ?_
      simp only [List.mem_filter] at hi hj
      rw [anyKey, anyKey, if_pos hi.2, if_pos hj.2, cons_le_cons_iff]
      simp
    have hothers : (firstByKey id [] (selectAny table rest candidates)).filter
          (fun i => !((part.select table candidates).map id).contains (id i)) =
        LogQuery.sortedBy (fun i => anyKey number (part :: rest) (row i))
          (chosen.filter fun i => !part.holds (row i)) := by
      rw [hrest, filter_sortedBy, List.filter_filter, hchosen, List.filter_filter, hpart]
      have hkeep : (candidates.filter fun i =>
          !((LogQuery.sortedBy (fun i => part.selectionKey (row i))
            (candidates.filter fun i => part.holds (row i))).map id).contains (id i) &&
              anyHolds rest (row i)) =
            candidates.filter fun i => !part.holds (row i) && anyHolds (part :: rest) (row i) := by
        refine List.filter_congr fun i hi => ?_
        rw [anyHolds]
        cases hp : part.holds (row i) <;> simp [hi, hp]
      rw [hkeep]
      refine sortedBy_congr fun i hi j hj => ?_
      simp only [List.mem_filter, Bool.and_eq_true, Bool.not_eq_true'] at hi hj
      rw [anyKey, anyKey, if_neg (by simp [hi.2.1]), if_neg (by simp [hj.2.1])]
    rw [selectAny, firstByKey_append, hfirst, hothers]
    refine sortedBy_filter_append _ fun i hi j hj hpi hpj => ?_
    have hany : anyHolds rest (row j) = true := by
      have := (List.mem_filter.mp hj).2
      simpa [anyHolds, hpj] using this
    obtain ⟨first, key, he, hle⟩ := exists_anyKey_eq_cons (number + 1) hany
    rw [anyKey, anyKey, if_pos hpi, if_neg (by simp [hpj]), he, List.cons_lt_cons_iff]
    exact Or.inl hle

/-- Every condition sorts what it selects by its key. -/
theorem selectsByKey (condition : Condition) : SelectsByKey table row condition := by
  induction condition using inductionOn with
  | all parts ih =>
    intro candidates hc
    rw [select, selectAll_eq_sortedBy ih hc]
    simp only [holds_all, selectionKey_all]
  | any parts ih =>
    intro candidates hc
    rw [select, firstByKey_selectAny_eq_sortedBy ih 0 hc]
    simp only [holds_any, selectionKey_any]
  | simple leaf hleaf =>
    intro candidates hc
    rw [select_of_isSimple hleaf]
    simp only [selectionKey_of_isSimple hleaf]
    rw [sortedBy_of_forall_eq fun _ _ _ _ => rfl]
    refine List.filter_congr fun i hi => ?_
    rw [hc.get i hi, Option.any_some]

end Positions

/-! ## The rows that are kept -/

/-- From different slots that are not empty every row is taken, in the order of the positions. -/
theorem takeRows_eq_map {slots : Array (Option Record)} {positions : List Nat} (row : Nat → Record)
    (hnodup : positions.Nodup) (h : ∀ i ∈ positions, slots[i]? = some (some (row i))) :
    takeRows slots positions = positions.map row := by
  induction positions generalizing slots with
  | nil => rfl
  | cons i rest ih =>
    rw [List.nodup_cons] at hnodup
    have hi : slots[i]?.join = some (row i) := by rw [h i List.mem_cons_self, Option.join_some]
    rw [takeRows, hi, List.map_cons]
    refine congrArg _ (ih hnodup.2 fun j hj => ?_)
    have hne : i ≠ j := fun e => hnodup.1 (e ▸ hj)
    rw [Array.getElem?_setIfInBounds_ne hne, h j (List.mem_cons_of_mem _ hj)]

/-- The row at a position of a table. -/
def rowAt (rows : List Record) (i : Nat) : Record := rows[i]?.getD .empty

theorem getElem?_rowAt {rows : List Record} {i : Nat} (h : i < rows.length) :
    rows[i]? = some (rowAt rows i) := by
  rw [rowAt, List.getElem?_eq_getElem h, Option.getD_some]

theorem map_rowAt_range (rows : List Record) :
    (List.range rows.length).map (rowAt rows) = rows := by
  refine List.ext_getElem (by simp) fun i _ h => ?_
  rw [List.getElem_map, List.getElem_range, rowAt, List.getElem?_eq_getElem h, Option.getD_some]

theorem candidates_range (rows : List Record) :
    Candidates rows.toArray (rowAt rows) (List.range rows.length) := by
  refine ⟨List.nodup_range, fun i hi => ?_⟩
  rw [List.getElem?_toArray, getElem?_rowAt (List.mem_range.mp hi)]

/-- The positions that a condition selects from a whole table are those of the rows of which it
holds, sorted by the keys of the rows. -/
theorem select_range_eq_sortedBy (condition : Condition) (rows : List Record) :
    condition.select rows.toArray (List.range rows.length) =
      sortedBy (fun i => condition.selectionKey (rowAt rows i))
        ((List.range rows.length).filter fun i => condition.holds (rowAt rows i)) :=
  selectsByKey condition _ (candidates_range rows)

/-- The rows that a condition keeps are the rows at the positions that it selects. -/
theorem filter_eq_map_select (condition : Condition) (rows : List Record) :
    condition.filter rows =
      (condition.select rows.toArray (List.range rows.length)).map (rowAt rows) := by
  have hc : Candidates rows.toArray (rowAt rows)
      (condition.select rows.toArray (List.range rows.length)) := by
    rw [select_range_eq_sortedBy]
    exact ((candidates_range rows).filter _).sortedBy _
  rw [filter]
  refine takeRows_eq_map (rowAt rows) hc.nodup fun i hi => ?_
  rw [Array.getElem?_map, hc.get i hi, Option.map_some]

/-- The rows that a condition keeps are the rows of which it holds, sorted stably by their keys. -/
theorem filter_eq_sortedBy (condition : Condition) (rows : List Record) :
    condition.filter rows = sortedBy condition.selectionKey (rows.filter condition.holds) := by
  rw [filter_eq_map_select, select_range_eq_sortedBy, map_sortedBy condition.selectionKey]
  conv_rhs => rw [← map_rowAt_range rows, List.filter_map]
  rfl

/-- A condition without a disjunction keeps the rows of which it holds in their order. -/
theorem IsOrFree.filter_eq {condition : Condition} (h : condition.IsOrFree) (rows : List Record) :
    condition.filter rows = rows.filter condition.holds := by
  rw [filter_eq_sortedBy]
  refine sortedBy_of_forall_eq fun row _ row' _ => ?_
  rw [h.selectionKey_eq_nil, h.selectionKey_eq_nil]

/-- A simple condition keeps the rows of which it holds in their order. -/
theorem filter_of_isSimple {leaf : Condition} (h : leaf.isSimple = true) (rows : List Record) :
    leaf.filter rows = rows.filter leaf.holds :=
  (IsOrFree.simple h).filter_eq rows

/-- A condition keeps only rows that are there. -/
theorem filter_subset (condition : Condition) (rows : List Record) :
    condition.filter rows ⊆ rows := by
  rw [filter_eq_sortedBy]
  exact fun row hrow => List.mem_of_mem_filter (mem_sortedBy.mp hrow)

/-- A condition keeps the rows of which it holds, sorted stably by the order in which the parts of
its disjunctions select them; and the positions of these rows are kept once each, even where the
rows are equal. -/
theorem filter_eq_stable_sort_of_matching_rows (condition : Condition) (rows : List Record) :
    condition.filter rows = sortedBy condition.selectionKey (rows.filter condition.holds) ∧
      ∃ positions : List Nat, positions.Nodup ∧
        (∀ i, i ∈ positions ↔ ∃ row, rows[i]? = some row ∧ condition.holds row = true) ∧
          (condition.filter rows).map some = positions.map (rows[·]?) := by
  refine ⟨filter_eq_sortedBy condition rows,
    condition.select rows.toArray (List.range rows.length), ?_, fun i => ?_, ?_⟩
  · rw [select_range_eq_sortedBy]
    exact (((candidates_range rows).filter _).sortedBy _).nodup
  · rw [select_range_eq_sortedBy, mem_sortedBy, List.mem_filter, List.mem_range]
    constructor
    · rintro ⟨hi, hholds⟩
      exact ⟨rowAt rows i, getElem?_rowAt hi, hholds⟩
    · rintro ⟨row, hrow, hholds⟩
      have hi : i < rows.length := (List.getElem?_eq_some_iff.mp hrow).1
      rw [getElem?_rowAt hi, Option.some_inj] at hrow
      exact ⟨hi, hrow ▸ hholds⟩
  · rw [filter_eq_map_select, List.map_map]
    refine List.map_congr_left fun i hi => ?_
    rw [select_range_eq_sortedBy, mem_sortedBy, List.mem_filter, List.mem_range] at hi
    rw [Function.comp_apply, getElem?_rowAt hi.1]

end LogQuery.Condition
