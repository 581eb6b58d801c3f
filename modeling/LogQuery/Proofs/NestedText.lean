import LogQuery.Proofs.DistinctRows
import LogQuery.Proofs.JsonValue

/-!
# Texts of nested values

Of a column, distinct rows, groups and equalities see only the text, and texts do not tell all
values apart. Those of lists and records without floating-point numbers do (`Value.text_inj`): such
a text is a document that reads in one way only, however deep it nests. So the rows that a query
takes together never have two of them in the column (`text_tells_nested_apart`).
-/

namespace LogQuery

/-- A function that is injective on the members of two lists is injective on the lists. -/
theorem eq_of_map_eq_map {α β : Type} {f : α → β} {l l' : List α}
    (h : ∀ a ∈ l, ∀ a' ∈ l', f a = f a' → a = a') (heq : l.map f = l'.map f) : l = l' := by
  induction l generalizing l' with
  | nil => exact (List.map_eq_nil_iff.mp heq.symm).symm
  | cons a l ih =>
    obtain ⟨a', l', rfl, ha, hl⟩ := List.map_eq_cons_iff.mp heq.symm
    rw [List.forall_mem_cons] at h
    rw [h.1 a' List.mem_cons_self ha.symm]
    congr 1
    exact ih (fun b hb b' hb' => h.2 b hb b' (List.mem_cons_of_mem _ hb')) hl.symm

namespace Json

/-- A document stands for one value without floating-point numbers. -/
theorem ofValue_inj {value value' : Value} (h : value.IsFloatFree) (h' : value'.IsFloatFree)
    (heq : ofValue value = ofValue value') : value = value' := by
  -- a document is of the kind of its value, to which only floats would be an exception
  induction h generalizing value' with
  | null =>
    cases h' with
    | null => rfl
    | _ => cases heq
  | boolean b =>
    cases h' with
    | boolean b' => rw [Json.boolean.inj heq]
    | _ => cases heq
  | integer n =>
    cases h' with
    | integer n' => rw [Int64.toInt_inj.mp (Json.integer.inj heq)]
    | _ => cases heq
  | string s =>
    cases h' with
    | string s' => rw [Json.string.inj heq]
    | _ => cases heq
  | array _ ih =>
    cases h' with
    | array h' =>
      have hitems := Json.array.inj heq
      rw [ofValues_eq_map, ofValues_eq_map] at hitems
      rw [eq_of_map_eq_map (fun item hitem item' hitem' => ih item hitem (h' item' hitem')) hitems]
    | _ => cases heq
  | @object fields _ ih =>
    cases h' with
    | @object fields' h' =>
      have hentries := Json.object.inj heq
      rw [ofEntries_eq_map, ofEntries_eq_map] at hentries
      have hsame : fields.entries = fields'.entries := by
        refine eq_of_map_eq_map ?_ hentries
        intro entry hentry entry' hentry' heq
        obtain ⟨hname, hvalue⟩ := Prod.ext_iff.mp heq
        exact Prod.ext hname (ih entry hentry (h' entry' hentry') hvalue)
      exact congrArg (fun entries => Value.object ⟨entries⟩) hsame
    | _ => cases heq

end Json

namespace Value

/-- Whether this is a list or a record. -/
def isNested : Value → Bool
  | array _ | object _ => true
  | _ => false

/-- The lists and records without a floating-point number at any depth. -/
structure IsDistinctive (value : Value) : Prop where
  nested : value.isNested = true
  floatFree : value.IsFloatFree

variable {value value' : Value}

theorem text_of_isNested (h : value.isNested = true) :
    value.text = (Json.ofValue value).compactText := by
  cases value with
  | array items => rfl
  | object fields => rfl
  | _ => exact absurd h Bool.false_ne_true

/-- Distinctive values with the same text are the same. -/
theorem text_inj (h : value.IsDistinctive) (h' : value'.IsDistinctive) :
    value.text = value'.text ↔ value = value' := by
  refine ⟨fun heq => Json.ofValue_inj h.floatFree h'.floatFree ?_, congrArg text⟩
  rw [text_of_isNested h.nested, text_of_isNested h'.nested, Json.compactText, Json.compactText,
    String.ofList_inj] at heq
  -- one text is read as both documents
  have hread := (Json.reads_compact (Json.isExact_ofValue h.floatFree)).parse?
  have hread' := (Json.reads_compact (Json.isExact_ofValue h'.floatFree)).parse?
  rw [heq, hread'] at hread
  exact (Option.some_inj.mp hread).symm

end Value

/-! ## Rows that are taken together -/

/-- Elements by their keys are all elements, when the keys are listed once each. -/
theorem flatMap_filter_perm {α κ : Type} [BEq κ] [LawfulBEq κ] {key : α → κ} {keys : List κ}
    {l : List α} (hnodup : keys.Nodup) (h : ∀ a ∈ l, key a ∈ keys) :
    (keys.flatMap fun k => l.filter (key · == k)).Perm l := by
  induction keys generalizing l with
  | nil =>
    rw [List.eq_nil_iff_forall_not_mem.mpr fun a ha => List.not_mem_nil (h a ha)]
    exact .nil
  | cons k keys ih =>
    rw [List.nodup_cons] at hnodup
    have hrest : ∀ a ∈ l.filter (!key · == k), key a ∈ keys := by
      intro a ha
      rw [List.mem_filter, Bool.not_eq_true', beq_eq_false_iff_ne] at ha
      exact (List.mem_cons.mp (h a ha.1)).resolve_left ha.2
    -- the elements of the other keys are all among those that are left
    have hsame : ∀ k' ∈ keys, (l.filter (!key · == k)).filter (key · == k') =
        l.filter (key · == k') := by
      intro k' hk'
      rw [List.filter_filter]
      refine List.filter_congr fun a _ => ?_
      by_cases ha : key a = k'
      · have hne : key a ≠ k := fun e => hnodup.1 (e ▸ ha ▸ hk')
        simp [hne]
      · simp [ha]
    have hperm := ih hnodup.2 hrest
    rw [List.flatMap_congr hsame] at hperm
    exact (hperm.append_left _).trans (List.filter_append_perm (key · == k) l)

namespace Stage

/-- The rows that an equality with the text of a row keeps, for each row whose text is new. -/
def classes (column : String) (rows : List Record) : List (List Record) :=
  (newRows column rows).map (rowsLike · column rows)

/-- Classes of rows are what stages go by in a column when these keep the rows of a class together,
show it as one row, count it as one and make it a group. -/
structure GoesBy (column : String) (rows : List Record) (classes : List (List Record)) : Prop where
  /-- Every row is in one class. -/
  perm : classes.flatten.Perm rows
  /-- An equality keeps a class or nothing. -/
  equals : ∀ text, run (.filter (.equals column text)) rows ∈ [] :: classes
  /-- A class has one distinct row, which is made of its first row. -/
  distinct : List.Forall₂ (fun members shown => members.head?.map (onlyColumn column) = some shown)
    classes (run (.distinct column) rows)
  /-- A class is a group. -/
  grouped : ∀ plan, plan.groupBy = some column →
    List.Forall₂ (fun members shown => ∀ row ∈ members,
      shown = groupRow plan column (Record.text row column) members)
      classes (run (.summarize plan) rows)
  /-- A class adds one to the count of distinct texts. -/
  counted : distinctTexts column rows = classes.length

variable {column : String} {rows members : List Record} {row : Record}

theorem columnTexts_eq_map_newRows (column : String) (rows : List Record) :
    columnTexts column rows = (newRows column rows).map (Record.text · column) := by
  rw [newRows, ← firstByKey_eq_newByKey, columnTexts, ← map_firstByKey]
  rfl

theorem rowsLike_eq_filter (row : Record) (column : String) (rows : List Record) :
    rowsLike row column rows = rows.filter (Record.text · column == Record.text row column) :=
  filter_equals column _ rows

theorem mem_classes : members ∈ classes column rows ↔
    ∃ row ∈ newRows column rows, rowsLike row column rows = members :=
  List.mem_map

theorem head?_rowsLike (h : row ∈ newRows column rows) :
    (rowsLike row column rows).head? = some row := by
  have hfirst : row ∈ (firstByKey (Record.text · column) [] rows).filter
      (Record.text · column == Record.text row column) := by
    rw [firstByKey_eq_newByKey, ← newRows, List.mem_filter]
    exact ⟨h, beq_self_eq_true _⟩
  rw [filter_key_firstByKey, Option.mem_toList] at hfirst
  rw [rowsLike_eq_filter, List.head?_filter]
  exact hfirst

/-- All members of a class have the same text. -/
theorem text_eq_of_mem_classes (h : members ∈ classes column rows) {row row' : Record}
    (hrow : row ∈ members) (hrow' : row' ∈ members) :
    Record.text row column = Record.text row' column := by
  obtain ⟨first, -, rfl⟩ := mem_classes.mp h
  rw [rowsLike_eq_filter] at hrow hrow'
  have htext := eq_of_beq (List.mem_filter.mp hrow).2
  have htext' := eq_of_beq (List.mem_filter.mp hrow').2
  exact htext.trans htext'.symm

theorem perm_classes (column : String) (rows : List Record) :
    (classes column rows).flatten.Perm rows := by
  have hkeys : (classes column rows).flatten = (columnTexts column rows).flatMap fun text =>
      rows.filter (Record.text · column == text) := by
    rw [classes, columnTexts_eq_map_newRows, List.flatMap_map, List.flatMap_def]
    refine congrArg _ (List.map_congr_left fun row _ => ?_)
    exact rowsLike_eq_filter row column rows
  rw [hkeys]
  refine flatMap_filter_perm (nodup_columnTexts column rows) fun row hrow => ?_
  exact mem_columnTexts.mpr ⟨row, hrow, rfl⟩

theorem run_equals_mem (column text : String) (rows : List Record) :
    run (.filter (.equals column text)) rows ∈ [] :: classes column rows := by
  by_cases h : text ∈ columnTexts column rows
  · rw [columnTexts_eq_map_newRows] at h
    obtain ⟨row, hrow, rfl⟩ := List.mem_map.mp h
    exact List.mem_cons_of_mem _ (mem_classes.mpr ⟨row, hrow, rfl⟩)
  · have hnone : rows.filter (Record.text · column == text) = [] := by
      rw [List.filter_eq_nil_iff]
      intro row hrow htext
      exact h (mem_columnTexts.mpr ⟨row, hrow, eq_of_beq htext⟩)
    rw [run, filter_equals, hnone]
    exact List.mem_cons_self

/-- Everything that compares texts goes by the classes. -/
theorem goesBy_classes (column : String) (rows : List Record) :
    GoesBy column rows (classes column rows) := by
  refine ⟨perm_classes column rows, fun text => run_equals_mem column text rows, ?_, ?_, ?_⟩
  · rw [run, classes, distinctRows_eq_map_newRows, List.forall₂_map_left_iff,
      List.forall₂_map_right_iff, List.forall₂_same]
    intro row hrow
    rw [head?_rowsLike hrow, Option.map_some]
  · intro plan hplan
    rw [run, summarizeRows_eq_map hplan, columnTexts_eq_map_newRows, List.map_map, classes,
      List.forall₂_map_left_iff, List.forall₂_map_right_iff, List.forall₂_same]
    intro row hrow row' hrow'
    have hsame := text_eq_of_mem_classes (mem_classes.mpr ⟨row, hrow, rfl⟩) hrow'
      (List.mem_of_mem_head? (head?_rowsLike hrow))
    rw [hsame, rowsLike_eq_filter, Function.comp_apply]
  · rw [distinctTexts_eq_length_distinctRows, length_distinctRows, columnTexts_eq_map_newRows,
      List.length_map, classes, List.length_map]

/-- Lists and records without floating-point numbers have the same text only when they are the same.
So what goes by the text of a column never takes two of them together: distinct rows, groups, counts
of distinct texts and equalities go by classes of rows, and no class has two of them. -/
theorem text_tells_nested_apart :
    (∀ value value' : Value, value.IsDistinctive → value'.IsDistinctive →
      (value.text = value'.text ↔ value = value')) ∧
    ∀ column rows, GoesBy column rows (classes column rows) ∧
      ∀ members ∈ classes column rows, ∀ row ∈ members, ∀ row' ∈ members,
        ∀ value ∈ row.get? column, ∀ value' ∈ row'.get? column,
          value.IsDistinctive → value'.IsDistinctive → value = value' := by
  refine ⟨fun value value' h h' => Value.text_inj h h', fun column rows => ?_⟩
  refine ⟨goesBy_classes column rows, ?_⟩
  intro members hmembers row hrow row' hrow' value hvalue value' hvalue' h h'
  have htext := text_eq_of_mem_classes hmembers hrow hrow'
  rw [text_eq_text_getD, text_eq_text_getD, hvalue, hvalue', Option.getD_some, Option.getD_some,
    Value.text_inj h h'] at htext
  exact htext

/-- A list with a record. -/
def listed : Value := .array [.integer 1, .object ⟨[("a", .null), ("b", .string "\"")]⟩]

/-- The same list but for the order of columns. -/
def relisted : Value := .array [.integer 1, .object ⟨[("b", .string "\""), ("a", .null)]⟩]

/-- Rows with the two lists and with a string of the text of the first. -/
def nestedRows : List Record :=
  [⟨[("c", listed)]⟩, ⟨[("c", relisted)]⟩,
    ⟨[("c", .string "[1,\x7b\"a\":null,\"b\":\"\\\"\"\x7d]")]⟩, ⟨[("c", listed)]⟩]

theorem text_tells_listed_apart :
    listed.IsDistinctive ∧ relisted.IsDistinctive ∧ listed.text ≠ relisted.text ∧
      (∀ members ∈ classes "c" nestedRows, ⟨[("c", listed)]⟩ ∈ members →
        ⟨[("c", relisted)]⟩ ∉ members) ∧
      (classes "c" nestedRows).map List.length = [3, 1] ∧ distinctTexts "c" nestedRows = 2 := by
  have hfree : ∀ entries : List (String × Value), (∀ entry ∈ entries, entry.2.IsFloatFree) →
      (Value.array [.integer 1, .object ⟨entries⟩]).IsDistinctive := by
    intro entries hentries
    refine ⟨rfl, .array ?_⟩
    rw [List.forall_mem_cons, List.forall_mem_singleton]
    exact ⟨.integer 1, .object hentries⟩
  have hlisted : listed.IsDistinctive :=
    hfree _ (List.forall_mem_cons.mpr ⟨.null, List.forall_mem_singleton.mpr (.string _)⟩)
  have hrelisted : relisted.IsDistinctive :=
    hfree _ (List.forall_mem_cons.mpr ⟨.string _, List.forall_mem_singleton.mpr .null⟩)
  have hne : listed ≠ relisted := by
    simp [listed, relisted]
  have hclasses : (classes "c" nestedRows).map List.length = [3, 1] := by decide +kernel
  obtain ⟨htext, hrows⟩ := text_tells_nested_apart
  obtain ⟨hgoes, hsame⟩ := hrows "c" nestedRows
  have hcount := hgoes.counted
  rw [← List.length_map List.length, hclasses] at hcount
  refine ⟨hlisted, hrelisted, mt (htext _ _ hlisted hrelisted).mp hne, ?_, hclasses, hcount⟩
  intro members hmembers hrow hrow'
  exact hne (hsame members hmembers _ hrow _ hrow' listed rfl relisted rfl hlisted hrelisted)

end Stage

end LogQuery
