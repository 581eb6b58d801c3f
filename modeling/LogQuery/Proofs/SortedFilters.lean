import LogQuery.Proofs.ConditionLevels
import LogQuery.Proofs.SortedRows

/-!
# Sorting before and after filtering

Rows can be sorted before or after a condition filters them, as long as no disjunction occurs in
the condition (`filter_sortRows_comm`). Such a condition keeps rows in their order, however its
conjunctions are nested, and a stable sort of some of the rows is that part of the sort of all of
them. A text without ` or ` is read as such a condition (`isOrFree_parse`). A disjunction brings the
rows into an order of its own.
-/

namespace LogQuery

open Text

/-- Sorting before or after rows are dropped gives the same rows. -/
theorem Stage.filter_sortRows (column : String) (direction : Direction) (p : Record → Bool)
    (rows : List Record) :
    (Stage.sortRows column direction rows).filter p =
      Stage.sortRows column direction (rows.filter p) := by
  rw [sortRows_eq_sortedBy, sortRows_eq_sortedBy, filter_sortedBy]

namespace Condition

/-- A condition without disjunctions keeps the order of the rows, so it can stand before or after a
sort. -/
theorem IsOrFree.filter_sortRows {condition : Condition} (h : condition.IsOrFree)
    (column : String) (direction : Direction) (rows : List Record) :
    condition.filter (Stage.sortRows column direction rows) =
      Stage.sortRows column direction (condition.filter rows) := by
  rw [h.filter_eq, h.filter_eq, Stage.filter_sortRows]

/-- Without ` or ` a text is read as a condition without a disjunction. -/
theorem isOrFree_parse {text : String} (h : ¬ " or ".toList <:+: text.toList) :
    (parse text).IsOrFree := by
  have htext : ¬ " or ".toList <:+: trim text.toList := not_infix_trim h
  have hsimple : ∀ s, ¬ " or ".toList <:+: s → (disjunction s).IsOrFree := by
    intro s hs
    rw [disjunction_eq_leaf hs]
    exact .simple (isSimple_leaf s)
  rw [parse]
  by_cases hand : " and ".toList <:+: trim text.toList
  · rw [conjunction_eq_all rfl (two_le_length_pieces (by decide) hand)]
    refine .all (List.forall_mem_map.mpr ?_)
    intro piece hpiece
    have hinfix : piece <:+: trim text.toList := isInfix_of_mem_pieces (by decide) hpiece
    exact hsimple _ (not_infix_trim fun hin => htext (hin.trans hinfix))
  · rw [conjunction_eq_disjunction hand]
    exact hsimple _ htext

/-- A condition without a disjunction can filter rows before or after they are sorted, and a text
without ` or ` is such a condition. -/
theorem filter_sortRows_comm (column : String) (direction : Direction) (rows : List Record) :
    (∀ condition : Condition, condition.IsOrFree →
        condition.filter (Stage.sortRows column direction rows) =
          Stage.sortRows column direction (condition.filter rows)) ∧
      ∀ text : String, ¬ " or ".toList <:+: text.toList →
        (parse text).IsOrFree ∧
          (parse text).filter (Stage.sortRows column direction rows) =
            Stage.sortRows column direction ((parse text).filter rows) := by
  constructor
  · intro condition h
    exact h.filter_sortRows column direction rows
  · intro text h
    exact ⟨isOrFree_parse h, (isOrFree_parse h).filter_sortRows column direction rows⟩

/-- Conjunctions in one another, one of them without parts. -/
def nestedCondition : Condition :=
  .all [.all [.differs "c" "true", .all []], .contains "g" ""]

theorem filter_sortRows_comm_sampleRows :
    nestedCondition.IsOrFree ∧
      nestedCondition.filter (Stage.sortRows "g" .descending Stage.sampleRows) =
        Stage.sortRows "g" .descending (nestedCondition.filter Stage.sampleRows) ∧
        ¬ " or ".toList <:+: "c != \"or\" and g contains or".toList ∧
          (parse "c != \"or\" and g contains or").IsOrFree := by
  have hall : ∀ part ∈ [.differs "c" "true", .all []], IsOrFree part := by
    rw [List.forall_mem_cons, List.forall_mem_singleton]
    exact ⟨.simple rfl, .all (List.forall_mem_nil _)⟩
  have hnested : nestedCondition.IsOrFree := by
    refine .all ?_
    rw [List.forall_mem_cons, List.forall_mem_singleton]
    exact ⟨.all hall, .simple rfl⟩
  have htext : ¬ " or ".toList <:+: "c != \"or\" and g contains or".toList := by decide
  obtain ⟨hcondition, hparse⟩ := filter_sortRows_comm "g" .descending Stage.sampleRows
  exact ⟨hnested, hcondition nestedCondition hnested, htext, (hparse _ htext).1⟩

/-- A disjunction that is asked after a descending sort undoes it. -/
example :
    ((any [.equals "g" "", .equals "g" "7"]).filter
        (Stage.sortRows "g" .descending Stage.sampleRows)).map (Record.text · "g") =
      ["", "", "", "7", "7"] := by cbv

end Condition

end LogQuery
