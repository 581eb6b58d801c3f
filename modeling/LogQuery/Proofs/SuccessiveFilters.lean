import LogQuery.Proofs.ConditionReading
import LogQuery.Proofs.SelectionOrder

/-!
# Conjunctions and successive filters

A conjunction keeps what its parts keep when one after the other is given what the part before it
has kept, in the same order (`filter_all_eq_filterInTurn`). This is so although a conjunction
selects positions of the whole table while each of several filters numbers its rows anew: the rows
that come out are those of which all parts hold, sorted by the keys of the parts, and sorting by one
key after the other is sorting by all of them.

The same is true of texts. The parts of a conjunction are what its text is cut into, and each of
these is read as the condition that it is by itself (`disjunction_trim_of_mem_pieces`).
-/

namespace LogQuery.Condition

open Text

/-- The rows that are left when each condition in turn filters what those before it have kept. -/
def filterInTurn (conditions : List Condition) (rows : List Record) : List Record :=
  conditions.foldl (fun rows condition => condition.filter rows) rows

theorem filterInTurn_cons (condition : Condition) (rest : List Condition) (rows : List Record) :
    filterInTurn (condition :: rest) rows = filterInTurn rest (condition.filter rows) := rfl

theorem filter_all_nil (rows : List Record) : (all []).filter rows = rows := by
  have horFree : (all []).IsOrFree := .all (List.forall_mem_nil _)
  rw [horFree.filter_eq]
  apply List.filter_eq_self.mpr
  intro row _
  rw [holds_all, allHold]

/-- The first part of a conjunction can be taken off and filter first. -/
theorem filter_all_cons (part : Condition) (rest : List Condition) (rows : List Record) :
    (all (part :: rest)).filter rows = (all rest).filter (part.filter rows) := by
  have hkey : ∀ parts, (all parts).selectionKey = fun row => allKey parts row :=
    fun parts => funext fun row => selectionKey_all parts row
  have hholds : ∀ parts, (all parts).holds = fun row => allHold parts row :=
    fun parts => funext fun row => holds_all parts row
  calc (all (part :: rest)).filter rows
      = sortedBy (fun row => allKey (part :: rest) row)
          (rows.filter fun row => allHold (part :: rest) row) := by
        rw [filter_eq_sortedBy, hkey, hholds]
    _ = sortedBy (fun row => allKey rest row)
          ((sortedBy part.selectionKey (rows.filter part.holds)).filter
            fun row => allHold rest row) :=
        (sortedBy_allKey_cons id part rest rows).symm
    _ = (all rest).filter (part.filter rows) := by
        rw [filter_eq_sortedBy (all rest), filter_eq_sortedBy part, hkey, hholds]

/-- A conjunction filters by its parts in turn. -/
theorem filter_all_eq (parts : List Condition) (rows : List Record) :
    (all parts).filter rows = filterInTurn parts rows := by
  induction parts generalizing rows with
  | nil => exact filter_all_nil rows
  | cons part rest ih => rw [filter_all_cons, ih, filterInTurn_cons]

/-! ## Texts -/

theorem parse_ofList (s : List Char) : parse (String.ofList s) = conjunction (trim s) := by
  rw [parse, String.toList_ofList]

/-- A part of the text of a conjunction is read as it is read by itself, for no ` and ` is left in
it. -/
theorem disjunction_trim_of_mem_pieces {s piece : List Char} (h : piece ∈ pieces " and ".toList s) :
    disjunction (trim piece) = parse (String.ofList piece) := by
  have hpiece : ¬ " and ".toList <:+: piece := not_infix_of_mem_pieces (by decide) h
  have htrim : ¬ marked ' ' "and".toList <:+: trim piece :=
    fun hin => hpiece (hin.trans (trim_isInfix piece))
  rw [parse_ofList, conjunction_eq_disjunction htrim]

/-- A trimmed text keeps what the pieces that ` and ` cuts it into keep in turn. -/
theorem filter_conjunction {s : List Char} (hs : trim s = s) (rows : List Record) :
    (conjunction s).filter rows =
      filterInTurn ((pieces " and ".toList s).map fun piece => parse (String.ofList piece))
        rows := by
  by_cases hand : " and ".toList <:+: s
  · have hparts : (pieces " and ".toList s).map (fun piece => disjunction (trim piece)) =
        (pieces " and ".toList s).map fun piece => parse (String.ofList piece) :=
      List.map_congr_left fun piece hpiece => disjunction_trim_of_mem_pieces hpiece
    rw [← hparts, ← filter_all_eq, conjunction_eq_all rfl (two_le_length_pieces (by decide) hand)]
    rfl
  · have hone : pieces " and ".toList s = [s] := pieces_of_not_infix hand
    rw [hone, List.map_singleton, filterInTurn_cons, parse_ofList, hs]
    rfl

/-- A conjunction keeps the rows that its parts keep in turn, in the same order; and so does a text,
whose parts are what ` and ` cuts it into, each read as a condition by itself. -/
theorem filter_all_eq_filterInTurn (rows : List Record) :
    (∀ parts : List Condition, (all parts).filter rows = filterInTurn parts rows) ∧
      ∀ text : String, (parse text).filter rows =
        filterInTurn ((pieces " and ".toList (trim text.toList)).map
          fun piece => parse (String.ofList piece)) rows := by
  constructor
  · intro parts
    exact filter_all_eq parts rows
  · intro text
    rw [parse]
    exact filter_conjunction (trim_trim text.toList) rows

end LogQuery.Condition
