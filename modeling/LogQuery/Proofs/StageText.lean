import LogQuery.Decimal.Layout
import LogQuery.Proofs.ConditionText
import LogQuery.Stage.Parser
import Mathlib.Algebra.Order.Ring.Nat

/-!
# Stages as texts

How the stages other than conditions are written. A stage has many texts: some verbs have two
spellings, the ascending order need not be named and the descending one is named in letters of any
size, the aggregations of a summary come in any order, and blank characters may stand around the
equality sign behind a name. So writing is a relation between stages and texts (`Writes`), with a
relation of its own for every part that varies.

What columns, names and groups must be like is all that reading them back needs.
-/

namespace LogQuery.Stage

open Text Condition

/-! ## Columns, names and gaps -/

/-- A text that is not empty and neither begins nor ends with a blank character. -/
structure IsTrimmed (s : List Char) : Prop where
  ne_nil : s ≠ []
  trim_eq : trim s = s

/-- A text that is not empty and has no blank character. -/
structure IsUnbroken (s : List Char) : Prop where
  ne_nil : s ≠ []
  not_blank : ∀ c ∈ s, isBlank c = false

/-- The names that counts and their columns can have: words of ASCII letters, digits and
underscores. -/
structure IsName (s : List Char) : Prop where
  ne_nil : s ≠ []
  name : ∀ c ∈ s, isNameChar c = true

/-- A text of blank characters that keeps to the line. -/
def IsGap (s : List Char) : Prop := ∀ c ∈ s, isBlank c = true ∧ c ≠ '\n'

instance (s : List Char) : Decidable (IsTrimmed s) :=
  decidable_of_iff (s ≠ [] ∧ trim s = s) ⟨fun h => ⟨h.1, h.2⟩, fun h => ⟨h.ne_nil, h.trim_eq⟩⟩

instance (s : List Char) : Decidable (IsUnbroken s) :=
  decidable_of_iff (s ≠ [] ∧ ∀ c ∈ s, isBlank c = false)
    ⟨fun h => ⟨h.1, h.2⟩, fun h => ⟨h.ne_nil, h.not_blank⟩⟩

instance (s : List Char) : Decidable (IsName s) :=
  decidable_of_iff (s ≠ [] ∧ ∀ c ∈ s, isNameChar c = true)
    ⟨fun h => ⟨h.1, h.2⟩, fun h => ⟨h.ne_nil, h.name⟩⟩

instance (s : List Char) : Decidable (IsGap s) :=
  inferInstanceAs (Decidable (∀ c ∈ s, isBlank c = true ∧ c ≠ '\n'))

variable {s t : List Char}

theorem IsTrimmed.of_ends (hne : s ≠ []) (hfirst : ∀ c ∈ s.head?, isBlank c = false)
    (hlast : ∀ c ∈ s.getLast?, isBlank c = false) : IsTrimmed s :=
  ⟨hne, trim_eq_self hfirst hlast⟩

theorem IsUnbroken.isTrimmed (h : IsUnbroken s) : IsTrimmed s :=
  .of_ends h.ne_nil (fun c hc => h.not_blank c (List.mem_of_mem_head? hc))
    fun c hc => h.not_blank c (List.mem_of_mem_getLast? hc)

theorem IsTrimmed.isBlank_of_mem_head? (h : IsTrimmed s) : ∀ c ∈ s.head?, isBlank c = false := by
  intro c hc
  rw [← h.trim_eq, head?_trim] at hc
  exact isBlank_of_mem_head?_trimStart c hc

theorem IsTrimmed.isBlank_of_mem_getLast? (h : IsTrimmed s) :
    ∀ c ∈ s.getLast?, isBlank c = false := by
  intro c hc
  have hfirst := List.head?_dropWhile_not isBlank (trimStart s).reverse
  rw [← h.trim_eq, trim, trimEnd, List.getLast?_reverse] at hc
  rw [Option.mem_def.mp hc] at hfirst
  exact hfirst

/-- A text put in front of a trimmed one is trimmed with it when it does not begin with a blank
character. -/
theorem IsTrimmed.append (ht : IsTrimmed t) (hs : s ≠ [])
    (hfirst : ∀ c ∈ s.head?, isBlank c = false) : IsTrimmed (s ++ t) := by
  refine .of_ends (by simp [hs]) (fun c hc => ?_) fun c hc => ?_
  · rw [List.head?_append_of_ne_nil _ hs] at hc
    exact hfirst c hc
  · rw [List.getLast?_append_of_ne_nil _ ht.ne_nil] at hc
    exact ht.isBlank_of_mem_getLast? c hc

theorem IsName.isUnbroken (h : IsName s) : IsUnbroken s :=
  ⟨h.ne_nil, fun c hc => isBlank_of_isNameChar (h.name c hc)⟩

theorem IsName.notMem (h : IsName s) {c : Char} (hc : isNameChar c = false) : c ∉ s :=
  fun hmem => Bool.false_ne_true (hc.symm.trans (h.name c hmem))

theorem IsGap.isBlank (h : IsGap s) : ∀ c ∈ s, isBlank c = true := fun c hc => (h c hc).1

theorem IsGap.notMem (h : IsGap s) {c : Char} (hc : Text.isBlank c = false) : c ∉ s :=
  fun hmem => Bool.false_ne_true (hc.symm.trans (h.isBlank c hmem))

/-! ## Writing -/

/-- How the order of a sort is written behind its column. -/
inductive WritesDirection : Direction → List Char → Prop where
  /-- The ascending order need not be written. -/
  | silent : WritesDirection .ascending []
  | ascending : WritesDirection .ascending " asc".toList
  /-- The descending order by its word, in letters of any size. -/
  | descending {word : List Char} (h : word.map Char.toLower = "desc".toList) :
    WritesDirection .descending (' ' :: word)

/-- A name, an equality sign with gaps around it, and what the name is given to. -/
def assigned (name gap gap' call : List Char) : List Char :=
  name ++ (gap ++ '=' :: (gap' ++ call))

/-- How a count is written: alone, when it shows under the name given to counts without one, or
behind the name that it shows under. -/
inductive WritesCount : String → List Char → Prop where
  /-- The count alone. -/
  | bare : WritesCount defaultCountAlias "count()".toList
  /-- The count behind its name. -/
  | named {name : String} {gap gap' : List Char} (hname : IsName name.toList) (hgap : IsGap gap)
    (hgap' : IsGap gap') : WritesCount name (assigned name.toList gap gap' "count()".toList)

/-- The function of a distinct count. -/
def distinctCall (column : List Char) : List Char := "dcount(".toList ++ (column ++ [')'])

/-- How a distinct count is written. -/
inductive WritesDistinctCount : DistinctCount → List Char → Prop where
  /-- The distinct count behind its name. -/
  | named {name column : String} {gap gap' : List Char} (hname : IsName name.toList)
    (hcolumn : IsName column.toList) (hgap : IsGap gap) (hgap' : IsGap gap') :
    WritesDistinctCount ⟨name, column⟩
      (assigned name.toList gap gap' (distinctCall column.toList))

/-- How a count and a distinct count are written, at least one of them and either one first. -/
inductive WritesAggregations : Option String → Option DistinctCount → List Char → Prop where
  | count {name : String} {text : List Char} (h : WritesCount name text) :
    WritesAggregations (some name) none text
  | distinctCount {distinct : DistinctCount} {text : List Char}
    (h : WritesDistinctCount distinct text) : WritesAggregations none (some distinct) text
  /-- A count before a distinct count. -/
  | countFirst {name : String} {distinct : DistinctCount} {text text' : List Char}
    (h : WritesCount name text) (h' : WritesDistinctCount distinct text') :
    WritesAggregations (some name) (some distinct) (text ++ (", ".toList ++ text'))
  /-- A distinct count before a count. -/
  | distinctCountFirst {name : String} {distinct : DistinctCount} {text text' : List Char}
    (h : WritesCount name text) (h' : WritesDistinctCount distinct text') :
    WritesAggregations (some name) (some distinct) (text' ++ (", ".toList ++ text))

/-- How a stage is written. -/
inductive Writes : Stage → List Char → Prop where
  /-- Columns to keep. -/
  | project {columns : List String} (hne : columns ≠ [])
    (h : ∀ column ∈ columns, IsTrimmed column.toList ∧ ',' ∉ column.toList) :
    Writes (.project columns)
      ("project ".toList ++ joined ", ".toList (columns.map String.toList))
  /-- A limit by one of its verbs. -/
  | limit {verb : List Char} {n : Int} (hverb : verb ∈ ["limit ".toList, "take ".toList])
    (h : n.natAbs ≤ 2 ^ 63 - 1) : Writes (.limit n) (verb ++ Decimal.wholeText n)
  /-- A sort by one of its verbs. -/
  | sort {verb : List Char} {column : String} {direction : Direction} {order : List Char}
    (hverb : verb ∈ ["order by ".toList, "sort by ".toList]) (h : IsUnbroken column.toList)
    (horder : WritesDirection direction order) :
    Writes (.sort column direction) (verb ++ (column.toList ++ order))
  | distinct {column : String} (h : IsTrimmed column.toList) :
    Writes (.distinct column) ("distinct ".toList ++ column.toList)
  | count : Writes .count "count".toList
  /-- The summary that counts all rows. -/
  | countAll : Writes (.summarize { count := some defaultCountAlias }) "summarize count()".toList
  /-- A summary by groups. -/
  | summarize {count : Option String} {distinctCount : Option DistinctCount} {group : String}
    {aggregations : List Char} (h : WritesAggregations count distinctCount aggregations)
    (hgroup : IsUnbroken group.toList) :
    Writes (.summarize { count, distinctCount, groupBy := some group })
      ("summarize ".toList ++ (aggregations ++ (" by ".toList ++ group.toList)))

end LogQuery.Stage
