import LogQuery.Condition.Basic
import LogQuery.Text.Lowercase
import LogQuery.Time.Timestamp
import LogQuery.Value.Text

/-!
# Selecting rows

Whether a condition holds of a record is one question, and in which order a condition selects the
rows of a table is another. A simple condition keeps the order of the rows. A conjunction selects by
each part from what the part before it has selected. A disjunction lists what its first part
selects, then what the second selects and the first did not, and so on. Rows are told apart by their
position, so equal rows at different positions are selected separately and no row is selected twice.
-/

namespace LogQuery

open Text

/-- The elements of a list without those whose key an element before them has or `seen` holds. -/
def firstByKey {α κ : Type} [BEq κ] (key : α → κ) (seen : List κ) : List α → List α
  | [] => []
  | a :: rest =>
    if seen.contains (key a) then firstByKey key seen rest
    else a :: firstByKey key (key a :: seen) rest

namespace HourOperator

/-- Whether the hour of a timestamp compares with the given one. -/
def holds : HourOperator → (actual hour : Int) → Bool
  | atLeast, actual, hour => hour ≤ actual
  | lessThan, actual, hour => actual < hour
  | exactly, actual, hour => actual = hour
  | unsupported, _, _ => false

end HourOperator

namespace Condition

mutual

/-- Whether a condition holds of a record. -/
def holds : Condition → Record → Bool
  | all parts, record => allHold parts record
  | any parts, record => anyHolds parts record
  | contains field value, record =>
    occurs (lowercase value.toList) (lowercase (Record.text record field).toList)
  | equals field value, record => Record.text record field == value
  | differs field value, record => Record.text record field != value
  | atLeast field value, record => Decimal.read value.toList ≤ Record.number record field
  | lessThan field value, record => Record.number record field < Decimal.read value.toList
  | oneOf field values, record => values.contains (Record.text record field)
  | hourOfDay field operator hour, record =>
    match Time.timestamp? (Record.text record field).toList with
    | some t => operator.holds t.utcHour hour
    | none => false
  | unrecognized _, _ => false

/-- Whether every condition of a list holds of a record. -/
def allHold : List Condition → Record → Bool
  | [], _ => true
  | part :: rest, record => part.holds record && allHold rest record

/-- Whether some condition of a list holds of a record. -/
def anyHolds : List Condition → Record → Bool
  | [], _ => false
  | part :: rest, record => part.holds record || anyHolds rest record

end

mutual

/-- The positions of a table that a condition selects from some of them, in the order of their
selection. -/
def select (table : Array Record) : Condition → List Nat → List Nat
  | all parts, candidates => selectAll table parts candidates
  | any parts, candidates => firstByKey id [] (selectAny table parts candidates)
  | leaf, candidates => candidates.filter fun i => table[i]?.any leaf.holds

/-- The positions that remain after selecting by each condition in turn. -/
def selectAll (table : Array Record) : List Condition → List Nat → List Nat
  | [], candidates => candidates
  | part :: rest, candidates => selectAll table rest (part.select table candidates)

/-- The positions that each condition selects, one condition after the other. -/
def selectAny (table : Array Record) : List Condition → List Nat → List Nat
  | [], _ => []
  | part :: rest, candidates => part.select table candidates ++ selectAny table rest candidates

end

/-- Takes the rows at some positions out of their slots, one position after the other. What is taken
leaves an empty slot behind, and nothing can be taken from an empty slot. -/
def takeRows : (slots : Array (Option Record)) → List Nat → List Record
  | _, [] => []
  | slots, i :: rest =>
    match slots[i]?.join with
    | some row => row :: takeRows (slots.setIfInBounds i none) rest
    | none => takeRows slots rest

/-- The rows of a table that a condition keeps, in the order of their selection. -/
def filter (condition : Condition) (rows : List Record) : List Record :=
  let table := rows.toArray
  takeRows (table.map some) (condition.select table (List.range table.size))

end Condition

end LogQuery
