/-!
# Conditions

A condition says which records to keep. The simple conditions look at one column: at its text, at
the number it reads as, or at the hour of the timestamp it holds. Conditions are combined by
conjunction and disjunction of any number of parts. A text that is no condition is kept as one that
never holds.
-/

namespace LogQuery

/-- How the hour of a timestamp is compared. -/
inductive HourOperator where
  | atLeast
  | lessThan
  | exactly
  /-- An operator without meaning, which never holds. -/
  | unsupported
  deriving DecidableEq

/-- Which records to keep. -/
inductive Condition where
  | all (parts : List Condition)
  | any (parts : List Condition)
  /-- The text of the field contains the value, letters of either size being the same. -/
  | contains (field value : String)
  | equals (field value : String)
  | differs (field value : String)
  /-- The number of the field is at least that of the value. -/
  | atLeast (field value : String)
  /-- The number of the field is less than that of the value. -/
  | lessThan (field value : String)
  | oneOf (field : String) (values : List String)
  /-- The hour of the timestamp in the field compares with the given hour. -/
  | hourOfDay (field : String) (operator : HourOperator) (hour : Int)
  /-- A text that is no condition; it never holds. -/
  | unrecognized (text : String)
  deriving Inhabited

end LogQuery
