import LogQuery.OrderedMap

/-!
# Values and records

A column of a record holds a value: nothing, a truth value, a whole number of 64 bits, a
floating-point number, a string, or a list or record of values. A record is an ordered map from
column names to values; the order of its columns is the order in which they are reported.
-/

namespace LogQuery

/-- What a column can hold. -/
inductive Value where
  /-- No value. -/
  | null
  | boolean (b : Bool)
  /-- A whole number of 64 bits. -/
  | integer (n : Int64)
  | float (x : Float)
  | string (s : String)
  /-- A list of values. -/
  | array (items : List Value)
  /-- A nested record. -/
  | object (fields : OrderedMap Value)
  deriving Inhabited

/-- A row of a table: its columns in order. -/
abbrev Record := OrderedMap Value

namespace Value

/-- The name of the kind of a value. -/
def typeName : Value → String
  | null => "null"
  | boolean _ => "boolean"
  | integer _ => "integer"
  | float _ => "float"
  | string _ => "string"
  | array _ => "array"
  | object _ => "object"

/-- Whether this is the null value. -/
def isNull : Value → Bool
  | null => true
  | _ => false

/-- Whether this is a whole or a floating-point number. -/
def isNumber : Value → Bool
  | integer _ | float _ => true
  | _ => false

/-- Whether this is a string. -/
def isString : Value → Bool
  | string _ => true
  | _ => false

/-- The whole number that counts `n` things; beyond 64 bits it stays at the greatest one. -/
def ofCount (n : Nat) : Value := .integer (Int64.ofNat (min n 0x7FFFFFFFFFFFFFFF))

theorem ofCount_of_le {n : Nat} (h : n ≤ 0x7FFFFFFFFFFFFFFF) : ofCount n = .integer (.ofNat n) := by
  rw [ofCount, Nat.min_eq_left h]

end Value

end LogQuery
