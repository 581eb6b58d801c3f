import LogQuery.Decimal.Reader
import LogQuery.Json.Printer

/-!
# Values as texts and numbers

Every comparison of values goes through their text or through the number they read as. The text of
the null value is empty, a number has its plain form, and lists and records are written as compact
JSON. The number of the null value is zero, of the truth values zero and one, and of a string the
number that it denotes; lists, records and all other strings read as `NaN`, of which no order
relation holds.
-/

namespace LogQuery

namespace Value

/-- The text that comparisons of a value work on. -/
def text : Value → String
  | null => ""
  | boolean b => if b then "true" else "false"
  | integer n => String.ofList (Decimal.wholeText n.toInt)
  | float x => String.ofList (Decimal.floatText x)
  | string s => s
  | nested => (Json.ofValue nested).compactText

/-- The number that ordering comparisons of a value work on. -/
def number : Value → Float
  | null => 0
  | boolean b => if b then 1 else 0
  | integer n => Float.ofInt n.toInt
  | float x => x
  | string s => Decimal.read s.toList
  | array _ | object _ => 0 / 0

/-- A value as it is shown to a reader: like its text, with the null value spelt out and strings
between quotation marks. -/
def display : Value → String
  | null => "null"
  | string s => "\"" ++ s ++ "\""
  | other => other.text

end Value

namespace Record

/-- The text of a column, empty when the record lacks it. -/
def text (record : Record) (column : String) : String :=
  ((record.get? column).map Value.text).getD ""

/-- The number of a column, `NaN` when the record lacks it. -/
def number (record : Record) (column : String) : Float :=
  ((record.get? column).map Value.number).getD (0 / 0)

end Record

end LogQuery
