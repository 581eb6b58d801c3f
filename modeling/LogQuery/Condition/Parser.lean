import LogQuery.Condition.Basic
import LogQuery.Decimal.Reader
import LogQuery.Text.Split
import LogQuery.Text.Word

/-!
# Reading conditions

A condition is read by looking for words, not by a grammar with precedence. The text is cut at every
` and ` into the parts of a conjunction, and each part at every ` or ` into those of a disjunction;
a text without the word is the part itself. What is left is a simple condition: the first operator
of a fixed list that occurs anywhere in it decides its kind. Quotation marks do not protect any of
these words. A text in which no operator occurs is a condition that never holds.
-/

namespace LogQuery.Condition

open Text Decimal

/-- Whether a character is one of the two quotation marks. -/
def isQuote (c : Char) : Bool := c = '"' || c = '\''

/-- A trimmed text without its double quotation marks. -/
def unquoted (s : List Char) : String := String.ofList ((trim s).filter (· ≠ '"'))

/-- A trimmed text. -/
def verbatim (s : List Char) : String := String.ofList (trim s)

/-- The comparisons with an operator between blanks, in the order in which they are looked for: the
operator, how its operands are taken, and the condition it makes. -/
def comparisons : List (List Char × (List Char → String) × (String → String → Condition)) :=
  [(" contains ".toList, unquoted, .contains), (" == ".toList, unquoted, .equals),
   (" != ".toList, unquoted, .differs), (" >= ".toList, verbatim, .atLeast),
   (" < ".toList, verbatim, .lessThan)]

/-- The comparison that a text denotes. Operands after the second are ignored. -/
def comparison? (s : List Char) : Option Condition :=
  comparisons.findSome? fun (operator, operand, make) =>
    match pieces operator s with
    | field :: value :: _ => some (make (operand field) (operand value))
    | _ => none

/-- The membership condition that a text starts with: a name, the word `in`, and values between
parentheses, separated by commas and taken without quotation marks. -/
def membershipAt? (s : List Char) : Option Condition := do
  let (field, s) ← run? isWord s
  let (_, s) ← run? isBlank s
  let s ← after? ['i', 'n'] s
  let s ← after? ['('] (trimStart s)
  let (values, s) ← run? (· ≠ ')') s
  let _ ← after? [')'] s
  return .oneOf (String.ofList field)
    ((values.splitOn ',').map fun value => String.ofList ((trim value).filter (!isQuote ·)))

/-- Whether a character may stand in the operator of an hour condition. -/
def isOrderSign (c : Char) : Bool := c = '<' || c = '=' || c = '>' || c = '!'

/-- The operator of an hour condition. -/
def hourOperator : List Char → HourOperator
  | ['>', '='] => .atLeast
  | ['<'] => .lessThan
  | ['=', '='] => .exactly
  | _ => .unsupported

/-- The greatest whole number that a query can name; greater ones are read as this one. -/
def maxWhole : Nat := 0x7FFFFFFFFFFFFFFF

/-- The number that a row of digits denotes, up to the greatest one. -/
def cappedValue (ds : List Char) : Nat := min (digitsValue ds) maxWhole

/-- The hour condition that a text starts with: the word `hourofday`, a name between parentheses, an
operator and a whole number. -/
def hourAt? (s : List Char) : Option Condition := do
  let s ← after? "hourofday(".toList s
  let (field, s) ← run? isWord s
  let s ← after? [')'] s
  let (operator, s) ← run? isOrderSign (trimStart s)
  let (ds, _) ← run? isDigit (trimStart s)
  return .hourOfDay (String.ofList field) (hourOperator operator) (cappedValue ds)

/-- The simple condition that a trimmed text denotes. -/
def leaf (s : List Char) : Condition :=
  let membership? := if occurs " in ".toList s then firstMatch? membershipAt? s else none
  ((comparison? s).or (membership?.or (firstMatch? hourAt? s))).getD
    (.unrecognized (String.ofList s))

/-- The condition that a trimmed text without ` and ` denotes. -/
def disjunction (s : List Char) : Condition :=
  match pieces " or ".toList s with
  | _ :: _ :: _ => .any ((pieces " or ".toList s).map fun part => leaf (trim part))
  | _ => leaf s

/-- The condition that a trimmed text denotes. -/
def conjunction (s : List Char) : Condition :=
  match pieces " and ".toList s with
  | _ :: _ :: _ => .all ((pieces " and ".toList s).map fun part => disjunction (trim part))
  | _ => disjunction s

/-- The condition that a text denotes. -/
def parse (text : String) : Condition := conjunction (trim text.toList)

end LogQuery.Condition
