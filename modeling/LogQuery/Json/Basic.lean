import LogQuery.Value

/-!
# JSON documents

The tree that JSON text denotes, and its reading as a value. The tree keeps what the text says: the
members of an object in order with all repetitions, whole numbers up to sixty-four unsigned bits
apart from floating-point ones, and a mark for a string or number that follows the grammar but
denotes nothing, such as half of a surrogate pair or a number beyond the range of floating-point
numbers.

Reading a document as a value fails where the mark is met and where arrays and objects nest too
deep. A repeated member keeps its first place and its last value.
-/

namespace LogQuery

/-- A JSON document. -/
inductive Json where
  | null
  | boolean (b : Bool)
  /-- A number without point and exponent that fits 64 bits, signed or unsigned. -/
  | integer (n : Int)
  | float (x : Float)
  | string (s : String)
  | array (items : List Json)
  /-- An object with its members as they are written. -/
  | object (members : List (String × Json))
  /-- A string, number or object that follows the grammar and denotes nothing. -/
  | meaningless
  deriving Inhabited

namespace Json

/-- How many arrays and objects may stand inside one another. -/
def maxDepth : Nat := 127

/-- A whole number as a value: a floating-point one when it does not fit 64 signed bits. -/
def integerValue (n : Int) : Value :=
  if -0x8000000000000000 ≤ n ∧ n < 0x8000000000000000 then .integer (Int64.ofInt n)
  else .float (Float.ofInt n)

mutual

/-- The value that a document denotes, `room` being how many arrays and objects may still nest. -/
def toValue? (room : Nat) : Json → Option Value
  | .null => some .null
  | .boolean b => some (.boolean b)
  | .integer n => some (integerValue n)
  | .float x => some (.float x)
  | .string s => some (.string s)
  | .array items =>
    match room with
    | 0 => none
    | room + 1 => (toValues? room items).map .array
  | .object members =>
    match room with
    | 0 => none
    | room + 1 => (toFields? room members).map fun fields => .object (.ofPairs fields)
  | .meaningless => none

/-- The values of the items of an array. -/
def toValues? (room : Nat) : List Json → Option (List Value)
  | [] => some []
  | item :: rest => do return (← toValue? room item) :: (← toValues? room rest)

/-- The values of the members of an object. -/
def toFields? (room : Nat) : List (String × Json) → Option (List (String × Value))
  | [] => some []
  | (name, item) :: rest => do return (name, ← toValue? room item) :: (← toFields? room rest)

end

/-- The record that an object denotes. -/
def toRecord? (room : Nat) (document : Json) : Option Record := do
  match ← toValue? room document with
  | .object fields => some fields
  | _ => none

mutual

/-- The document that stands for a value. Floating-point numbers that are not finite have no number
in a document. -/
def ofValue : Value → Json
  | .null => .null
  | .boolean b => .boolean b
  | .integer n => .integer n.toInt
  | .float x => if x.isFinite then .float x else .null
  | .string s => .string s
  | .array items => .array (ofValues items)
  | .object ⟨entries⟩ => .object (ofEntries entries)

/-- The documents that stand for the items of a list. -/
def ofValues : List Value → List Json
  | [] => []
  | item :: rest => ofValue item :: ofValues rest

/-- The members that stand for the entries of a record. -/
def ofEntries : List (String × Value) → List (String × Json)
  | [] => []
  | (name, item) :: rest => (name, ofValue item) :: ofEntries rest

end

/-- The object that stands for a record. -/
def ofRecord (record : Record) : Json := .object (ofEntries record.entries)

/-- The array of objects that stands for the rows of a table. -/
def ofRows (rows : List Record) : Json := .array (rows.map ofRecord)

end Json

end LogQuery
