import LogQuery.Json.Basic

/-!
# Fields of documents

A message is a document with fields of known names. It is written either as an object, whose members
may come in any order and may include others that do not count, or as an array of the fields in
their order, of which those at the end may be left out where the message allows it. A field must not
be given twice.
-/

namespace LogQuery.Json

/-- What a document gives for a field: nothing inside when it leaves the field out, nothing at all
when it gives the field twice. -/
def member? (members : List (String × Json)) (name : String) : Option (Option Json) :=
  match members.filter (·.1 == name) with
  | [] => some none
  | [(_, document)] => some (some document)
  | _ => none

/-- What a document gives for each of the named fields, of which an array may leave out so many at
the end. -/
def fields? (names : List String) (omissible : Nat) : Json → Option (List (Option Json))
  | .object members => names.mapM (member? members)
  | .array items =>
    if items.length ≤ names.length ∧ names.length ≤ items.length + omissible then
      some (items.map some ++ List.replicate (names.length - items.length) none)
    else none
  | _ => none

/-- The truth value that a document is. -/
def boolean? : Json → Option Bool
  | .boolean b => some b
  | _ => none

/-- The string that a document is. -/
def string? : Json → Option String
  | .string s => some s
  | _ => none

/-- The list of strings that a document is. -/
def strings? : Json → Option (List String)
  | .array items => items.mapM string?
  | _ => none

/-- The natural number that a document is. -/
def count? : Json → Option Nat
  | .integer n => if 0 ≤ n then some n.toNat else none
  | _ => none

/-- The number that a document is, as a floating-point number. -/
def float? : Json → Option Float
  | .integer n => some (Float.ofInt n)
  | .float x => some x
  | _ => none

/-- The list of records that a document is, `room` being how many arrays and objects may nest. -/
def rows? (room : Nat) : Json → Option (List Record)
  | .array items => items.mapM (toRecord? (room - 1))
  | _ => none

/-- What an optional field holds: nothing when it is left out or null. -/
def optional? {α : Type} (read? : Json → Option α) : Option Json → Option (Option α)
  | none => some none
  | some .null => some none
  | some document => (read? document).map some

end LogQuery.Json
