import LogQuery.Json.Number
import LogQuery.Text.Bytes
import LogQuery.Text.Hex

/-!
# Reading JSON

The grammar of JSON documents. Between the marks of a document there may be spaces, tabs, line feeds
and carriage returns; around the whole document too, and nothing else may follow it. A string may
hold any character but the control characters below the space; the escape of a code unit stands for
a character alone or, for the characters beyond the first plane, as the second of a surrogate pair.

A reader takes the document off the front of a text and gives back what follows. The readers of
values and of the parts of arrays and objects call each other, so they carry a bound on how often:
two calls for each character of the text are enough.
-/

namespace LogQuery.Json

open LogQuery.Text

/-- Whether a character may stand between the marks of a document. -/
def isSpace (c : Char) : Bool := c = ' ' || c = '\n' || c = '\t' || c = '\r'

/-- The text without the blank characters it starts with. -/
def skipSpace (s : List Char) : List Char := s.dropWhile isSpace

/-- The code unit that four hexadecimal digits denote. -/
def codeUnit? (a b c d : Char) : Option Nat := do
  return 4096 * (← hexValue? a) + 256 * (← hexValue? b) + 16 * (← hexValue? c) + (← hexValue? d)

/-- Whether a code unit is the first half of a surrogate pair. -/
def isHighSurrogate (unit : Nat) : Bool := 0xD800 ≤ unit && unit ≤ 0xDBFF

/-- Whether a code unit is the second half of a surrogate pair. -/
def isLowSurrogate (unit : Nat) : Bool := 0xDC00 ≤ unit && unit ≤ 0xDFFF

/-- The character that a surrogate pair denotes. -/
def pairChar (high low : Nat) : Char :=
  Char.ofNat (0x10000 + 1024 * (high - 0xD800) + (low - 0xDC00))

/-- The character that a one-letter escape denotes. -/
def escapedChar? (c : Char) : Option Char :=
  if c = '"' ∨ c = '\\' ∨ c = '/' then some c
  else if c = 'b' then some '\x08'
  else if c = 'f' then some '\x0c'
  else if c = 'n' then some '\n'
  else if c = 'r' then some '\r'
  else if c = 't' then some '\t'
  else none

/-- What a string is written with. -/
inductive StringUnit where
  /-- A character, by itself or by a one-letter escape. -/
  | char (c : Char)
  /-- A code unit, by four hexadecimal digits. -/
  | code (unit : Nat)

/-- The units of a string after its opening mark, and what follows its closing one. -/
def stringUnits? : List Char → Option (List StringUnit × List Char)
  | [] => none
  | '"' :: rest => some ([], rest)
  | '\\' :: 'u' :: a :: b :: c :: d :: rest => do
    let unit ← codeUnit? a b c d
    let (units, rest) ← stringUnits? rest
    return (.code unit :: units, rest)
  | '\\' :: c :: rest => do
    let character ← escapedChar? c
    let (units, rest) ← stringUnits? rest
    return (.char character :: units, rest)
  | c :: rest =>
    if c.toNat < 0x20 then none
    else do
      let (units, rest) ← stringUnits? rest
      return (.char c :: units, rest)

/-- The text that units denote: none when a half of a surrogate pair stands alone. -/
def unitsText? : List StringUnit → Option (List Char)
  | [] => some []
  | .char c :: rest => (unitsText? rest).map (c :: ·)
  | .code high :: .code low :: rest =>
    if isHighSurrogate high then
      if isLowSurrogate low then (unitsText? rest).map (pairChar high low :: ·) else none
    else if isLowSurrogate high then none
    else (unitsText? (.code low :: rest)).map (Char.ofNat high :: ·)
  | .code unit :: rest =>
    if isHighSurrogate unit || isLowSurrogate unit then none
    else (unitsText? rest).map (Char.ofNat unit :: ·)

/-- A string after its opening mark, and what follows its closing one. -/
def stringRest? (s : List Char) : Option (Option String × List Char) := do
  let (units, rest) ← stringUnits? s
  return ((unitsText? units).map String.ofList, rest)

/-- The object with the given members, which denotes nothing when one of their names does not. -/
def objectOf (members : List (Option String × Json)) : Json :=
  match members.mapM fun (name, item) => name.map (·, item) with
  | some members => .object members
  | none => .meaningless

mutual

/-- The document that a text starts with, and what follows it. -/
def value? : (calls : Nat) → List Char → Option (Json × List Char)
  | 0, _ => none
  | calls + 1, s =>
    match skipSpace s with
    | 'n' :: 'u' :: 'l' :: 'l' :: rest => some (.null, rest)
    | 't' :: 'r' :: 'u' :: 'e' :: rest => some (.boolean true, rest)
    | 'f' :: 'a' :: 'l' :: 's' :: 'e' :: rest => some (.boolean false, rest)
    | '"' :: rest => do
      let (text, rest) ← stringRest? rest
      return ((text.map Json.string).getD .meaningless, rest)
    | '[' :: rest =>
      match skipSpace rest with
      | ']' :: rest => some (.array [], rest)
      | rest => do
        let (items, rest) ← items? calls rest
        return (.array items, rest)
    | '\x7b' :: rest =>
      match skipSpace rest with
      | '\x7d' :: rest => some (.object [], rest)
      | rest => do
        let (members, rest) ← members? calls rest
        return (objectOf members, rest)
    | rest => do
      let (numeral, rest) ← numeral? rest
      return (numeral.toJson, rest)

/-- The items of an array up to its closing bracket, at least one. -/
def items? : (calls : Nat) → List Char → Option (List Json × List Char)
  | 0, _ => none
  | calls + 1, s => do
    let (item, rest) ← value? calls s
    match skipSpace rest with
    | ',' :: rest =>
      let (items, rest) ← items? calls rest
      return (item :: items, rest)
    | ']' :: rest => return ([item], rest)
    | _ => none

/-- The members of an object up to its closing bracket, at least one. -/
def members? : (calls : Nat) → List Char → Option (List (Option String × Json) × List Char)
  | 0, _ => none
  | calls + 1, s => do
    let '"' :: rest := skipSpace s | none
    let (name, rest) ← stringRest? rest
    let ':' :: rest := skipSpace rest | none
    let (item, rest) ← value? calls rest
    match skipSpace rest with
    | ',' :: rest =>
      let (members, rest) ← members? calls rest
      return ((name, item) :: members, rest)
    | '\x7d' :: rest => return ([(name, item)], rest)
    | _ => none

end

/-- The document that a text denotes. -/
def parse? (s : List Char) : Option Json := do
  let (document, rest) ← value? (2 * s.length + 2) s
  match skipSpace rest with
  | [] => some document
  | _ => none

/-- What a byte that is not part of well-formed UTF-8 is read as. Half of a surrogate pair, which
the letters around it keep from any other half, it denotes nothing inside a string; outside of
strings or after a backslash it is no part of a document. -/
def illFormedMark : List Char := ['x', '\\', 'u', 'd', '8', '0', '0', 'x']

/-- The document that bytes denote. -/
def ofBytes? (bytes : ByteArray) : Option Json :=
  match String.fromUTF8? bytes with
  | some text => parse? text.toList
  | none => parse? (decodeMarking illFormedMark bytes 0)

end LogQuery.Json
