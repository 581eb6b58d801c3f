import LogQuery.Decimal.Layout
import LogQuery.Json.Basic
import LogQuery.Text.Hex
import LogQuery.Text.Split

/-!
# Printing JSON

A document is printed either compactly, without any blank characters, or indented by two spaces a
level, where empty arrays and objects stay on one line. In strings only the quotation mark, the
backslash and the control characters below the space are escaped, by the short escape where there is
one and by four lower-case hexadecimal digits otherwise.

Floating-point numbers are written by their shortest digits, with `.0` after a whole number, and in
scientific notation when the exponent of the leading digit is below -5 or above 15.
-/

namespace LogQuery.Json

open LogQuery.Decimal LogQuery.Text

/-- How floating-point numbers are written in a document. -/
def floatStyle : Style where
  tie := .toEven
  wholeSuffix := ['.', '0']
  positional := some (-5, 15)

/-- A character as it stands inside a string. -/
def escape (c : Char) : List Char :=
  if c = '"' then ['\\', '"']
  else if c = '\\' then ['\\', '\\']
  else if c = '\x08' then ['\\', 'b']
  else if c = '\x0c' then ['\\', 'f']
  else if c = '\n' then ['\\', 'n']
  else if c = '\r' then ['\\', 'r']
  else if c = '\t' then ['\\', 't']
  else if c.toNat < 0x20 then
    ['\\', 'u', '0', '0', hexDigit (c.toNat / 16), hexDigit (c.toNat % 16)]
  else [c]

/-- A text between quotation marks. -/
def quote (s : List Char) : List Char := '"' :: (s.flatMap escape ++ ['"'])

/-- A document that holds no other document. -/
def leafText : Json → List Char
  | .boolean true => ['t', 'r', 'u', 'e']
  | .boolean false => ['f', 'a', 'l', 's', 'e']
  | .integer n => wholeText n
  | .float x => floatStyle.writeFinite x
  | .string s => quote s.toList
  | _ => ['n', 'u', 'l', 'l']

mutual

/-- A document without blank characters. -/
def compact : Json → List Char
  | .array items => '[' :: (joined [','] (compactItems items) ++ [']'])
  | .object members => '\x7b' :: (joined [','] (compactMembers members) ++ ['\x7d'])
  | leaf => leafText leaf

/-- The items of an array, each without blank characters. -/
def compactItems : List Json → List (List Char)
  | [] => []
  | item :: rest => compact item :: compactItems rest

/-- The members of an object, each without blank characters. -/
def compactMembers : List (String × Json) → List (List Char)
  | [] => []
  | (name, item) :: rest => (quote name.toList ++ ':' :: compact item) :: compactMembers rest

end

/-- A line feed and the indentation of a level. -/
def newline (level : Nat) : List Char := '\n' :: List.replicate (2 * level) ' '

/-- Texts between brackets, each on a line of its own one level further in. -/
def bracketed (level : Nat) (opening closing : Char) : List (List Char) → List Char
  | [] => [opening, closing]
  | texts =>
    opening :: (newline (level + 1) ++ joined (',' :: newline (level + 1)) texts ++
      newline level ++ [closing])

mutual

/-- A document indented as the given level asks for. -/
def indented (level : Nat) : Json → List Char
  | .array items => bracketed level '[' ']' (indentedItems (level + 1) items)
  | .object members => bracketed level '\x7b' '\x7d' (indentedMembers (level + 1) members)
  | leaf => leafText leaf

/-- The items of an array, each indented as the given level asks for. -/
def indentedItems (level : Nat) : List Json → List (List Char)
  | [] => []
  | item :: rest => indented level item :: indentedItems level rest

/-- The members of an object, each indented as the given level asks for. -/
def indentedMembers (level : Nat) : List (String × Json) → List (List Char)
  | [] => []
  | (name, item) :: rest =>
    (quote name.toList ++ ':' :: ' ' :: indented level item) :: indentedMembers level rest

end

/-- A document as compact text. -/
def compactText (document : Json) : String := String.ofList document.compact

/-- A document as indented text. -/
def indentedText (document : Json) : String := String.ofList (document.indented 0)

end LogQuery.Json
