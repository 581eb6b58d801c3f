/-!
# Cutting texts

Searching a text for a separator, cutting it at the first occurrence or at every one, and cutting it
into lines. Occurrences are taken from the left and do not overlap, so a cut text has one piece more
than it has occurrences, and joining the pieces with the separator gives the text back.
-/

namespace LogQuery.Text

/-- What follows `start` in the text, when the text begins with it. -/
def after? : (start : List Char) → List Char → Option (List Char)
  | [], s => some s
  | _ :: _, [] => none
  | p :: ps, c :: cs => if p = c then after? ps cs else none

/-- The texts before and after the first occurrence of `sep`. -/
def cut? (sep : List Char) : List Char → Option (List Char × List Char)
  | [] => if sep.isEmpty then some ([], []) else none
  | c :: cs =>
    match after? sep (c :: cs) with
    | some rest => some ([], rest)
    | none => (cut? sep cs).map fun (before, rest) => (c :: before, rest)

/-- Whether `sep` occurs in the text. -/
def occurs (sep : List Char) : List Char → Bool
  | [] => sep.isEmpty
  | c :: cs => (after? sep (c :: cs)).isSome || occurs sep cs

/-- The pieces between the occurrences of `sep`, after `skip` characters that belong to an
occurrence found already. -/
def piecesAfter (sep : List Char) : (skip : Nat) → List Char → List (List Char)
  | _, [] => [[]]
  | skip + 1, _ :: cs => piecesAfter sep skip cs
  | 0, c :: cs =>
    if (after? sep (c :: cs)).isSome then [] :: piecesAfter sep (sep.length - 1) cs
    else (piecesAfter sep 0 cs).modifyHead (c :: ·)

/-- The pieces of a text between the occurrences of `sep`, which must not be empty. -/
def pieces (sep s : List Char) : List (List Char) := piecesAfter sep 0 s

/-- Texts one after the other with `sep` in between. -/
def joined (sep : List Char) : List (List Char) → List Char
  | [] => []
  | [text] => text
  | text :: rest => text ++ sep ++ joined sep rest

/-- The text without the first occurrence of `part`. -/
def eraseFirst (part s : List Char) : List Char :=
  match cut? part s with
  | some (before, rest) => before ++ rest
  | none => s

/-- The line without the carriage return it may end with. -/
def dropReturn (line : List Char) : List Char :=
  if line.getLast? = some '\r' then line.dropLast else line

/-- The lines of a text. A line ends in a line feed, or in a carriage return and a line feed; after
the last line feed there is a line only if some character follows. -/
def lines (s : List Char) : List (List Char) :=
  let parts := s.splitOn '\n'
  parts.dropLast.map dropReturn ++ parts.getLast?.toList.filter (!·.isEmpty)

/-- The result of the first suffix of the text that `match?` accepts, the text itself being tried
before every shorter one. -/
def firstMatch? {α : Type} (match? : List Char → Option α) : List Char → Option α
  | [] => match? []
  | c :: cs => (match? (c :: cs)).or (firstMatch? match? cs)

/-- The longest start of the text whose characters satisfy `p`, with the rest, unless it is
empty. -/
def run? (p : Char → Bool) (s : List Char) : Option (List Char × List Char) :=
  match s.takeWhile p with
  | [] => none
  | taken => some (taken, s.dropWhile p)

end LogQuery.Text
