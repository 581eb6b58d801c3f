import LogQuery.Text.Split

/-!
# Texts in bytes

Files and the standard input hold bytes, and so do the names of files. They denote a text when they
are well-formed UTF-8 throughout. Bytes that are not can still be read line by line as far as they
are, since a line feed is never part of another character, or character by character with a mark for
each byte that belongs to none. To a reader they are shown with one mark for each longest part that
could have become a character.
-/

namespace LogQuery.Text

/-- The bytes of a text. -/
def bytes (text : String) : List UInt8 := text.toUTF8.data.toList

/-- The text that bytes denote, unless they are not well-formed. -/
def text? (bytes : List UInt8) : Option String := String.fromUTF8? bytes.toByteArray

/-- The characters that bytes denote, unless they are not well-formed. -/
def decode? (bytes : List UInt8) : Option (List Char) := (text? bytes).map String.toList

/-- The lines before the first one that is not well-formed. Each of them ends in a line feed. -/
def wellFormedLines (bytes : ByteArray) : List (List Char) :=
  ((bytes.toList.splitOn 10).map decode?).takeWhile Option.isSome |>.filterMap (·.map dropReturn)

/-- The lines of a text in bytes up to the first one that is not well-formed, and whether they are
all the lines. -/
def decodedLines (bytes : ByteArray) : List (List Char) × Bool :=
  match String.fromUTF8? bytes with
  | some text => (lines text.toList, true)
  | none => (wellFormedLines bytes, false)

/-- The characters from the byte at `start` on, with `mark` in place of each byte that belongs to
none. -/
def decodeMarking (mark : List Char) (bytes : ByteArray) (start : Nat) : List Char :=
  if start < bytes.size then
    match bytes.utf8DecodeChar? start with
    | some c => c :: decodeMarking mark bytes (start + c.utf8Size)
    | none => mark ++ decodeMarking mark bytes (start + 1)
  else []
termination_by bytes.size - start
decreasing_by
  · have := c.utf8Size_pos; omega
  · omega

/-- Whether two or three bytes are what a longer character begins with: any bytes that go on with a
character then complete it. -/
def beginsCharacter (bytes : List UInt8) : Bool :=
  match (bytes ++ [0x80, 0x80]).toByteArray.utf8DecodeChar? 0 with
  | some c => bytes.length < c.utf8Size
  | none => false

/-- How many of the bytes that begin with no character are shown by one mark. -/
def markedLength (bytes : List UInt8) : Nat :=
  if 3 ≤ bytes.length ∧ beginsCharacter (bytes.take 3) then 3
  else if 2 ≤ bytes.length ∧ beginsCharacter (bytes.take 2) then 2
  else 1

/-- The characters of bytes as they are shown to a reader. -/
def shownCharacters : List UInt8 → List Char
  | [] => []
  | first :: rest =>
    match (first :: rest).toByteArray.utf8DecodeChar? 0 with
    | some c => c :: shownCharacters (rest.drop (c.utf8Size - 1))
    | none => '\uFFFD' :: shownCharacters (rest.drop (markedLength (first :: rest) - 1))
termination_by bytes => bytes.length
decreasing_by all_goals simp only [List.length_drop, List.length_cons]; omega

/-! ## Bytes of texts -/

theorem fromUTF8?_toUTF8 (text : String) : String.fromUTF8? text.toUTF8 = some text := by
  show String.fromUTF8? text.toByteArray = some text
  simp [String.fromUTF8?, String.fromUTF8, text.isValidUTF8]

theorem toByteArray_bytes (text : String) : (bytes text).toByteArray = text.toUTF8 :=
  ByteArray.ext (List.data_toByteArray.trans Array.toArray_toList)

/-- Bytes denote a text exactly when they are its bytes. -/
theorem text?_eq_some_iff {s : List UInt8} {text : String} :
    text? s = some text ↔ s = bytes text := by
  constructor
  · intro h
    unfold text? String.fromUTF8? at h
    split at h
    · obtain rfl := Option.some.inj h
      exact (congrArg Array.toList List.data_toByteArray).symm
    · cases h
  · rintro rfl
    rw [text?, toByteArray_bytes, fromUTF8?_toUTF8]

/-- The lines of a well-formed text in bytes are the lines of the text. -/
theorem decodedLines_toUTF8 (text : String) :
    decodedLines text.toUTF8 = (lines text.toList, true) := by
  rw [decodedLines, fromUTF8?_toUTF8]

end LogQuery.Text
