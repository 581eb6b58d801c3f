import LogQuery.Text.Split

/-!
# Media types

The type of a message body is announced as two tokens with a slash between them, of any size of
letters. A plus sign in the second token sets off a suffix. Parameters may follow, each after a
semicolon and spaces: a token, an equality sign, and a token or a text between quotation marks.
-/

namespace LogQuery.Api

open Text

/-- Whether a character may stand in a token. -/
def isTokenChar (c : Char) : Bool :=
  c.isAlphanum || "!#$%&'+-.^_`|~".toList.contains c

/-- Whether a character may stand between quotation marks. -/
def isQuotedChar (c : Char) : Bool := ' ' ≤ c && c ≠ '\x7f'

/-- What is read next of the parameters of a media type. -/
inductive ParameterPart where
  /-- The spaces before a parameter. -/
  | space
  /-- The rest of a name. -/
  | name
  /-- The first character of a value. -/
  | valueStart
  /-- The rest of a token. -/
  | token
  /-- The first character between quotation marks, which may itself be such a mark. -/
  | quotedStart
  /-- The rest of a text between quotation marks. -/
  | quoted
  /-- The spaces after the closing mark. -/
  | afterQuoted

/-- The part that follows a character, unless the character cannot stand there. -/
def ParameterPart.next? (part : ParameterPart) (c : Char) : Option ParameterPart :=
  match part with
  | space => if c = ' ' then some space else if isTokenChar c then some name else none
  | name => if isTokenChar c then some name else if c = '=' then some valueStart else none
  | valueStart => if c = '"' then some quotedStart else if isTokenChar c then some token else none
  | token => if isTokenChar c then some token else if c = ';' then some space else none
  | quotedStart => if isQuotedChar c then some quoted else none
  | quoted => if c = '"' then some afterQuoted else if isQuotedChar c then some quoted else none
  | afterQuoted => if c = ' ' then some afterQuoted else if c = ';' then some space else none

/-- Whether the parameters may end before a part. -/
def ParameterPart.mayEnd : ParameterPart → Bool
  | space | valueStart | token | afterQuoted => true
  | name | quotedStart | quoted => false

/-- Whether a text is a list of parameters. -/
def areParameters (text : List Char) : Bool :=
  match text.foldlM ParameterPart.next? .space with
  | some part => part.mayEnd
  | none => false

/-- Whether two tokens with a slash between them announce a document, with or without a suffix. -/
def announcesDocument (essence : List Char) : Bool :=
  match after? "application/json".toList (essence.map Char.toLower) with
  | some [] => true
  | some ('+' :: suffix) => suffix.all fun c => isTokenChar c && c ≠ '+'
  | _ => false

/-- Whether a media type is that of documents. -/
def isDocumentType (text : String) : Bool :=
  text.toList.all (fun c => c = '\t' || ' ' ≤ c && c < '\x7f') &&
    match cut? [';'] text.toList with
    | some (essence, parameters) => announcesDocument essence && areParameters parameters
    | none => announcesDocument text.toList

end LogQuery.Api
