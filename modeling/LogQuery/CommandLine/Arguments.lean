import LogQuery.Decimal.Reader
import LogQuery.Text.Split

/-!
# Arguments

A program is started with a list of arguments: options, operands, and for some programs the name of
a command, which takes all arguments behind it. An option has a long name after two dashes and maybe
a letter after one dash. The value of an option is the next argument, unless it follows in the same
argument, behind an equality sign or directly behind the letter. Several letters can share a dash as
long as only the last of them takes a value. Two dashes alone make operands of all arguments behind
them; a single dash alone is an operand, or a value.

What an argument list says is read strictly: an unknown option, an option without its value, a value
that is given twice and a superfluous operand make the whole list mean nothing.
-/

namespace LogQuery.CommandLine

open Text Decimal

/-- An option that a program knows. -/
structure OptionRule where
  /-- The long name. -/
  name : String
  letter : Option Char := none
  takesValue : Bool := true

/-- The arguments that a program knows. -/
structure Rules where
  options : List OptionRule := []
  commands : List String := []
  /-- How many operands there can be. -/
  operands : Nat := 0

/-- What a list of arguments says. -/
structure Arguments where
  /-- The names of the given options in order, with their values. -/
  options : List (String × String) := []
  /-- The operands in order. -/
  operands : List String := []
  /-- The command with the arguments behind it. -/
  command : Option (String × List String) := none

/-- What the next argument is expected to be. -/
inductive Expecting where
  | anything
  | value (name : String)
  | operand

namespace Arguments

/-- The arguments with options in front. -/
def withOptions (given : List (String × String)) (arguments : Arguments) : Arguments :=
  { arguments with options := given ++ arguments.options }

/-- The arguments with an operand in front. -/
def withOperand (text : String) (arguments : Arguments) : Arguments :=
  { arguments with operands := text :: arguments.operands }

/-- The value of an option. -/
def value? (arguments : Arguments) (name : String) : Option String := arguments.options.lookup name

/-- How often an option is given. -/
def count (arguments : Arguments) (name : String) : Nat :=
  arguments.options.countP (·.1 == name)

end Arguments

namespace Rules

/-- The option that a text behind two dashes gives, and what is expected next. -/
def long? (rules : Rules) (text : List Char) : Option (List (String × String) × Expecting) :=
  let (name, attached) := match cut? ['='] text with
    | some (name, value) => (String.ofList name, some (String.ofList value))
    | none => (String.ofList text, none)
  match rules.options.find? (·.name == name), attached with
  | none, _ => none
  | some rule, some value =>
    if rule.takesValue then some ([(rule.name, value)], .anything) else none
  | some rule, none =>
    some (if rule.takesValue then ([], .value rule.name) else ([(rule.name, "")], .anything))

/-- The options that letters behind one dash give, and what is expected next. -/
def letters? (rules : Rules) : List Char → Option (List (String × String) × Expecting)
  | [] => some ([], .anything)
  | c :: rest => do
    let rule ← rules.options.find? (·.letter == some c)
    if rule.takesValue then
      match rest with
      | [] => return ([], .value rule.name)
      | '=' :: value => return ([(rule.name, String.ofList value)], .anything)
      | value => return ([(rule.name, String.ofList value)], .anything)
    else
      let (given, expecting) ← rules.letters? rest
      return ((rule.name, "") :: given, expecting)

/-- What a list of arguments says, the first of them being expected to be something. -/
def scan? (rules : Rules) : Expecting → List String → Option Arguments
  | .value _, [] => none
  | _, [] => some {}
  | .operand, text :: rest => (rules.scan? .operand rest).map (.withOperand text)
  | .value name, text :: rest =>
    match text.toList with
    | '-' :: _ :: _ => none
    | _ => (rules.scan? .anything rest).map (.withOptions [(name, text)])
  | .anything, text :: rest =>
    if rules.commands.contains text then some { command := some (text, rest) }
    else
      match text.toList with
      | ['-', '-'] => rules.scan? .operand rest
      | '-' :: '-' :: option => do
        let (given, expecting) ← rules.long? option
        return (← rules.scan? expecting rest).withOptions given
      | '-' :: c :: letters => do
        let (given, expecting) ← rules.letters? (c :: letters)
        return (← rules.scan? expecting rest).withOptions given
      | _ => (rules.scan? .anything rest).map (.withOperand text)

/-- Whether no value is given twice and no operand is superfluous. -/
def allow (rules : Rules) (arguments : Arguments) : Bool :=
  rules.options.all (fun rule => !rule.takesValue || arguments.count rule.name ≤ 1) &&
    arguments.operands.length ≤ rules.operands

/-- What a list of arguments says. -/
def parse? (rules : Rules) (list : List String) : Option Arguments :=
  (rules.scan? .anything list).filter rules.allow

end Rules

/-! ## Values -/

/-- The number that a text of digits denotes, with a plus sign or not. -/
def unsigned? (text : List Char) : Option Nat :=
  let ds := (after? ['+'] text).getD text
  if ds ≠ [] ∧ ds.all isDigit then some (digitsValue ds) else none

/-- The number of 64 bits that a text denotes. -/
def word? (text : String) : Option UInt64 := do
  let n ← unsigned? text.toList
  if n < UInt64.size then some n.toUInt64 else none

/-- The port that a text denotes. Zero may have a minus sign. -/
def port? (text : String) : Option UInt16 := do
  let n ← match after? ['-'] text.toList with
    | some ds => if ds.head? = some '+' then none else (unsigned? ds).filter (· = 0)
    | none => unsigned? text.toList
  if n < UInt16.size then some n.toUInt16 else none

/-- The path that a text denotes. -/
def path? (text : String) : Option String := if text = "" then none else some text

/-- The value that an option denotes: none when what is given denotes nothing, and `default` when
nothing is given. -/
def Arguments.read? {α : Type} (arguments : Arguments) (name : String)
    (denoted? : String → Option α) (default : α) : Option α :=
  match arguments.value? name with
  | some text => denoted? text
  | none => some default

end LogQuery.CommandLine
