import LogQuery.Decimal.Layout
import LogQuery.Decimal.Reader
import LogQuery.Text.Hex
import LogQuery.Text.Split

/-!
# Socket addresses

The address at which a server listens: an address of the fourth or the sixth version of the internet
protocol, and a port. The older kind is written as four decimal numbers with points between them.
The newer kind is written in brackets as eight hexadecimal numbers with colons between them, of
which a run of zeros may be left out between two colons; the last two numbers may be written in the
older way, and a scope may follow after a percent sign. Either is followed by a colon and the port.

In the canonical form the longest run of at least two zeros is left out, the first of equally long
ones, and an address of the older kind that is mapped into the newer kind keeps its own form.
-/

namespace LogQuery

open Text Decimal

/-- Where a server listens. -/
inductive SocketAddress where
  /-- An address of four bytes, and a port. -/
  | v4 (bytes : List Nat) (port : Nat)
  /-- An address of eight groups, a scope and a port. -/
  | v6 (groups : List Nat) (scope port : Nat)
  deriving DecidableEq

namespace SocketAddress

/-- A reader takes something off the front of a text. -/
abbrev Reader (α : Type) := List Char → Option (α × List Char)

/-- The value of digits in a base. -/
def valueIn (base : Nat) (ds : List Nat) : Nat := ds.foldl (fun n d => n * base + d) 0

/-- A decimal number below a bound, as many digits as there are. -/
def decimal? (bound : Nat) : Reader Nat := fun s => do
  let (ds, rest) ← run? isDigit s
  let n := digitsValue ds
  if n < bound then some (n, rest) else none

/-- A byte: a decimal number of at most three digits without a superfluous zero in front. -/
def byte? : Reader Nat := fun s => do
  let (ds, rest) ← run? isDigit s
  let n := digitsValue ds
  if ds.length ≤ 3 ∧ n < 256 ∧ (ds.length = 1 ∨ ds.head? ≠ some '0') then some (n, rest) else none

/-- A group: a hexadecimal number of at most four digits. -/
def group? : Reader Nat := fun s => do
  let (ds, rest) ← run? (hexValue? · |>.isSome) s
  if ds.length ≤ 4 then some (valueIn 16 (ds.filterMap hexValue?), rest) else none

/-- Four bytes with points between them. -/
def bytes? : Reader (List Nat) := fun s => do
  let (a, s) ← byte? s
  let (b, s) ← byte? (← after? ['.'] s)
  let (c, s) ← byte? (← after? ['.'] s)
  let (d, s) ← byte? (← after? ['.'] s)
  return ([a, b, c, d], s)

/-- The two groups that four bytes make. -/
def groupsOfBytes : List Nat → List Nat
  | [a, b, c, d] => [256 * a + b, 256 * c + d]
  | _ => []

/-- At most so many groups with colons between them, whether four bytes are written at their end,
and the rest. A colon precedes the first one unless `first`. -/
def groups : (room : Nat) → (first : Bool) → List Char → List Nat × Bool × List Char
  | 0, _, s => ([], false, s)
  | room + 1, first, s =>
    match if first then some s else after? [':'] s with
    | none => ([], false, s)
    | some start =>
      match if room = 0 then none else bytes? start with
      | some (four, rest) => (groupsOfBytes four, true, rest)
      | none =>
        match group? start with
        | some (n, rest) =>
          let (more, mixed, rest) := groups room false rest
          (n :: more, mixed, rest)
        | none => ([], false, s)

/-- Eight groups, a run of zeros being left out or not. -/
def eightGroups? : Reader (List Nat) := fun s =>
  let (front, mixed, rest) := groups 8 true s
  if front.length = 8 then some (front, rest)
  else if mixed then none
  else do
    let rest ← after? [':', ':'] rest
    let (back, _, rest) := groups (7 - front.length) true rest
    return (front ++ List.replicate (8 - front.length - back.length) 0 ++ back, rest)

/-- A scope after a percent sign, zero without one. -/
def scope? : Reader Nat := fun s =>
  match after? ['%'] s with
  | some rest => decimal? UInt32.size rest
  | none => some (0, s)

/-- A port after a colon, at the end of the text. -/
def port? (s : List Char) : Option Nat := do
  match ← decimal? UInt16.size (← after? [':'] s) with
  | (port, []) => some port
  | _ => none

/-- The older kind of address. -/
def parseV4? (s : List Char) : Option SocketAddress := do
  let (bytes, rest) ← bytes? s
  return .v4 bytes (← port? rest)

/-- The newer kind of address. -/
def parseV6? (s : List Char) : Option SocketAddress := do
  let (groups, rest) ← eightGroups? (← after? ['['] s)
  let (scope, rest) ← scope? rest
  return .v6 groups scope (← port? (← after? [']'] rest))

/-- The address that a text denotes. -/
def parse? (s : List Char) : Option SocketAddress := (parseV4? s).or (parseV6? s)

/-- The address of a host and a port. -/
def ofHost? (host : String) (port : UInt16) : Option SocketAddress :=
  parse? (host.toList ++ ':' :: digits port.toNat)

/-- The message when a text denotes no address. -/
def syntaxMessage : String := "invalid socket address syntax"

/-! ## The canonical form -/

/-- The hexadecimal digits of a group without superfluous zeros in front. -/
def groupText (n : Nat) : List Char := Nat.toDigits 16 n

/-- Groups with colons between them. -/
def groupsText (groups : List Nat) : List Char := joined [':'] (groups.map groupText)

/-- Bytes with points between them. -/
def bytesText (bytes : List Nat) : List Char := joined ['.'] (bytes.map digits)

/-- How many zeros a list starts with. -/
def leadingZeros (groups : List Nat) : Nat := (groups.takeWhile (· = 0)).length

/-- Where the longest run of zeros starts, the first of equally long ones, and how long it is. -/
def longestRun (groups : List Nat) : Nat × Nat :=
  (List.range groups.length).foldl
    (fun best start =>
      let size := leadingZeros (groups.drop start)
      if best.2 < size then (start, size) else best)
    (0, 0)

/-- The canonical form of eight groups. -/
def addressText (groups : List Nat) : List Char :=
  match groups with
  | [0, 0, 0, 0, 0, 0xffff, high, low] =>
    "::ffff:".toList ++ bytesText [high / 256, high % 256, low / 256, low % 256]
  | _ =>
    let (start, size) := longestRun groups
    if 1 < size then
      groupsText (groups.take start) ++ [':', ':'] ++ groupsText (groups.drop (start + size))
    else groupsText groups

/-- The canonical form of an address. -/
def text : SocketAddress → List Char
  | v4 bytes port => bytesText bytes ++ ':' :: digits port
  | v6 groups scope port =>
    let scopeText := if scope = 0 then [] else '%' :: digits scope
    '[' :: (addressText groups ++ scopeText ++ ']' :: ':' :: digits port)

end SocketAddress

end LogQuery
