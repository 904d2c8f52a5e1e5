import NodeTuning.Text.Basic

/-!
Addresses to listen on. An IPv4 address stands before its port, an IPv6 address in square brackets
with an optional scope. IPv6 addresses are written after RFC 5952: lowercase groups without leading
zeros, the longest run of at least two zero groups as two colons, and IPv4-mapped ones with dots.
-/
namespace NodeTuning

inductive SocketAddress where
  | v4 (octets : List Nat) (port : Nat)
  | v6 (groups : List Nat) (scope port : Nat)
  deriving DecidableEq

namespace SocketAddress
open NodeTuning.Text

private def expect (c : Char) : List Char → Option (List Char)
  | first :: rest => if first = c then some rest else none
  | [] => none

private def hexDigit? (c : Char) : Option Nat :=
  if c.isDigit then some (c.toNat - 48)
  else if 'a' ≤ c && c ≤ 'f' then some (c.toNat - 87)
  else if 'A' ≤ c && c ≤ 'F' then some (c.toNat - 55)
  else none

private def digitRun (isDigit : Char → Bool) (input : List Char) : List Char × List Char :=
  (input.takeWhile isDigit, input.dropWhile isDigit)

/-- An octet has one to three digits, no needless zero in front, and is below 256. -/
private def octet (input : List Char) : Option (Nat × List Char) :=
  let (digits, rest) := digitRun Char.isDigit input
  let value := Nat.ofDigitChars 10 digits 0
  if digits.isEmpty || 3 < digits.length || 255 < value then none
  else if 1 < digits.length && digits.head? = some '0' then none
  else some (value, rest)

private def fourOctets (input : List Char) : Option (List Nat × List Char) := do
  let (a, rest) ← octet input
  let rest ← expect '.' rest
  let (b, rest) ← octet rest
  let rest ← expect '.' rest
  let (c, rest) ← octet rest
  let rest ← expect '.' rest
  let (d, rest) ← octet rest
  some ([a, b, c, d], rest)

/-- A group has one to four hexadecimal digits. -/
private def group (input : List Char) : Option (Nat × List Char) :=
  let (digits, rest) := digitRun (fun c => (hexDigit? c).isSome) input
  if digits.isEmpty || 4 < digits.length then none
  else some ((digits.filterMap hexDigit?).foldl (fun n digit => n * 16 + digit) 0, rest)

private def separated (isFirst : Bool) (input : List Char) : Option (List Char) :=
  if isFirst then some input else expect ':' input

/-- As many groups as there are, up to a limit. The last two may be written as four octets; whether
they are is the second part of the result. -/
private def groups : Nat → Bool → List Char → List Nat × Bool × List Char
  | 0, _, input => ([], false, input)
  | limit + 1, isFirst, input =>
    let dotted := if limit = 0 then none else (separated isFirst input).bind fourOctets
    match dotted with
    | some ([a, b, c, d], rest) => ([a * 256 + b, c * 256 + d], true, rest)
    | _ =>
      match (separated isFirst input).bind group with
      | none => ([], false, input)
      | some (value, rest) =>
        let (more, endsDotted, left) := groups limit false rest
        (value :: more, endsDotted, left)

private def eightGroups (input : List Char) : Option (List Nat × List Char) := do
  let (front, endsDotted, rest) := groups 8 true input
  if front.length = 8 then some (front, rest)
  else if endsDotted then none
  else
    let rest ← expect ':' rest
    let rest ← expect ':' rest
    let (back, _, rest) := groups (7 - front.length) true rest
    some (front ++ List.replicate (8 - front.length - back.length) 0 ++ back, rest)

private def number (limit : Nat) (input : List Char) : Option (Nat × List Char) :=
  let (digits, rest) := digitRun Char.isDigit input
  let value := Nat.ofDigitChars 10 digits 0
  if digits.isEmpty || limit ≤ value then none else some (value, rest)

private def port (input : List Char) : Option (Nat × List Char) := do
  let rest ← expect ':' input
  number UInt16.size rest

private def scope (input : List Char) : Option (Nat × List Char) := do
  let rest ← expect '%' input
  number UInt32.size rest

private def readV4 (input : List Char) : Option (SocketAddress × List Char) := do
  let (octets, rest) ← fourOctets input
  let (value, rest) ← port rest
  some (.v4 octets value, rest)

private def readV6 (input : List Char) : Option (SocketAddress × List Char) := do
  let rest ← expect '[' input
  let (groups, rest) ← eightGroups rest
  let (zone, rest) := (scope rest).getD (0, rest)
  let rest ← expect ']' rest
  let (value, rest) ← port rest
  some (.v6 groups zone value, rest)

def read? (input : String) : Option SocketAddress :=
  match (readV4 input.toList).or (readV6 input.toList) with
  | some (address, []) => some address
  | _ => none

private def octetsText (octets : List Nat) : String := join "." (octets.map toString)

private def groupsText (groups : List Nat) : String :=
  join ":" (groups.map fun n => String.ofList (Nat.toDigits 16 n))

private def zeroRun (groups : List Nat) : Nat := (groups.takeWhile (· = 0)).length

/-- Start and length of the longest run of zeros, the first of them if there are several. -/
private def longestZeroRun (groups : List Nat) : Nat × Nat :=
  (List.range groups.length).foldl (fun best start =>
    let size := zeroRun (groups.drop start)
    if best.2 < size then (start, size) else best) (0, 0)

private def addressText (groups : List Nat) : String :=
  match groups with
  | [0, 0, 0, 0, 0, 0xFFFF, a, b] =>
    "::ffff:" ++ octetsText [a / 256, a % 256, b / 256, b % 256]
  | _ =>
    let (start, size) := longestZeroRun groups
    if 1 < size then
      groupsText (groups.take start) ++ "::" ++ groupsText (groups.drop (start + size))
    else groupsText groups

def text : SocketAddress → String
  | .v4 octets port => octetsText octets ++ s!":{port}"
  | .v6 groups scope port =>
    let zone := if scope = 0 then "" else s!"%{scope}"
    "[" ++ addressText groups ++ zone ++ s!"]:{port}"

end SocketAddress
end NodeTuning
