import NodeTuning.Text.Basic

/-!
Numbers as they are written: a whole part, a fraction and an exponent, and whether the number is
within double precision. As many digits as fit into 64 bits are taken for the significand. The
others count as zeros if they stand before the point, and are dropped behind it. Both the
significand and the power of ten are rounded to 53 bits before they are multiplied.
-/
namespace NodeTuning.Json

structure NumberParts where
  negative : Bool
  whole : List Char
  fraction : List Char
  exponent : Int
  /-- Whether the literal is a whole part and nothing else. -/
  isWhole : Bool

namespace NumberParts

private def readFraction (text : List Char) : Option (List Char) :=
  match text with
  | [] => some []
  | '.' :: digits => if !digits.isEmpty && digits.all Char.isDigit then some digits else none
  | _ => none

private def readExponent (text : List Char) : Option Int :=
  match text with
  | [] => some 0
  | _ :: '+' :: digits => (Text.digits? digits).map fun n => (n : Int)
  | _ :: '-' :: digits => (Text.digits? digits).map fun n => -(n : Int)
  | _ :: digits => (Text.digits? digits).map fun n => (n : Int)

/-- The parts of the whole text. The whole part has no needless zero in front. -/
def read? (literal : List Char) : Option NumberParts :=
  let negative := literal.head? = some '-'
  let body := if negative then literal.drop 1 else literal
  let whole := body.takeWhile Char.isDigit
  let rest := body.dropWhile Char.isDigit
  let mark (c : Char) : Bool := c ≠ 'e' && c ≠ 'E'
  if whole.isEmpty || (whole.length > 1 && whole.head? = some '0') then none
  else do
    let fraction ← readFraction (rest.takeWhile mark)
    let exponent ← readExponent (rest.dropWhile mark)
    return ⟨negative, whole, fraction, exponent, rest.isEmpty⟩

/-- Takes digits while the number fits into 64 bits, and gives the digits that are left. -/
def takeDigits : Nat → List Char → Nat × List Char
  | taken, [] => (taken, [])
  | taken, c :: rest =>
    let next := taken * 10 + (c.toNat - 48)
    if next < UInt64.size then takeDigits next rest else (taken, c :: rest)

/-- The number with its 53 highest bits, and zeros for the others. A tie goes to the even one. -/
def roundTo53 (n : Nat) : Nat :=
  let unit := Nat.pow 2 (n.log2 - 52)
  let low := n / unit
  let rest := n % unit
  let up := unit < 2 * rest || (unit = 2 * rest && low % 2 = 1)
  (if up then low + 1 else low) * unit

/-- The least number that is rounded to no finite one: half a unit above the largest finite one. -/
def overflowBound : Nat := Nat.pow 2 1024 - Nat.pow 2 970

/-- Whether the number is within double precision. -/
def isFinite (parts : NumberParts) : Bool :=
  let (start, wholeLeft) := takeDigits 0 parts.whole
  let (significand, fractionLeft) := takeDigits start parts.fraction
  let exponent := parts.exponent + wholeLeft.length + fractionLeft.length - parts.fraction.length
  significand = 0 || exponent < 0 ||
    (exponent ≤ 308 &&
      roundTo53 significand * roundTo53 (Nat.pow 10 exponent.toNat) < overflowBound)

end NumberParts

/-- Whether a literal stands for a number within double precision. -/
def isFiniteLiteral (literal : String) : Bool :=
  (NumberParts.read? literal.toList).any (·.isFinite)

end NodeTuning.Json
