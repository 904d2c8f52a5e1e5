import NodeTuning.Text.Base64

/-!
The values of a query string: letters, digits and the marks `*`, `-`, `.`, `_` stand for themselves,
a space is written as a plus sign, and every other byte as a percent sign and two digits.
-/
namespace NodeTuning.Text.FormEncoded

private def isPlain (c : Char) : Bool :=
  c.isAlphanum || c = '*' || c = '-' || c = '.' || c = '_'

private def hexDigit (n : Nat) : Char := (Nat.digitChar n).toUpper

def encodeByte (byte : UInt8) : List Char :=
  let c := Char.ofNat byte.toNat
  if byte.toNat < 128 && isPlain c then [c]
  else if c = ' ' then ['+']
  else ['%', hexDigit (byte.toNat / 16), hexDigit (byte.toNat % 16)]

/-- A text as a value of a query string. -/
def encode (text : String) : String :=
  String.ofList ((Base64.bytes text).flatMap encodeByte)

end NodeTuning.Text.FormEncoded
