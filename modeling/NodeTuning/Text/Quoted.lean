import NodeTuning.Text.Hidden

/-!
Texts in messages stand in double quotes, with the characters that a reader could not see or tell
apart written as escapes.
-/
namespace NodeTuning.Text

/-- A code point in lowercase hexadecimal between braces. -/
def numbered (c : Char) : List Char :=
  ['\\', 'u', '\x7b'] ++ Nat.toDigits 16 c.toNat ++ ['\x7d']

def quotedChar (c : Char) : List Char :=
  if c = '"' then ['\\', '"']
  else if c = '\\' then ['\\', '\\']
  else if c = '\n' then ['\\', 'n']
  else if c = '\r' then ['\\', 'r']
  else if c = '\t' then ['\\', 't']
  else if c.toNat = 0 then ['\\', '0']
  else if c.toNat < 0x20 then numbered c
  else if c.toNat < 0x7F then [c]
  else if isHidden c.toNat then numbered c
  else [c]

def quoted (text : String) : String :=
  String.ofList (['"'] ++ text.toList.flatMap quotedChar ++ ['"'])

end NodeTuning.Text
