/-!
Characters and lists of characters: blanks, trimming, cutting at a separator, replacing a pattern,
and decimal numbers. Every reader of this library works on lists of characters, so that its rules
are recursions on the text itself.
-/
namespace NodeTuning.Text

/-- The characters with the Unicode property White_Space. -/
def isBlank (c : Char) : Bool :=
  let n := c.toNat
  (9 ≤ n && n ≤ 13) || n == 0x20 || n == 0x85 || n == 0xA0 || n == 0x1680 ||
    (0x2000 ≤ n && n ≤ 0x200A) || n == 0x2028 || n == 0x2029 || n == 0x202F || n == 0x205F ||
    n == 0x3000

def trimStart (text : List Char) : List Char := text.dropWhile isBlank

def trimEnd (text : List Char) : List Char := (text.reverse.dropWhile isBlank).reverse

def trim (text : List Char) : List Char := trimEnd (trimStart text)

/-- The pieces between the separators. There is one more piece than there are separators. -/
def pieces (separator : Char) : List Char → List (List Char)
  | [] => [[]]
  | c :: rest =>
    if c = separator then [] :: pieces separator rest
    else match pieces separator rest with
      | [] => [[c]]
      | piece :: more => (c :: piece) :: more

/-- The text before and after the first separator, if there is one. -/
def cut (separator : Char) : List Char → Option (List Char × List Char)
  | [] => none
  | c :: rest =>
    if c = separator then some ([], rest)
    else (cut separator rest).map fun halves => (c :: halves.1, halves.2)

def replaceFrom (pattern replacement : List Char) : Nat → List Char → List Char
  | _, [] => []
  | skipped + 1, _ :: rest => replaceFrom pattern replacement skipped rest
  | 0, c :: rest =>
    if pattern.isPrefixOf (c :: rest) then
      replacement ++ replaceFrom pattern replacement (pattern.length - 1) rest
    else c :: replaceFrom pattern replacement 0 rest

/-- Replaces the occurrences of a non-empty pattern, found from left to right without overlap. -/
def replaceAll (pattern replacement text : List Char) : List Char :=
  if pattern.isEmpty then text else replaceFrom pattern replacement 0 text

/-- The decimal digits of a number, without leading zeros. -/
def decimal (n : Nat) : List Char := Nat.toDigits 10 n

/-- Reads ASCII digits, at least one. -/
def digits? (text : List Char) : Option Nat :=
  if !text.isEmpty && text.all Char.isDigit then some (Nat.ofDigitChars 10 text 0) else none

/-- Reads a number below `limit`: at least one ASCII digit after an optional plus sign. -/
def unsigned? (limit : Nat) (text : List Char) : Option Nat :=
  let body := match text with
    | '+' :: rest => rest
    | _ => text
  (digits? body).filter (· < limit)

/-- The last digits of a number, as many as the width says, with leading zeros. -/
def lastDigits (base : Nat) : Nat → Nat → List Char
  | 0, _ => []
  | width + 1, n => lastDigits base width (n / base) ++ [Nat.digitChar (n % base)]

def hexadecimal (width n : Nat) : List Char := lastDigits 16 width n

def padded (width n : Nat) : List Char := lastDigits 10 width n

def join (separator : String) (texts : List String) : String := separator.intercalate texts

def lines (texts : List String) : String := String.join (texts.map (· ++ "\n"))

end NodeTuning.Text
