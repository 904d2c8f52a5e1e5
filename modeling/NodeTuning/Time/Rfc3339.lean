import NodeTuning.Json.Codec
import NodeTuning.Text.Basic
import NodeTuning.Time.Timestamp

/-!
The text of an instant after RFC 3339. It is written in universal time. The reader takes any offset,
a blank or a small letter between date and time, and blanks around the parts.
-/
namespace NodeTuning.Timestamp
open NodeTuning.Text

def yearText (year : Int) : List Char :=
  if 0 ≤ year ∧ year ≤ 9999 then padded 4 year.toNat
  else
    let size := decimal year.natAbs
    (if year < 0 then '-' else '+') :: List.replicate (4 - size.length) '0' ++ size

def clockText (time : Timestamp) : List Char :=
  let second := time.second % 60 + time.nano / 1000000000
  padded 2 (time.second / 3600) ++ ':' :: padded 2 (time.second / 60 % 60) ++
    ':' :: padded 2 second

/-- The fraction of a second with three, six or nine digits, or without any, whichever is the
shortest exact form. -/
def fractionText (nano : Nat) : List Char :=
  if nano = 0 then []
  else if nano % 1000000 = 0 then '.' :: padded 3 (nano / 1000000)
  else if nano % 1000 = 0 then '.' :: padded 6 (nano / 1000)
  else '.' :: padded 9 nano

def assemble (time : Timestamp) (fraction : List Char) : List Char :=
  yearText time.date.year ++ '-' :: padded 2 time.date.month ++ '-' :: padded 2 time.date.day ++
    'T' :: clockText time ++ fraction ++ ['Z']

/-- The instant with the digits of its fraction that are needed. -/
def text (time : Timestamp) : String :=
  String.ofList (assemble time (fractionText (time.nano % 1000000000)))

def wholeText (time : Timestamp) : String := String.ofList (assemble time [])

def digitsUpTo (most : Nat) (input : List Char) : Option (Nat × List Char) :=
  let digits := (input.take most).takeWhile Char.isDigit
  if digits.isEmpty then none
  else some (Nat.ofDigitChars 10 digits 0, input.drop digits.length)

def numberUpTo (most : Nat) (input : List Char) : Option (Nat × List Char) :=
  digitsUpTo most (trimStart input)

def yearNumber (input : List Char) : Option (Int × List Char) :=
  match trimStart input with
  | '-' :: rest => (digitsUpTo rest.length rest).map fun r => (-(r.1 : Int), r.2)
  | '+' :: rest => (digitsUpTo rest.length rest).map fun r => ((r.1 : Int), r.2)
  | rest => (digitsUpTo 4 rest).map fun r => ((r.1 : Int), r.2)

def mark (c : Char) (input : List Char) : Option (List Char) :=
  match trimStart input with
  | first :: rest => if first = c then some (trimStart rest) else none
  | [] => none

/-- A fraction in nanoseconds. Digits after the ninth are read and dropped. -/
def fraction (input : List Char) : Option (Nat × List Char) :=
  match input with
  | '.' :: rest =>
    let digits := rest.takeWhile Char.isDigit
    if digits.isEmpty then none
    else
      let kept := digits.take 9
      some (Nat.ofDigitChars 10 kept 0 * Nat.pow 10 (9 - kept.length), rest.dropWhile Char.isDigit)
  | rest => some (0, rest)

def twoDigits (input : List Char) : Option (Nat × List Char) :=
  match input with
  | a :: b :: rest =>
    if a.isDigit && b.isDigit then some (Nat.ofDigitChars 10 [a, b] 0, rest) else none
  | _ => none

def signedOffset (negative : Bool) (input : List Char) : Option (Int × List Char) := do
  let (hours, rest) ← twoDigits input
  let (minutes, rest) ← twoDigits (rest.dropWhile fun c => c = ':' || isBlank c)
  if minutes < 60 then
    let size : Int := hours * 3600 + minutes * 60
    some (if negative then -size else size, rest)
  else none

def offset (input : List Char) : Option (Int × List Char) :=
  let isUtc := (input.take 3).map Char.toUpper = ['U', 'T', 'C']
  if isUtc then some (0, input.drop 3)
  else match input with
    | [] => none
    | c :: rest =>
      if c = 'Z' || c = 'z' then some (0, rest)
      else if c = '+' then signedOffset false rest
      else if c = '-' || c = '\u2212' then signedOffset true rest
      else none

def inCalendar (year : Int) : Bool := -262143 ≤ year && year ≤ 262142

def dateAndRest (input : List Char) : Option (Date × List Char) := do
  let (year, rest) ← yearNumber input
  let rest ← mark '-' rest
  let (month, rest) ← numberUpTo 2 rest
  let rest ← mark '-' rest
  let (day, rest) ← numberUpTo 2 rest
  if inCalendar year then (Date.of? year month day).map fun date => (date, rest) else none

def afterSeparator (input : List Char) : Option (List Char) :=
  match input with
  | c :: rest => if c = 't' || c = 'T' || c = ' ' then some rest else none
  | [] => none

def clockAndRest (input : List Char) : Option (Nat × Nat × List Char) := do
  let (hour, rest) ← numberUpTo 2 input
  let rest ← mark ':' rest
  let (minute, rest) ← numberUpTo 2 rest
  let rest ← mark ':' rest
  let (second, rest) ← numberUpTo 2 rest
  let (nano, rest) ← fraction rest
  if 23 < hour ∨ 59 < minute ∨ 60 < second then none
  else if second = 60 then
    some (hour * 3600 + minute * 60 + 59, nano + 1000000000, trimStart rest)
  else some (hour * 3600 + minute * 60 + second, nano, trimStart rest)

def read? (input : String) : Option Timestamp := do
  let (date, rest) ← dateAndRest input.toList
  let rest ← afterSeparator rest
  let (second, nano, rest) ← clockAndRest rest
  let (shift, rest) ← offset rest
  if (trimStart rest).isEmpty && -86400 < shift && shift < 86400 then
    (ofLocal? date second nano shift).filter fun time => inCalendar time.date.year
  else none

instance : JsonCodec Timestamp where
  encode time := .str time.text
  decode?
    | .str text => read? text
    | _ => none

end NodeTuning.Timestamp
