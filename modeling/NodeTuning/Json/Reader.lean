import NodeTuning.Json.Basic
import NodeTuning.Json.Number

/-!
Reading a document from text, one character at a time. The state holds the open arrays and objects
and what the next character may be, so reading is a fold over the text. A text that holds half of a
surrogate pair is read to its end like any other, but what it says is lost.
-/
namespace NodeTuning.Json.Reader

/-- What a text says so far, last character first, unless that is lost. -/
abbrev Heard := Option (List Char)

/-- An open array or object. What it holds so far is kept last first. The members of an object are
lost once the name of one is. -/
inductive Frame where
  | items (done : List Json)
  /-- An object between two members. -/
  | members (done : Option (List (String × Json)))
  /-- An object whose next value belongs to the key. -/
  | member (done : Option (List (String × Json))) (key : Option String)

inductive Mode where
  | value
  | valueOrClose
  | key
  | keyOrClose
  | colon (key : Option String)
  | afterValue
  | word (rest : List Char) (value : Json)
  | number (reversed : List Char)
  | text (isKey : Bool) (heard : Heard)
  | escape (isKey : Bool) (heard : Heard)
  | unicode (isKey : Bool) (heard : Heard) (high : Option Nat) (count code : Nat)
  | lowMark (isKey : Bool) (heard : Heard) (high : Nat)
  | lowEscape (isKey : Bool) (heard : Heard) (high : Nat)
  | finished (value : Json)

structure State where
  mode : Mode
  stack : List Frame

def start : State := ⟨.value, []⟩

private def isSpace (c : Char) : Bool := c = ' ' || c = '\n' || c = '\r' || c = '\t'

private def addMember (done : Option (List (String × Json))) (key : Option String)
    (value : Json) : Option (List (String × Json)) := do
  let members ← done
  let name ← key
  return (name, value) :: members

def complete (value : Json) : List Frame → State
  | [] => ⟨.finished value, []⟩
  | .items done :: rest => ⟨.afterValue, .items (value :: done) :: rest⟩
  | .members done :: rest => ⟨.afterValue, .members done :: rest⟩
  | .member done key :: rest => ⟨.afterValue, .members (addMember done key value) :: rest⟩

private def closeArray : List Frame → Option State
  | .items done :: rest => some (complete (.arr done.reverse) rest)
  | _ => none

private def objectOf : Option (List (String × Json)) → Json
  | some reversed => .obj reversed.reverse
  | none => .broken

private def closeObject : List Frame → Option State
  | .members done :: rest => some (complete (objectOf done) rest)
  | _ => none

private def beginValue (c : Char) (stack : List Frame) : Option State :=
  if c = '"' then some ⟨.text false (some []), stack⟩
  else if c = '[' then some ⟨.valueOrClose, .items [] :: stack⟩
  else if c = '\x7b' then some ⟨.keyOrClose, .members (some []) :: stack⟩
  else if c = 't' then some ⟨.word ['r', 'u', 'e'] (.bool true), stack⟩
  else if c = 'f' then some ⟨.word ['a', 'l', 's', 'e'] (.bool false), stack⟩
  else if c = 'n' then some ⟨.word ['u', 'l', 'l'] .null, stack⟩
  else if c = '-' || c.isDigit then some ⟨.number [c], stack⟩
  else none

private def endText (isKey : Bool) (heard : Heard) (stack : List Frame) : State :=
  let text := heard.map fun reversed => String.ofList reversed.reverse
  if isKey then ⟨.colon text, stack⟩
  else complete (match text with | some text => .str text | none => .broken) stack

private def escaped? (c : Char) : Option Char :=
  if c = '"' || c = '\\' || c = '/' then some c
  else if c = 'b' then some (Char.ofNat 8)
  else if c = 'f' then some (Char.ofNat 12)
  else if c = 'n' then some '\n'
  else if c = 'r' then some '\r'
  else if c = 't' then some '\t'
  else none

private def hexValue? (c : Char) : Option Nat :=
  if c.isDigit then some (c.toNat - 48)
  else if 'a' ≤ c && c ≤ 'f' then some (c.toNat - 87)
  else if 'A' ≤ c && c ≤ 'F' then some (c.toNat - 55)
  else none

private def hear (c : Char) (heard : Heard) : Heard := heard.map (c :: ·)

/-- The state after all four digits of an escape. A high half waits for a low one. -/
private def endUnicode (isKey : Bool) (heard : Heard) (high : Option Nat) (code : Nat) : Mode :=
  let isLow := 0xDC00 ≤ code && code ≤ 0xDFFF
  match high with
  | some first =>
    if isLow then
      .text isKey (hear (Char.ofNat (0x10000 + (first - 0xD800) * 0x400 + (code - 0xDC00))) heard)
    else .text isKey none
  | none =>
    if isLow then .text isKey none
    else if 0xD800 ≤ code && code ≤ 0xDBFF then .lowMark isKey heard code
    else .text isKey (hear (Char.ofNat code) heard)

private def inText (isKey : Bool) (heard : Heard) (c : Char) (stack : List Frame) :
    Option State :=
  if c = '"' then some (endText isKey heard stack)
  else if c = '\\' then some ⟨.escape isKey heard, stack⟩
  else if c.toNat < 0x20 then none
  else some ⟨.text isKey (hear c heard), stack⟩

private def inEscape (isKey : Bool) (heard : Heard) (c : Char) : Option Mode :=
  if c = 'u' then some (.unicode isKey heard none 0 0)
  else (escaped? c).map fun char => .text isKey (hear char heard)

/-- The number that the whole literal stands for. -/
def number? (literal : List Char) : Option Json :=
  (NumberParts.read? literal).map fun parts =>
    let size := Nat.ofDigitChars 10 parts.whole 0
    let limit := if parts.negative then UInt64.size / 2 + 1 else UInt64.size
    if parts.isWhole && size < limit && !(parts.negative && size = 0) then
      .int (if parts.negative then -size else size)
    else .real (String.ofList literal)

private def isNumberChar (c : Char) : Bool :=
  c.isDigit || c = '.' || c = 'e' || c = 'E' || c = '+' || c = '-'

private def afterValue (c : Char) (stack : List Frame) : Option State :=
  if c = ',' then
    match stack with
    | .items _ :: _ => some ⟨.value, stack⟩
    | .members _ :: _ => some ⟨.key, stack⟩
    | _ => none
  else if c = ']' then closeArray stack
  else if c = '\x7d' then closeObject stack
  else none

private def follow (c : Char) (state : State) : Option State :=
  match state.mode with
  | .finished _ => if isSpace c then some state else none
  | _ => if isSpace c then some state else afterValue c state.stack

/-- The state after one more character, if the text can go on so. -/
def step (state : State) (c : Char) : Option State :=
  match state.mode with
  | .value => if isSpace c then some state else beginValue c state.stack
  | .valueOrClose =>
    if isSpace c then some state
    else if c = ']' then closeArray state.stack
    else beginValue c state.stack
  | .key =>
    if isSpace c then some state
    else if c = '"' then some ⟨.text true (some []), state.stack⟩ else none
  | .keyOrClose =>
    if isSpace c then some state
    else if c = '\x7d' then closeObject state.stack
    else if c = '"' then some ⟨.text true (some []), state.stack⟩ else none
  | .colon key =>
    if isSpace c then some state
    else if c = ':' then
      match state.stack with
      | .members done :: rest => some ⟨.value, .member done key :: rest⟩
      | _ => none
    else none
  | .afterValue => follow c state
  | .finished _ => follow c state
  | .word rest value =>
    match rest with
    | [] => none
    | [last] => if c = last then some (complete value state.stack) else none
    | next :: more => if c = next then some ⟨.word more value, state.stack⟩ else none
  | .number reversed =>
    if isNumberChar c then some ⟨.number (c :: reversed), state.stack⟩
    else (number? reversed.reverse).bind fun value => follow c (complete value state.stack)
  | .text isKey heard => inText isKey heard c state.stack
  | .escape isKey heard => (inEscape isKey heard c).map fun mode => ⟨mode, state.stack⟩
  | .unicode isKey heard high count code =>
    (hexValue? c).map fun digit =>
      if count = 3 then ⟨endUnicode isKey heard high (code * 16 + digit), state.stack⟩
      else ⟨.unicode isKey heard high (count + 1) (code * 16 + digit), state.stack⟩
  | .lowMark isKey heard high =>
    if c = '\\' then some ⟨.lowEscape isKey heard high, state.stack⟩
    else inText isKey none c state.stack
  | .lowEscape isKey heard high =>
    if c = 'u' then some ⟨.unicode isKey heard (some high) 0 0, state.stack⟩
    else (inEscape isKey none c).map fun mode => ⟨mode, state.stack⟩

def result? (state : State) : Option Json :=
  match state.mode with
  | .finished value => some value
  | .number reversed => if state.stack.isEmpty then number? reversed.reverse else none
  | _ => none

end NodeTuning.Json.Reader

namespace NodeTuning.Json

def read? (text : String) : Option Json :=
  (text.toList.foldlM Reader.step Reader.start).bind Reader.result?

end NodeTuning.Json
