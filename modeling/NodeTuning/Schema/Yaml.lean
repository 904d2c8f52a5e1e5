import NodeTuning.Text.Basic

/-!
Documents in YAML's block style. A list stands at the margin of its key, a map two columns further
in, and empty ones stand on the line of their key. A text that would be read as something else is
quoted.
-/
namespace NodeTuning

inductive Yaml where
  /-- A number or a truth value, as it is written. -/
  | plain (literal : String)
  | text (value : String)
  | list (items : List Yaml)
  | map (entries : List (String × Yaml))
  deriving Inhabited

namespace Yaml
open NodeTuning.Text

/-- Words that are read as truth values or as nothing. -/
def reservedWords : List String := [
  "true", "True", "TRUE", "false", "False", "FALSE", "null", "Null", "NULL", "~", ""]

def scalar (value : String) : String :=
  if reservedWords.contains value then "'" ++ value ++ "'" else value

def indent (line : String) : String := "  " ++ line

def itemLines : List String → List String
  | [] => ["-"]
  | first :: rest => ("- " ++ first) :: rest.map indent

mutual

def blockLines : Yaml → List String
  | .plain literal => [literal]
  | .text value => [scalar value]
  | .list items => listLines items
  | .map entries => mapLines entries

def listLines : List Yaml → List String
  | [] => []
  | item :: rest => itemLines (blockLines item) ++ listLines rest

def mapLines : List (String × Yaml) → List String
  | [] => []
  | (key, value) :: rest => entryLines key value ++ mapLines rest

def entryLines (key : String) : Yaml → List String
  | .plain literal => [key ++ ": " ++ literal]
  | .text value => [key ++ ": " ++ scalar value]
  | .list [] => [key ++ ": []"]
  | .list (item :: rest) => (key ++ ":") :: (itemLines (blockLines item) ++ listLines rest)
  | .map [] => [key ++ ": \x7b\x7d"]
  | .map ((inner, value) :: rest) =>
    (key ++ ":") :: (entryLines inner value ++ mapLines rest).map indent

end

def render (document : Yaml) : String := lines (blockLines document)

end Yaml
end NodeTuning
