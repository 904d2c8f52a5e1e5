import NodeTuning.Json.Reader

/-!
Documents taken as values. A reader that knows what it looks for passes over the rest of a document,
but one that keeps the whole document has to be able to hold all of it.
-/
namespace NodeTuning.Json

/-- Documents that are held as a whole nest at most this deep. -/
def maxDepth : Nat := 127

mutual

/-- Whether a document can be held as a whole: no text in it is broken, its numbers are within
double precision, and its arrays and objects nest at most as deep as given. -/
def isWhole (depth : Nat) : Json → Bool
  | .broken => false
  | .real literal => isFiniteLiteral literal
  | .arr items => 1 ≤ depth && areWhole (depth - 1) items
  | .obj members => 1 ≤ depth && haveWhole (depth - 1) members
  | _ => true

def areWhole (depth : Nat) : List Json → Bool
  | [] => true
  | item :: rest => isWhole depth item && areWhole depth rest

def haveWhole (depth : Nat) : List (String × Json) → Bool
  | [] => true
  | (_, value) :: rest => isWhole depth value && haveWhole depth rest

end

def value? (text : String) : Option Json :=
  ((read? text).filter (isWhole maxDepth)).map settled

end NodeTuning.Json
