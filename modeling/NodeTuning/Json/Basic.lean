/-!
JSON documents as they are written. An object may name a member more than once, and a text may hold
half of a surrogate pair, in which case it stands for nothing. What a document stands for as a whole
is a second view: of the members with one name only the last one counts. Whole numbers and other
numbers are told apart, because no field takes a number with a fraction or an exponent in place of a
whole one.
-/
namespace NodeTuning

inductive Json where
  | null
  | bool (value : Bool)
  | int (value : Int)
  | real (literal : String)
  | str (text : String)
  | arr (items : List Json)
  | obj (members : List (String × Json))
  /-- A text, or an object with a name, that holds half of a surrogate pair. -/
  | broken
  deriving Inhabited

namespace Json

def valuesOf (name : String) (members : List (String × Json)) : List Json :=
  members.filterMap fun entry => if entry.1 = name then some entry.2 else none

/-- The last member with the name, which is the one that counts. -/
def member? (json : Json) (name : String) : Option Json :=
  match json with
  | .obj members => (valuesOf name members).getLast?
  | _ => none

/-- Adds a member in front, unless a later one has its name. -/
def addMember (name : String) (value : Json) (later : List (String × Json)) :
    List (String × Json) :=
  if later.any fun entry => entry.1 = name then later else (name, value) :: later

mutual

/-- The document in which every name stands once. -/
def settled : Json → Json
  | .arr items => .arr (settledItems items)
  | .obj members => .obj (settledMembers members)
  | other => other

def settledItems : List Json → List Json
  | [] => []
  | item :: rest => settled item :: settledItems rest

def settledMembers : List (String × Json) → List (String × Json)
  | [] => []
  | (name, value) :: rest => addMember name (settled value) (settledMembers rest)

end

end Json
end NodeTuning
