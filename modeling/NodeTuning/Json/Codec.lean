import NodeTuning.Json.Basic
import NodeTuning.SortedMap

/-!
Writing values as documents and reading them back. A record is written as an object that leaves out
absent fields. Records are read in two ways. A strict one is read from an object that names no field
twice, or from an array that gives the fields in their order. A loose one is read from an object
only, and a field that is named more than once has the last of its values. In both, every value
given for a field has to be one, and members of other names are ignored.
-/
namespace NodeTuning

/-- The documents that stand for the values of a type. -/
class JsonCodec (α : Type) where
  encode : α → Json
  decode? : Json → Option α

export JsonCodec (encode decode?)

abbrev Fields := List (String × Json)

namespace Json

/-- The members of an object, of which those with the given names stand once at most. -/
def distinctMembers? (names : List String) : Json → Option Fields
  | .obj members =>
    if names.all fun name => (valuesOf name members).length ≤ 1 then some members else none
  | _ => none

/-- The fields of a strict record whose field names are given in their order. -/
def record? (names : List String) : Json → Option Fields
  | .arr items => if items.length ≤ names.length then some (names.zip items) else none
  | json => json.distinctMembers? names

/-- The fields of a strict record of which an array has to give all. -/
def fullRecord? (names : List String) (json : Json) : Option Fields :=
  (json.record? names).filter fun fields =>
    match json with
    | .arr _ => fields.length = names.length
    | _ => true

def members? : Json → Option Fields
  | .obj members => some members
  | _ => none

/-- The case that a document names: by a string, or by an object that gives the case nothing. -/
def caseName? : Json → Option String
  | .str name => some name
  | .obj [(name, .null)] => some name
  | _ => none

/-- An object with those fields that have a value. -/
def record (fields : List (String × Option Json)) : Json :=
  .obj (fields.filterMap fun field => field.2.map fun value => (field.1, value))

end Json

namespace Fields

/-- Whether a field has the given text wherever it stands. -/
def saysOnly (fields : Fields) (name text : String) : Bool :=
  (Json.valuesOf name fields).all fun
    | .str given => given = text
    | _ => false

variable {α : Type} [JsonCodec α]

def all? (fields : Fields) (name : String) : Option (List α) :=
  (Json.valuesOf name fields).mapM decode?

def required (fields : Fields) (name : String) : Option α :=
  (fields.all? name).bind List.getLast?

/-- A field that may be missing and then has the given value. -/
def withDefault (fields : Fields) (name : String) (value : α) : Option α :=
  (fields.all? name).map fun values => values.getLast?.getD value

def nullable? : Json → Option (Option α)
  | .null => some none
  | json => (decode? json).map some

def optional (fields : Fields) (name : String) : Option (Option α) :=
  ((Json.valuesOf name fields).mapM nullable?).map fun values => values.getLast?.join

/-- A field that has the given value when it is missing or null. -/
def orElse (fields : Fields) (name : String) (value : α) : Option α :=
  (fields.optional name).map (·.getD value)

end Fields

section Written
variable {α : Type} [JsonCodec α]

def field (name : String) (value : α) : String × Option Json := (name, some (encode value))

/-- A field that is left out when absent. -/
def optionalField (name : String) (value : Option α) : String × Option Json :=
  (name, value.map encode)

/-- A list that is left out when empty. -/
def listField (name : String) (values : List α) [JsonCodec (List α)] : String × Option Json :=
  (name, if values.isEmpty then none else some (encode values))

/-- A map that is left out when empty. -/
def labelsField (name : String) (labels : Labels) [JsonCodec Labels] : String × Option Json :=
  (name, if labels.isEmpty then none else some (encode labels))

end Written

instance : JsonCodec Bool where
  encode := .bool
  decode?
    | .bool value => some value
    | _ => none

instance : JsonCodec String where
  encode := .str
  decode?
    | .str text => some text
    | _ => none

/-- The whole number of a document, if it lies between the bounds. -/
def intBetween? (low high : Int) : Json → Option Int
  | .int value => if low ≤ value ∧ value ≤ high then some value else none
  | _ => none

instance : JsonCodec UInt16 where
  encode n := .int n.toNat
  decode? json := (intBetween? 0 (UInt16.size - 1) json).map fun n => UInt16.ofNat n.toNat

instance : JsonCodec UInt32 where
  encode n := .int n.toNat
  decode? json := (intBetween? 0 (UInt32.size - 1) json).map fun n => UInt32.ofNat n.toNat

instance : JsonCodec UInt64 where
  encode n := .int n.toNat
  decode? json := (intBetween? 0 (UInt64.size - 1) json).map fun n => UInt64.ofNat n.toNat

instance : JsonCodec Int32 where
  encode n := .int n.toInt
  decode? json :=
    (intBetween? Int32.minValue.toInt Int32.maxValue.toInt json).map Int32.ofInt

instance : JsonCodec Int64 where
  encode n := .int n.toInt
  decode? json :=
    (intBetween? Int64.minValue.toInt Int64.maxValue.toInt json).map Int64.ofInt

instance {α : Type} [JsonCodec α] : JsonCodec (List α) where
  encode values := .arr (values.map encode)
  decode?
    | .arr items => items.mapM decode?
    | _ => none

def decodeEntries? {α : Type} [JsonCodec α] :
    List (String × Json) → Option (List (String × α))
  | [] => some []
  | (name, value) :: rest => do
    let first ← decode? value
    let more ← decodeEntries? rest
    some ((name, first) :: more)

instance {α : Type} [JsonCodec α] : JsonCodec (SortedMap α) where
  encode map := .obj (map.entries.map fun entry => (entry.1, encode entry.2))
  decode?
    | .obj members => (decodeEntries? members).map SortedMap.ofList
    | _ => none

end NodeTuning
