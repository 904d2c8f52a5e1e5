import NodeTuning.Schema.Yaml

/-!
Schemas of documents: what kind of value stands where, what it means, and whether it may be missing.
-/
namespace NodeTuning

inductive Presence where
  | required
  /-- Missing or null. -/
  | nullable
  | optional
  /-- Missing means the given value. -/
  | defaulted (value : Yaml)

structure SchemaField (σ : Type) where
  name : String
  description : Option String
  presence : Presence
  schema : σ

/-- A kind of value. Fields of a record come in ascending order of their names. -/
inductive Schema where
  | text
  | flag
  | instant
  /-- A whole number that is not negative. -/
  | count
  | choice (names : List String)
  | labels
  | list (items : Schema)
  | record (fields : List (SchemaField Schema))

namespace Schema

private def entry (name : String) (value : Yaml) : List (String × Yaml) := [(name, value)]

private def typeName : Schema → String
  | .text => "string"
  | .flag => "boolean"
  | .instant => "string"
  | .count => "integer"
  | .choice _ => "string"
  | .labels => "object"
  | .list _ => "array"
  | .record _ => "object"

private def formatOf : Schema → Option String
  | .instant => some "date-time"
  | .count => some "uint32"
  | _ => none

private def choicesOf : Schema → List String
  | .choice names => names
  | _ => []

/-- The entries before the one for the parts of a value. -/
private def entriesBefore (presence : Presence) (description : Option String) (schema : Schema) :
    List (String × Yaml) :=
  (match schema with
    | .labels => entry "additionalProperties" (.map [("type", .text "string")])
    | _ => []) ++
  (match presence with
    | .defaulted value => entry "default" value
    | _ => []) ++
  (description.map fun text => ("description", Yaml.text text)).toList ++
  (if schema.choicesOf.isEmpty then []
    else entry "enum" (.list (schema.choicesOf.map .text))) ++
  (schema.formatOf.map fun name => ("format", Yaml.text name)).toList

private def nullableEntry : Presence → List (String × Yaml)
  | .nullable => entry "nullable" (.plain "true")
  | _ => []

private def isRequired : Presence → Bool
  | .required => true
  | _ => false

private def requiredEntry (fields : List (SchemaField Schema)) : List (String × Yaml) :=
  let names := (fields.filter fun field => isRequired field.presence).map (·.name)
  if names.isEmpty then [] else entry "required" (.list (names.map .text))

mutual

/-- The document of a schema that stands where the presence and the description say. -/
def toYaml (presence : Presence) (description : Option String) : Schema → Yaml
  | .list items =>
    .map (entriesBefore presence description (.list items) ++
      entry "items" (toYaml .required none items) ++ nullableEntry presence ++
      entry "type" (.text "array"))
  | .record fields =>
    .map (entriesBefore presence description (.record fields) ++ nullableEntry presence ++
      entry "properties" (.map (propertyEntries fields)) ++ requiredEntry fields ++
      entry "type" (.text "object"))
  | .count =>
    .map (entriesBefore presence description .count ++ entry "minimum" (.plain "0.0") ++
      nullableEntry presence ++ entry "type" (.text "integer"))
  | schema =>
    .map (entriesBefore presence description schema ++ nullableEntry presence ++
      entry "type" (.text schema.typeName))

def propertyEntries : List (SchemaField Schema) → List (String × Yaml)
  | [] => []
  | field :: rest => propertyEntry field :: propertyEntries rest

def propertyEntry : SchemaField Schema → String × Yaml
  | ⟨name, description, presence, schema⟩ => (name, toYaml presence description schema)

end

def described (name : String) (presence : Presence) (description : String) (schema : Schema) :
    SchemaField Schema :=
  ⟨name, some description, presence, schema⟩

end Schema
end NodeTuning
