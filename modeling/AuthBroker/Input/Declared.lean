import AuthBroker.Document.Basic

/-!
Where a connector's OAuth inputs lie in its configuration.

The user-input schema of a connector lists fields; a field may declare the keys that lead to
its value in the configuration. The module collects the declared fields of a schema and turns
the keys of each into a path expression.
-/

namespace AuthBroker.Input

inductive SchemaDefect where
  | notObject
  | propertiesNotObject
  | pathNotTexts (field : String)
  deriving DecidableEq, Repr

def propertiesKey : String := "properties"

def pathKey : String := "path_in_connector_config"

def SchemaDefect.message (defect : SchemaDefect) : String :=
  "Invalid OAuth config specification: " ++
    match defect with
    | .notObject => "user input specification must be an object"
    | .propertiesNotObject => "'" ++ propertiesKey ++ "' must be an object"
    | .pathNotTexts field => "'" ++ pathKey ++ "' of '" ++ field ++ "' must be a list of strings"

/-- The keys that lead to a field's value, for each declared field. -/
abbrev Declarations := Table String (List String)

/-- The place that a field's schema declares, if any. -/
def declaredPlace? (schema : Document) : Option Document :=
  schema.entries?.bind (·.get? pathKey)

/-- Collects the declared fields of a schema's properties; the first bad place is refused. -/
def collect : Fields → Except SchemaDefect Declarations
  | [] => .ok []
  | (field, schema) :: rest =>
    match declaredPlace? schema with
    | none => collect rest
    | some place =>
      match place.texts? with
      | none => .error (.pathNotTexts field)
      | some keys => (collect rest).map ((field, keys) :: ·)

/-- Collects the declared fields of a user-input schema. Without a schema or without
properties there are none. -/
def declared : Document → Except SchemaDefect Declarations
  | .null => .ok []
  | .object schema =>
    match Table.get? schema propertiesKey with
    | none | some .null => .ok []
    | some (.object properties) => collect properties
    | some _ => .error .propertiesNotObject
  | _ => .error .notObject

/-- The expression that follows keys from the root. The keys stand in it as they are. -/
def expression (keys : List String) : String :=
  "$." ++ ".".intercalate keys

def expressions (declarations : Declarations) : Table String String :=
  declarations.map fun (field, keys) => (field, expression keys)

/-- The keys that a loosely written place stands for: the texts of a list, tuple or set, the
characters of a text, or the field names of a table. -/
def looseKeys? : Document → Option (List String)
  | .text s => some (s.toList.map String.singleton)
  | .object entries => some (Table.keys entries)
  | .list items | .tuple items | .set items => items.mapM Document.text?
  | _ => none

end AuthBroker.Input
