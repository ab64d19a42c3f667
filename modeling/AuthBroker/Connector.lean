import AuthBroker.Validation

/-!
The connector catalog's records.

A connector definition stands on one side of a connection and has versions. A version names an
image repository and carries a specification, which may say how its OAuth inputs lie in the
connector's configuration. An actor is a configured copy of a definition in a workspace. A
parameter holds the OAuth parameters of a definition, for one workspace or for all.

Every record is read from a document and written back as the table of all its fields.
-/

namespace AuthBroker

/-- The side of a connection that a connector stands on. -/
inductive Side where
  | source
  | destination
  deriving DecidableEq, Repr

namespace Side

def name : Side → String
  | .source => "source"
  | .destination => "destination"

/-- The name of a side at the start of a sentence. -/
def title : Side → String
  | .source => "Source"
  | .destination => "Destination"

def ofName? : String → Option Side
  | "source" => some .source
  | "destination" => some .destination
  | _ => none

end Side

def Identifier.toDocument (id : Identifier) : Document :=
  .text id.text

def Document.ofText? (s : Option String) : Document :=
  .ofOption (s.map .text)

def Document.ofFields? (fields : Option Fields) : Document :=
  .ofOption (fields.map .object)

namespace Connector

/-- How a connector's OAuth flow takes its inputs and delivers its outputs: four schemas. -/
structure OAuthSpecification where
  userInput : Option Fields
  output : Option Fields
  serverInput : Option Fields
  serverOutput : Option Fields
  deriving Repr, BEq

structure AdvancedAuth where
  flowType : String
  predicateKey : Option (List String)
  predicateValue : Option String
  oauth : Option OAuthSpecification
  deriving Repr, BEq

/-- What a connector version says about its configuration. -/
structure Specification where
  documentationUrl : Option String
  connection : Fields
  advancedAuth : Option AdvancedAuth
  deriving Repr, BEq

structure Definition where
  id : Identifier
  name : String
  side : Side
  defaultVersion : Identifier
  deriving DecidableEq, Repr

/-- A released version of a definition. -/
structure Version where
  id : Identifier
  definition : Identifier
  repository : String
  tag : String
  specification : Specification
  deriving Repr, BEq

/-- A configured source or destination of a workspace. -/
structure Actor where
  id : Identifier
  definition : Identifier
  workspace : Identifier
  side : Side
  name : String
  configuration : Fields
  deriving Repr, BEq

/-- The OAuth parameters of a definition; without a workspace they hold for the whole instance. -/
structure Parameter where
  id : Identifier
  definition : Identifier
  side : Side
  workspace : Option Identifier
  configuration : Fields
  deriving Repr, BEq

/-- The OAuth specification of a version, when it declares one. -/
def Specification.oauth? (spec : Specification) : Option OAuthSpecification :=
  spec.advancedAuth.bind (·.oauth)

/-! ## Reading -/

def OAuthSpecification.check : Document → Check OAuthSpecification :=
  Read.record fun fields =>
    OAuthSpecification.mk
      <$> fields.optional "oauth_user_input_from_connector_config_specification" Read.table
      <*> fields.optional "complete_oauth_output_specification" Read.table
      <*> fields.optional "complete_oauth_server_input_specification" Read.table
      <*> fields.optional "complete_oauth_server_output_specification" Read.table

def AdvancedAuth.check : Document → Check AdvancedAuth :=
  Read.record fun fields =>
    AdvancedAuth.mk
      <$> fields.withDefault "auth_flow_type" "oauth2.0" Read.text
      <*> fields.optional "predicate_key" (Read.list Read.text)
      <*> fields.optional "predicate_value" Read.text
      <*> fields.optional "oauth_config_specification" OAuthSpecification.check

def Specification.check : Document → Check Specification :=
  Read.record fun fields =>
    Specification.mk
      <$> fields.optional "documentation_url" Read.text
      <*> fields.withDefault "connection_specification" [] Read.table
      <*> fields.optional "advanced_auth" AdvancedAuth.check

def Side.check : Document → Check Side :=
  Read.member Side.ofName?

def Definition.check : Document → Check Definition :=
  Read.record fun fields =>
    Definition.mk
      <$> fields.required "id" Read.identifier
      <*> fields.required "name" Read.text
      <*> fields.required "actor_type" Side.check
      <*> fields.required "default_version_id" Read.identifier

def Version.check : Document → Check Version :=
  Read.record fun fields =>
    Version.mk
      <$> fields.required "id" Read.identifier
      <*> fields.required "definition_id" Read.identifier
      <*> fields.required "docker_repository" Read.text
      <*> fields.required "docker_image_tag" Read.text
      <*> fields.required "spec" Specification.check

def Actor.check : Document → Check Actor :=
  Read.record fun fields =>
    Actor.mk
      <$> fields.required "id" Read.identifier
      <*> fields.required "definition_id" Read.identifier
      <*> fields.required "workspace_id" Read.identifier
      <*> fields.required "actor_type" Side.check
      <*> fields.withDefault "name" "" Read.text
      <*> fields.withDefault "configuration" [] Read.table

def Parameter.check : Document → Check Parameter :=
  Read.record fun fields =>
    Parameter.mk
      <$> fields.required "oauth_parameter_id" Read.identifier
      <*> fields.required "definition_id" Read.identifier
      <*> fields.required "actor_type" Side.check
      <*> fields.optional "workspace_id" Read.identifier
      <*> fields.withDefault "configuration" [] Read.table

/-! ## Writing -/

def OAuthSpecification.toDocument (spec : OAuthSpecification) : Document :=
  .object [
    ("oauth_user_input_from_connector_config_specification", .ofFields? spec.userInput),
    ("complete_oauth_output_specification", .ofFields? spec.output),
    ("complete_oauth_server_input_specification", .ofFields? spec.serverInput),
    ("complete_oauth_server_output_specification", .ofFields? spec.serverOutput)]

def AdvancedAuth.toDocument (auth : AdvancedAuth) : Document :=
  .object [
    ("auth_flow_type", .text auth.flowType),
    ("predicate_key", .ofOption (auth.predicateKey.map fun keys => .list (keys.map .text))),
    ("predicate_value", .ofText? auth.predicateValue),
    ("oauth_config_specification", .ofOption (auth.oauth.map (·.toDocument)))]

def Specification.toDocument (spec : Specification) : Document :=
  .object [
    ("documentation_url", .ofText? spec.documentationUrl),
    ("connection_specification", .object spec.connection),
    ("advanced_auth", .ofOption (spec.advancedAuth.map (·.toDocument)))]

def Definition.toDocument (definition : Definition) : Document :=
  .object [
    ("id", definition.id.toDocument),
    ("name", .text definition.name),
    ("actor_type", .text definition.side.name),
    ("default_version_id", definition.defaultVersion.toDocument)]

def Version.toDocument (version : Version) : Document :=
  .object [
    ("id", version.id.toDocument),
    ("definition_id", version.definition.toDocument),
    ("docker_repository", .text version.repository),
    ("docker_image_tag", .text version.tag),
    ("spec", version.specification.toDocument)]

def Actor.toDocument (actor : Actor) : Document :=
  .object [
    ("id", actor.id.toDocument),
    ("definition_id", actor.definition.toDocument),
    ("workspace_id", actor.workspace.toDocument),
    ("actor_type", .text actor.side.name),
    ("name", .text actor.name),
    ("configuration", .object actor.configuration)]

def Parameter.toDocument (parameter : Parameter) : Document :=
  .object [
    ("oauth_parameter_id", parameter.id.toDocument),
    ("definition_id", parameter.definition.toDocument),
    ("actor_type", .text parameter.side.name),
    ("workspace_id", .ofOption (parameter.workspace.map (·.toDocument))),
    ("configuration", .object parameter.configuration)]

end Connector

end AuthBroker
