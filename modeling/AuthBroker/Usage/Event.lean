import AuthBroker.Connector

/-!
Usage events: what is told about an exchange, and the description of the connector in it.
-/

namespace AuthBroker.Usage

structure Event where
  name : String
  distinctId : String
  properties : Fields
  groups : Option Fields
  deriving Repr, BEq

def Event.toDocument (event : Event) : Document :=
  .object [
    ("event_name", .text event.name),
    ("distinct_id", .text event.distinctId),
    ("properties", .object event.properties),
    ("groups", .ofFields? event.groups)]

def consentRequested : String := "oauth_consent_url_requested"

def flowCompleted : String := "oauth_flow_completed"

/-- The description of a connector; the side stands in every key. -/
def describe (definition : Connector.Definition) (version : Connector.Version) : Fields :=
  let key := "connector_" ++ definition.side.name
  [(key, .text definition.name),
    (key ++ "_definition_id", definition.id.toDocument),
    (key ++ "_docker_repository", .text version.repository),
    (key ++ "_version", .text version.tag)]

/-- The event that tells of an exchange for a workspace. -/
def Event.ofExchange (name : String) (workspace : Identifier) (definition : Connector.Definition)
    (version : Connector.Version) : Event where
  name := name
  distinctId := workspace.text
  properties := describe definition version
  groups := some [("workspace", workspace.toDocument)]

end AuthBroker.Usage
