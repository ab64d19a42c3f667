import AuthBroker.Broker.Resolution
import AuthBroker.Broker.Sharing
import AuthBroker.Exchange.Request
import AuthBroker.Exchange.Response
import AuthBroker.Input.Reconcile

/-!
Consent and completion.

Both resolve the definition, its version and the flow of the version's repository, in this
order. A version with an OAuth specification gets the caller's input, filled from the stored
configuration when the request names an actor. Usage is reported only after the flow answered.
-/

namespace AuthBroker.Broker

open Connector Exchange

def logger : Logger :=
  (Logger.root.withLabel "OAuth: ").withDimensions [("component", .text "oauth_handler")]

def requestLogger (side : Side) (request : ConsentRequest) : Logger :=
  logger.withDimensions [
    ("workspace_id", request.workspace.toDocument),
    ("definition_id", request.definition.toDocument),
    ("actor_type", .text side.name)]

/-- What a request is about: a definition, the version that applies and the version's flow. -/
structure Subject where
  definition : Definition
  version : Version
  flow : Flow

/-- The version that applies to a request: the actor's, or the workspace's without an actor. -/
def versionFor (definition : Definition) (request : ConsentRequest) : Action Version :=
  match request.actor with
  | some actor => versionForActor definition actor
  | none => versionForWorkspace definition request.workspace

def subject (side : Side) (request : ConsentRequest) : Action Subject := do
  let definition ← definition side request.definition
  let version ← versionFor definition request
  return ⟨definition, version, ← flow version.repository⟩

/-- The input to send to the flow of a version with an OAuth specification. -/
def input (side : Side) (spec : OAuthSpecification) (request : ConsentRequest) : Action Fields := do
  match request.actor with
  | none => return request.input.getD []
  | some id =>
    let actor ← hydratedActor side id
    match Input.reconcile spec (.object actor.configuration) request.input with
    | .error defect => throw (.malformedSchema defect)
    | .ok (input, warnings) =>
      record (Input.records (requestLogger side request) warnings)
      lend side id spec request.input
      return input

/-- The input to send to the flow of a version. Without an OAuth specification it is
`otherwise`. -/
def inputFor (side : Side) (version : Version) (request : ConsentRequest)
    (otherwise : Option Fields) : Action (Option Fields) :=
  match version.specification.oauth? with
  | some spec => some <$> input side spec request
  | none => pure otherwise

def callFor (task : Flow.Task) (side : Side) (request : ConsentRequest) (query : Fields)
    (version : Version) (input : Option Fields) : Flow.Call where
  provider := version.repository
  task := task
  side := side
  workspace := request.workspace
  definition := request.definition
  redirectUrl := request.redirectUrl
  query := query
  input := input
  specification := version.specification.oauth?

/-- Resolves what a request is about, calls its flow and reports the usage. Where the version
has no OAuth specification, the flow gets `otherwise` as input. -/
def exchange (task : Flow.Task) (event : String) (side : Side) (request : ConsentRequest)
    (query : Fields) (otherwise : Option Fields) : Action Subject := do
  let subject ← subject side request
  let input ← inputFor side subject.version request otherwise
  callFlow subject.flow (callFor task side request query subject.version input)
  -- the flow has answered, and whatever fails from here on does not take the event back
  track (requestLogger side request)
    (.ofExchange event request.workspace subject.definition subject.version)
  return subject

def consent (side : Side) (request : ConsentRequest) : Action Consent := do
  let subject ← exchange .consent Usage.consentRequested side request [] (some [])
  record [(requestLogger side request).record .debug
    ("Generated consent URL via " ++ subject.version.repository)]
  ofExcept (Consent.check (.object [("consent_url", subject.flow.consentUrl)])).orFault

/-- The normalized result of finishing a flow. -/
def complete (side : Side) (request : CompletionRequest) : Action Response := do
  let subject ← exchange .completion Usage.flowCompleted side request.toConsentRequest
    request.query none
  let response := Response.ofAnswer subject.flow.completion
  if !response.succeeded then
    record [(requestLogger side request.toConsentRequest).record .warning
      ("OAuth exchange reported failure: " ++ response.error.getD "None")]
  return response

end AuthBroker.Broker
