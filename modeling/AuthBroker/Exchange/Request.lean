import AuthBroker.Connector

/-!
What callers ask of the broker: a consent address, the completion of a flow, and instance-wide
parameters for a definition.
-/

namespace AuthBroker.Exchange

/-- A request for the address at which a user consents. With an actor, an existing source or
destination is authenticated again, and masked input is filled from its configuration. -/
structure ConsentRequest where
  definition : Identifier
  workspace : Identifier
  redirectUrl : String
  actor : Option Identifier
  input : Option Fields
  deriving Repr, BEq

/-- A request to finish a flow after the provider sent the user back. -/
structure CompletionRequest extends ConsentRequest where
  query : Fields
  asSecret : Bool
  deriving Repr, BEq

structure ParameterRequest where
  definition : Identifier
  parameters : Fields
  deriving Repr, BEq

structure Consent where
  url : String
  deriving DecidableEq, Repr

/-! ## Reading -/

/-- Reads the fields that every flow request has. -/
def ConsentRequest.fields (fields : Fields) : Check ConsentRequest :=
  ConsentRequest.mk
    <$> fields.required "definition_id" Read.identifier
    <*> fields.required "workspace_id" Read.identifier
    <*> fields.required "redirect_url" Read.text
    <*> fields.optional "actor_id" Read.identifier
    <*> fields.optional "oauth_input_configuration" Read.table

def ConsentRequest.check : Document → Check ConsentRequest :=
  Read.record ConsentRequest.fields

def CompletionRequest.check : Document → Check CompletionRequest :=
  Read.record fun fields =>
    CompletionRequest.mk
      <$> ConsentRequest.fields fields
      <*> fields.withDefault "query_params" [] Read.table
      <*> fields.withDefault "return_secret_coordinate" false Read.bool

def ParameterRequest.check : Document → Check ParameterRequest :=
  Read.record fun fields =>
    ParameterRequest.mk
      <$> fields.required "definition_id" Read.identifier
      <*> fields.required "params" Read.table

def Consent.check : Document → Check Consent :=
  Read.record fun fields =>
    Consent.mk <$> fields.required "consent_url" Read.text

/-! ## Writing -/

def ConsentRequest.entries (request : ConsentRequest) : Fields := [
  ("definition_id", request.definition.toDocument),
  ("workspace_id", request.workspace.toDocument),
  ("redirect_url", .text request.redirectUrl),
  ("actor_id", .ofOption (request.actor.map (·.toDocument))),
  ("oauth_input_configuration", .ofFields? request.input)]

def ConsentRequest.toDocument (request : ConsentRequest) : Document :=
  .object request.entries

def CompletionRequest.toDocument (request : CompletionRequest) : Document :=
  .object (request.entries ++ [
    ("query_params", .object request.query),
    ("return_secret_coordinate", .bool request.asSecret)])

def ParameterRequest.toDocument (request : ParameterRequest) : Document :=
  .object [
    ("definition_id", request.definition.toDocument),
    ("params", .object request.parameters)]

def Consent.toDocument (consent : Consent) : Document :=
  .object [("consent_url", .text consent.url)]

end AuthBroker.Exchange
