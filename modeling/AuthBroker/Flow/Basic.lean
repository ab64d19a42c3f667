import AuthBroker.Connector
import AuthBroker.Failure

/-!
Provider flows and the calls made to them.

A flow hands out a consent address, and exchanges what the provider sent back for tokens. The
flows here are scripted: they answer from a script or fail with its failure.
-/

namespace AuthBroker

/-- A flow that answers from a script. -/
structure Flow where
  consentUrl : Document
  completion : Fields
  failure : Option Failure
  deriving Repr

/-- Changes to a script; what is absent stays. -/
structure Flow.Script where
  consentUrl : Option Document
  completion : Option Fields
  failure : Option (Option Failure)
  deriving Repr

namespace Flow

def unscripted : Flow where
  consentUrl := .text "https://provider.example.com/consent"
  completion := [("access_token", .text "fake_access_token")]
  failure := none

def follow (flow : Flow) (script : Script) : Flow where
  consentUrl := script.consentUrl.getD flow.consentUrl
  completion := script.completion.getD flow.completion
  failure := script.failure.getD flow.failure

inductive Task where
  | consent
  | completion
  deriving DecidableEq, Repr

/-- The name of a task for one side. -/
def Task.method : Task → Side → String
  | .consent, side => "get_" ++ side.name ++ "_consent_url"
  | .completion, side => "complete_" ++ side.name ++ "_oauth"

structure Call where
  provider : String
  task : Task
  side : Side
  workspace : Identifier
  definition : Identifier
  redirectUrl : String
  query : Fields
  input : Option Fields
  specification : Option Connector.OAuthSpecification
  deriving Repr

namespace Call

def modifyInput (call : Call) (field : String) (f : Document → Document) : Call :=
  { call with input := call.input.map fun fields =>
      fields.map fun (name, value) => (name, if name == field then f value else value) }

def method (call : Call) : String :=
  call.task.method call.side

/-- The arguments of a call; only a completion has a query. -/
def arguments (call : Call) : Document :=
  let query :=
    match call.task with
    | .consent => []
    | .completion => [("query_params", .object call.query)]
  .object ([
    ("workspace_id", call.workspace.toDocument),
    ("definition_id", call.definition.toDocument)] ++ query ++ [
    ("redirect_url", .text call.redirectUrl),
    ("input_configuration", .ofFields? call.input),
    ("oauth_config_specification", .ofOption (call.specification.map (·.toDocument)))])

/-- The call as a list of provider, method and arguments. -/
def toDocument (call : Call) : Document :=
  .list [.text call.provider, .text call.method, call.arguments]

end Call

end Flow

end AuthBroker
