import AuthBroker.Failure
import AuthBroker.Input.Declared
import AuthBroker.Journal.Options
import AuthBroker.Journal.Template
import AuthBroker.Path.Basic
import AuthBroker.Secret.Payload

/-!
Why an operation of the broker fails, and the wording of each cause.
-/

namespace AuthBroker

/-- Why an operation fails. -/
inductive Fault where
  | definitionNotFound (side : Side) (definition : Identifier)
  | actorNotFound (side : Side) (actor : Identifier)
  | versionNotFound (version : Identifier)
  | providerNotSupported (provider : String)
  | providerTaken (provider : String)
  | ambiguousPin
  | malformedSchema (defect : Input.SchemaDefect)
  | noOAuthSpecification
  | invalidPath (refusal : Path.Invalid)
  | unwritable (cause : Secret.Unwritable)
  | malformedKey
  | malformedIdentifier (defect : Identifier.Malformed)
  | identifiersUsedUp
  | identifierAbsent
  | unknownSide (written : Document)
  | argumentMissing (name : String)
  | notOffered
  /-- A record that was refused. The wording of its problems, which quotes what the record holds, is left
  out. -/
  | invalidRecord (problems : List Problem)
  | raised (failure : Failure)
  | flowNotFound (provider : String)
  | callNotFound (method : String) (made : List String)
  | eventNotFound (name : String) (tracked : List String)
  | alreadyDeployed
  | nothingDeployed
  | componentFixed (component : String)
  | componentUnknown (component : String)
  | notKeys
  | notLevel (defect : Level.NameDefect)
  | neverConfigured
  | malformedOptions (defect : OptionDefect)
  | malformedLine (defect : Template.Defect)
  deriving Repr

namespace Fault

def quotedList (names : List String) : String :=
  (Document.list (names.map .text)).display

def message : Fault → String
  | .definitionNotFound side definition =>
    side.title ++ " definition not found: " ++ definition.text
  | .actorNotFound side actor => side.title ++ " not found: " ++ actor.text
  | .versionNotFound version => "Actor definition version not found: " ++ version.text
  | .providerNotSupported provider =>
    "Requested OAuth implementation for " ++ provider ++
      ", but it is not included in the OAuth mapping."
  | .providerTaken provider => "OAuth flow already registered for '" ++ provider ++ "'"
  | .ambiguousPin => "Pin a version for exactly one of workspace_id or actor_id"
  | .malformedSchema defect => defect.message
  | .noOAuthSpecification => "no OAuth specification"
  | .invalidPath refusal => refusal.message
  | .unwritable cause => cause.message
  | .malformedKey => "Fernet key must be 32 url-safe base64-encoded bytes."
  | .malformedIdentifier defect => defect.message
  | .identifiersUsedUp => ""
  | .identifierAbsent => "there is no identifier"
  | .unknownSide written => String.ofList written.displayNested ++ " is not a valid ActorType"
  | .argumentMissing name => "there is no argument " ++ name
  | .notOffered => "the broker does not offer this"
  | .invalidRecord problems => toString problems.length ++ " problems in a record"
  | .raised failure => failure.text
  | .flowNotFound provider => "no flow for " ++ provider
  | .callNotFound method made => method ++ " was not called. Calls: " ++ quotedList made
  | .eventNotFound name tracked =>
    "'" ++ name ++ "' was not tracked. Tracked: " ++ quotedList tracked
  | .alreadyDeployed => "Container already initialized; call initialize_container() once."
  | .nothingDeployed => "nothing is deployed"
  | .componentFixed component => "cannot assign to field '" ++ component ++ "'"
  | .componentUnknown component => "no component is named " ++ component
  | .notKeys => "segments must be texts"
  | .notLevel defect => defect.message
  | .neverConfigured => "no logger was configured"
  | .malformedOptions defect => defect.message
  | .malformedLine defect => defect.message

end Fault

/-- The outcome of a check, with all problems as one fault. -/
def Check.orFault {α : Type} : Check α → Except Fault α
  | .valid a => .ok a
  | .invalid problems => .error (.invalidRecord problems)

end AuthBroker
