import AuthBroker.Broker.Basic
import AuthBroker.Settings.Basic

/-!
Setting a broker up, and the one broker of a process.

A broker in memory and one of rehearsal doubles keep secrets in the clear and record usage. A
deployed broker follows its settings: it forwards usage and seals secrets. The process holds at
most one deployed broker until it is reset.
-/

namespace AuthBroker

namespace Broker

/-- The label of the coordinates of brokers that have no settings. -/
def defaultSecretLabel : String := "conduit_oauth_workspace_"

def registryOf (flows : Table String Flow) : Except Fault (Flow.Registry Flow) :=
  match Flow.Registry.empty.registerAll flows with
  | (registry, .ok ()) => .ok registry
  | (_, .error fault) => .error fault

/-- A broker that keeps everything in this process, with the records of its construction. -/
def assemble (wiring : Wiring) (flows : Table String Flow) (secretLabel : String) :
    List LogRecord × Except Fault Broker :=
  match registryOf flows with
  | .error fault => ([], .error fault)
  | .ok registry =>
    ([registry.built], .ok (ofParts wiring registry (.recording .empty) (.clear .empty) secretLabel))

def deployed (settings : Settings) : LogRecord :=
  (Logger.root.withDimensions [("component", .text "container")]).record .info
    ("Container built (env=" ++ settings.environment.name ++ ")")

/-- A broker that follows settings, with the records of its construction up to the first fault. -/
def deploy (settings : Settings) (flows : Table String Flow) :
    List LogRecord × Except Fault Broker :=
  let started := Usage.Forwarder.started settings
  match Secret.Key.ofText? settings.encryptionKey with
  | none => ([started], .error .malformedKey)
  | some key =>
    match registryOf flows with
    | .error fault => ([started], .error fault)
    | .ok registry =>
      ([started, registry.built, deployed settings],
        .ok (ofParts .deployed registry (.forwarding (.ofSettings settings))
          (.secured (.empty key)) settings.secretLabel))

end Broker

/-! ## The broker of a process -/

/-- A process with its broker, if one is deployed. -/
structure Deployment where
  broker : Option Broker
  deriving Repr

/-- What can be asked of a process. -/
inductive Deployment.Command where
  | deploy (settings : Settings.Sources) (providers : List String)
  | reset
  | state
  | replace (components : List String)
  | assign (component : String)
  deriving Repr

namespace Deployment

def idle : Deployment := ⟨none⟩

/-- The components of a deployed broker with the names of what they are made of. -/
def components : Table String String := [
  ("analytics", "PostHogTracker"),
  ("secret_store", "FernetSecretStore"),
  ("definition_repo", "InMemoryConnectorCatalog"),
  ("version_repo", "InMemoryConnectorCatalog"),
  ("instance_repo", "InMemoryConnectorCatalog"),
  ("oauth_param_repo", "InMemoryConnectorCatalog"),
  ("version_resolver", "ActorDefinitionVersionResolver"),
  ("oauth_flow_registry", "OAuthFlowRegistry"),
  ("oauth_handler", "OAuthHandlerService")]

def describe (broker : Broker) : Document :=
  .object (components.map (fun (name, kind) => (name, .text kind)) ++ [
    ("providers", .list (broker.registry.providers.map .text)),
    ("one_catalog", .bool true)])

/-- Flows without scripts for providers; a provider named twice counts once. -/
def unscripted (providers : List String) : Table String Flow :=
  providers.foldl (fun flows provider => flows.insert provider .unscripted) []

/-- Deploys a broker. Settings are read first, and only then it is asked whether one is there. -/
def deploy (deployment : Deployment) (sources : Settings.Sources) (providers : List String) :
    List LogRecord × Except Fault Unit × Deployment :=
  match sources.check, deployment.broker with
  | .invalid problems, _ => ([], .error (.invalidRecord problems), deployment)
  | .valid _, some _ => ([], .error .alreadyDeployed, deployment)
  | .valid settings, none =>
    match Broker.deploy settings (unscripted providers) with
    | (records, .ok broker) => (records, .ok (), ⟨some broker⟩)
    | (records, .error fault) => (records, .error fault, deployment)

/-- The components that differ after those named are replaced, in ascending order. -/
def replaced (names : List String) : Except Fault (List String) :=
  match names.find? fun name => !components.contains name with
  | some name => .error (.componentUnknown name)
  | none => .ok ((components.keys.filter names.contains).mergeSort fun a b => decide (a ≤ b))

/-- Performs a command: the records, the outcome and the process after it. -/
def perform (deployment : Deployment) : Command → List LogRecord × Except Fault Document × Deployment
  | .deploy sources providers =>
    let (records, outcome, after) := deployment.deploy sources providers
    (records, outcome.map fun _ => .null, after)
  | .reset => ([], .ok .null, idle)
  | .state => ([], .ok (.ofOption (deployment.broker.map describe)), deployment)
  | .replace names =>
    match deployment.broker with
    | none => ([], .error .nothingDeployed, deployment)
    | some _ => ([], (replaced names).map fun changed => .list (changed.map .text), deployment)
  | .assign name =>
    match deployment.broker with
    | none => ([], .error .nothingDeployed, deployment)
    | some _ => ([], .error (.componentFixed name), deployment)

end Deployment

end AuthBroker
