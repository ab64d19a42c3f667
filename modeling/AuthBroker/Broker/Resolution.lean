import AuthBroker.Broker.Basic

/-!
Which version of a connector applies.

For an actor it is the version pinned for the actor, or else for the workspace of the actor; for
a workspace the version pinned for it. Without a pin it is the default of the definition. The
actor has to exist even if a version is pinned for it.
-/

namespace AuthBroker.Broker

def resolutionLogger : Logger :=
  (Logger.root.withLabel "VersionResolver: ").withDimensions
    [("component", .text "actor_definition_version_resolver")]

/-- Loads the pinned version, or the default one without a pin. -/
def loadVersion (definition : Connector.Definition) (pin : Option Identifier) :
    Action Connector.Version :=
  match pin with
  | some id => do
    record [resolutionLogger.record .debug
      ("Using pinned version " ++ id.text ++ " for definition " ++ definition.id.text)]
    version id
  | none => version definition.defaultVersion

def versionForActor (definition : Connector.Definition) (id : Identifier) :
    Action Connector.Version := do
  -- looked up even where a pin of its own decides, so an unknown actor is always refused
  let actor ← actor definition.side id
  match ← pinned? definition.id none (some id) with
  | some pin => loadVersion definition (some pin)
  | none => loadVersion definition (← pinned? definition.id (some actor.workspace) none)

/-- The version that a new actor of a definition in a workspace would use. -/
def versionForWorkspace (definition : Connector.Definition) (workspace : Identifier) :
    Action Connector.Version := do
  loadVersion definition (← pinned? definition.id (some workspace) none)

end AuthBroker.Broker
