import AuthBroker.Fault

/-!
The connector catalog: definitions, versions, actors, parameters and pinned versions.

Definitions and actors are stored by side and identifier, versions and parameters by identifier.
A version may be pinned for a definition in a workspace, or for one actor. Storing under a key
that is present replaces the record in place.
-/

namespace AuthBroker

open Connector

structure Catalog where
  definitions : Table (Side × Identifier) Definition
  versions : Table Identifier Version
  actors : Table (Side × Identifier) Actor
  parameters : Table Identifier Parameter
  actorPins : Table (Identifier × Identifier) Identifier
  workspacePins : Table (Identifier × Identifier) Identifier
  deriving Repr

namespace Catalog

def empty : Catalog := ⟨[], [], [], [], [], []⟩

/-! ## Population -/

def addDefinition (catalog : Catalog) (definition : Definition) : Catalog :=
  { catalog with
    definitions := catalog.definitions.insert (definition.side, definition.id) definition }

def addVersion (catalog : Catalog) (version : Version) : Catalog :=
  { catalog with versions := catalog.versions.insert version.id version }

def addActor (catalog : Catalog) (actor : Actor) : Catalog :=
  { catalog with actors := catalog.actors.insert (actor.side, actor.id) actor }

def addParameter (catalog : Catalog) (parameter : Parameter) : Catalog :=
  { catalog with parameters := catalog.parameters.insert parameter.id parameter }

def pinForActor (catalog : Catalog) (definition actor version : Identifier) : Catalog :=
  { catalog with actorPins := catalog.actorPins.insert (definition, actor) version }

def pinForWorkspace (catalog : Catalog) (definition workspace version : Identifier) : Catalog :=
  { catalog with workspacePins := catalog.workspacePins.insert (definition, workspace) version }

/-- Pins a version of a definition for an actor or, without one, for a workspace. -/
def pinFor (catalog : Catalog) (definition version : Identifier)
    (workspace actor : Option Identifier) : Catalog :=
  match actor, workspace with
  | some a, _ => catalog.pinForActor definition a version
  | none, some w => catalog.pinForWorkspace definition w version
  | none, none => catalog

/-- Pins a version of a definition for exactly one of a workspace and an actor. -/
def pin (catalog : Catalog) (definition version : Identifier)
    (workspace actor : Option Identifier) : Except Fault Catalog :=
  if workspace.isSome = actor.isSome then .error .ambiguousPin
  else .ok (catalog.pinFor definition version workspace actor)

/-! ## Look-up -/

def definition (catalog : Catalog) (side : Side) (id : Identifier) : Except Fault Definition :=
  match catalog.definitions.get? (side, id) with
  | some definition => .ok definition
  | none => .error (.definitionNotFound side id)

def version (catalog : Catalog) (id : Identifier) : Except Fault Version :=
  match catalog.versions.get? id with
  | some version => .ok version
  | none => .error (.versionNotFound id)

def actor (catalog : Catalog) (side : Side) (id : Identifier) : Except Fault Actor :=
  match catalog.actors.get? (side, id) with
  | some actor => .ok actor
  | none => .error (.actorNotFound side id)

/-- The version pinned for an actor or, without one, for a workspace. -/
def pinned? (catalog : Catalog) (definition : Identifier) (workspace actor : Option Identifier) :
    Option Identifier :=
  match actor, workspace with
  | some a, _ => catalog.actorPins.get? (definition, a)
  | none, some w => catalog.workspacePins.get? (definition, w)
  | none, none => none

/-- The first parameter of a definition on a side for a workspace, or for the whole instance. -/
def parameter? (catalog : Catalog) (side : Side) (definition : Identifier)
    (workspace : Option Identifier) : Option Parameter :=
  catalog.parameters.values.find? fun p =>
    p.side == side && p.definition == definition && p.workspace == workspace

end Catalog

end AuthBroker
