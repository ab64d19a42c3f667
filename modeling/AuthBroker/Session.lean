import AuthBroker.Broker.Parameters
import AuthBroker.Broker.Secret

/-!
Sessions: scripts of steps that a broker performs, with a report of each.

A step that fails does not end the session. The report of a step is its outcome together with
what the step added to the histories of the broker.
-/

namespace AuthBroker

open Connector Exchange

/-- A part of a step that is read when the step gets to it: what it says, or the fault of what was
written in its place. -/
abbrev Written (α : Type) := Except Fault α

def Written.side : Document → Written Side
  | .text name => (Side.ofName? name).elim (.error (.unknownSide (.text name))) .ok
  | d => .error (.unknownSide d)

def Written.identifier : Document → Written Identifier
  | .text s => (Identifier.ofLoose s).mapError .malformedIdentifier
  | .null => .error .identifierAbsent
  | _ => .error .notOffered

/-- A step of a session. Records and requests come as documents, and what stands beside them as it
was written; both are read when the step is performed. A step that is unreadable otherwise fails
with the fault that it carries. -/
inductive Step where
  | addDefinition (record : Document)
  | addVersion (record : Document)
  | addActor (record : Document)
  | pin (definition version : Identifier) (workspace actor : Option Identifier)
  | hydrate (side : Written Side) (actor : Written Identifier) (configuration : Fields)
  | seedParameters (records : List Document)
  | addFlow (provider : String) (script : Flow.Script)
  | scriptFlow (provider : String) (script : Flow.Script)
  | lastCall (provider method : String)
  | failUsage (failure : Option Failure)
  | failStore (failure : Written (Option Failure))
  | getDefinition (side : Side) (id : Identifier)
  | getVersion (id : Identifier)
  | getPinned (definition : Identifier) (workspace actor : Option Identifier)
  | getActor (side : Side) (id : Identifier) (hydrated : Bool) (edit : Fields)
  | getParameter (side : Side) (definition : Identifier) (workspace : Option Identifier)
      (edit : Fields)
  | writeParameter (record : Document) (edit : Fields)
  | listParameters
  | versionForActor (definition : Document) (actor : Written Identifier)
  | versionForWorkspace (definition : Document) (workspace : Written Identifier)
  | consent (side : Written Side) (request : Document)
  | complete (side : Written Side) (request : Document)
  | completeAsAsked (request : Document)
  | writeSecret (workspace : Written Identifier) (response : Document)
  | setParameters (side : Written Side) (request : Document)
  | unreadable (fault : Fault)
  deriving Repr

structure Report where
  outcome : Except Fault Document
  journal : List LogRecord
  calls : List Flow.Call
  events : List Usage.Event
  secrets : List (String × String)
  lookups : List Lookup
  parameterWrites : List Parameter

namespace Broker

def modifyCatalog (f : Catalog → Catalog) : Action Unit :=
  modify fun b => { b with catalog := f b.catalog }

/-- Reads a record or a request; all its problems are one fault. -/
def reading {α : Type} (check : Document → Check α) (d : Document) : Action α :=
  ofExcept (check d).orFault

/-- Fails when the broker was put together in a way that a step is not meant for. -/
def refusing (wirings : List Wiring) : Action Unit := do
  if wirings.contains (← get).wiring then throw .notOffered

/-! ## Steps -/

/-- Pins a version. Rehearsal doubles do not check what it is pinned for. -/
def pin (definition version : Identifier) (workspace actor : Option Identifier) :
    Action Unit := do
  let b ← get
  match b.wiring with
  | .rehearsal => modifyCatalog (·.pinFor definition version workspace actor)
  | .memory | .deployed =>
    let catalog ← ofExcept (b.catalog.pin definition version workspace actor)
    set { b with catalog := catalog }

/-- The last call of a method of a provider's flow. -/
def lastCall (provider method : String) : Action Flow.Call := do
  let b ← get
  if !b.registry.flows.contains provider then throw (.flowNotFound provider)
  let calls := b.calls.filter (·.provider == provider)
  match calls.reverse.find? (·.method == method) with
  | some call => return call
  | none => throw (.callNotFound method (calls.map (·.method)))

/-- Performs a step and answers its result; null where there is none. -/
def perform : Step → Action Document
  | .addDefinition d => do
    let record ← reading Definition.check d
    modifyCatalog (·.addDefinition record)
    return .null
  | .addVersion d => do
    let record ← reading Version.check d
    modifyCatalog (·.addVersion record)
    return .null
  | .addActor d => do
    let record ← reading Actor.check d
    modifyCatalog (·.addActor record)
    -- earlier calls keep the tables of the record that was there before
    modify (·.endLoans ⟨record.side, record.id, false⟩)
    return .null
  | .pin definition version workspace actor => do
    pin definition version workspace actor
    return .null
  | .hydrate side actor configuration => do
    refusing [.memory, .deployed]
    let side ← ofExcept side
    let actor ← ofExcept actor
    modify fun b => { b with hydrated := b.hydrated.insert (side, actor) configuration }
    modify (·.endLoans ⟨side, actor, true⟩)
    return .null
  | .seedParameters ds => do
    refusing [.memory, .deployed]
    let records ← ds.mapM (reading Parameter.check)
    modifyCatalog fun catalog => records.foldl (·.addParameter ·) catalog
    return .null
  | .addFlow provider script => do
    let b ← get
    let registry ← ofExcept (b.registry.register provider (Flow.unscripted.follow script))
    set { b with registry := registry }
    return .null
  | .scriptFlow provider script => do
    let b ← get
    match b.registry.flows.get? provider with
    | none => throw (.flowNotFound provider)
    | some flow =>
      set { b with registry := b.registry.update provider (flow.follow script) }
      return .null
  | .lastCall provider method => do
    return (← lastCall provider method).arguments
  | .failUsage failure => do
    modify fun b => { b with sink := b.sink.setFailure failure }
    return .null
  | .failStore failure => do
    refusing [.deployed]
    let failure ← ofExcept failure
    modify fun b => { b with store := b.store.setFailure failure }
    return .null
  | .getDefinition side id => do
    return (← definition side id).toDocument
  | .getVersion id => do
    return (← version id).toDocument
  | .getPinned definition workspace actor => do
    return .ofOption ((← pinned? definition workspace actor).map (·.toDocument))
  | .getActor side id hydrated edit => do
    let record ← if hydrated then hydratedActor side id else actor side id
    -- the answer is taken down before the caller edits it
    editing edit (·.afterActorEdit side id hydrated edit)
    return record.toDocument
  | .getParameter side definition workspace edit => do
    match ← parameter? side definition workspace with
    | none => return .null
    | some record =>
      editing edit (·.afterParameterEdit record false edit)
      return record.toDocument
  | .writeParameter d edit => do
    let record ← reading Parameter.check d
    writeParameter record
    editing edit (·.afterParameterEdit record true edit)
    return record.toDocument
  | .listParameters => do
    return .list ((← get).catalog.parameters.values.map (·.toDocument))
  | .versionForActor d actor => do
    let definition ← reading Definition.check d
    return (← versionForActor definition (← ofExcept actor)).toDocument
  | .versionForWorkspace d workspace => do
    let definition ← reading Definition.check d
    return (← versionForWorkspace definition (← ofExcept workspace)).toDocument
  | .consent side d => do
    let request ← reading ConsentRequest.check d
    return (← consent (← ofExcept side) request).toDocument
  | .complete side d => do
    let request ← reading CompletionRequest.check d
    return (← complete (← ofExcept side) request).toDocument
  | .completeAsAsked d => do
    let request ← reading CompletionRequest.check d
    return (← completeAsAsked request).toDocument
  | .writeSecret workspace d => do
    let response ← reading Response.check d
    return (← writeSecret (← ofExcept workspace) response).toDocument
  | .setParameters side d => do
    let request ← reading ParameterRequest.check d
    setParameters (← ofExcept side) request
    return .null
  | .unreadable fault => throw fault

def step (b : Broker) (s : Step) : Report × Broker :=
  let (outcome, after) := (perform s).runIn b
  ({ outcome := outcome
     journal := after.journal.drop b.journal.length
     calls := after.calls.drop b.calls.length
     events := after.sink.events.drop b.sink.events.length
     secrets := after.store.entries.drop b.store.entries.length
     lookups := after.lookups.drop b.lookups.length
     parameterWrites := after.parameterWrites.drop b.parameterWrites.length }, after)

def run (b : Broker) : List Step → List Report × Broker
  | [] => ([], b)
  | s :: rest =>
    let (report, after) := b.step s
    let (reports, final) := after.run rest
    (report :: reports, final)

end Broker

end AuthBroker
