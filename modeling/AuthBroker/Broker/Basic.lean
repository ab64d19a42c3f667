import AuthBroker.Catalog
import AuthBroker.Flow.Basic
import AuthBroker.Flow.Registry
import AuthBroker.Input.Part
import AuthBroker.Secret.Store
import AuthBroker.Usage.Sink

/-!
The broker: its catalog, flows, usage sink and secret store, with the histories of what it did.

An action runs in a broker and ends in a value or a fault; what it did before a fault stays
done. The histories hold the journal records, the calls of flows, the look-ups in the catalog
and the writes of parameters, each in order. Loans tell which tables of kept configurations the
calls share. The search room is what is left of the stack for going down into a payload.
-/

namespace AuthBroker

/-- How the parts of a broker were chosen: in memory for one process, as rehearsal doubles that
share their records with the caller, or deployed from settings. -/
inductive Wiring where
  | memory
  | rehearsal
  | deployed
  deriving DecidableEq, Repr

inductive Lookup where
  | definition (side : Side) (id : Identifier)
  | version (id : Identifier)
  | pin (definition : Identifier) (workspace actor : Option Identifier)
  | actor (side : Side) (id : Identifier)
  | hydratedActor (side : Side) (id : Identifier)
  deriving DecidableEq, Repr

/-- A kept configuration of an actor: the stored one, or the one with its secrets in place. -/
structure Holding where
  side : Side
  actor : Identifier
  hydrated : Bool
  deriving DecidableEq, Repr

/-- A table of a kept configuration that a call got as it stands, in a field of its input. Calls are
counted from zero. -/
structure Loan where
  call : Nat
  field : String
  holding : Holding
  part : Input.Part
  deriving DecidableEq, Repr

structure Broker where
  wiring : Wiring
  catalog : Catalog
  hydrated : Table (Side × Identifier) Fields
  registry : Flow.Registry Flow
  sink : Usage.Sink
  store : Secret.Store
  secretLabel : String
  searchRoom : Nat
  minted : Nat
  journal : List LogRecord
  calls : List Flow.Call
  loans : List Loan
  lookups : List Lookup
  parameterWrites : List Connector.Parameter
  deriving Repr

abbrev Action (α : Type) := ExceptT Fault (StateM Broker) α

/-- Runs an action in a broker: its outcome, and the broker after it. -/
def Action.runIn {α : Type} (action : Action α) (b : Broker) : Except Fault α × Broker :=
  action.run.run b

namespace Action

variable {α β : Type}

theorem runIn_pure (a : α) (b : Broker) : (pure a : Action α).runIn b = (.ok a, b) := rfl

theorem runIn_throw (fault : Fault) (b : Broker) :
    (throw fault : Action α).runIn b = (.error fault, b) := rfl

/-- The second action runs in the broker that the first leaves, and only if that did not fail. -/
theorem runIn_bind (first : Action α) (next : α → Action β) (b : Broker) :
    (first >>= next).runIn b =
      match first.runIn b with
      | (.ok a, after) => (next a).runIn after
      | (.error fault, after) => (.error fault, after) := by
  simp only [runIn, bind, ExceptT.bind, ExceptT.run, ExceptT.mk, StateT.run, StateT.bind]
  cases first b with
  | mk outcome after =>
    cases outcome with
    | ok a => rfl
    | error fault => rfl

theorem runIn_map (f : α → β) (action : Action α) (b : Broker) :
    (f <$> action).runIn b = ((action.runIn b).1.map f, (action.runIn b).2) := by
  rw [map_eq_pure_bind, runIn_bind]
  rcases action.runIn b with ⟨_ | a, after⟩
  · rfl
  · rfl

/-- Where two actions in a row answer, the first one does, and the second one after it. -/
theorem exists_of_runIn_bind {first : Action α} {next : α → Action β} {b after : Broker} {c : β}
    (h : (first >>= next).runIn b = (.ok c, after)) :
    ∃ a mid, first.runIn b = (.ok a, mid) ∧ (next a).runIn mid = (.ok c, after) := by
  rw [runIn_bind] at h
  cases hfirst : first.runIn b with
  | mk outcome mid =>
    rw [hfirst] at h
    cases outcome with
    | ok a => exact ⟨a, mid, rfl, h⟩
    | error fault => cases h

theorem runIn_modify (f : Broker → Broker) (b : Broker) :
    (modify f : Action Unit).runIn b = (.ok (), f b) := rfl

theorem runIn_get (b : Broker) : (get : Action Broker).runIn b = (.ok b, b) := rfl

theorem runIn_set (after b : Broker) : (set after : Action Unit).runIn b = (.ok (), after) := rfl

end Action

namespace Broker

/-- The levels that a search through a payload has room for on a stack of the usual size, whatever
else is on it. -/
def usualRoom : Nat := 900

/-- The broker with the given parts and nothing done. -/
def ofParts (wiring : Wiring) (registry : Flow.Registry Flow) (sink : Usage.Sink)
    (store : Secret.Store) (secretLabel : String) : Broker where
  wiring := wiring
  catalog := .empty
  hydrated := []
  registry := registry
  sink := sink
  store := store
  secretLabel := secretLabel
  searchRoom := usualRoom
  minted := 0
  journal := []
  calls := []
  loans := []
  lookups := []
  parameterWrites := []

/-! ## Elementary actions -/

/-- Goes on with a value, or fails with a fault. -/
def ofExcept {α : Type} : Except Fault α → Action α
  | .ok a => pure a
  | .error fault => throw fault

theorem runIn_ofExcept {α : Type} (outcome : Except Fault α) (b : Broker) :
    (ofExcept outcome).runIn b = (outcome, b) := by
  cases outcome with
  | ok a => rfl
  | error fault => rfl

def record (records : List LogRecord) : Action Unit :=
  modify fun b => { b with journal := b.journal ++ records }

def consult (lookup : Lookup) : Action Unit :=
  modify fun b => { b with lookups := b.lookups ++ [lookup] }

/-- Draws the next identifier of a supply. -/
def draw (supply : Nat → Identifier) : Action Identifier := do
  let b ← get
  set { b with minted := b.minted + 1 }
  return supply (b.minted + 1)

def mint : Action Identifier :=
  draw .minted

/-! ## The catalog -/

def definition (side : Side) (id : Identifier) : Action Connector.Definition := do
  consult (.definition side id)
  ofExcept ((← get).catalog.definition side id)

def version (id : Identifier) : Action Connector.Version := do
  consult (.version id)
  ofExcept ((← get).catalog.version id)

/-- Looks the version up that is pinned for an actor or, without one, for a workspace. -/
def pinned? (definition : Identifier) (workspace actor : Option Identifier) :
    Action (Option Identifier) := do
  consult (.pin definition workspace actor)
  return (← get).catalog.pinned? definition workspace actor

def actor (side : Side) (id : Identifier) : Action Connector.Actor := do
  consult (.actor side id)
  ofExcept ((← get).catalog.actor side id)

def hydratedActor (side : Side) (id : Identifier) : Action Connector.Actor := do
  consult (.hydratedActor side id)
  let b ← get
  let actor ← ofExcept (b.catalog.actor side id)
  match b.hydrated.get? (side, id) with
  | some configuration => return { actor with configuration := configuration }
  | none => return actor

def parameter? (side : Side) (definition : Identifier) (workspace : Option Identifier) :
    Action (Option Connector.Parameter) := do
  return (← get).catalog.parameter? side definition workspace

def writeParameter (parameter : Connector.Parameter) : Action Unit :=
  modify fun b => { b with
    catalog := b.catalog.addParameter parameter
    parameterWrites := b.parameterWrites ++ [parameter] }

/-! ## Flows, usage and secrets -/

def flow (provider : String) : Action Flow := do
  ofExcept ((← get).registry.get provider)

def callFlow (flow : Flow) (call : Flow.Call) : Action Unit := do
  -- noted first, so a call that fails is seen too
  modify fun b => { b with calls := b.calls ++ [call] }
  match flow.failure with
  | some failure => throw (.raised failure)
  | none => pure ()

/-- Hands an event to the usage sink. A failure of the sink is recorded and goes no further. -/
def track (logger : Logger) (event : Usage.Event) : Action Unit := do
  let b ← get
  match b.sink.track event with
  | .ok (sink, records) => set { b with sink := sink, journal := b.journal ++ records }
  | .error failure =>
    record [logger.record .error ("Failed while reporting usage: " ++ failure.text)]

def storeSecret (coordinate : Secret.Coordinate) (text : String) : Action Unit := do
  let b ← get
  match b.store.put coordinate text with
  | .ok store => set { b with store := store }
  | .error failure => throw (.raised failure)

end Broker

end AuthBroker
