import AuthBroker.Failure
import AuthBroker.Journal.Basic
import AuthBroker.Settings.Basic
import AuthBroker.Usage.Event

/-!
Where usage events go.

A recorder keeps them; told to fail, it passes the failure on. A forwarder sends them to a
project with the deployment's own properties under theirs, only when the settings say so; when
the project rejects an event, the forwarder writes that to the journal and goes on.
-/

namespace AuthBroker.Usage

/-! ## Recorders -/

/-- A sink that keeps events. -/
structure Recorder where
  events : List Event
  failure : Option Failure
  deriving Repr

namespace Recorder

def empty : Recorder := ⟨[], none⟩

/-- Keeps an event, unless the recorder is told to fail. -/
def track (recorder : Recorder) (event : Event) : Except Failure Recorder :=
  match recorder.failure with
  | some failure => .error failure
  | none => .ok { recorder with events := recorder.events ++ [event] }

def names (recorder : Recorder) : List String :=
  recorder.events.map (·.name)

def has (recorder : Recorder) (name : String) : Bool :=
  recorder.names.contains name

def get? (recorder : Recorder) (name : String) : Option Event :=
  recorder.events.find? (·.name == name)

def clear (recorder : Recorder) : Recorder :=
  { recorder with events := [] }

end Recorder

/-! ## Forwarders -/

/-- The project that a forwarder sends events to. -/
structure Project where
  key : String
  host : String
  deriving DecidableEq, Repr

/-- A sink that sends events to a project, if it has one. -/
structure Forwarder where
  project : Option Project
  deployment : Fields
  sent : List Event
  failure : Option Failure
  deriving Repr

namespace Forwarder

/-- The project to send events to, when events are to be sent at all. -/
def project? (settings : Settings) : Option Project :=
  match settings.usageKey with
  | none => none
  | some key =>
    if settings.usageEnabled && !key.isEmpty && settings.environment != .localhost then
      some ⟨key, settings.usageHost⟩
    else none

def ofSettings (settings : Settings) : Forwarder where
  project := project? settings
  deployment := [
    ("environment", .text settings.environment.name),
    ("api_url", .text settings.apiUrl)]
  sent := []
  failure := none

def started (settings : Settings) : LogRecord :=
  let state := if (project? settings).isSome then "on" else "off"
  ⟨.info, "PostHog tracking " ++ state ++ " (env=" ++ settings.environment.name ++ ")", none⟩

/-- The event as the project sees it. -/
def complete (forwarder : Forwarder) (event : Event) : Event :=
  { event with
    properties := forwarder.deployment.insertAll event.properties
    groups := some (event.groups.getD []) }

/-- The record of an event that the project rejected. -/
def rejected (event : Event) (failure : Failure) : LogRecord :=
  ⟨.error, "PostHog rejected event '" ++ event.name ++ "' for " ++ event.distinctId ++ ": " ++
    failure.text, none⟩

/-- Sends an event; the records say whether the project rejected it. -/
def track (forwarder : Forwarder) (event : Event) : Forwarder × List LogRecord :=
  match forwarder.project, forwarder.failure with
  | none, _ => (forwarder, [])
  | some _, some failure => (forwarder, [rejected event failure])
  | some _, none => ({ forwarder with sent := forwarder.sent ++ [forwarder.complete event] }, [])

end Forwarder

/-! ## Sinks -/

inductive Sink where
  | recording (recorder : Recorder)
  | forwarding (forwarder : Forwarder)
  deriving Repr

namespace Sink

def track (sink : Sink) (event : Event) : Except Failure (Sink × List LogRecord) :=
  match sink with
  | .recording recorder => (recorder.track event).map fun after => (.recording after, [])
  | .forwarding forwarder =>
    let (after, records) := forwarder.track event
    .ok (.forwarding after, records)

def events : Sink → List Event
  | .recording recorder => recorder.events
  | .forwarding forwarder => forwarder.sent

/-- Tells the sink's far end to fail, or to work again. -/
def setFailure (sink : Sink) (failure : Option Failure) : Sink :=
  match sink with
  | .recording recorder => .recording { recorder with failure := failure }
  | .forwarding forwarder => .forwarding { forwarder with failure := failure }

end Sink

end AuthBroker.Usage
