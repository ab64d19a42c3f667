import AuthBroker.Broker.Exchange
import AuthBroker.Proofs.Catalog.Population
import AuthBroker.Proofs.Input.Schema

/-! # What a broker does before it calls a flow

Looking things up, choosing a version and filling the input leave notes behind: records, look-ups
and loans. Apart from these the broker stays as it is, and its notes do not influence what comes
out. `Yields` says both of an action; the lemmas below say what each action of this kind yields. -/

namespace AuthBroker.Broker

open Connector Exchange

/-! ## Notes -/

/-- The broker apart from its notes. -/
def core (b : Broker) : Broker :=
  { b with journal := [], loans := [], lookups := [] }

/-- However the broker's notes read, the action has the outcome, and leaves the broker `after` apart
from its notes. -/
def Ends {α : Type} (b : Broker) (action : Action α) (outcome : Except Fault α) (after : Broker) :
    Prop :=
  ∀ noted : Broker, noted.core = b.core →
    (action.runIn noted).1 = outcome ∧ (action.runIn noted).2.core = after.core

section
variable {α β : Type} {b mid after noted : Broker}

theorem catalog_eq (h : noted.core = b.core) : noted.catalog = b.catalog := by
  change noted.core.catalog = b.core.catalog
  rw [h]

theorem registry_eq (h : noted.core = b.core) : noted.registry = b.registry := by
  change noted.core.registry = b.core.registry
  rw [h]

theorem hydrated_eq (h : noted.core = b.core) : noted.hydrated = b.hydrated := by
  change noted.core.hydrated = b.core.hydrated
  rw [h]

theorem sink_eq (h : noted.core = b.core) : noted.sink = b.sink := by
  change noted.core.sink = b.core.sink
  rw [h]

theorem ends_pure (b : Broker) (a : α) : Ends b (pure a) (.ok a) b := by
  intro noted h
  rw [Action.runIn_pure]
  exact ⟨rfl, h⟩

theorem ends_throw (b : Broker) (fault : Fault) :
    Ends b (throw fault : Action α) (.error fault) b := by
  intro noted h
  rw [Action.runIn_throw]
  exact ⟨rfl, h⟩

theorem ends_ofExcept (b : Broker) (outcome : Except Fault α) :
    Ends b (ofExcept outcome) outcome b := by
  intro noted h
  rw [runIn_ofExcept]
  exact ⟨rfl, h⟩

theorem ends_modify {f : Broker → Broker}
    (hf : ∀ noted, noted.core = b.core → (f noted).core = after.core) :
    Ends b (modify f) (.ok ()) after := by
  intro noted h
  rw [Action.runIn_modify]
  exact ⟨rfl, hf noted h⟩

theorem Ends.bind {first : Action α} {next : α → Action β} {a : α} {outcome : Except Fault β}
    (hfirst : Ends b first (.ok a) mid) (hnext : Ends mid (next a) outcome after) :
    Ends b (first >>= next) outcome after := by
  intro noted h
  obtain ⟨hout, hcore⟩ := hfirst noted h
  have hrun : first.runIn noted = (.ok a, (first.runIn noted).2) := Prod.ext hout rfl
  rw [Action.runIn_bind, hrun]
  exact hnext _ hcore

theorem Ends.bind_error {first : Action α} {fault : Fault} (hfirst : Ends b first (.error fault) after)
    (next : α → Action β) : Ends b (first >>= next) (.error fault) after := by
  intro noted h
  obtain ⟨hout, hcore⟩ := hfirst noted h
  have hrun : first.runIn noted = (.error fault, (first.runIn noted).2) := Prod.ext hout rfl
  rw [Action.runIn_bind, hrun]
  exact ⟨rfl, hcore⟩

theorem Ends.map {action : Action α} {outcome : Except Fault α} (h : Ends b action outcome after)
    (f : α → β) : Ends b (f <$> action) (outcome.map f) after := by
  rw [map_eq_pure_bind]
  cases outcome with
  | ok a => exact h.bind (ends_pure after (f a))
  | error fault => exact h.bind_error _

theorem ends_get {next : Broker → Action β} {outcome : Except Fault β}
    (hnext : ∀ noted, noted.core = b.core → Ends b (next noted) outcome after) :
    Ends b (get >>= next) outcome after := by
  intro noted h
  rw [Action.runIn_bind, Action.runIn_get]
  exact hnext noted h noted h

end

section
variable (b : Broker)

theorem ends_record (records : List LogRecord) : Ends b (record records) (.ok ()) b :=
  ends_modify fun _ h => h

theorem ends_lend (side : Side) (id : Identifier) (spec : OAuthSpecification)
    (input : Option Fields) : Ends b (lend side id spec input) (.ok ()) b := by
  refine ends_modify fun noted h => ?_
  dsimp only
  split
  · exact h
  · exact h

/-! ## Looking up -/

theorem runIn_lookUp {α : Type} (lookup : Lookup) (find : Catalog → Except Fault α) :
    (do consult lookup; ofExcept (find (← get).catalog) : Action α).runIn b =
      (find b.catalog, { b with lookups := b.lookups ++ [lookup] }) := by
  rw [Action.runIn_bind, consult, Action.runIn_modify]
  dsimp only
  rw [Action.runIn_bind, Action.runIn_get]
  exact runIn_ofExcept _ _

theorem ends_lookUp {α : Type} (lookup : Lookup) (find : Catalog → Except Fault α) :
    Ends b (do consult lookup; ofExcept (find (← get).catalog)) (find b.catalog) b := by
  intro noted h
  rw [runIn_lookUp]
  exact ⟨congrArg find (catalog_eq h), h⟩

theorem ends_definition (side : Side) (id : Identifier) :
    Ends b (definition side id) (b.catalog.definition side id) b :=
  ends_lookUp b (.definition side id) (·.definition side id)

theorem ends_version (id : Identifier) : Ends b (version id) (b.catalog.version id) b :=
  ends_lookUp b (.version id) (·.version id)

theorem ends_actor (side : Side) (id : Identifier) :
    Ends b (actor side id) (b.catalog.actor side id) b :=
  ends_lookUp b (.actor side id) (·.actor side id)

theorem ends_pinned? (definition : Identifier) (workspace actor : Option Identifier) :
    Ends b (pinned? definition workspace actor)
      (.ok (b.catalog.pinned? definition workspace actor)) b :=
  ends_lookUp b (.pin definition workspace actor) fun catalog =>
    .ok (catalog.pinned? definition workspace actor)

theorem ends_flow (provider : String) : Ends b (flow provider) (b.registry.get provider) b := by
  refine ends_get fun noted h => ?_
  rw [registry_eq h]
  exact ends_ofExcept b _

theorem runIn_hydratedActor (side : Side) (id : Identifier) :
    (hydratedActor side id).runIn b =
      ((b.catalog.actor side id).map fun a =>
          { a with configuration := (b.hydrated.get? (side, id)).getD a.configuration },
        { b with lookups := b.lookups ++ [.hydratedActor side id] }) := by
  rw [hydratedActor, Action.runIn_bind, consult, Action.runIn_modify]
  dsimp only
  rw [Action.runIn_bind, Action.runIn_get]
  dsimp only
  rw [Action.runIn_bind, runIn_ofExcept]
  cases b.catalog.actor side id with
  | error fault => rfl
  | ok a => cases b.hydrated.get? (side, id) <;> rfl

theorem ends_hydratedActor {side : Side} {id : Identifier} {a : Actor}
    (h : b.catalog.actor side id = .ok a) :
    Ends b (hydratedActor side id) (.ok { a with
      configuration := (b.hydrated.get? (side, id)).getD a.configuration }) b := by
  intro noted hnoted
  rw [runIn_hydratedActor]
  refine ⟨?_, hnoted⟩
  dsimp only
  rw [catalog_eq hnoted, hydrated_eq hnoted, h]
  rfl

/-! ## Choosing a version -/

theorem ends_loadVersion (d : Definition) (pin : Option Identifier) :
    Ends b (loadVersion d pin) (b.catalog.version (pin.getD d.defaultVersion)) b := by
  cases pin with
  | none => exact ends_version b _
  | some id => exact (ends_record b _).bind (ends_version b id)

theorem ends_versionForWorkspace (d : Definition) (workspace : Identifier) :
    Ends b (versionForWorkspace d workspace)
      (b.catalog.version (b.catalog.selected d none workspace)) b :=
  (ends_pinned? b d.id (some workspace) none).bind (ends_loadVersion b d _)

theorem ends_versionForActor {d : Definition} {id : Identifier} {a : Actor}
    (h : b.catalog.actor d.side id = .ok a) :
    Ends b (versionForActor d id)
      (b.catalog.version (b.catalog.selected d (some id) a.workspace)) b := by
  have hactor := ends_actor b d.side id
  rw [h] at hactor
  refine hactor.bind ((ends_pinned? b d.id none (some id)).bind ?_)
  have hpin : b.catalog.pinned? d.id none (some id) = b.catalog.actorPins.get? (d.id, id) := rfl
  rw [hpin, Catalog.selected, Option.bind_some]
  cases b.catalog.actorPins.get? (d.id, id) with
  | none => exact (ends_pinned? b d.id (some a.workspace) none).bind (ends_loadVersion b d _)
  | some pin => exact ends_loadVersion b d (some pin)

/-! ## Calling a flow -/

theorem ends_callFlow (flow : Flow) (call : Flow.Call) :
    Ends b (callFlow flow call)
      (match flow.failure with
        | some failure => .error (.raised failure)
        | none => .ok ())
      { b with calls := b.calls ++ [call] } := by
  have hnote : Ends b (modify fun noted : Broker => { noted with calls := noted.calls ++ [call] })
      (.ok ()) { b with calls := b.calls ++ [call] } := by
    refine ends_modify fun noted h => ?_
    change { noted.core with calls := noted.core.calls ++ [call] } = _
    rw [h]
    rfl
  refine hnote.bind ?_
  cases flow.failure with
  | none => exact ends_pure _ ()
  | some failure => exact ends_throw _ _

/-- The sink after an event was handed to it, whether or not it failed. -/
def sinkAfter (sink : Usage.Sink) (event : Usage.Event) : Usage.Sink :=
  match sink.track event with
  | .ok (after, _) => after
  | .error _ => sink

theorem ends_track (logger : Logger) (event : Usage.Event) :
    Ends b (track logger event) (.ok ()) { b with sink := sinkAfter b.sink event } := by
  refine ends_get fun noted h => ?_
  rw [sink_eq h, sinkAfter]
  cases b.sink.track event with
  | error failure => exact ends_record b _
  | ok tracked =>
    -- the broker that is put back is the one that was read, not the one it is put back in
    intro later _
    rw [Action.runIn_set]
    refine ⟨rfl, ?_⟩
    change { noted.core with sink := tracked.1 } = _
    rw [h]
    rfl

end

end AuthBroker.Broker
