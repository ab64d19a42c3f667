import AuthBroker.Broker.Secret
import AuthBroker.Proofs.Broker.Parameters
import AuthBroker.Proofs.Broker.Verdict
import AuthBroker.Proofs.Broker.Writing

/-! # Sources and destinations do not see each other

What a broker knows of connectors is its world. An action is indifferent between two worlds if it comes
to the same in both and leaves the world as it is. What is done for one side is indifferent between
worlds that agree on this side (`SameOn`), up to a change of parameters, which makes the same change in
both (`service_apart`). -/

namespace AuthBroker.Broker

open Connector Exchange

/-- What a broker knows of connectors. -/
structure World where
  catalog : Catalog
  hydrated : Table (Side × Identifier) Fields

def world (b : Broker) : World :=
  ⟨b.catalog, b.hydrated⟩

/-- The broker with another world. -/
def inWorld (b : Broker) (w : World) : Broker :=
  { b with catalog := w.catalog, hydrated := w.hydrated }

/-- The worlds agree on everything of a side, and on the versions and pins that both sides share. -/
structure SameOn (side : Side) (w w' : World) : Prop where
  definitions : ∀ id, w'.catalog.definitions.get? (side, id) = w.catalog.definitions.get? (side, id)
  actors : ∀ id, w'.catalog.actors.get? (side, id) = w.catalog.actors.get? (side, id)
  hydrated : ∀ id, w'.hydrated.get? (side, id) = w.hydrated.get? (side, id)
  parameters : ∀ definition workspace, w'.catalog.parameter? side definition workspace =
    w.catalog.parameter? side definition workspace
  versions : ∀ id, w'.catalog.versions.get? id = w.catalog.versions.get? id
  pinned? : ∀ definition workspace actor, w'.catalog.pinned? definition workspace actor =
    w.catalog.pinned? definition workspace actor

theorem sameOn_refl (side : Side) (w : World) : SameOn side w w where
  definitions _ := rfl
  actors _ := rfl
  hydrated _ := rfl
  parameters _ _ := rfl
  versions _ := rfl
  pinned? _ _ _ := rfl

/-- In the one world and in the other the action has the same outcome and does the same to the rest of
the broker, and it leaves the world as it is. -/
def Indifferent {α : Type} (w w' : World) (action : Action α) : Prop :=
  ∀ b : Broker, b.world = w →
    action.runIn (b.inWorld w') = ((action.runIn b).1, (action.runIn b).2.inWorld w') ∧
      (action.runIn b).2.world = w

section
variable {α β : Type} {w w' : World} {side : Side}

/-! ## Rules -/

theorem indifferent_pure (a : α) : Indifferent w w' (pure a) :=
  fun _ h => ⟨rfl, h⟩

theorem indifferent_throw (fault : Fault) : Indifferent w w' (throw fault : Action α) :=
  fun _ h => ⟨rfl, h⟩

theorem indifferent_ofExcept (outcome : Except Fault α) : Indifferent w w' (ofExcept outcome) := by
  cases outcome with
  | ok a => exact indifferent_pure a
  | error fault => exact indifferent_throw fault

/-- An action goes on from what the first one can answer. -/
theorem Indifferent.bind_of {first : Action α} {next : α → Action β} {P : α → Prop}
    (h : Indifferent w w' first)
    (hpost : ∀ b a after, b.world = w → first.runIn b = (.ok a, after) → P a)
    (hnext : ∀ a, P a → Indifferent w w' (next a)) : Indifferent w w' (first >>= next) := by
  intro b hb
  obtain ⟨hrun, hworld⟩ := h b hb
  rw [Action.runIn_bind, Action.runIn_bind, hrun]
  rcases hfirst : first.runIn b with ⟨_ | a, mid⟩
  · rw [hfirst] at hworld
    exact ⟨rfl, hworld⟩
  · rw [hfirst] at hworld
    exact hnext a (hpost b a mid hb hfirst) mid hworld

theorem Indifferent.bind {first : Action α} {next : α → Action β} (h : Indifferent w w' first)
    (hnext : ∀ a, Indifferent w w' (next a)) : Indifferent w w' (first >>= next) :=
  h.bind_of (P := fun _ => True) (fun _ _ _ _ _ => trivial) fun a _ => hnext a

theorem Indifferent.map {action : Action α} (h : Indifferent w w' action) (f : α → β) :
    Indifferent w w' (f <$> action) := by
  rw [map_eq_pure_bind]
  exact h.bind fun a => indifferent_pure (f a)

theorem indifferent_lookUp (lookup : Lookup) (find : Catalog → Except Fault α)
    (h : find w'.catalog = find w.catalog) :
    Indifferent w w' (do consult lookup; ofExcept (find (← get).catalog)) := by
  intro b hb
  obtain rfl := hb
  have hfind : find (b.inWorld w').catalog = find b.catalog := h
  rw [runIn_lookUp, runIn_lookUp, hfind]
  exact ⟨rfl, rfl⟩

/-! ## Elementary actions -/

theorem indifferent_record (records : List LogRecord) : Indifferent w w' (record records) :=
  fun _ h => ⟨rfl, h⟩

theorem indifferent_draw (supply : Nat → Identifier) : Indifferent w w' (draw supply) :=
  fun _ h => ⟨rfl, h⟩

theorem indifferent_version (h : SameOn side w w') (id : Identifier) :
    Indifferent w w' (version id) := by
  refine indifferent_lookUp (.version id) (·.version id) ?_
  rw [Catalog.version, Catalog.version, h.versions]

theorem indifferent_definition (h : SameOn side w w') (id : Identifier) :
    Indifferent w w' (definition side id) := by
  refine indifferent_lookUp (.definition side id) (·.definition side id) ?_
  rw [Catalog.definition, Catalog.definition, h.definitions]

theorem indifferent_actor (h : SameOn side w w') (id : Identifier) :
    Indifferent w w' (actor side id) := by
  refine indifferent_lookUp (.actor side id) (·.actor side id) ?_
  rw [Catalog.actor, Catalog.actor, h.actors]

theorem indifferent_pinned? (h : SameOn side w w') (definition : Identifier)
    (workspace actor : Option Identifier) :
    Indifferent w w' (pinned? definition workspace actor) :=
  indifferent_lookUp (.pin definition workspace actor)
    (fun catalog => .ok (catalog.pinned? definition workspace actor))
    (congrArg Except.ok (h.pinned? definition workspace actor))

theorem indifferent_hydratedActor (h : SameOn side w w') (id : Identifier) :
    Indifferent w w' (hydratedActor side id) := by
  intro b hb
  obtain rfl := hb
  have hget : (b.inWorld w').catalog.actors.get? (side, id) = b.catalog.actors.get? (side, id) :=
    h.actors id
  have hactor : (b.inWorld w').catalog.actor side id = b.catalog.actor side id := by
    rw [Catalog.actor, Catalog.actor, hget]
  have hhydrated : (b.inWorld w').hydrated.get? (side, id) = b.hydrated.get? (side, id) :=
    h.hydrated id
  rw [runIn_hydratedActor, runIn_hydratedActor, hactor, hhydrated]
  exact ⟨rfl, rfl⟩

theorem indifferent_flow (provider : String) : Indifferent w w' (flow provider) := by
  intro b hb
  have hrun : ∀ b : Broker, (flow provider).runIn b = (b.registry.get provider, b) := by
    intro b
    rw [flow, Action.runIn_bind, Action.runIn_get]
    exact runIn_ofExcept _ _
  rw [hrun, hrun]
  exact ⟨rfl, hb⟩

theorem indifferent_callFlow (flow : Flow) (call : Flow.Call) :
    Indifferent w w' (callFlow flow call) := by
  refine Indifferent.bind (fun _ h => ⟨rfl, h⟩) fun _ => ?_
  cases flow.failure with
  | none => exact indifferent_pure _
  | some failure => exact indifferent_throw _

theorem indifferent_track (logger : Logger) (event : Usage.Event) :
    Indifferent w w' (track logger event) := by
  intro b hb
  rw [track, Action.runIn_bind, Action.runIn_bind, Action.runIn_get, Action.runIn_get]
  have hsink : (b.inWorld w').sink = b.sink := rfl
  dsimp only
  rw [hsink]
  cases b.sink.track event with
  | error failure => exact ⟨rfl, hb⟩
  | ok tracked => exact ⟨rfl, hb⟩

theorem indifferent_storeSecret (coordinate : Secret.Coordinate) (text : String) :
    Indifferent w w' (storeSecret coordinate text) := by
  intro b hb
  rw [storeSecret, Action.runIn_bind, Action.runIn_bind, Action.runIn_get, Action.runIn_get]
  have hstore : (b.inWorld w').store = b.store := rfl
  dsimp only
  rw [hstore]
  cases b.store.put coordinate text with
  | error failure => exact ⟨rfl, hb⟩
  | ok store => exact ⟨rfl, hb⟩

theorem indifferent_lend (h : SameOn side w w') (id : Identifier) (spec : OAuthSpecification)
    (input : Option Fields) : Indifferent w w' (lend side id spec input) := by
  intro b hb
  obtain rfl := hb
  have hactor : (b.inWorld w').catalog.actors.get? (side, id) = b.catalog.actors.get? (side, id) :=
    h.actors id
  have hhydrated : (b.inWorld w').hydrated.get? (side, id) = b.hydrated.get? (side, id) :=
    h.hydrated id
  have hholding : (b.inWorld w').holding side id true = b.holding side id true := by
    rw [holding, holding, Table.contains, Table.contains, hhydrated]
  have hconfiguration : (b.inWorld w').configuration? (b.holding side id true) =
      b.configuration? (b.holding side id true) := by
    rw [configuration?, configuration?]
    change (if _ then (b.inWorld w').hydrated.get? (side, id)
      else ((b.inWorld w').catalog.actors.get? (side, id)).map _) = _
    rw [hactor, hhydrated]
    rfl
  have hshares : (b.inWorld w').sharesRecords = b.sharesRecords := rfl
  rw [lend, Action.runIn_modify, Action.runIn_modify]
  dsimp only
  rw [hholding, hconfiguration, hshares]
  cases b.sharesRecords with
  | false => exact ⟨rfl, rfl⟩
  | true =>
    cases b.configuration? (b.holding side id true) with
    | none => exact ⟨rfl, rfl⟩
    | some configuration => exact ⟨rfl, rfl⟩

/-! ## Exchanges -/

theorem indifferent_loadVersion (h : SameOn side w w') (d : Definition) (pin : Option Identifier) :
    Indifferent w w' (loadVersion d pin) := by
  cases pin with
  | none => exact indifferent_version h _
  | some id => exact (indifferent_record _).bind fun _ => indifferent_version h id

theorem indifferent_versionForWorkspace (h : SameOn side w w') (d : Definition)
    (workspace : Identifier) : Indifferent w w' (versionForWorkspace d workspace) :=
  (indifferent_pinned? h _ _ _).bind fun _ => indifferent_loadVersion h d _

theorem indifferent_versionForActor {d : Definition} (h : SameOn d.side w w') (id : Identifier) :
    Indifferent w w' (versionForActor d id) := by
  refine (indifferent_actor h id).bind fun a => (indifferent_pinned? h _ _ _).bind fun pin => ?_
  cases pin with
  | some pin => exact indifferent_loadVersion h d (some pin)
  | none => exact (indifferent_pinned? h _ _ _).bind fun _ => indifferent_loadVersion h d _

theorem indifferent_versionFor {d : Definition} (h : SameOn d.side w w') (request : ConsentRequest) :
    Indifferent w w' (versionFor d request) := by
  unfold versionFor
  cases request.actor with
  | none => exact indifferent_versionForWorkspace h d _
  | some id => exact indifferent_versionForActor h id

/-- A definition that is found stands on the side where it was looked up, so the actor is looked up
there too. -/
theorem indifferent_subject (h : SameOn side w w') (hkeyed : w.catalog.Keyed)
    (request : ConsentRequest) : Indifferent w w' (subject side request) := by
  refine (indifferent_definition h request.definition).bind_of (P := fun d => d.side = side) ?_ ?_
  · intro b d after hb hrun
    have hfound : b.catalog.definition side request.definition = .ok d := by
      rw [definition, runIn_lookUp b (.definition side request.definition)
        (·.definition side request.definition)] at hrun
      exact congrArg Prod.fst hrun
    have hget : w.catalog.definitions.get? (side, request.definition) = some d := by
      rw [← hb]
      rw [Catalog.definition] at hfound
      split at hfound
      · cases hfound
        assumption
      · cases hfound
    exact hkeyed.side_eq hget
  · rintro d rfl
    refine (indifferent_versionFor h request).bind fun v => ?_
    exact (indifferent_flow v.repository).bind fun _ => indifferent_pure _

theorem indifferent_input (h : SameOn side w w') (spec : OAuthSpecification)
    (request : ConsentRequest) : Indifferent w w' (input side spec request) := by
  unfold input
  cases request.actor with
  | none => exact indifferent_pure _
  | some id =>
    refine (indifferent_hydratedActor h id).bind fun a => ?_
    cases Input.reconcile spec (.object a.configuration) request.input with
    | error defect => exact indifferent_throw _
    | ok result =>
      refine (indifferent_record _).bind fun _ => ?_
      exact (indifferent_lend h id spec request.input).bind fun _ => indifferent_pure _

theorem indifferent_inputFor (h : SameOn side w w') (v : Version) (request : ConsentRequest)
    (otherwise : Option Fields) : Indifferent w w' (inputFor side v request otherwise) := by
  unfold inputFor
  cases v.specification.oauth? with
  | none => exact indifferent_pure _
  | some spec => exact (indifferent_input h spec request).map some

theorem indifferent_exchange (h : SameOn side w w') (hkeyed : w.catalog.Keyed) (task : Flow.Task)
    (event : String) (request : ConsentRequest) (query : Fields) (otherwise : Option Fields) :
    Indifferent w w' (exchange task event side request query otherwise) := by
  refine (indifferent_subject h hkeyed request).bind fun s => ?_
  refine (indifferent_inputFor h s.version request otherwise).bind fun given => ?_
  refine (indifferent_callFlow s.flow _).bind fun _ => ?_
  exact (indifferent_track _ _).bind fun _ => indifferent_pure _

theorem indifferent_consent (h : SameOn side w w') (hkeyed : w.catalog.Keyed)
    (request : ConsentRequest) : Indifferent w w' (consent side request) := by
  refine (indifferent_exchange h hkeyed _ _ _ _ _).bind fun s => ?_
  exact (indifferent_record _).bind fun _ => indifferent_ofExcept _

theorem indifferent_complete (h : SameOn side w w') (hkeyed : w.catalog.Keyed)
    (request : CompletionRequest) : Indifferent w w' (complete side request) := by
  refine (indifferent_exchange h hkeyed _ _ _ _ _).bind fun s => ?_
  dsimp only
  cases (Response.ofAnswer s.flow.completion).succeeded with
  | true => exact indifferent_pure _
  | false => exact (indifferent_record _).bind fun _ => indifferent_pure _

theorem indifferent_writeSecret (workspace : Identifier) (response : Response) :
    Indifferent w w' (writeSecret workspace response) := by
  refine Indifferent.bind ?_ fun ticket => ?_
  · have htext : Indifferent w w' (secretText response) := by
      intro b hb
      rw [runIn_secretText, runIn_secretText]
      exact ⟨rfl, hb⟩
    refine htext.bind fun text => (indifferent_draw _).bind fun id => ?_
    exact fun _ hb => ⟨rfl, hb⟩
  · refine (indifferent_storeSecret _ _).bind fun _ => ?_
    exact (indifferent_record _).bind fun _ => indifferent_pure _

theorem indifferent_completeAsAsked (h : SameOn .source w w') (hkeyed : w.catalog.Keyed)
    (request : CompletionRequest) : Indifferent w w' (completeAsAsked request) := by
  refine (indifferent_complete h hkeyed request).bind fun response => ?_
  split
  · exact indifferent_writeSecret _ _
  · exact indifferent_pure _

end

/-! ## What is done for a side -/

/-- What a broker does for a side. -/
inductive Service where
  | exchange (operation : Operation)
  | asAsked (request : CompletionRequest)
  | parameters (side : Side) (request : ParameterRequest)

namespace Service

def side : Service → Side
  | .exchange operation => operation.side
  | .asAsked _ => .source
  | .parameters side _ => side

/-- Does it; a change of parameters answers nothing. -/
def perform : Service → Action (Option Answer)
  | .exchange operation => some <$> operation.perform
  | .asAsked request => (some ∘ Answer.response) <$> completeAsAsked request
  | .parameters side request => (fun _ => none) <$> setParameters side request

end Service

/-- Nothing of the other side changes: neither definitions, versions, actors nor pins change at all,
and the parameters of the other side stay where they are. -/
structure Leaves (side : Side) (w after : World) : Prop where
  definitions : after.catalog.definitions = w.catalog.definitions
  versions : after.catalog.versions = w.catalog.versions
  actors : after.catalog.actors = w.catalog.actors
  actorPins : after.catalog.actorPins = w.catalog.actorPins
  workspacePins : after.catalog.workspacePins = w.catalog.workspacePins
  hydrated : after.hydrated = w.hydrated
  parameters : ∀ (place : Nat) id q, q.side ≠ side →
    (after.catalog.parameters[place]? = some (id, q) ↔ w.catalog.parameters[place]? = some (id, q))

theorem leaves_refl (side : Side) (w : World) : Leaves side w w :=
  ⟨rfl, rfl, rfl, rfl, rfl, rfl, fun _ _ _ _ => Iff.rfl⟩

/-- In the other world it has the same outcome, makes the same calls, hands over the same event, and
does the same to all else. Afterwards the worlds agree on the side again, and nothing of the other side
has changed in either. -/
structure Apart (service : Service) (b : Broker) (w' : World) : Prop where
  runs : ∃ w'', service.perform.runIn (b.inWorld w') =
      ((service.perform.runIn b).1, (service.perform.runIn b).2.inWorld w'') ∧
    SameOn service.side (service.perform.runIn b).2.world w'' ∧ Leaves service.side w' w''
  leaves : Leaves service.side b.world (service.perform.runIn b).2.world

theorem Indifferent.apart {service : Service} {b : Broker} {w' : World}
    (h : Indifferent b.world w' service.perform) (hsame : SameOn service.side b.world w') :
    Apart service b w' := by
  obtain ⟨hrun, hworld⟩ := h b rfl
  constructor
  · refine ⟨w', hrun, ?_, leaves_refl _ _⟩
    rw [hworld]
    exact hsame
  · rw [hworld]
    exact leaves_refl _ _

section
variable {b : Broker} {w w' : World} {side : Side}

/-! ## Changes of parameters -/

/-- The world after a change of the parameters of a definition. -/
def World.changed (w : World) (side : Side) (definition : Identifier) (configuration : Fields)
    (id : Identifier) : World :=
  ⟨w.catalog.changed (instanceWide side definition) configuration id, w.hydrated⟩

theorem leaves_changed (hfiled : w.catalog.Filed) (definition : Identifier) (configuration : Fields)
    {id : Identifier} (hfresh : id ∉ w.catalog.parameters.keys) :
    Leaves side w (w.changed side definition configuration id) := by
  refine ⟨rfl, rfl, rfl, rfl, rfl, rfl, fun place other q hq => ?_⟩
  have hscope : q.scope ≠ instanceWide side definition := fun h => hq (congrArg Scope.side h)
  exact hfiled.getElem?_changed_of_ne _ _ _ hfresh hscope place

theorem SameOn.head? (h : SameOn side w w') (definition : Identifier) (workspace : Option Identifier) :
    (w'.catalog.parametersFor ⟨side, definition, workspace⟩).head? =
      (w.catalog.parametersFor ⟨side, definition, workspace⟩).head? := by
  rw [← Catalog.parameter?_eq_head?, ← Catalog.parameter?_eq_head?]
  exact h.parameters definition workspace

theorem SameOn.drafted (h : SameOn side w w') (definition : Identifier) (configuration : Fields)
    (id : Identifier) :
    w'.catalog.drafted (instanceWide side definition) configuration id =
      w.catalog.drafted (instanceWide side definition) configuration id := by
  unfold Catalog.drafted
  rw [instanceWide, h.head?]

/-- The same change in worlds that agree on its side: they agree on it again. -/
theorem SameOn.changed (h : SameOn side w w') (hfiled : w.catalog.Filed)
    (hfiled' : w'.catalog.Filed) (definition : Identifier) (configuration : Fields) {id : Identifier}
    (hfresh : id ∉ w.catalog.parameters.keys) (hfresh' : id ∉ w'.catalog.parameters.keys) :
    SameOn side (w.changed side definition configuration id)
      (w'.changed side definition configuration id) := by
  refine { h with parameters := fun other workspace => ?_ }
  rw [Catalog.parameter?_eq_head?, Catalog.parameter?_eq_head?]
  by_cases hscope : (⟨side, other, workspace⟩ : Scope) = instanceWide side definition
  · rw [hscope]
    refine (hfiled'.head?_changed _ _ _).trans ?_
    rw [h.drafted]
    exact (hfiled.head?_changed _ _ _).symm
  · have hw := hfiled.parametersFor_changed_of_ne _ configuration _ hfresh hscope
    have hw' := hfiled'.parametersFor_changed_of_ne _ configuration _ hfresh' hscope
    exact ((congrArg List.head? hw').trans (h.head? other workspace)).trans
      (congrArg List.head? hw).symm

theorem world_setParameters (b : Broker) (side : Side) (request : ParameterRequest) :
    ((setParameters side request).runIn b).2.world =
      b.world.changed side request.definition request.parameters (.minted (b.minted + 1)) := by
  rw [runIn_setParameters]
  rfl

theorem apart_setParameters (h : SameOn side b.world w') (hfiled : b.catalog.Filed)
    (hfiled' : w'.catalog.Filed) (request : ParameterRequest)
    (hfresh : .minted (b.minted + 1) ∉ b.catalog.parameters.keys)
    (hfresh' : .minted (b.minted + 1) ∉ w'.catalog.parameters.keys) :
    Apart (.parameters side request) b w' := by
  have hdraft : (b.inWorld w').draftFor side request = b.draftFor side request :=
    h.drafted request.definition request.parameters _
  have hafter : (b.inWorld w').afterDraft side request.definition =
      (b.afterDraft side request.definition).inWorld w' := by
    have hhead : ((b.inWorld w').catalog.parametersFor (instanceWide side request.definition)).head? =
        (b.catalog.parametersFor (instanceWide side request.definition)).head? := h.head? _ _
    rw [afterDraft, afterDraft, hhead]
    rfl
  have hchanged : w'.catalog.addParameter (b.draftFor side request) =
      w'.catalog.changed (instanceWide side request.definition) request.parameters
        (.minted (b.minted + 1)) := congrArg w'.catalog.addParameter hdraft.symm
  have hrun : (setParameters side request).runIn (b.inWorld w') =
      (((setParameters side request).runIn b).1, ((setParameters side request).runIn b).2.inWorld
        (w'.changed side request.definition request.parameters (.minted (b.minted + 1)))) := by
    rw [runIn_setParameters, runIn_setParameters, hdraft, hafter, World.changed, ← hchanged]
    rfl
  have hperform : ∀ broker : Broker, (Service.parameters side request).perform.runIn broker =
      (((setParameters side request).runIn broker).1.map fun _ => none,
        ((setParameters side request).runIn broker).2) := fun broker => Action.runIn_map _ _ _
  constructor
  · rw [hperform, hperform, hrun, world_setParameters]
    exact ⟨_, rfl, h.changed hfiled hfiled' _ _ hfresh hfresh', leaves_changed hfiled' _ _ hfresh'⟩
  · rw [hperform, world_setParameters]
    exact leaves_changed hfiled _ _ hfresh

/-! ## Every service -/

theorem indifferent_perform (h : SameOn side w w') (hkeyed : w.catalog.Keyed) (operation : Operation)
    (hside : operation.side = side) : Indifferent w w' operation.perform := by
  subst hside
  cases operation with
  | consent side request => exact (indifferent_consent h hkeyed request).map _
  | completion side request => exact (indifferent_complete h hkeyed request).map _

/-- What is done for a side comes to the same in worlds that agree on this side, and leaves the other
side alone. -/
theorem service_apart {service : Service} (h : SameOn service.side b.world w')
    (hfiled : b.catalog.Filed) (hfiled' : w'.catalog.Filed)
    (hfresh : .minted (b.minted + 1) ∉ b.catalog.parameters.keys)
    (hfresh' : .minted (b.minted + 1) ∉ w'.catalog.parameters.keys) : Apart service b w' := by
  cases service with
  | exchange operation =>
    have hkeyed : b.world.catalog.Keyed := hfiled.keyed
    exact Indifferent.apart ((indifferent_perform h hkeyed operation rfl).map some) h
  | asAsked request =>
    have hkeyed : b.world.catalog.Keyed := hfiled.keyed
    exact Indifferent.apart ((indifferent_completeAsAsked h hkeyed request).map _) h
  | parameters side request => exact apart_setParameters h hfiled hfiled' request hfresh hfresh'

end

end AuthBroker.Broker
