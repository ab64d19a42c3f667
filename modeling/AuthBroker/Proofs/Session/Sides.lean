import AuthBroker.Proofs.Agreement
import AuthBroker.Proofs.Session.Reach

/-! # Sides in a session

In whatever catalog a session ends, every record stands under its own key. So a request for consent or
completion finds one and the same actor when the version is chosen, on the side of the definition, and
when the configuration is merged, on the side of the request; and what is done for one side neither
sees nor changes the other, also where both have records with the same identifier
(`run_sides_apart`). -/

namespace AuthBroker.Broker

open Connector Exchange

section
variable {b noted : Broker} {operation : Operation} {s : Subject} {id : Identifier}

/-! ## One actor -/

/-- The actor that decides the version is the one whose configuration is merged. -/
theorem exists_actor_of_subject (hkeyed : b.catalog.Keyed)
    (hactor : operation.request.actor = some id)
    (hrun : (subject operation.side operation.request).runIn b = (.ok s, noted)) :
    ∃ a, b.catalog.actors.get? (operation.side, id) = some a ∧
      b.catalog.actor s.definition.side id = .ok a ∧
      b.catalog.version (b.catalog.selected s.definition (some id) a.workspace) = .ok s.version ∧
      ((hydratedActor operation.side id).runIn noted).1 = .ok { a with
        configuration := (b.hydrated.get? (operation.side, id)).getD a.configuration } := by
  -- a resolution that ended otherwise did not answer
  have hends : ∀ outcome, Ends b (subject operation.side operation.request) outcome b →
      outcome = .ok s ∧ noted.core = b.core := by
    intro outcome h
    have hout := h b rfl
    rw [hrun] at hout
    exact ⟨hout.1.symm, hout.2⟩
  cases hd : b.catalog.definitions.get? (operation.side, operation.request.definition) with
  | none => cases (hends _ (ends_subject_noDefinition hd)).1
  | some d =>
    cases hget : b.catalog.actors.get? (operation.side, id) with
    | none => cases (hends _ (ends_subject_noActor hkeyed hd hactor hget)).1
    | some a =>
      have hside := hkeyed.side_eq hd
      have hfor := ends_versionFor hside (.ofActor hactor hget)
      obtain ⟨hout, hcore⟩ := hends _ (ends_subject hd hfor)
      have hfound : b.catalog.actor operation.side id = .ok a := by rw [Catalog.actor, hget]
      have hhydrated := (ends_hydratedActor b hfound noted hcore).1
      rw [hactor] at hout
      cases hv : b.catalog.version (b.catalog.selected d (some id) a.workspace) with
      | error fault =>
        rw [hv] at hout
        cases hout
      | ok v =>
        rw [hv] at hout
        cases hflow : b.registry.get v.repository with
        | error fault =>
          rw [Except.bind, hflow] at hout
          cases hout
        | ok flow =>
          rw [Except.bind, hflow] at hout
          cases hout
          rw [hside]
          exact ⟨a, rfl, hfound, hv, hhydrated⟩

/-! ## Faults and events -/

theorem Answers.ne_actorNotFound {flow : Flow} {outcome : Except Fault Answer}
    (h : Answers operation flow outcome) (side : Side) (other : Identifier) :
    outcome ≠ .error (.actorNotFound side other) := by
  unfold Answers at h
  split at h
  · split at h
    · rw [h]
      exact nofun
    · obtain ⟨problems, hproblems⟩ := h
      rw [hproblems]
      exact nofun
  · rw [h]
    exact nofun

/-- An actor that is there is not missed later. -/
theorem perform_ne_actorNotFound {a : Actor} (hkeyed : b.catalog.Keyed)
    (hactor : operation.request.actor = some id)
    (hget : b.catalog.actors.get? (operation.side, id) = some a) (side : Side) (other : Identifier) :
    (operation.perform.runIn b).1 ≠ .error (.actorNotFound side other) := by
  obtain ⟨verdict, hdecides⟩ := exists_decides b operation
  have hmeets := hdecides.meets hkeyed
  cases hdecides with
  | noActor _ hnamed hnone =>
    rw [hactor] at hnamed
    cases hnamed
    rw [hget] at hnone
    cases hnone
  | answers => exact hmeets.1.ne_actorNotFound side other
  | noDefinition | noVersion | noFlow | malformed | raises =>
    rw [hmeets.1]
    exact nofun

/-- Every property of the event starts with the name of the side. -/
def Usage.Namespaced (side : Side) (event : Usage.Event) : Prop :=
  ∀ key ∈ event.properties.keys, ∃ rest, key = "connector_" ++ side.name ++ rest

theorem namespaced_event (operation : Operation) {d : Definition} (v : Version)
    (hside : d.side = operation.side) : Usage.Namespaced operation.side (operation.event d v) := by
  have hproperties : (operation.event d v).properties = Usage.describe d v := by
    cases operation <;> rfl
  intro key hkey
  rw [hproperties, Usage.describe, hside] at hkey
  simp only [Table.keys, List.map_cons, List.map_nil, List.mem_cons, List.not_mem_nil,
    or_false] at hkey
  rcases hkey with rfl | rfl | rfl | rfl
  · exact ⟨"", (String.append_empty).symm⟩
  · exact ⟨_, rfl⟩
  · exact ⟨_, rfl⟩
  · exact ⟨_, rfl⟩

/-- At most one event is handed over, and it tells of the side. -/
theorem sink_perform (hkeyed : b.catalog.Keyed) (operation : Operation) :
    (operation.perform.runIn b).2.sink = b.sink ∨
      ∃ event, (operation.perform.runIn b).2.sink = sinkAfter b.sink event ∧
        Usage.Namespaced operation.side event := by
  obtain ⟨verdict, hdecides⟩ := exists_decides b operation
  have hmeets := hdecides.meets hkeyed
  cases hdecides with
  | answers hfinds =>
    refine .inr ⟨_, sink_eq hmeets.2, ?_⟩
    exact namespaced_event operation _ (hkeyed.side_eq hfinds.definition)
  | @raises d v flow input failure =>
    have hsink := sink_eq (b := { b with calls := b.calls ++ [operation.call v input] }) hmeets.2
    exact .inl hsink
  | noDefinition | noActor | noVersion | noFlow | malformed => exact .inl (sink_eq hmeets.2)

/-- The request for consent or completion that is served, if it is one. -/
def Service.operation? : Service → Option Operation
  | .exchange operation => some operation
  | .asAsked request => some (.completion .source request)
  | .parameters _ _ => none

/-- Serving a request adds nothing to its events, and no fault but that of storing a result. -/
theorem Service.perform_of_operation? {service : Service}
    (h : service.operation? = some operation) (b : Broker) :
    (service.perform.runIn b).2.sink = (operation.perform.runIn b).2.sink ∧
      ∀ fault, (service.perform.runIn b).1 = .error fault →
        (operation.perform.runIn b).1 = .error fault ∨
          (∃ cause, fault = .unwritable cause) ∨ ∃ failure, fault = .raised failure := by
  cases service with
  | exchange served =>
    cases h
    rw [Service.perform, Action.runIn_map]
    exact ⟨rfl, fun fault hfault => .inl (error_of_map hfault)⟩
  | asAsked request =>
    cases h
    obtain ⟨outcome, minted, store, journal, hrun, hfaults⟩ := exists_of_completeAsAsked request b
    rw [Service.perform, Action.runIn_map, hrun, Operation.perform, Action.runIn_map]
    refine ⟨rfl, fun fault hfault => ?_⟩
    rcases hfaults fault (error_of_map hfault) with hcomplete | hstoring
    · exact .inl (congrArg (Except.map Answer.response) hcomplete)
    · exact .inr hstoring
  | parameters side request => cases h

end

/-- In every catalog that a session reaches each record stands under the key of its own fields, and no
two under one. So whatever request for consent or completion is served, an event has the side in all its
properties; and once the flow is found for a request that names an actor, the actor that decided the
version is the one whose configuration is merged, and no actor is missed any more. And whatever is done
for a side has the same outcome, calls and event in every catalog that agrees on this side, the versions
and the pins, and leaves the records of the other side as they are, as long as a minted identifier is
new. -/
theorem run_sides_apart (start : Broker) (told : List Population) (script : List Step)
    (hstart : start.catalog = Catalog.populated told) :
    ∃ b, (start.run script).2 = b ∧ b.catalog.Filed ∧
      (∀ service operation, Service.operation? service = some operation →
        ((service.perform.runIn b).2.sink = b.sink ∨
          ∃ event, (service.perform.runIn b).2.sink = sinkAfter b.sink event ∧
            Usage.Namespaced operation.side event) ∧
        ∀ id s noted, operation.request.actor = some id →
          (subject operation.side operation.request).runIn b = (.ok s, noted) →
          (∃ a, b.catalog.actor s.definition.side id = .ok a ∧
            b.catalog.version (b.catalog.selected s.definition (some id) a.workspace) =
              .ok s.version ∧
            ((hydratedActor operation.side id).runIn noted).1 = .ok { a with
              configuration := (b.hydrated.get? (operation.side, id)).getD a.configuration }) ∧
          ∀ side other, (service.perform.runIn b).1 ≠ .error (.actorNotFound side other)) ∧
      ∀ service w', SameOn service.side b.world w' → w'.catalog.Filed →
        .minted (b.minted + 1) ∉ b.catalog.parameters.keys →
        .minted (b.minted + 1) ∉ w'.catalog.parameters.keys → Apart service b w' := by
  have hfiled := (populated_run start told hstart script).filed
  refine ⟨_, rfl, hfiled, ?_, fun service w' => (service_apart · hfiled)⟩
  intro service operation hserves
  obtain ⟨hsink, hfaults⟩ := Service.perform_of_operation? hserves (start.run script).2
  rw [hsink]
  refine ⟨sink_perform hfiled.keyed operation, fun id s noted hactor hsubject => ?_⟩
  obtain ⟨a, hget, hdecided⟩ := exists_actor_of_subject hfiled.keyed hactor hsubject
  refine ⟨⟨a, hdecided⟩, fun side other hmissed => ?_⟩
  rcases hfaults _ hmissed with hperform | ⟨cause, hstoring⟩ | ⟨failure, hstoring⟩
  · exact perform_ne_actorNotFound hfiled.keyed hactor hget side other hperform
  · cases hstoring
  · cases hstoring

/-! ## A source and a destination with the same identifiers -/

def twinDefinition (side : Side) : Definition :=
  ⟨.minted 1, "Files", side, .minted 2⟩

def twinActor (side : Side) : Actor :=
  ⟨.minted 3, .minted 1, .minted 4, side, "", [("side", .text side.name)]⟩

def sourcePopulation : List Population := [
  .version ⟨.minted 2, .minted 1, "files", "1.0.0", ⟨none, [], none⟩⟩,
  .definition (twinDefinition .source),
  .actor (twinActor .source)]

def twinPopulation : List Population :=
  sourcePopulation ++ [.definition (twinDefinition .destination), .actor (twinActor .destination)]

def twinBroker : Broker :=
  { ofParts .memory ⟨[("files", Flow.unscripted)]⟩ (.recording .empty) (.clear .empty) "" with
    catalog := Catalog.populated twinPopulation }

/-- A change of the parameters of the destination. -/
def twinScript : List Step := [
  .setParameters (.ok .destination)
    (.object [("definition_id", (Identifier.minted 1).toDocument), ("params", .object [])])]

/-- A request that names the source. -/
def twinOperation : Operation :=
  .consent .source ⟨.minted 1, .minted 4, "https://app.example.com", some (.minted 3), none⟩

def sourceWorld : World :=
  ⟨Catalog.populated sourcePopulation, []⟩

theorem sameOn_sourceWorld : SameOn .source (twinBroker.run twinScript).2.world sourceWorld where
  definitions id := by
    have htwin : (twinBroker.run twinScript).2.world.catalog.definitions =
        sourceWorld.catalog.definitions ++
          [((.destination, .minted 1), twinDefinition .destination)] := rfl
    have hother : (Side.source, id) ≠ (.destination, .minted 1) := by simp
    rw [htwin, Table.get?_append, Table.get?_cons_of_ne _ _ hother]
    exact (Option.or_none).symm
  actors id := by
    have htwin : (twinBroker.run twinScript).2.world.catalog.actors =
        sourceWorld.catalog.actors ++ [((.destination, .minted 3), twinActor .destination)] := rfl
    have hother : (Side.source, id) ≠ (.destination, .minted 3) := by simp
    rw [htwin, Table.get?_append, Table.get?_cons_of_ne _ _ hother]
    exact (Option.or_none).symm
  hydrated _ := rfl
  parameters _ _ := rfl
  versions _ := rfl
  pinned? _ _ _ := rfl

/-- The source is found, and the destination and its parameters make no difference. -/
theorem run_sides_apart_twins :
    twinBroker.catalog = Catalog.populated twinPopulation ∧
    ∃ b s noted a, (twinBroker.run twinScript).2 = b ∧ b.catalog.parameters.length = 1 ∧
      (subject .source twinOperation.request).runIn b = (.ok s, noted) ∧
      b.catalog.actor s.definition.side (.minted 3) = .ok a ∧ a.side = .source ∧
      Apart (.exchange twinOperation) b sourceWorld := by
  obtain ⟨b, hb, -, hone, hapart⟩ := run_sides_apart twinBroker twinPopulation twinScript rfl
  subst hb
  have hsubject : (subject .source twinOperation.request).runIn (twinBroker.run twinScript).2 =
      (.ok _, _) := rfl
  obtain ⟨⟨a, hfound, -⟩, -⟩ := (hone (.exchange twinOperation) twinOperation rfl).2 (.minted 3) _ _
    rfl hsubject
  have hsource : a.side = .source := by
    cases hfound
    rfl
  refine ⟨rfl, _, _, _, a, rfl, rfl, hsubject, hfound, hsource, ?_⟩
  exact hapart (.exchange twinOperation) sourceWorld sameOn_sourceWorld
    (Catalog.populated_filed sourcePopulation) (by decide) (by decide)

end AuthBroker.Broker
