import AuthBroker.Proofs.Broker.Ownership
import AuthBroker.Proofs.Session.Sides
import AuthBroker.Proofs.Session.Sinks

/-! # Which events a session hands over

A step hands over the events among the notes it plays, and these are the same whatever sink is there
(`Hands`). So a recorder that never fails, put in the place of the sink, tells them all, and what a
recorder gets is told by the verdict on the request: one event if the flow answered, whatever became of
the answer then, and none otherwise (`Due`). From each moment of a session this goes to the whole of it
(`run_hands_due`). -/

namespace AuthBroker

open Connector Exchange

/-- The operation that a step asks for, if its request can be read. -/
def Step.operation? : Step → Option Broker.Operation
  | .consent (.ok side) d =>
    match ConsentRequest.check d with
    | .valid request => some (.consent side request)
    | .invalid _ => none
  | .complete (.ok side) d =>
    match CompletionRequest.check d with
    | .valid request => some (.completion side request)
    | .invalid _ => none
  | .completeAsAsked d =>
    match CompletionRequest.check d with
    | .valid request => some (.completion .source request)
    | .invalid _ => none
  | _ => none

def Note.event? : Note → Option Usage.Event
  | .record _ => none
  | .event _ told => some told

namespace Broker

def Verdict.events : Verdict → List Usage.Event
  | .answered _ _ event => [event]
  | _ => []

/-! ## Events among notes -/

theorem sink_hearAll (ears : Ears) (notes : List Note) :
    (ears.hearAll notes).sink = (notes.filterMap (·.event?)).foldl sinkAfter ears.sink := by
  induction notes generalizing ears with
  | nil => rfl
  | cons note rest ih =>
    rw [Ears.hearAll_cons, ih]
    cases note with
    | record entry => rfl
    | event logger told =>
      have hhear : (ears.hear (.event logger told)).sink = sinkAfter ears.sink told := by
        rw [Ears.hear, sinkAfter]
        cases ears.sink.track told with
        | ok tracked => rfl
        | error failure => rfl
      rw [hhear]
      rfl

theorem flatMap_arrived (sink : Usage.Sink) (notes : List Note) :
    notes.flatMap (·.arrived sink) = (notes.filterMap (·.event?)).filterMap sink.arrival? := by
  induction notes with
  | nil => rfl
  | cons note rest ih =>
    rw [List.flatMap_cons, ih]
    cases note with
    | record entry => rfl
    | event logger told =>
      change (sink.arrival? told).toList ++ _ =
        (told :: rest.filterMap (·.event?)).filterMap sink.arrival?
      cases harrival : sink.arrival? told with
      | none => rw [List.filterMap_cons_none harrival]; rfl
      | some arrived => rw [List.filterMap_cons_some harrival]; rfl

/-- A recorder that never fails keeps every event. -/
theorem foldl_sinkAfter_recording (before events : List Usage.Event) :
    events.foldl sinkAfter (.recording ⟨before, none⟩) = .recording ⟨before ++ events, none⟩ := by
  induction events generalizing before with
  | nil => rw [List.append_nil]; rfl
  | cons event rest ih =>
    have hone : sinkAfter (.recording ⟨before, none⟩) event =
        .recording ⟨before ++ [event], none⟩ := rfl
    rw [List.foldl_cons, hone, ih, List.append_assoc]
    rfl

/-- The events that a step hands over: whatever sink stands there, it gets these and nothing else, and
of these arrives what the present sink lets arrive. -/
structure Hands (b : Broker) (s : Step) (events : List Usage.Event) : Prop where
  sink : s.setsUsage = false → ∀ ears,
    ((b.withEars ears).step s).2.sink = events.foldl sinkAfter ears.sink
  arrived : (b.step s).2.sink.events = b.sink.events ++ events.filterMap b.sink.arrival?

section
variable {b : Broker} {s : Step} {events : List Usage.Event} {operation : Operation}

theorem Hands.reported (h : Hands b s events) :
    (b.step s).1.events = events.filterMap b.sink.arrival? := by
  change (b.step s).2.sink.events.drop b.sink.events.length = _
  rw [h.arrived]
  exact List.drop_left

theorem hands_of_notes {outcome : Except Fault Document} {after : Broker} {notes : List Note}
    (hrun : ∀ ears, (perform s).runIn (b.withEars ears) =
      (outcome, after.withEars (ears.hearAll notes))) :
    Hands b s (notes.filterMap (·.event?)) where
  sink _ ears := by
    rw [step, hrun]
    exact sink_hearAll ears notes
  arrived := by
    have hrun₀ : (perform s).runIn b = _ := hrun b.ears
    rw [step, hrun₀]
    change (b.ears.hearAll notes).sink.events = _
    rw [Ears.hearAll_events, flatMap_arrived]
    rfl

theorem hands_of_setsUsage (b : Broker) (hs : s.setsUsage = true) : Hands b s [] where
  sink hquiet := by
    rw [hs] at hquiet
    cases hquiet
  arrived := by
    cases s with
    | failUsage failure =>
      change (b.sink.setFailure failure).events = _
      rw [List.filterMap_nil, List.append_nil]
      cases b.sink with
      | recording recorder => rfl
      | forwarding forwarder => rfl
    | _ => cases hs

theorem exists_hands (b : Broker) (s : Step) : ∃ events, Hands b s events := by
  cases hs : s.setsUsage with
  | true => exact ⟨[], hands_of_setsUsage b hs⟩
  | false =>
    obtain ⟨outcome, after, notes, -, hrun⟩ := exists_notes (fun _ => True) b
      (fun _ => trivial) s (fun _ _ _ => trivial) hs
    exact ⟨_, hands_of_notes hrun⟩

/-! ## Steps that hand over nothing -/

theorem runIn_perform_of_unreadable (hs : s.exchanges = true) (hnone : s.operation? = none) :
    ∃ fault, ∀ b : Broker, (perform s).runIn b = (.error fault, b) := by
  cases s with
  | consent side d =>
    cases hcheck : ConsentRequest.check d with
    | invalid problems => exact ⟨_, runIn_reading_invalid hcheck _⟩
    | valid request =>
      cases side with
      | ok side => rw [Step.operation?, hcheck] at hnone; cases hnone
      | error fault => exact ⟨fault, runIn_reading_valid hcheck _⟩
  | complete side d =>
    cases hcheck : CompletionRequest.check d with
    | invalid problems => exact ⟨_, runIn_reading_invalid hcheck _⟩
    | valid request =>
      cases side with
      | ok side => rw [Step.operation?, hcheck] at hnone; cases hnone
      | error fault => exact ⟨fault, runIn_reading_valid hcheck _⟩
  | completeAsAsked d =>
    cases hcheck : CompletionRequest.check d with
    | invalid problems => exact ⟨_, runIn_reading_invalid hcheck _⟩
    | valid request => rw [Step.operation?, hcheck] at hnone; cases hnone
  | _ => cases hs

/-- A step that is no readable request for an exchange hands over nothing. -/
theorem hands_nil (b : Broker) (hnone : s.operation? = none) : Hands b s [] := by
  cases hs : s.setsUsage with
  | true => exact hands_of_setsUsage b hs
  | false =>
    cases hexchanges : s.exchanges with
    | true =>
      obtain ⟨fault, hrun⟩ := runIn_perform_of_unreadable hexchanges hnone
      have hsilent : ∀ ears : Ears, (perform s).runIn (b.withEars ears) =
          (.error fault, b.withEars (ears.hearAll [])) := fun ears => hrun (b.withEars ears)
      exact hands_of_notes hsilent
    | false =>
      obtain ⟨outcome, after, notes, hkind, hrun⟩ := exists_notes (fun note => note.event? = none) b
        (fun _ => rfl) s (fun h => by rw [hexchanges] at h; cases h) hs
      have hnil : notes.filterMap (·.event?) = [] := List.filterMap_eq_nil_iff.mpr hkind
      rw [← hnil]
      exact hands_of_notes hrun

/-! ## Steps that ask for an exchange -/

/-- A readable request is served, and its answer is written down. -/
theorem exists_service (h : s.operation? = some operation) :
    ∃ service : Service, service.operation? = some operation ∧
      ∀ b : Broker, ((perform s).runIn b).2 = (service.perform.runIn b).2 := by
  cases s with
  | consent side d =>
    cases side with
    | error fault => cases h
    | ok side =>
      cases hcheck : ConsentRequest.check d with
      | invalid problems => rw [Step.operation?, hcheck] at h; cases h
      | valid request =>
        rw [Step.operation?, hcheck] at h
        cases h
        refine ⟨.exchange (.consent side request), rfl, fun b => ?_⟩
        rw [Service.perform, Operation.perform, Action.runIn_map, Action.runIn_map]
        rw [runIn_perform_consent hcheck]
  | complete side d =>
    cases side with
    | error fault => cases h
    | ok side =>
      cases hcheck : CompletionRequest.check d with
      | invalid problems => rw [Step.operation?, hcheck] at h; cases h
      | valid request =>
        rw [Step.operation?, hcheck] at h
        cases h
        refine ⟨.exchange (.completion side request), rfl, fun b => ?_⟩
        rw [Service.perform, Operation.perform, Action.runIn_map, Action.runIn_map]
        rw [runIn_perform_complete hcheck]
  | completeAsAsked d =>
    cases hcheck : CompletionRequest.check d with
    | invalid problems => rw [Step.operation?, hcheck] at h; cases h
    | valid request =>
      rw [Step.operation?, hcheck] at h
      cases h
      refine ⟨.asAsked request, rfl, fun b => ?_⟩
      rw [Service.perform, Action.runIn_map]
      rw [runIn_perform_completeAsAsked hcheck]
  | _ => cases h

theorem Service.calls_of_operation? {service : Service} (h : service.operation? = some operation)
    (b : Broker) : (service.perform.runIn b).2.calls = (operation.perform.runIn b).2.calls := by
  cases service with
  | exchange served =>
    cases h
    rw [Service.perform, Action.runIn_map]
  | asAsked request =>
    cases h
    rw [Service.perform, Action.runIn_map]
    exact calls_completeAsAsked request b
  | parameters side request => cases h

theorem Decides.withEars {verdict : Verdict} (h : Decides b operation verdict) (ears : Ears) :
    Decides (b.withEars ears) operation verdict := by
  have hcounts : ∀ {workspace}, Counts b operation workspace →
      Counts (b.withEars ears) operation workspace := by
    intro workspace hc
    cases hc with
    | own hnone => exact .own hnone
    | ofActor hactor hget => exact .ofActor hactor hget
  have hfinds : ∀ {d v}, Finds b operation d v → Finds (b.withEars ears) operation d v := by
    intro d v hf
    obtain ⟨hd, workspace, hc, hv⟩ := hf
    exact ⟨hd, workspace, hcounts hc, hv⟩
  have hgives : ∀ {v input}, Gives b operation v input →
      Gives (b.withEars ears) operation v input := by
    intro v input hg
    cases hg with
    | unspecified hspec => exact .unspecified hspec
    | own hspec hnone => exact .own hspec hnone
    | filled hspec hactor hget hschema hreconcile =>
      exact .filled hspec hactor hget hschema hreconcile
  cases h with
  | noDefinition hnone => exact .noDefinition hnone
  | noActor hd hactor hnone => exact .noActor hd hactor hnone
  | noVersion hd hc hnone => exact .noVersion hd (hcounts hc) hnone
  | noFlow hf hnone => exact .noFlow (hfinds hf) hnone
  | malformed hf hflow hspec hactor hschema hdefect =>
    exact .malformed (hfinds hf) hflow hspec hactor hschema hdefect
  | raises hf hflow hg hfailure => exact .raises (hfinds hf) hflow (hgives hg) hfailure
  | answers hf hflow hg hfailure => exact .answers (hfinds hf) hflow (hgives hg) hfailure

theorem Meets.sink {after : Broker} {verdict : Verdict} {outcome : Except Fault Answer}
    (h : Meets b operation verdict outcome after) :
    after.sink = verdict.events.foldl sinkAfter b.sink := by
  cases verdict with
  | refused fault => exact sink_eq h.2
  | raised call failure => exact sink_eq (b := { b with calls := b.calls ++ [call] }) h.2
  | answered call flow event => exact congrArg Broker.sink h.2

/-- What a verdict says of the events is what the step hands over. -/
theorem hands_verdict (hkeyed : b.catalog.Keyed) (hop : s.operation? = some operation)
    {verdict : Verdict} (h : Decides b operation verdict) :
    Hands b s verdict.events ∧ (b.step s).1.calls = verdict.calls := by
  obtain ⟨service, hserves, hrun⟩ := exists_service hop
  have hsink : ∀ ears : Ears, ((b.withEars ears).step s).2.sink =
      verdict.events.foldl sinkAfter ears.sink := by
    intro ears
    have hkeyed' : (b.withEars ears).catalog.Keyed := hkeyed
    have hmeets := (h.withEars ears).meets hkeyed'
    change ((perform s).runIn (b.withEars ears)).2.sink = _
    rw [hrun, (Service.perform_of_operation? hserves _).1, hmeets.sink]
    rfl
  obtain ⟨events, hhands⟩ := exists_hands b s
  have hquiet : s.setsUsage = false := by
    cases s with
    | failUsage failure => cases hop
    | _ => rfl
  -- a recorder in the place of the sink tells which events these are
  have hevents : verdict.events = events := by
    have hprobe := (hhands.sink hquiet ⟨.recording ⟨[], none⟩, []⟩).symm.trans (hsink _)
    rw [foldl_sinkAfter_recording, foldl_sinkAfter_recording] at hprobe
    cases hprobe
    rfl
  refine ⟨hevents ▸ hhands, ?_⟩
  change ((perform s).runIn b).2.calls.drop b.calls.length = _
  rw [hrun, Service.calls_of_operation? hserves, calls_of_decides hkeyed h]
  exact List.drop_left

/-! ## What an event says -/

/-- The event tells of the operation, of its workspace, and of the definition and the version, under keys
of the operation's side, and of nothing else. -/
structure Tells (operation : Operation) (d : Definition) (v : Version) (event : Usage.Event) :
    Prop where
  name : event.name =
    match operation with
    | .consent _ _ => "oauth_consent_url_requested"
    | .completion _ _ => "oauth_flow_completed"
  distinctId : event.distinctId = operation.request.workspace.text
  properties : event.properties = [
    ("connector_" ++ operation.side.name, .text d.name),
    ("connector_" ++ operation.side.name ++ "_definition_id", .text d.id.text),
    ("connector_" ++ operation.side.name ++ "_docker_repository", .text v.repository),
    ("connector_" ++ operation.side.name ++ "_version", .text v.tag)]
  groups : event.groups = some [("workspace", .text operation.request.workspace.text)]

theorem tells_event {d : Definition} (hside : d.side = operation.side) (v : Version) :
    Tells operation d v (operation.event d v) := by
  cases operation with
  | consent side request =>
    obtain rfl : d.side = side := hside
    exact ⟨rfl, rfl, rfl, rfl⟩
  | completion side request =>
    obtain rfl : d.side = side := hside
    exact ⟨rfl, rfl, rfl, rfl⟩

/-- The forwarder sends to the project of the settings, with the properties of their deployment. -/
structure Follows (forwarder : Usage.Forwarder) (settings : Settings) : Prop where
  project : forwarder.project = Usage.Forwarder.project? settings
  deployment : forwarder.deployment = [
    ("environment", .text settings.environment.name), ("api_url", .text settings.apiUrl)]

/-- What is sent has the properties of the deployment, and after them those of the event, none of which
is lost. Nothing is sent without a project, or when sending fails. -/
theorem Follows.arrival? {forwarder : Usage.Forwarder} {settings : Settings}
    (h : Follows forwarder settings) {d : Definition} {v : Version} {event : Usage.Event}
    (htells : Tells operation d v event) :
    (Usage.Sink.forwarding forwarder).arrival? event =
      match Usage.Forwarder.project? settings, forwarder.failure with
      | some _, none => some { event with properties :=
          ("environment", .text settings.environment.name) :: ("api_url", .text settings.apiUrl) ::
            event.properties }
      | _, _ => none := by
  have hcomplete : forwarder.complete event = { event with properties :=
      ("environment", .text settings.environment.name) :: ("api_url", .text settings.apiUrl) ::
        event.properties } := by
    rw [Usage.Forwarder.complete, h.deployment, htells.properties, htells.groups]
    -- no key of either side is one of the deployment's
    cases operation.side <;> rfl
  cases hproject : Usage.Forwarder.project? settings with
  | none => simp only [Usage.Sink.arrival?, h.project, hproject]
  | some project =>
    cases hfailure : forwarder.failure with
    | none => simp only [Usage.Sink.arrival?, h.project, hproject, hfailure, hcomplete]
    | some failure => simp only [Usage.Sink.arrival?, h.project, hproject, hfailure]

/-! ## Which events are due -/

inductive Due (b : Broker) (s : Step) : List Usage.Event → Prop
  | other : s.operation? = none → Due b s []
  | refused {operation : Operation} {fault : Fault} : s.operation? = some operation →
      Decides b operation (.refused fault) → (b.step s).1.calls = [] → Due b s []
  | raised {operation : Operation} {call : Flow.Call} {failure : Failure} :
      s.operation? = some operation → Decides b operation (.raised call failure) →
      (b.step s).1.calls = [call] → Due b s []
  | answered {operation : Operation} {d : Definition} {v : Version} {flow : Flow}
      {input : Option Fields} {event : Usage.Event} : s.operation? = some operation →
      Finds b operation d v → b.registry.flows.get? v.repository = some flow →
      flow.failure = none → (b.step s).1.calls = [operation.call v input] →
      Tells operation d v event → Due b s [event]

theorem exists_due (hkeyed : b.catalog.Keyed) (s : Step) :
    ∃ events, Hands b s events ∧ Due b s events := by
  cases hop : s.operation? with
  | none => exact ⟨[], hands_nil b hop, .other hop⟩
  | some operation =>
    obtain ⟨verdict, hdecides⟩ := exists_decides b operation
    obtain ⟨hhands, hcalls⟩ := hands_verdict hkeyed hop hdecides
    refine ⟨verdict.events, hhands, ?_⟩
    cases hdecides with
    | @answers d v flow input hfinds hflow hgives hfailure =>
      have htells := tells_event (hkeyed.side_eq hfinds.definition) v
      exact .answered hop hfinds hflow hfailure hcalls htells
    | raises hfinds hflow hgives hfailure =>
      exact .raised hop (.raises hfinds hflow hgives hfailure) hcalls
    | noDefinition hnone => exact .refused hop (.noDefinition hnone) hcalls
    | noActor hd hactor hnone => exact .refused hop (.noActor hd hactor hnone) hcalls
    | noVersion hd hc hnone => exact .refused hop (.noVersion hd hc hnone) hcalls
    | noFlow hf hnone => exact .refused hop (.noFlow hf hnone) hcalls
    | malformed hf hflow hspec hactor hschema hdefect =>
      exact .refused hop (.malformed hf hflow hspec hactor hschema hdefect) hcalls

end

/-! ## Sessions -/

theorem events_run (b : Broker) (script : List Step) :
    (b.run script).2.sink.events =
      b.sink.events ++ (b.moments script).flatMap fun moment => (moment.1.step moment.2).1.events := by
  induction script generalizing b with
  | nil => exact (List.append_nil _).symm
  | cons s rest ih =>
    obtain ⟨events, hhands⟩ := exists_hands b s
    change ((b.step s).2.run rest).2.sink.events = _
    rw [ih, hhands.arrived, ← hhands.reported, moments, List.flatMap_cons, List.append_assoc]

/-- A forwarder goes on to send to the same project, whatever it is told or handed. -/
theorem follows_step {settings : Settings} (b : Broker) (s : Step)
    (h : ∃ forwarder, b.sink = .forwarding forwarder ∧ Follows forwarder settings) :
    ∃ forwarder, (b.step s).2.sink = .forwarding forwarder ∧ Follows forwarder settings := by
  cases hs : s.setsUsage with
  | true =>
    cases s with
    | failUsage failure =>
      obtain ⟨forwarder, hsink, hfollows⟩ := h
      refine ⟨{ forwarder with failure := failure }, ?_, hfollows.project, hfollows.deployment⟩
      change b.sink.setFailure failure = _
      rw [hsink]
      rfl
    | _ => cases hs
  | false =>
    obtain ⟨events, hhands⟩ := exists_hands b s
    have hsink : (b.step s).2.sink = events.foldl sinkAfter b.sink := hhands.sink hs b.ears
    rw [hsink]
    -- by induction on the events, for any sink that follows the settings
    clear hsink hhands
    generalize b.sink = sink at h
    induction events generalizing sink with
    | nil => exact h
    | cons event rest ih =>
      refine ih _ ?_
      obtain ⟨forwarder, rfl, hfollows⟩ := h
      refine ⟨(forwarder.track event).1, rfl, ?_⟩
      rw [Usage.Forwarder.track]
      split <;> exact ⟨hfollows.project, hfollows.deployment⟩

/-- In every session the events that a step hands over are those that are due: one for a request whose
flow was called and answered, whatever the step comes to then, and none for anything else. Each tells of
the request, and of the definition and the version that decided the call. In the sink they arrive in the
order of the steps, and a forwarder adds the properties of the deployment. -/
theorem run_hands_due (start : Broker) (told : List Population) (script : List Step)
    (hstart : start.catalog = Catalog.populated told) :
    (∀ moment ∈ start.moments script, ∃ events,
      Hands moment.1 moment.2 events ∧ Due moment.1 moment.2 events) ∧
    (start.run script).2.sink.events = start.sink.events ++
      (start.moments script).flatMap (fun moment => (moment.1.step moment.2).1.events) ∧
    ∀ settings, start.sink = .forwarding (.ofSettings settings) →
      ∀ moment ∈ start.moments script, ∃ forwarder, moment.1.sink = .forwarding forwarder ∧
        ∀ operation d v event, Tells operation d v event → moment.1.sink.arrival? event =
          match Usage.Forwarder.project? settings, forwarder.failure with
          | some _, none => some { event with properties :=
              ("environment", .text settings.environment.name) ::
                ("api_url", .text settings.apiUrl) :: event.properties }
          | _, _ => none := by
  have hpopulated : start.catalog.IsPopulated := ⟨told, hstart⟩
  refine ⟨?_, events_run start script, ?_⟩
  · intro moment hmem
    have hcatalog := forall_moments (Q := fun b => b.catalog.IsPopulated)
      (fun b s h => preserves_perform s b h) hpopulated script moment hmem
    exact exists_due hcatalog.filed.keyed moment.2
  · intro settings hsink moment hmem
    obtain ⟨forwarder, hforwarding, hfollows⟩ := forall_moments
      (Q := fun b => ∃ forwarder, b.sink = .forwarding forwarder ∧ Follows forwarder settings)
      follows_step ⟨_, hsink, rfl, rfl⟩ script moment hmem
    refine ⟨forwarder, hforwarding, fun operation d v event htells => ?_⟩
    rw [hforwarding]
    exact hfollows.arrival? htells

/-- A completion whose result cannot be stored. -/
def filesScriptUnstored : List Step :=
  filesPopulation ++
    [filesConsent, .failStore (.ok (some ⟨.runtime, "the disk is full"⟩)), filesCompletion]

/-- The last step fails after its flow answered, and still hands over its event. -/
theorem run_hands_due_unstored :
    filesBroker.catalog = Catalog.populated [] ∧
    (filesBroker.run filesScriptUnstored).1.map (·.outcome.toOption.isSome) =
      [true, true, true, true, false] ∧
    (filesBroker.run filesScriptUnstored).2.sink.events.map (·.name) =
      ["oauth_consent_url_requested", "oauth_flow_completed"] ∧
    ∀ moment ∈ filesBroker.moments filesScriptUnstored, ∃ events,
      Hands moment.1 moment.2 events ∧ Due moment.1 moment.2 events :=
  ⟨rfl, by decide +kernel, by decide +kernel,
    (run_hands_due filesBroker [] filesScriptUnstored rfl).1⟩

end Broker

end AuthBroker
