import AuthBroker.Proofs.Broker.Reading

/-! # How a request for consent or completion is decided

The first thing that is missing or wrong decides: the definition, the actor, the version that is
selected, the flow of its repository, the schema of its inputs, and at last what the flow itself
says. `Decides` lists these cases, and `Meets` says what each means for the caller and for the
broker. Every request is decided, and ends as it was decided (`perform_decided`). As a flow is called
at most once in an operation, a script stands for whatever flow answers that one call. -/

namespace AuthBroker.Broker

open Connector Exchange

/-! ## Operations -/

/-- A request for consent or for the completion of a flow, on a side. -/
inductive Operation where
  | consent (side : Side) (request : ConsentRequest)
  | completion (side : Side) (request : CompletionRequest)

/-- What an operation answers. -/
inductive Answer where
  | consent (consent : Consent)
  | response (response : Response)

namespace Operation

def side : Operation → Side
  | .consent side _ => side
  | .completion side _ => side

def request : Operation → ConsentRequest
  | .consent _ request => request
  | .completion _ request => request.toConsentRequest

/-- What a flow gets as input for a version that has no OAuth specification. -/
def otherwise : Operation → Option Fields
  | .consent _ _ => some []
  | .completion _ _ => none

/-- The call that an operation makes for a version, with an input. -/
def call (operation : Operation) (version : Version) (input : Option Fields) : Flow.Call where
  provider := version.repository
  task :=
    match operation with
    | .consent _ _ => .consent
    | .completion _ _ => .completion
  side := operation.side
  workspace := operation.request.workspace
  definition := operation.request.definition
  redirectUrl := operation.request.redirectUrl
  query :=
    match operation with
    | .consent _ _ => []
    | .completion _ request => request.query
  input := input
  specification := version.specification.oauth?

/-- The event that tells of an operation. -/
def event (operation : Operation) (definition : Definition) (version : Version) : Usage.Event :=
  let name :=
    match operation with
    | .consent _ _ => Usage.consentRequested
    | .completion _ _ => Usage.flowCompleted
  .ofExchange name operation.request.workspace definition version

/-- Performs an operation. -/
def perform : Operation → Action Answer
  | .consent side request => .consent <$> Broker.consent side request
  | .completion side request => .response <$> complete side request

end Operation

/-! ## Verdicts -/

/-- The workspace whose pins count: that of the actor, if the request names one. -/
inductive Counts (b : Broker) (operation : Operation) : Identifier → Prop
  | own : operation.request.actor = none → Counts b operation operation.request.workspace
  | ofActor {id : Identifier} {a : Actor} : operation.request.actor = some id →
      b.catalog.actors.get? (operation.side, id) = some a → Counts b operation a.workspace

/-- The definition and the version that apply are stored. -/
structure Finds (b : Broker) (operation : Operation) (d : Definition) (v : Version) : Prop where
  definition : b.catalog.definitions.get? (operation.side, operation.request.definition) = some d
  version : ∃ workspace, Counts b operation workspace ∧
    b.catalog.versions.get? (b.catalog.selected d operation.request.actor workspace) = some v

/-- The input that the flow of a version gets: with an OAuth specification it is the caller's own,
filled from the actor's configuration if the request names an actor. -/
inductive Gives (b : Broker) (operation : Operation) (v : Version) : Option Fields → Prop
  | unspecified : v.specification.oauth? = none → Gives b operation v operation.otherwise
  | own {spec : OAuthSpecification} : v.specification.oauth? = some spec →
      operation.request.actor = none →
      Gives b operation v (some (operation.request.input.getD []))
  | filled {spec : OAuthSpecification} {id : Identifier} {a : Actor} {result : Fields}
      {warnings : List Input.Warning} : v.specification.oauth? = some spec →
      operation.request.actor = some id → b.catalog.actors.get? (operation.side, id) = some a →
      Input.WellFormed spec.userInput →
      Input.reconcile spec
          (.object ((b.hydrated.get? (operation.side, id)).getD a.configuration))
          operation.request.input = .ok (result, warnings) →
      Gives b operation v (some result)

/-- How a request is decided: refused before any flow is called, failed by its flow, or answered by
it and told of in an event. -/
inductive Verdict where
  | refused (fault : Fault)
  | raised (call : Flow.Call) (failure : Failure)
  | answered (call : Flow.Call) (flow : Flow) (event : Usage.Event)

/-- The verdict on an operation. In every case nothing that an earlier case asks for is missing. -/
inductive Decides (b : Broker) (operation : Operation) : Verdict → Prop
  | noDefinition :
      b.catalog.definitions.get? (operation.side, operation.request.definition) = none →
      Decides b operation
        (.refused (.definitionNotFound operation.side operation.request.definition))
  | noActor {d : Definition} {id : Identifier} :
      b.catalog.definitions.get? (operation.side, operation.request.definition) = some d →
      operation.request.actor = some id → b.catalog.actors.get? (operation.side, id) = none →
      Decides b operation (.refused (.actorNotFound operation.side id))
  | noVersion {d : Definition} {workspace : Identifier} :
      b.catalog.definitions.get? (operation.side, operation.request.definition) = some d →
      Counts b operation workspace →
      b.catalog.versions.get? (b.catalog.selected d operation.request.actor workspace) = none →
      Decides b operation
        (.refused (.versionNotFound (b.catalog.selected d operation.request.actor workspace)))
  | noFlow {d : Definition} {v : Version} : Finds b operation d v →
      b.registry.flows.get? v.repository = none →
      Decides b operation (.refused (.providerNotSupported v.repository))
  | malformed {d : Definition} {v : Version} {flow : Flow} {spec : OAuthSpecification}
      {id : Identifier} {defect : Input.SchemaDefect} : Finds b operation d v →
      b.registry.flows.get? v.repository = some flow →
      v.specification.oauth? = some spec → operation.request.actor = some id →
      ¬ Input.WellFormed spec.userInput →
      Input.declared (.ofFields? spec.userInput) = .error defect →
      Decides b operation (.refused (.malformedSchema defect))
  | raises {d : Definition} {v : Version} {flow : Flow} {input : Option Fields}
      {failure : Failure} : Finds b operation d v →
      b.registry.flows.get? v.repository = some flow → Gives b operation v input →
      flow.failure = some failure →
      Decides b operation (.raised (operation.call v input) failure)
  | answers {d : Definition} {v : Version} {flow : Flow} {input : Option Fields} :
      Finds b operation d v → b.registry.flows.get? v.repository = some flow →
      Gives b operation v input → flow.failure = none →
      Decides b operation (.answered (operation.call v input) flow (operation.event d v))

/-- What an operation makes of the answer of its flow. An address that is no text cannot be
answered. -/
def Answers (operation : Operation) (flow : Flow) (outcome : Except Fault Answer) : Prop :=
  match operation with
  | .consent _ _ =>
    match flow.consentUrl with
    | .text url => outcome = .ok (.consent ⟨url⟩)
    | _ => ∃ problems, outcome = .error (.invalidRecord problems)
  | .completion _ _ => outcome = .ok (.response (.ofAnswer flow.completion))

/-- What a verdict means: the outcome, and the broker afterwards apart from its notes. A refusal
leaves it as it was, a flow that failed was called once, and one that answered was called once
before one event was handed to the sink. -/
def Meets (b : Broker) (operation : Operation) (verdict : Verdict) (outcome : Except Fault Answer)
    (after : Broker) : Prop :=
  match verdict with
  | .refused fault => outcome = .error fault ∧ after.core = b.core
  | .raised call failure =>
    outcome = .error (.raised failure) ∧ after.core = { b with calls := b.calls ++ [call] }.core
  | .answered call flow event =>
    Answers operation flow outcome ∧
      after.core = { b with calls := b.calls ++ [call], sink := sinkAfter b.sink event }.core

section
variable {b : Broker} {operation : Operation} {d : Definition} {v : Version}

/-! ## Before the call -/

theorem ends_versionFor {workspace : Identifier} (hside : d.side = operation.side)
    (h : Counts b operation workspace) :
    Ends b (versionFor d operation.request)
      (b.catalog.version (b.catalog.selected d operation.request.actor workspace)) b := by
  unfold versionFor
  cases h with
  | own hnone =>
    rw [hnone]
    exact ends_versionForWorkspace b d _
  | @ofActor id a hactor hget =>
    have hfound : b.catalog.actor d.side id = .ok a := by
      rw [hside, Catalog.actor, hget]
    rw [hactor]
    exact ends_versionForActor b hfound

/-- Once the definition is found, the rest of the resolution goes on from it. -/
theorem ends_subject {outcome : Except Fault Version}
    (hdefinition : b.catalog.definitions.get? (operation.side, operation.request.definition) =
      some d)
    (hversion : Ends b (versionFor d operation.request) outcome b) :
    Ends b (subject operation.side operation.request)
      (outcome.bind fun v => (b.registry.get v.repository).map fun flow => ⟨d, v, flow⟩) b := by
  have hfound := ends_definition b operation.side operation.request.definition
  rw [Catalog.definition, hdefinition] at hfound
  refine hfound.bind ?_
  cases outcome with
  | error fault => exact hversion.bind_error _
  | ok v =>
    refine hversion.bind ?_
    have hflow := (ends_flow b v.repository).map fun flow => (⟨d, v, flow⟩ : Subject)
    rw [map_eq_pure_bind] at hflow
    exact hflow

theorem ends_subject_noDefinition
    (h : b.catalog.definitions.get? (operation.side, operation.request.definition) = none) :
    Ends b (subject operation.side operation.request)
      (.error (.definitionNotFound operation.side operation.request.definition)) b := by
  have hlookup := ends_definition b operation.side operation.request.definition
  rw [Catalog.definition, h] at hlookup
  exact hlookup.bind_error _

theorem ends_subject_noActor {id : Identifier} (hkeyed : b.catalog.Keyed)
    (hd : b.catalog.definitions.get? (operation.side, operation.request.definition) = some d)
    (hrequest : operation.request.actor = some id)
    (hnone : b.catalog.actors.get? (operation.side, id) = none) :
    Ends b (subject operation.side operation.request) (.error (.actorNotFound operation.side id)) b := by
  have hside := hkeyed.side_eq hd
  have hlookup := ends_actor b d.side id
  rw [hside, Catalog.actor, hnone] at hlookup
  have hfor : Ends b (versionFor d operation.request) (.error (.actorNotFound operation.side id)) b := by
    unfold versionFor versionForActor
    rw [hrequest, hside]
    exact hlookup.bind_error _
  exact ends_subject hd hfor

theorem Finds.ends_subject (hkeyed : b.catalog.Keyed) (h : Finds b operation d v) :
    Ends b (subject operation.side operation.request)
      ((b.registry.get v.repository).map fun flow => ⟨d, v, flow⟩) b := by
  obtain ⟨workspace, hcounts, hversion⟩ := h.version
  have hfor := ends_versionFor (hkeyed.side_eq h.definition) hcounts
  rw [Catalog.version, hversion] at hfor
  exact Broker.ends_subject h.definition hfor

theorem Finds.ends_subject_ok {flow : Flow} (hkeyed : b.catalog.Keyed) (h : Finds b operation d v)
    (hflow : b.registry.flows.get? v.repository = some flow) :
    Ends b (subject operation.side operation.request) (.ok ⟨d, v, flow⟩) b := by
  have hsubject := h.ends_subject hkeyed
  rw [Flow.Registry.get, hflow] at hsubject
  exact hsubject

theorem Finds.exists_actor {id : Identifier} (h : Finds b operation d v)
    (hrequest : operation.request.actor = some id) :
    ∃ a, b.catalog.actors.get? (operation.side, id) = some a := by
  obtain ⟨workspace, hcounts, -⟩ := h.version
  cases hcounts with
  | own hnone =>
    rw [hnone] at hrequest
    cases hrequest
  | @ofActor other a hother hget =>
    rw [hother] at hrequest
    cases hrequest
    exact ⟨a, hget⟩

theorem Gives.ends_inputFor {input : Option Fields} (h : Gives b operation v input) :
    Ends b (inputFor operation.side v operation.request operation.otherwise) (.ok input) b := by
  unfold inputFor
  cases h with
  | unspecified hspec =>
    rw [hspec]
    exact ends_pure b _
  | @own spec hspec hnone =>
    have hinput : Ends b (input operation.side spec operation.request)
        (.ok (operation.request.input.getD [])) b := by
      unfold Broker.input
      rw [hnone]
      exact ends_pure b _
    rw [hspec]
    exact hinput.map some
  | @filled spec id a result _ hspec hactor hget _ hreconcile =>
    have hinput : Ends b (input operation.side spec operation.request) (.ok result) b := by
      unfold Broker.input
      rw [hactor]
      refine (ends_hydratedActor b (by rw [Catalog.actor, hget])).bind ?_
      dsimp only
      rw [hreconcile]
      exact (ends_record b _).bind ((ends_lend b _ _ _ _).bind (ends_pure b _))
    rw [hspec]
    exact hinput.map some

/-- A version whose schema is malformed gets no input. -/
theorem ends_inputFor_malformed {spec : OAuthSpecification} {id : Identifier} {a : Actor}
    {defect : Input.SchemaDefect} (hspec : v.specification.oauth? = some spec)
    (hactor : operation.request.actor = some id)
    (hget : b.catalog.actors.get? (operation.side, id) = some a)
    (hdefect : Input.declared (.ofFields? spec.userInput) = .error defect) :
    Ends b (inputFor operation.side v operation.request operation.otherwise)
      (.error (.malformedSchema defect)) b := by
  have hinput : Ends b (input operation.side spec operation.request)
      (.error (.malformedSchema defect)) b := by
    unfold Broker.input
    rw [hactor]
    refine (ends_hydratedActor b (by rw [Catalog.actor, hget])).bind ?_
    rw [Input.reconcile, hdefect]
    exact ends_throw b _
  unfold inputFor
  rw [hspec]
  exact hinput.map some

/-! ## The call and what follows -/

/-- The part that both operations share. -/
def Operation.exchange : Operation → Action Subject
  | .consent side request =>
    Broker.exchange .consent Usage.consentRequested side request [] (some [])
  | .completion side request =>
    Broker.exchange .completion Usage.flowCompleted side request.toConsentRequest request.query none

theorem exchange_eq (operation : Operation) : operation.exchange = do
    let subject ← subject operation.side operation.request
    let input ← inputFor operation.side subject.version operation.request operation.otherwise
    callFlow subject.flow (operation.call subject.version input)
    track (requestLogger operation.side operation.request)
      (operation.event subject.definition subject.version)
    return subject := by
  cases operation <;> rfl

theorem ends_exchange_refused {fault : Fault}
    (h : Ends b (subject operation.side operation.request) (.error fault) b) :
    Ends b operation.exchange (.error fault) b := by
  rw [exchange_eq]
  exact h.bind_error _

theorem ends_exchange_malformed {flow : Flow} {fault : Fault}
    (hsubject : Ends b (subject operation.side operation.request) (.ok ⟨d, v, flow⟩) b)
    (hinput : Ends b (inputFor operation.side v operation.request operation.otherwise)
      (.error fault) b) : Ends b operation.exchange (.error fault) b := by
  rw [exchange_eq]
  exact hsubject.bind (hinput.bind_error _)

theorem ends_exchange_raised {flow : Flow} {input : Option Fields} {failure : Failure}
    (hsubject : Ends b (subject operation.side operation.request) (.ok ⟨d, v, flow⟩) b)
    (hinput : Ends b (inputFor operation.side v operation.request operation.otherwise)
      (.ok input) b) (hfailure : flow.failure = some failure) :
    Ends b operation.exchange (.error (.raised failure))
      { b with calls := b.calls ++ [operation.call v input] } := by
  have hcall := ends_callFlow b flow (operation.call v input)
  rw [hfailure] at hcall
  rw [exchange_eq]
  exact hsubject.bind (hinput.bind (hcall.bind_error _))

theorem ends_exchange_answered {flow : Flow} {input : Option Fields}
    (hsubject : Ends b (subject operation.side operation.request) (.ok ⟨d, v, flow⟩) b)
    (hinput : Ends b (inputFor operation.side v operation.request operation.otherwise)
      (.ok input) b) (hfailure : flow.failure = none) :
    Ends b operation.exchange (.ok ⟨d, v, flow⟩)
      { b with
        calls := b.calls ++ [operation.call v input]
        sink := sinkAfter b.sink (operation.event d v) } := by
  have hcall := ends_callFlow b flow (operation.call v input)
  rw [hfailure] at hcall
  rw [exchange_eq]
  exact hsubject.bind (hinput.bind (hcall.bind ((ends_track _ _ _).bind (ends_pure _ _))))

theorem ends_perform_of_error {fault : Fault} {after : Broker}
    (h : Ends b operation.exchange (.error fault) after) :
    Ends b operation.perform (.error fault) after := by
  cases operation with
  | consent side request => exact (Ends.bind_error h _).map Answer.consent
  | completion side request => exact (Ends.bind_error h _).map Answer.response

theorem answers_consent (side : Side) (request : ConsentRequest) (flow : Flow) :
    Answers (.consent side request) flow
      ((Consent.check (.object [("consent_url", flow.consentUrl)])).orFault.map .consent) := by
  unfold Answers
  dsimp only
  cases flow.consentUrl with
  | text url => rfl
  | _ => exact ⟨_, rfl⟩

theorem ends_perform_of_ok {flow : Flow} {after : Broker}
    (h : Ends b operation.exchange (.ok ⟨d, v, flow⟩) after) :
    ∃ outcome, Answers operation flow outcome ∧ Ends b operation.perform outcome after := by
  cases operation with
  | consent side request =>
    have hrun : Ends b (Broker.consent side request)
        (Consent.check (.object [("consent_url", flow.consentUrl)])).orFault after :=
      Ends.bind h ((ends_record after _).bind (ends_ofExcept after _))
    exact ⟨_, answers_consent side request flow, hrun.map Answer.consent⟩
  | completion side request =>
    have hrun : Ends b (complete side request) (.ok (.ofAnswer flow.completion)) after := by
      refine Ends.bind h ?_
      dsimp only
      cases (Response.ofAnswer flow.completion).succeeded with
      | true => exact ends_pure after _
      | false => exact (ends_record after _).bind (ends_pure after _)
    exact ⟨_, rfl, hrun.map Answer.response⟩

/-! ## Every operation is decided -/

theorem counts_or_noActor (b : Broker) (operation : Operation) :
    (∃ workspace, Counts b operation workspace) ∨
      ∃ id, operation.request.actor = some id ∧
        b.catalog.actors.get? (operation.side, id) = none := by
  cases hrequest : operation.request.actor with
  | none => exact .inl ⟨_, .own hrequest⟩
  | some id =>
    cases hget : b.catalog.actors.get? (operation.side, id) with
    | none => exact .inr ⟨id, rfl, hget⟩
    | some a => exact .inl ⟨a.workspace, .ofActor hrequest hget⟩

/-- For a version that was found, an input is given or the schema is malformed. -/
theorem Finds.gives_or_malformed (h : Finds b operation d v) :
    (∃ input, Gives b operation v input) ∨
      ∃ spec id defect, v.specification.oauth? = some spec ∧ operation.request.actor = some id ∧
        Input.declared (.ofFields? spec.userInput) = .error defect := by
  cases hspec : v.specification.oauth? with
  | none => exact .inl ⟨_, .unspecified hspec⟩
  | some spec =>
    obtain ⟨workspace, hcounts, -⟩ := h.version
    cases hcounts with
    | own hnone => exact .inl ⟨_, .own hspec hnone⟩
    | @ofActor id a hactor hget =>
      cases hdeclared : Input.declared (.ofFields? spec.userInput) with
      | error defect => exact .inr ⟨spec, id, defect, rfl, hactor, hdeclared⟩
      | ok declarations =>
        have hreconcile : ∃ result warnings, Input.reconcile spec
            (.object ((b.hydrated.get? (operation.side, id)).getD a.configuration))
            operation.request.input = .ok (result, warnings) := by
          rw [Input.reconcile, hdeclared]
          exact ⟨_, _, rfl⟩
        obtain ⟨result, warnings, hresult⟩ := hreconcile
        exact .inl ⟨_, .filled hspec hactor hget (Input.wellFormed_of_declared hdeclared) hresult⟩

theorem not_wellFormed_of_declared {userInput : Option Fields} {defect : Input.SchemaDefect}
    (h : Input.declared (.ofFields? userInput) = .error defect) : ¬ Input.WellFormed userInput := by
  intro hwell
  rw [Input.declared_of_wellFormed hwell] at h
  cases h

theorem Finds.exists_decides (h : Finds b operation d v) :
    ∃ verdict, Decides b operation verdict := by
  cases hflow : b.registry.flows.get? v.repository with
  | none => exact ⟨_, .noFlow h hflow⟩
  | some flow =>
    rcases h.gives_or_malformed with ⟨input, hinput⟩ | ⟨spec, id, defect, hspec, hactor, hdefect⟩
    · cases hfailure : flow.failure with
      | none => exact ⟨_, .answers h hflow hinput hfailure⟩
      | some failure => exact ⟨_, .raises h hflow hinput hfailure⟩
    · exact ⟨_, .malformed h hflow hspec hactor (not_wellFormed_of_declared hdefect) hdefect⟩

theorem exists_decides (b : Broker) (operation : Operation) :
    ∃ verdict, Decides b operation verdict := by
  cases hd : b.catalog.definitions.get? (operation.side, operation.request.definition) with
  | none => exact ⟨_, .noDefinition hd⟩
  | some d =>
    rcases counts_or_noActor b operation with ⟨workspace, hcounts⟩ | ⟨id, hrequest, hnone⟩
    · cases hv : b.catalog.versions.get?
          (b.catalog.selected d operation.request.actor workspace) with
      | none => exact ⟨_, .noVersion hd hcounts hv⟩
      | some v => exact Finds.exists_decides ⟨hd, workspace, hcounts, hv⟩
    · exact ⟨_, .noActor hd hrequest hnone⟩

theorem Decides.meets (hkeyed : b.catalog.Keyed) {verdict : Verdict}
    (h : Decides b operation verdict) :
    Meets b operation verdict (operation.perform.runIn b).1 (operation.perform.runIn b).2 := by
  -- a refusal before the schema is looked at comes from the resolution
  have hrefused : ∀ fault, Ends b (subject operation.side operation.request) (.error fault) b →
      Meets b operation (.refused fault) (operation.perform.runIn b).1
        (operation.perform.runIn b).2 :=
    fun fault hsubject => ends_perform_of_error (ends_exchange_refused hsubject) b rfl
  cases h with
  | noDefinition hnone => exact hrefused _ (ends_subject_noDefinition hnone)
  | noActor hd hrequest hnone => exact hrefused _ (ends_subject_noActor hkeyed hd hrequest hnone)
  | @noVersion d workspace hd hcounts hnone =>
    have hfor := ends_versionFor (hkeyed.side_eq hd) hcounts
    rw [Catalog.version, hnone] at hfor
    exact hrefused _ (ends_subject hd hfor)
  | noFlow hfinds hnone =>
    refine hrefused _ ?_
    have hsubject := hfinds.ends_subject hkeyed
    rw [Flow.Registry.get, hnone] at hsubject
    exact hsubject
  | malformed hfinds hflow hspec hrequest _ hdefect =>
    obtain ⟨a, hget⟩ := hfinds.exists_actor hrequest
    have hinput := ends_inputFor_malformed hspec hrequest hget hdefect
    have hexchange := ends_exchange_malformed (hfinds.ends_subject_ok hkeyed hflow) hinput
    exact ends_perform_of_error hexchange b rfl
  | raises hfinds hflow hgives hfailure =>
    have hexchange := ends_exchange_raised (hfinds.ends_subject_ok hkeyed hflow)
      hgives.ends_inputFor hfailure
    exact ends_perform_of_error hexchange b rfl
  | answers hfinds hflow hgives hfailure =>
    have hexchange := ends_exchange_answered (hfinds.ends_subject_ok hkeyed hflow)
      hgives.ends_inputFor hfailure
    obtain ⟨outcome, hanswers, hperform⟩ := ends_perform_of_ok hexchange
    obtain ⟨houtcome, hafter⟩ := hperform b rfl
    rw [houtcome]
    exact ⟨hanswers, hafter⟩

end

/-- Every operation is decided, and it ends as it was decided. -/
theorem perform_decided (b : Broker) (operation : Operation) (told : List Population)
    (hcatalog : b.catalog = Catalog.populated told) :
    (∃ verdict, Decides b operation verdict) ∧
      ∀ verdict, Decides b operation verdict →
        Meets b operation verdict (operation.perform.runIn b).1 (operation.perform.runIn b).2 := by
  have hkeyed : b.catalog.Keyed := by
    rw [hcatalog]
    exact Catalog.populated_keyed told
  exact ⟨exists_decides b operation, fun _ h => h.meets hkeyed⟩

/-- A source whose version is pinned, but not stored. -/
def samplePopulation : List Population := [
  .definition ⟨.minted 1, "Files", .source, .minted 2⟩,
  .actor ⟨.minted 3, .minted 1, .minted 4, .source, "", []⟩,
  .pinForActor (.minted 1) (.minted 3) (.minted 5)]

/-- A broker without flows. -/
def sampleBroker : Broker :=
  { ofParts .memory .empty (.recording .empty) (.clear .empty) "" with
    catalog := Catalog.populated samplePopulation }

/-- A request that names the source. -/
def sampleOperation : Operation :=
  .consent .source ⟨.minted 1, .minted 4, "https://app.example.com", some (.minted 3), none⟩

/-- The version that is not stored is told of, and not the flow that is missing too. -/
theorem perform_decided_sample :
    sampleBroker.catalog = Catalog.populated samplePopulation ∧
    Meets sampleBroker sampleOperation (.refused (.versionNotFound (.minted 5)))
      (sampleOperation.perform.runIn sampleBroker).1
      (sampleOperation.perform.runIn sampleBroker).2 :=
  ⟨rfl, (perform_decided sampleBroker sampleOperation samplePopulation rfl).2 _
    (.noVersion (d := ⟨.minted 1, "Files", .source, .minted 2⟩) rfl (.ofActor rfl rfl) rfl)⟩

end AuthBroker.Broker
