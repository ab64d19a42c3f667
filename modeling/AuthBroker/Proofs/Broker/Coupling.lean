import AuthBroker.Broker.Parameters
import AuthBroker.Broker.Secret
import AuthBroker.Proofs.Broker.Blotted

/-! # Two runs side by side

Two brokers are alike when they are the same once their secrets are blotted out. Actions that are
run from two such brokers are coupled when they fail alike, or answer what is related, and leave the
brokers alike. Coupling passes through binds (`Coupled.bind`), so it is shown once for each action and
then follows the text of what is built of them. What a write of a secret answers is the same in both
runs, whatever is written (`coupled_writeSecret`). -/

namespace AuthBroker.Broker

open Connector Exchange

/-- Run from two brokers, two actions fail alike or answer related values, and leave the brokers the
same once blotted. -/
structure Coupled {α β : Type} (R : α → β → Prop) (b b' : Broker) (first : Action α)
    (second : Action β) : Prop where
  outcome : Agree R (first.runIn b).1 (second.runIn b').1
  after : (first.runIn b).2.blotted = (second.runIn b').2.blotted

section
variable {α α' β β' : Type} {R : α → β → Prop} {S : α' → β' → Prop} {b b' : Broker}
  {first : Action α} {second : Action β}

/-! ## Rules -/

theorem Coupled.mono {R' : α → β → Prop} (h : Coupled R b b' first second)
    (hR : ∀ a a', R a a' → R' a a') : Coupled R' b b' first second :=
  ⟨h.outcome.mono hR, h.after⟩

theorem Coupled.symm (h : Coupled R b b' first second) :
    Coupled (fun a' a => R a a') b' b second first :=
  ⟨h.outcome.symm, h.after.symm⟩

theorem Coupled.trans {γ : Type} {R' : β → γ → Prop} {b'' : Broker} {third : Action γ}
    (h : Coupled R b b' first second) (h' : Coupled R' b' b'' second third) :
    Coupled (fun a c => ∃ a', R a a' ∧ R' a' c) b b'' first third :=
  ⟨h.outcome.trans h'.outcome, h.after.trans h'.after⟩

/-- Coupling is about what the actions do, and not about how they are written. -/
theorem Coupled.of_runIn {c c' : Broker} {first' : Action α} {second' : Action β}
    (h : Coupled R c c' first' second') (hrun : first.runIn b = first'.runIn c)
    (hrun' : second.runIn b' = second'.runIn c') : Coupled R b b' first second := by
  constructor
  · rw [hrun, hrun']
    exact h.outcome
  · rw [hrun, hrun']
    exact h.after

theorem coupled_ofExcept {x : Except Fault α} {y : Except Fault β} (h : b.blotted = b'.blotted)
    (hagree : Agree R x y) : Coupled R b b' (ofExcept x) (ofExcept y) := by
  constructor
  · rw [runIn_ofExcept, runIn_ofExcept]
    exact hagree
  · rw [runIn_ofExcept, runIn_ofExcept]
    exact h

theorem coupled_pure {a : α} {a' : β} (h : b.blotted = b'.blotted) (ha : R a a') :
    Coupled R b b' (pure a) (pure a') :=
  coupled_ofExcept h (.ok ha)

theorem coupled_throw (h : b.blotted = b'.blotted) (fault : Fault) :
    Coupled R b b' (throw fault) (throw fault) :=
  coupled_ofExcept h (.error fault)

theorem Coupled.bind {next : α → Action α'} {next' : β → Action β'}
    (h : Coupled R b b' first second)
    (hnext : ∀ {mid mid' : Broker} a a', R a a' → mid.blotted = mid'.blotted →
      Coupled S mid mid' (next a) (next' a')) :
    Coupled S b b' (first >>= next) (second >>= next') := by
  obtain ⟨houtcome, hafter⟩ := h
  have hrun := Action.runIn_bind first next b
  have hrun' := Action.runIn_bind second next' b'
  cases hfirst : first.runIn b with
  | mk outcome mid =>
    cases hsecond : second.runIn b' with
    | mk outcome' mid' =>
      rw [hfirst, hsecond] at houtcome hafter
      rw [hfirst] at hrun
      rw [hsecond] at hrun'
      -- both go on, or both end here
      cases houtcome with
      | ok ha => exact (hnext _ _ ha hafter).of_runIn hrun hrun'
      | error fault => exact (coupled_throw hafter fault).of_runIn hrun hrun'

theorem Coupled.map {f : α → α'} {g : β → β'} (h : Coupled R b b' first second)
    (hfg : ∀ a a', R a a' → S (f a) (g a')) : Coupled S b b' (f <$> first) (g <$> second) :=
  h.bind fun _ _ ha hafter => coupled_pure hafter (hfg _ _ ha)

/-- After two actions that answer the same, the next are run on one value. -/
theorem Coupled.bind_eq {first second : Action α} {next : α → Action α'} {next' : α → Action β'}
    (h : Coupled (· = ·) b b' first second)
    (hnext : ∀ {mid mid' : Broker} a, mid.blotted = mid'.blotted →
      Coupled S mid mid' (next a) (next' a)) :
    Coupled S b b' (first >>= next) (second >>= next') := by
  refine h.bind fun a a' ha hmid => ?_
  subst ha
  exact hnext a hmid

theorem coupled_modify {f f' : Broker → Broker} (h : (f b).blotted = (f' b').blotted) :
    Coupled (fun _ _ => True) b b' (modify f) (modify f') :=
  ⟨.ok trivial, h⟩

theorem coupled_set {after after' : Broker} (h : after.blotted = after'.blotted) :
    Coupled (fun _ _ => True) b b' (set after : Action Unit) (set after' : Action Unit) :=
  ⟨.ok trivial, h⟩

/-- An action that starts with a look at the broker. -/
theorem coupled_get {next : Broker → Action α} {next' : Broker → Action β}
    (h : Coupled R b b' (next b) (next' b')) : Coupled R b b' (get >>= next) (get >>= next') := by
  refine h.of_runIn ?_ ?_
  · rw [Action.runIn_bind, Action.runIn_get]
  · rw [Action.runIn_bind, Action.runIn_get]

end

section
variable {b b' : Broker} (h : b.blotted = b'.blotted)
include h

/-! ## Elementary actions -/

theorem coupled_record (records : List LogRecord) :
    Coupled (fun _ _ => True) b b' (record records) (record records) :=
  coupled_modify (congrArg (fun b => { b with journal := b.journal ++ records }) h)

theorem coupled_consult (lookup : Lookup) :
    Coupled (fun _ _ => True) b b' (consult lookup) (consult lookup) :=
  coupled_modify (congrArg (fun b => { b with lookups := b.lookups ++ [lookup] }) h)

theorem coupled_draw (supply : Nat → Identifier) :
    Coupled (· = ·) b b' (draw supply) (draw supply) := by
  have hminted : b.minted = b'.minted := eq_of_blotted h (·.minted) fun _ => rfl
  refine coupled_get ((coupled_set ?_).bind fun _ _ _ hafter =>
    coupled_pure hafter (by rw [hminted]))
  exact congrArg (fun b => { b with minted := b.minted + 1 }) h

/-- A look-up in the catalog that is noted first. -/
theorem coupled_lookUp {α : Type} {R : α → α → Prop} (lookup : Lookup)
    {find : Catalog → Except Fault α}
    (hfind : ∀ c c' : Catalog, c.blotted = c'.blotted → Agree R (find c) (find c')) :
    Coupled R b b' (do consult lookup; ofExcept (find (← get).catalog))
      (do consult lookup; ofExcept (find (← get).catalog)) :=
  (coupled_consult h lookup).bind fun _ _ _ hmid =>
    coupled_get (coupled_ofExcept hmid (hfind _ _ (congrArg (·.catalog) hmid)))

theorem coupled_definition (side : Side) (id : Identifier) :
    Coupled (· = ·) b b' (definition side id) (definition side id) :=
  coupled_lookUp h _ fun _ _ hc =>
    .of_eq (eq_of_blotted hc (·.definition side id) fun _ => rfl) fun _ => rfl

theorem coupled_version (id : Identifier) :
    Coupled (· = ·) b b' (version id) (version id) :=
  coupled_lookUp h _ fun _ _ hc =>
    .of_eq (eq_of_blotted hc (·.version id) fun _ => rfl) fun _ => rfl

theorem coupled_pinned? (definition : Identifier) (workspace actor : Option Identifier) :
    Coupled (· = ·) b b' (pinned? definition workspace actor)
      (pinned? definition workspace actor) :=
  (coupled_consult h _).bind fun _ _ _ hmid => coupled_get (coupled_pure hmid
    (eq_of_blotted hmid (·.catalog.pinned? definition workspace actor) fun _ => rfl))

theorem coupled_actor (side : Side) (id : Identifier) :
    Coupled (fun a a' => a.blotted = a'.blotted) b b' (actor side id) (actor side id) :=
  coupled_lookUp h _ fun _ _ hc => Catalog.actor_agree hc side id

theorem coupled_hydratedActor (side : Side) (id : Identifier) :
    Coupled (fun a a' => a.blotted = a'.blotted) b b' (hydratedActor side id)
      (hydratedActor side id) := by
  refine (coupled_consult h _).bind fun {noted noted'} _ _ _ hnoted => coupled_get ?_
  have hactor := Catalog.actor_agree (congrArg (·.catalog) hnoted) side id
  refine (coupled_ofExcept hnoted hactor).bind fun a a' ha hmid => ?_
  have hkept : (noted.hydrated.get? (side, id)).map Fields.blotted =
      (noted'.hydrated.get? (side, id)).map Fields.blotted := by
    have hget := congrArg (·.hydrated.get? (side, id)) hnoted
    simpa only [blotted, Table.get?_mapValues] using hget
  rcases cases_of_map_eq hkept with ⟨hnone, hnone'⟩ | ⟨kept, kept', hsome, hsome', hblotted⟩
  · rw [hnone, hnone']
    exact coupled_pure hmid ha
  · rw [hsome, hsome']
    exact coupled_pure hmid (Actor.withConfiguration_congr ha hblotted)

theorem coupled_parameter? (side : Side) (definition : Identifier)
    (workspace : Option Identifier) :
    Coupled (fun p p' => p.map Parameter.blotted = p'.map Parameter.blotted) b b'
      (parameter? side definition workspace) (parameter? side definition workspace) := by
  refine coupled_get (coupled_pure h ?_)
  rw [← Catalog.parameter?_blotted, ← Catalog.parameter?_blotted]
  exact congrArg (·.catalog.parameter? side definition workspace) h

theorem coupled_writeParameter {parameter parameter' : Parameter}
    (hparameter : parameter.blotted = parameter'.blotted) :
    Coupled (fun _ _ => True) b b' (writeParameter parameter) (writeParameter parameter') :=
  coupled_modify (write_congr h hparameter _ _)

theorem coupled_flow (provider : String) :
    Coupled (fun f f' => f.blotted = f'.blotted) b b' (flow provider) (flow provider) := by
  refine coupled_get (coupled_ofExcept h (.of_map_eq ?_))
  rw [← Flow.Registry.get_blotted, ← Flow.Registry.get_blotted]
  exact congrArg (·.registry.get provider) h

theorem coupled_callFlow {flow flow' : Flow} {call call' : Flow.Call}
    (hflow : flow.blotted = flow'.blotted) (hcall : call.blotted = call'.blotted) :
    Coupled (fun _ _ => True) b b' (callFlow flow call) (callFlow flow' call') := by
  have hfailure : flow.failure = flow'.failure := eq_of_blotted hflow (·.failure) fun _ => rfl
  refine (coupled_modify (call_congr h hcall)).bind fun _ _ _ hnoted => ?_
  rw [hfailure]
  cases flow'.failure with
  | none => exact coupled_pure hnoted trivial
  | some failure => exact coupled_throw hnoted _

theorem coupled_track (logger : Logger) (event : Usage.Event) :
    Coupled (fun _ _ => True) b b' (track logger event) (track logger event) := by
  have hsink : b.sink = b'.sink := eq_of_blotted h (·.sink) fun _ => rfl
  refine coupled_get ?_
  rw [hsink]
  cases b'.sink.track event with
  | ok tracked =>
    obtain ⟨sink, records⟩ := tracked
    exact coupled_set
      (congrArg (fun b => { b with sink := sink, journal := b.journal ++ records }) h)
  | error failure => exact coupled_record h _

theorem coupled_storeSecret (coordinate : Secret.Coordinate) (text text' : String) :
    Coupled (fun _ _ => True) b b' (storeSecret coordinate text)
      (storeSecret coordinate text') := by
  have hstore : b.store.blotted = b'.store.blotted := congrArg (·.store) h
  have hput := Secret.Store.put_agree hstore coordinate text text'
  refine coupled_get ?_
  generalize b.store.put coordinate text = outcome at hput ⊢
  generalize b'.store.put coordinate text' = outcome' at hput ⊢
  cases hput with
  | @ok store store' hblotted =>
    exact coupled_set (withStore_congr h hblotted)
  | error failure => exact coupled_throw h _

/-- What is lent to a call does not show in a blotted broker. -/
theorem coupled_lend (side : Side) (id : Identifier) (spec : OAuthSpecification)
    (input input' : Option Fields) :
    Coupled (fun _ _ => True) b b' (lend side id spec input) (lend side id spec input') := by
  refine coupled_modify ?_
  dsimp only
  split <;> split <;> exact h

/-! ## Resolution -/

theorem coupled_loadVersion (d : Definition) (pin : Option Identifier) :
    Coupled (· = ·) b b' (loadVersion d pin) (loadVersion d pin) := by
  cases pin with
  | none => exact coupled_version h _
  | some id => exact (coupled_record h _).bind fun _ _ _ hmid => coupled_version hmid id

theorem coupled_versionForActor (d : Definition) (id : Identifier) :
    Coupled (· = ·) b b' (versionForActor d id) (versionForActor d id) := by
  refine (coupled_actor h _ id).bind fun a a' ha hmid => ?_
  have hworkspace : a.workspace = a'.workspace := eq_of_blotted ha (·.workspace) fun _ => rfl
  refine (coupled_pinned? hmid _ _ _).bind_eq fun pin hmid => ?_
  cases pin with
  | some pin => exact coupled_loadVersion hmid d _
  | none =>
    rw [hworkspace]
    refine (coupled_pinned? hmid _ _ _).bind_eq fun pin hmid => ?_
    exact coupled_loadVersion hmid d pin

theorem coupled_versionForWorkspace (d : Definition) (workspace : Identifier) :
    Coupled (· = ·) b b' (versionForWorkspace d workspace) (versionForWorkspace d workspace) := by
  refine (coupled_pinned? h _ _ _).bind_eq fun pin hmid => ?_
  exact coupled_loadVersion hmid d pin

/-! ## Consent and completion -/

/-- The subject of a request with its flow blotted. -/
def Subject.blotted (s : Subject) : Subject :=
  { s with flow := s.flow.blotted }

section
variable {side : Side} {request request' : ConsentRequest}
  (hrequest : request.blotted = request'.blotted)
include hrequest

theorem coupled_versionFor (d : Definition) :
    Coupled (· = ·) b b' (versionFor d request) (versionFor d request') := by
  have hactor : request.actor = request'.actor := eq_of_blotted hrequest (·.actor) fun _ => rfl
  have hworkspace : request.workspace = request'.workspace :=
    eq_of_blotted hrequest (·.workspace) fun _ => rfl
  unfold versionFor
  rw [hactor, hworkspace]
  cases request'.actor with
  | none => exact coupled_versionForWorkspace h d _
  | some id => exact coupled_versionForActor h d id

theorem coupled_subject : Coupled (fun s s' => s.blotted = s'.blotted) b b'
    (subject side request) (subject side request') := by
  have hdefinition : request.definition = request'.definition :=
    eq_of_blotted hrequest (·.definition) fun _ => rfl
  unfold subject
  rw [hdefinition]
  refine (coupled_definition h side _).bind_eq fun d hmid => ?_
  refine (coupled_versionFor hmid hrequest d).bind_eq fun v hmid => ?_
  exact (coupled_flow hmid v.repository).bind fun flow flow' hflow hmid =>
    coupled_pure hmid (congrArg (Subject.mk d v) hflow)

theorem coupled_input (spec : OAuthSpecification) :
    Coupled (fun _ _ => True) b b' (input side spec request) (input side spec request') := by
  have hactor : request.actor = request'.actor := eq_of_blotted hrequest (·.actor) fun _ => rfl
  have hlogger : requestLogger side request = requestLogger side request' :=
    eq_of_blotted hrequest (requestLogger side) fun _ => rfl
  have hinput : request.input.map Fields.blotted = request'.input.map Fields.blotted :=
    congrArg (·.input) hrequest
  unfold input
  rw [hactor, hlogger]
  cases request'.actor with
  | none => exact coupled_pure h trivial
  | some id =>
    refine (coupled_hydratedActor h side id).bind fun a a' ha hmid => ?_
    have hconfiguration : (Document.object a.configuration).blotted =
        (Document.object a'.configuration).blotted := by
      rw [Document.blotted_object, Document.blotted_object]
      exact congrArg (fun a : Actor => Document.object a.configuration) ha
    have hreconcile := Input.reconcile_blotted spec (.object a.configuration) request.input
    rw [hconfiguration, hinput, Input.reconcile_blotted] at hreconcile
    -- the filled inputs differ, but the warnings about them do not
    have hagree := Agree.of_map_eq hreconcile.symm
    generalize Input.reconcile spec (.object a.configuration) request.input = x at hagree ⊢
    generalize Input.reconcile spec (.object a'.configuration) request'.input = y at hagree ⊢
    cases hagree with
    | error defect => exact coupled_throw hmid _
    | @ok filled filled' hfilled =>
      have hwarnings : filled.2 = filled'.2 := (Prod.mk.inj hfilled).2
      dsimp only
      rw [hwarnings]
      exact (coupled_record hmid _).bind fun _ _ _ hmid =>
        (coupled_lend hmid side id spec _ _).bind fun _ _ _ hmid => coupled_pure hmid trivial

theorem coupled_inputFor (v : Version) (otherwise : Option Fields) :
    Coupled (fun _ _ => True) b b' (inputFor side v request otherwise)
      (inputFor side v request' otherwise) := by
  unfold inputFor
  cases v.specification.oauth? with
  | none => exact coupled_pure h trivial
  | some spec => exact (coupled_input h hrequest spec).map fun _ _ _ => trivial

theorem coupled_exchange (task : Flow.Task) (event : String) (query query' : Fields)
    (otherwise : Option Fields) : Coupled (fun s s' => s.blotted = s'.blotted) b b'
      (exchange task event side request query otherwise)
      (exchange task event side request' query' otherwise) := by
  have hlogger : requestLogger side request = requestLogger side request' :=
    eq_of_blotted hrequest (requestLogger side) fun _ => rfl
  have hworkspace : request.workspace = request'.workspace :=
    eq_of_blotted hrequest (·.workspace) fun _ => rfl
  refine (coupled_subject h hrequest).bind fun s s' hs hmid => ?_
  have hdefinition : s.definition = s'.definition := eq_of_blotted hs (·.definition) fun _ => rfl
  have hversion : s.version = s'.version := eq_of_blotted hs (·.version) fun _ => rfl
  have hflow : s.flow.blotted = s'.flow.blotted := congrArg (·.flow) hs
  rw [hdefinition, hversion, hlogger, hworkspace]
  refine (coupled_inputFor hmid hrequest s'.version otherwise).bind fun input input' _ hmid => ?_
  -- the inputs themselves need not be related, as a call is recorded without them
  have hcall : (callFor task side request query s'.version input).blotted =
      (callFor task side request' query' s'.version input').blotted :=
    eq_of_blotted hrequest (fun r => (callFor task side r query s'.version input).blotted)
      fun _ => rfl
  exact (coupled_callFlow hmid hflow hcall).bind fun _ _ _ hmid =>
    (coupled_track hmid _ _).bind fun _ _ _ hmid => coupled_pure hmid hs

/-- A consent is answered alike, down to the address. -/
theorem coupled_consent :
    Coupled (· = ·) b b' (consent side request) (consent side request') := by
  have hlogger : requestLogger side request = requestLogger side request' :=
    eq_of_blotted hrequest (requestLogger side) fun _ => rfl
  refine (coupled_exchange h hrequest _ _ _ _ _).bind fun s s' hs hmid => ?_
  have hversion : s.version = s'.version := eq_of_blotted hs (·.version) fun _ => rfl
  have hurl : s.flow.consentUrl = s'.flow.consentUrl :=
    eq_of_blotted hs (·.flow.consentUrl) fun _ => rfl
  rw [hversion, hlogger, hurl]
  exact (coupled_record hmid _).bind fun _ _ _ hmid =>
    coupled_ofExcept hmid (.of_eq rfl fun _ => rfl)

end

section
variable {request request' : CompletionRequest} (hrequest : request.blotted = request'.blotted)
include hrequest

theorem coupled_complete (side : Side) : Coupled (fun r r' => r.blotted = r'.blotted) b b'
    (complete side request) (complete side request') := by
  have hconsent : request.toConsentRequest.blotted = request'.toConsentRequest.blotted :=
    congrArg (·.toConsentRequest) hrequest
  have hlogger : requestLogger side request.toConsentRequest =
      requestLogger side request'.toConsentRequest :=
    eq_of_blotted hconsent (requestLogger side) fun _ => rfl
  refine (coupled_exchange h hconsent _ _ _ _ _).bind fun s s' hs hmid => ?_
  have hresponse : (Response.ofAnswer s.flow.completion).blotted =
      (Response.ofAnswer s'.flow.completion).blotted := by
    rw [← Response.ofAnswer_blotted, ← Response.ofAnswer_blotted]
    exact congrArg (fun s : Subject => Response.ofAnswer s.flow.completion) hs
  obtain ⟨hsucceeded, herror, -⟩ := Response.blotted_eq_iff.mp hresponse
  dsimp only
  rw [hsucceeded, herror, hlogger]
  cases (Response.ofAnswer s'.flow.completion).succeeded with
  | true => exact coupled_pure hmid hresponse
  | false => exact (coupled_record hmid _).bind fun _ _ _ hmid => coupled_pure hmid hresponse

end

/-! ## Secrets -/

/-- A write is answered by the same coordinate, whatever is written. -/
theorem coupled_writeSecretFrom (supply : Nat → Identifier) (workspace : Identifier)
    {response response' : Response} (hresponse : response.blotted = response'.blotted) :
    Coupled (· = ·) b b' (writeSecretFrom supply workspace response)
      (writeSecretFrom supply workspace response') := by
  -- the texts are not related at all: the coordinate is made of the label, the workspace and a draw
  have htext : Coupled (fun _ _ => True) b b' (secretText response) (secretText response') := by
    have hroom : b.searchRoom = b'.searchRoom := eq_of_blotted h (·.searchRoom) fun _ => rfl
    refine coupled_get ?_
    rw [← hroom]
    exact coupled_ofExcept h ((Secret.payloadText_agree _ hresponse).mapError Fault.unwritable)
  have hprepare : Coupled (fun p p' => p.1 = p'.1) b b'
      (prepareSecret supply workspace response) (prepareSecret supply workspace response') := by
    refine htext.bind fun text text' _ hmid => ?_
    refine (coupled_draw hmid supply).bind_eq fun id hmid => ?_
    have hlabel := eq_of_blotted hmid (·.secretLabel) fun _ => rfl
    exact coupled_get (coupled_pure hmid (by rw [hlabel]))
  refine hprepare.bind fun p p' hp hmid => ?_
  obtain ⟨coordinate, text⟩ := p
  obtain ⟨coordinate', text'⟩ := p'
  obtain rfl : coordinate = coordinate' := hp
  exact (coupled_storeSecret hmid coordinate text text').bind fun _ _ _ hmid =>
    (coupled_record hmid _).bind fun _ _ _ hmid => coupled_pure hmid rfl

/-- Asked for a secret, a completion is answered by the same coordinate in both runs. -/
theorem coupled_completeAsAsked {request request' : CompletionRequest}
    (hrequest : request.blotted = request'.blotted) :
    Coupled (fun r r' => request.asSecret = true → r = r') b b' (completeAsAsked request)
      (completeAsAsked request') := by
  have hasked : request.asSecret = request'.asSecret :=
    eq_of_blotted hrequest (·.asSecret) fun _ => rfl
  have hworkspace : request.workspace = request'.workspace :=
    eq_of_blotted hrequest (·.workspace) fun _ => rfl
  refine (coupled_complete h hrequest _).bind fun r r' hr hmid => ?_
  rw [hasked, hworkspace]
  cases request'.asSecret with
  | true => exact (coupled_writeSecretFrom hmid _ _ hr).mono fun _ _ heq _ => heq
  | false => exact coupled_pure hmid (by simp)

/-! ## Parameters -/

theorem coupled_setParameters (side : Side) {request request' : ParameterRequest}
    (hrequest : request.blotted = request'.blotted) :
    Coupled (fun _ _ => True) b b' (setParameters side request)
      (setParameters side request') := by
  have hdefinition : request.definition = request'.definition :=
    eq_of_blotted hrequest (·.definition) fun _ => rfl
  have hparameters : request.parameters.blotted = request'.parameters.blotted :=
    congrArg (·.parameters) hrequest
  have hdraft : Coupled (fun p p' => p.blotted = p'.blotted) b b' (draftParameter side request)
      (draftParameter side request') := by
    unfold draftParameter
    rw [hdefinition]
    refine (coupled_parameter? h side _ none).bind fun p p' hp hmid => ?_
    rcases cases_of_map_eq hp with ⟨hnone, hnone'⟩ | ⟨present, present', hsome, hsome', hblotted⟩
    · rw [hnone, hnone']
      exact (coupled_draw hmid _).bind_eq fun id hmid =>
        coupled_pure hmid (congrArg (Parameter.mk id _ side none) hparameters)
    · rw [hsome, hsome']
      exact coupled_pure hmid (Parameter.withConfiguration_congr hblotted hparameters)
  refine hdraft.bind fun p p' hp hmid => ?_
  have hid : p.id = p'.id := eq_of_blotted hp (·.id) fun _ => rfl
  have hfor : p.definition = p'.definition := eq_of_blotted hp (·.definition) fun _ => rfl
  have hside : p.side = p'.side := eq_of_blotted hp (·.side) fun _ => rfl
  refine (coupled_writeParameter hmid hp).bind fun _ _ _ hmid => ?_
  rw [hid, hfor, hside]
  exact coupled_record hmid _

end

end AuthBroker.Broker
