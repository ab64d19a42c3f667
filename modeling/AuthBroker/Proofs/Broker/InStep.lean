import AuthBroker.Broker.Parameters
import AuthBroker.Broker.Secret
import AuthBroker.Proofs.Broker.Reading

/-! # Brokers in step

Any number of brokers is run side by side, one for each index. They stay in step through an action if it
has one outcome in all of them and leaves them tied together as they were. What ties them has to say
that they know the same, and to go through the few elementary actions whose effects it may or may not
look at (`Tie`); then they stay in step through whatever is built of these: choosing versions, filling
inputs, exchanges, and writes of secrets and parameters. -/

namespace AuthBroker.Broker

open Connector Exchange

variable {ι α β : Type} {P : (ι → Broker) → Prop}

/-- Run in each broker, the action has one outcome, and leaves the brokers tied as before. -/
def InStep (P : (ι → Broker) → Prop) (action : Action α) : Prop :=
  ∀ brokers, P brokers → ∃ outcome, (∀ i, (action.runIn (brokers i)).1 = outcome) ∧
    P fun i => (action.runIn (brokers i)).2

/-! ## Rules -/

theorem inStep_ofExcept (outcome : Except Fault α) : InStep P (ofExcept outcome) := by
  intro brokers h
  refine ⟨outcome, fun i => ?_, ?_⟩
  · rw [runIn_ofExcept]
  · simp only [runIn_ofExcept]
    exact h

theorem inStep_pure (a : α) : InStep P (pure a) :=
  inStep_ofExcept (.ok a)

theorem inStep_throw (fault : Fault) : InStep P (throw fault : Action α) :=
  inStep_ofExcept (.error fault)

theorem inStep_modify {f : Broker → Broker} (hf : ∀ brokers, P brokers → P fun i => f (brokers i)) :
    InStep P (modify f) :=
  fun brokers h => ⟨.ok (), fun _ => rfl, hf brokers h⟩

theorem InStep.bind {first : Action α} {next : α → Action β} (h : InStep P first)
    (hnext : ∀ a, InStep P (next a)) : InStep P (first >>= next) := by
  intro brokers hP
  obtain ⟨outcome, hout, hmid⟩ := h brokers hP
  have hfirst : ∀ i, first.runIn (brokers i) = (outcome, (first.runIn (brokers i)).2) :=
    fun i => Prod.ext (hout i) rfl
  cases outcome with
  | error fault =>
    have hrun : ∀ i, (first >>= next).runIn (brokers i) =
        (.error fault, (first.runIn (brokers i)).2) := by
      intro i
      rw [Action.runIn_bind, hfirst]
    refine ⟨.error fault, fun i => by rw [hrun], ?_⟩
    simp only [hrun]
    exact hmid
  | ok a =>
    have hrun : ∀ i, (first >>= next).runIn (brokers i) =
        (next a).runIn (first.runIn (brokers i)).2 := by
      intro i
      rw [Action.runIn_bind, hfirst]
    obtain ⟨outcome, hout, hafter⟩ := hnext a _ hmid
    refine ⟨outcome, fun i => by rw [hrun, hout], ?_⟩
    simp only [hrun]
    exact hafter

theorem InStep.map {action : Action α} (h : InStep P action) (f : α → β) :
    InStep P (f <$> action) := by
  rw [map_eq_pure_bind]
  exact h.bind fun a => inStep_pure (f a)

/-! ## Ties -/

/-- What a broker goes by, apart from the secrets it stores and from how it was wired. -/
structure Known where
  catalog : Catalog
  hydrated : Table (Side × Identifier) Fields
  registry : Flow.Registry Flow
  secretLabel : String
  searchRoom : Nat
  minted : Nat
  calls : List Flow.Call

def known (b : Broker) : Known :=
  ⟨b.catalog, b.hydrated, b.registry, b.secretLabel, b.searchRoom, b.minted, b.calls⟩

/-- The broker with something else known. -/
def knowing (b : Broker) (known : Known) : Broker :=
  { b with
    catalog := known.catalog
    hydrated := known.hydrated
    registry := known.registry
    secretLabel := known.secretLabel
    searchRoom := known.searchRoom
    minted := known.minted
    calls := known.calls }

/-- What ties brokers together so that they stay in step: they know the same, it is no matter what, and
the actions whose effects are not known go through. -/
structure Tie (P : (ι → Broker) → Prop) : Prop where
  known : ∀ {brokers}, P brokers → ∃ known, ∀ i, (brokers i).known = known
  learn : ∀ {brokers}, P brokers → ∀ known, P fun i => (brokers i).knowing known
  record : ∀ records, InStep P (record records)
  consult : ∀ lookup, InStep P (consult lookup)
  lend : ∀ side id spec input, InStep P (lend side id spec input)
  endLoans : ∀ holding, InStep P (modify (endLoans · holding))
  writeParameter : ∀ parameter, InStep P (writeParameter parameter)
  storeSecret : ∀ coordinate text, InStep P (storeSecret coordinate text)

section
variable (h : Tie P)
include h

/-- An action whose outcome and whose effect are decided by what is known, and only on that. -/
theorem Tie.ofKnown {action : Action α} (answer : Known → Except Fault α) (next : Known → Known)
    (hrun : ∀ b : Broker, action.runIn b = (answer b.known, b.knowing (next b.known))) :
    InStep P action := by
  intro brokers hP
  obtain ⟨known, hknown⟩ := h.known hP
  refine ⟨answer known, fun i => ?_, ?_⟩
  · rw [hrun, hknown]
  · simp only [hrun, hknown]
    exact h.learn hP _

theorem Tie.draw (supply : Nat → Identifier) : InStep P (draw supply) :=
  h.ofKnown (fun known => .ok (supply (known.minted + 1)))
    (fun known => { known with minted := known.minted + 1 }) fun _ => rfl

theorem Tie.lookUp (lookup : Lookup) (find : Catalog → Except Fault α) :
    InStep P (do Broker.consult lookup; ofExcept (find (← get).catalog)) := by
  refine (h.consult lookup).bind fun _ =>
    h.ofKnown (fun known => find known.catalog) (fun known => known) fun b => ?_
  rw [Action.runIn_bind, Action.runIn_get]
  exact runIn_ofExcept _ _

theorem Tie.definition (side : Side) (id : Identifier) : InStep P (definition side id) :=
  h.lookUp (.definition side id) (·.definition side id)

theorem Tie.version (id : Identifier) : InStep P (version id) :=
  h.lookUp (.version id) (·.version id)

theorem Tie.actor (side : Side) (id : Identifier) : InStep P (actor side id) :=
  h.lookUp (.actor side id) (·.actor side id)

theorem Tie.pinned? (definition : Identifier) (workspace actor : Option Identifier) :
    InStep P (pinned? definition workspace actor) :=
  h.lookUp (.pin definition workspace actor)
    (fun catalog => .ok (catalog.pinned? definition workspace actor))

theorem Tie.hydratedActor (side : Side) (id : Identifier) : InStep P (hydratedActor side id) := by
  refine (h.consult _).bind fun _ => h.ofKnown (fun known =>
    (known.catalog.actor side id).map fun a =>
      { a with configuration := (known.hydrated.get? (side, id)).getD a.configuration })
    (fun known => known) fun b => ?_
  rw [Action.runIn_bind, Action.runIn_get]
  dsimp only
  rw [Action.runIn_bind, runIn_ofExcept]
  change _ = ((b.catalog.actor side id).map _, b)
  cases b.catalog.actor side id with
  | error fault => rfl
  | ok a =>
    have hhydrated : b.known.hydrated = b.hydrated := rfl
    rw [hhydrated]
    dsimp only
    cases b.hydrated.get? (side, id) with
    | none => rfl
    | some configuration => rfl

theorem Tie.parameter? (side : Side) (definition : Identifier) (workspace : Option Identifier) :
    InStep P (parameter? side definition workspace) :=
  h.ofKnown (fun known => .ok (known.catalog.parameter? side definition workspace))
    (fun known => known) fun _ => rfl

theorem Tie.flow (provider : String) : InStep P (flow provider) := by
  refine h.ofKnown (fun known => known.registry.get provider) (fun known => known) fun b => ?_
  rw [Broker.flow, Action.runIn_bind, Action.runIn_get]
  exact runIn_ofExcept _ _

theorem Tie.callFlow (flow : Flow) (call : Flow.Call) : InStep P (callFlow flow call) := by
  have hnote : InStep P (modify fun b : Broker => { b with calls := b.calls ++ [call] }) :=
    h.ofKnown (fun _ => .ok ()) (fun known => { known with calls := known.calls ++ [call] })
      fun _ => rfl
  refine hnote.bind fun _ => ?_
  cases flow.failure with
  | none => exact inStep_pure _
  | some failure => exact inStep_throw _

/-! ## Versions and inputs -/

theorem Tie.loadVersion (d : Definition) (pin : Option Identifier) : InStep P (loadVersion d pin) := by
  cases pin with
  | none => exact h.version _
  | some id => exact (h.record _).bind fun _ => h.version id

theorem Tie.versionForWorkspace (d : Definition) (workspace : Identifier) :
    InStep P (versionForWorkspace d workspace) :=
  (h.pinned? _ _ _).bind fun _ => h.loadVersion d _

theorem Tie.versionForActor (d : Definition) (id : Identifier) :
    InStep P (versionForActor d id) := by
  refine (h.actor _ id).bind fun a => (h.pinned? _ _ _).bind fun pin => ?_
  cases pin with
  | some pin => exact h.loadVersion d (some pin)
  | none => exact (h.pinned? _ _ _).bind fun _ => h.loadVersion d _

theorem Tie.versionFor (d : Definition) (request : ConsentRequest) :
    InStep P (versionFor d request) := by
  unfold Broker.versionFor
  cases request.actor with
  | none => exact h.versionForWorkspace d _
  | some id => exact h.versionForActor d id

theorem Tie.subject (side : Side) (request : ConsentRequest) : InStep P (subject side request) := by
  refine (h.definition side _).bind fun d => (h.versionFor d request).bind fun v => ?_
  exact (h.flow v.repository).bind fun _ => inStep_pure _

theorem Tie.input (side : Side) (spec : OAuthSpecification) (request : ConsentRequest) :
    InStep P (input side spec request) := by
  unfold Broker.input
  cases request.actor with
  | none => exact inStep_pure _
  | some id =>
    refine (h.hydratedActor side id).bind fun a => ?_
    cases Input.reconcile spec (.object a.configuration) request.input with
    | error defect => exact inStep_throw _
    | ok result =>
      exact (h.record _).bind fun _ => (h.lend side id spec _).bind fun _ => inStep_pure _

theorem Tie.inputFor (side : Side) (v : Version) (request : ConsentRequest)
    (otherwise : Option Fields) : InStep P (inputFor side v request otherwise) := by
  unfold Broker.inputFor
  cases v.specification.oauth? with
  | none => exact inStep_pure _
  | some spec => exact (h.input side spec request).map some

/-! ## Exchanges -/

section
variable (htrack : ∀ logger event, InStep P (track logger event))
include htrack

theorem Tie.exchange (task : Flow.Task) (event : String) (side : Side) (request : ConsentRequest)
    (query : Fields) (otherwise : Option Fields) :
    InStep P (exchange task event side request query otherwise) := by
  refine (h.subject side request).bind fun s => ?_
  refine (h.inputFor side s.version request otherwise).bind fun given => ?_
  exact (h.callFlow s.flow _).bind fun _ => (htrack _ _).bind fun _ => inStep_pure _

theorem Tie.consent (side : Side) (request : ConsentRequest) : InStep P (consent side request) := by
  refine (h.exchange htrack _ _ _ _ _ _).bind fun s => ?_
  exact (h.record _).bind fun _ => inStep_ofExcept _

theorem Tie.complete (side : Side) (request : CompletionRequest) :
    InStep P (complete side request) := by
  refine (h.exchange htrack _ _ _ _ _ _).bind fun s => ?_
  dsimp only
  cases (Response.ofAnswer s.flow.completion).succeeded with
  | true => exact inStep_pure _
  | false => exact (h.record _).bind fun _ => inStep_pure _

end

/-! ## Writes -/

theorem Tie.prepareSecret (supply : Nat → Identifier) (workspace : Identifier)
    (response : Response) : InStep P (prepareSecret supply workspace response) := by
  have htext : InStep P (secretText response) :=
    h.ofKnown (fun known => (Secret.payloadText known.searchRoom response).mapError .unwritable)
      (fun known => known) (runIn_secretText response)
  refine htext.bind fun text => (h.draw supply).bind fun id => ?_
  exact h.ofKnown (fun known => .ok (.mint known.secretLabel workspace id, text)) (fun known => known)
    fun _ => rfl

theorem Tie.writeSecret (workspace : Identifier) (response : Response) :
    InStep P (writeSecret workspace response) := by
  refine (h.prepareSecret _ workspace response).bind fun ticket => ?_
  exact (h.storeSecret _ _).bind fun _ => (h.record _).bind fun _ => inStep_pure _

theorem Tie.completeAsAsked (htrack : ∀ logger event, InStep P (track logger event))
    (request : CompletionRequest) : InStep P (completeAsAsked request) := by
  refine (h.complete htrack .source request).bind fun response => ?_
  split
  · exact h.writeSecret _ _
  · exact inStep_pure _

theorem Tie.setParameters (side : Side) (request : ParameterRequest) :
    InStep P (setParameters side request) := by
  have hdraft : InStep P (draftParameter side request) := by
    refine (h.parameter? side request.definition none).bind fun present => ?_
    cases present with
    | some present => exact inStep_pure _
    | none => exact (h.draw _).bind fun _ => inStep_pure _
  refine hdraft.bind fun parameter => ?_
  exact (h.writeParameter parameter).bind fun _ => h.record _

end

end AuthBroker.Broker
