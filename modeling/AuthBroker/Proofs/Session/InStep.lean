import AuthBroker.Proofs.Broker.InStep
import AuthBroker.Session

/-! # Sessions in step

Most steps do not ask how a broker was wired, and change nothing of how its sink and its store work.
Brokers that are tied together stay in step through all of these (`Tie.perform`). Where the caller may
edit what was handed out, they do if they stay in step through the edit. -/

namespace AuthBroker

open Connector Exchange

namespace Step

/-- Whether a step calls a flow, and so may tell of it in an event. -/
def exchanges : Step → Bool
  | .consent _ _ | .complete _ _ | .completeAsAsked _ => true
  | _ => false

/-- Whether a step goes by nothing but what is known and leaves the collaborators of the broker as they
are. -/
def isPlain : Step → Bool
  | .pin _ _ _ _ | .hydrate _ _ _ | .seedParameters _ | .failUsage _ | .failStore _ => false
  | .getActor _ _ _ edit | .getParameter _ _ _ edit | .writeParameter _ edit => edit.isEmpty
  | _ => true

end Step

namespace Broker

/-! ## Reading a request, and writing down its answer -/

section
variable {α β : Type} {check : Document → Check α} {d : Document}

theorem runIn_reading_invalid {problems : List Problem} (hcheck : check d = .invalid problems)
    (next : α → Action β) (b : Broker) :
    (reading check d >>= next).runIn b = (.error (.invalidRecord problems), b) := by
  rw [Action.runIn_bind, reading, runIn_ofExcept, hcheck]
  rfl

theorem runIn_reading_valid {a : α} (hcheck : check d = .valid a) (next : α → Action β)
    (b : Broker) : (reading check d >>= next).runIn b = (next a).runIn b := by
  rw [Action.runIn_bind, reading, runIn_ofExcept, hcheck]
  rfl

theorem runIn_answer (action : Action α) (f : α → β) (b : Broker) :
    (action >>= fun a => pure (f a)).runIn b = ((action.runIn b).1.map f, (action.runIn b).2) := by
  rw [← map_eq_pure_bind, Action.runIn_map]

end

theorem runIn_perform_consent {d : Document} {request : ConsentRequest}
    (hcheck : ConsentRequest.check d = .valid request) (side : Side) (b : Broker) :
    (perform (.consent (.ok side) d)).runIn b =
      (((consent side request).runIn b).1.map (·.toDocument),
        ((consent side request).runIn b).2) := by
  rw [perform, runIn_reading_valid hcheck]
  exact runIn_answer _ _ b

theorem runIn_perform_complete {d : Document} {request : CompletionRequest}
    (hcheck : CompletionRequest.check d = .valid request) (side : Side) (b : Broker) :
    (perform (.complete (.ok side) d)).runIn b =
      (((complete side request).runIn b).1.map (·.toDocument),
        ((complete side request).runIn b).2) := by
  rw [perform, runIn_reading_valid hcheck]
  exact runIn_answer _ _ b

theorem runIn_perform_completeAsAsked {d : Document} {request : CompletionRequest}
    (hcheck : CompletionRequest.check d = .valid request) (b : Broker) :
    (perform (.completeAsAsked d)).runIn b =
      (((completeAsAsked request).runIn b).1.map (·.toDocument),
        ((completeAsAsked request).runIn b).2) := by
  rw [perform, runIn_reading_valid hcheck]
  exact runIn_answer _ _ b

theorem runIn_perform_writeSecret {d : Document} {response : Response}
    (hcheck : Response.check d = .valid response) (workspace : Identifier) (b : Broker) :
    (perform (.writeSecret (.ok workspace) d)).runIn b =
      (((writeSecret workspace response).runIn b).1.map (·.toDocument),
        ((writeSecret workspace response).runIn b).2) := by
  rw [perform, runIn_reading_valid hcheck]
  exact runIn_answer _ _ b

/-! ## What steps are made of -/

variable {ι α : Type} {P : (ι → Broker) → Prop}

theorem inStep_reading (check : Document → Check α) (d : Document) : InStep P (reading check d) :=
  inStep_ofExcept _

theorem inStep_editing_nil (after : Broker → Broker) : InStep P (editing [] after) := by
  refine inStep_modify fun brokers h => ?_
  have hsame : (fun i => if (brokers i).sharesRecords && !([] : Fields).isEmpty
      then after (brokers i) else brokers i) = brokers := by
    funext i
    rw [if_neg (by simp)]
  rw [hsame]
  exact h

/-- A version is pinned in any case, unless the catalog checks what it is pinned for. -/
theorem runIn_pin (b : Broker) (definition version : Identifier)
    (workspace actor : Option Identifier) :
    (pin definition version workspace actor).runIn b =
      match b.wiring with
      | .rehearsal =>
        (.ok (), { b with catalog := b.catalog.pinFor definition version workspace actor })
      | .memory | .deployed =>
        match b.catalog.pin definition version workspace actor with
        | .ok catalog => (.ok (), { b with catalog := catalog })
        | .error fault => (.error fault, b) := by
  obtain ⟨wiring, catalog⟩ := b
  rw [pin, Action.runIn_bind, Action.runIn_get]
  cases wiring with
  | rehearsal => rfl
  | memory | deployed =>
    dsimp only
    rw [Action.runIn_bind, runIn_ofExcept]
    cases catalog.pin definition version workspace actor with
    | ok catalog => rfl
    | error fault => rfl

/-- The last call of a method of a provider's flow, among what is known. -/
def Known.lastCall (known : Known) (provider method : String) : Except Fault Flow.Call :=
  if !known.registry.flows.contains provider then .error (.flowNotFound provider)
  else
    let calls := known.calls.filter (·.provider == provider)
    match calls.reverse.find? (·.method == method) with
    | some call => .ok call
    | none => .error (.callNotFound method (calls.map (·.method)))

section
variable (h : Tie P)
include h

theorem Tie.modifyCatalog (f : Catalog → Catalog) : InStep P (modifyCatalog f) :=
  h.ofKnown (fun _ => .ok ()) (fun known => { known with catalog := f known.catalog }) fun _ => rfl

theorem Tie.lastCall (provider method : String) : InStep P (lastCall provider method) := by
  refine h.ofKnown (·.lastCall provider method) (fun known => known) fun b => ?_
  rw [Broker.lastCall, Action.runIn_bind, Action.runIn_get]
  have hregistry : b.known.registry = b.registry := rfl
  have hcalls : b.known.calls = b.calls := rfl
  rw [Known.lastCall, hregistry, hcalls]
  dsimp only
  cases b.registry.flows.contains provider with
  | false => rfl
  | true =>
    generalize b.calls.filter (·.provider == provider) = calls
    cases calls.reverse.find? (·.method == method) with
    | none => rfl
    | some call => rfl

/-! ## Steps that change the registry -/

theorem Tie.addFlow (provider : String) (script : Flow.Script) :
    InStep P (perform (.addFlow provider script)) := by
  refine h.ofKnown
    (fun known =>
      (known.registry.register provider (Flow.unscripted.follow script)).map fun _ => .null)
    (fun known =>
      match known.registry.register provider (Flow.unscripted.follow script) with
      | .ok registry => { known with registry := registry }
      | .error _ => known) fun b => ?_
  rw [perform, Action.runIn_bind, Action.runIn_get]
  dsimp only
  rw [Action.runIn_bind, runIn_ofExcept]
  have hregistry : b.known.registry = b.registry := rfl
  rw [hregistry]
  cases b.registry.register provider (Flow.unscripted.follow script) with
  | ok registry => rfl
  | error fault => rfl

theorem Tie.scriptFlow (provider : String) (script : Flow.Script) :
    InStep P (perform (.scriptFlow provider script)) := by
  refine h.ofKnown (fun known => (known.registry.flows.get? provider).elim
      (.error (.flowNotFound provider)) fun _ => .ok .null)
    (fun known => (known.registry.flows.get? provider).elim known fun flow =>
      { known with registry := known.registry.update provider (flow.follow script) })
    fun b => ?_
  rw [perform, Action.runIn_bind, Action.runIn_get]
  have hregistry : b.known.registry = b.registry := rfl
  rw [hregistry]
  dsimp only
  cases b.registry.flows.get? provider with
  | none => rfl
  | some flow => rfl

/-! ## Steps that hand out records -/

theorem Tie.getActor {side : Side} {id : Identifier} {hydrated : Bool} {edit : Fields}
    (hedit : InStep P (editing edit (·.afterActorEdit side id hydrated edit))) :
    InStep P (perform (.getActor side id hydrated edit)) := by
  have hhandOut : ∀ record : Actor, InStep P (do
      editing edit (·.afterActorEdit side id hydrated edit)
      return record.toDocument) := fun _ => hedit.bind fun _ => inStep_pure _
  cases hydrated with
  | true => exact (h.hydratedActor side id).bind hhandOut
  | false => exact (h.actor side id).bind hhandOut

theorem Tie.getParameter {side : Side} {definition : Identifier} {workspace : Option Identifier}
    {edit : Fields}
    (hedit : ∀ record, InStep P (editing edit (·.afterParameterEdit record false edit))) :
    InStep P (perform (.getParameter side definition workspace edit)) := by
  refine (h.parameter? side definition workspace).bind fun found => ?_
  cases found with
  | none => exact inStep_pure _
  | some record => exact (hedit record).bind fun _ => inStep_pure _

theorem Tie.performWriteParameter {d : Document} {edit : Fields}
    (hedit : ∀ record, InStep P (editing edit (·.afterParameterEdit record true edit))) :
    InStep P (perform (.writeParameter d edit)) := by
  refine (inStep_reading _ d).bind fun record => ?_
  exact (h.writeParameter record).bind fun _ => (hedit record).bind fun _ => inStep_pure _

/-! ## Every plain step -/

theorem Tie.perform (s : Step) (hplain : s.isPlain = true)
    (htrack : s.exchanges = true → ∀ logger event, InStep P (track logger event)) :
    InStep P (perform s) := by
  cases s with
  | addDefinition d =>
    exact (inStep_reading _ d).bind fun _ => (h.modifyCatalog _).bind fun _ => inStep_pure _
  | addVersion d =>
    exact (inStep_reading _ d).bind fun _ => (h.modifyCatalog _).bind fun _ => inStep_pure _
  | addActor d =>
    refine (inStep_reading _ d).bind fun _ => (h.modifyCatalog _).bind fun _ => ?_
    exact (h.endLoans _).bind fun _ => inStep_pure _
  | addFlow provider script => exact h.addFlow provider script
  | scriptFlow provider script => exact h.scriptFlow provider script
  | lastCall provider method => exact (h.lastCall provider method).bind fun _ => inStep_pure _
  | getDefinition side id => exact (h.definition side id).bind fun _ => inStep_pure _
  | getVersion id => exact (h.version id).bind fun _ => inStep_pure _
  | getPinned definition workspace actor =>
    exact (h.pinned? definition workspace actor).bind fun _ => inStep_pure _
  -- a plain look-up comes without an edit, so the wiring that decides on edits is not asked
  | getActor side id hydrated edit =>
    obtain rfl := List.isEmpty_iff.mp hplain
    exact h.getActor (inStep_editing_nil _)
  | getParameter side definition workspace edit =>
    obtain rfl := List.isEmpty_iff.mp hplain
    exact h.getParameter fun _ => inStep_editing_nil _
  | writeParameter d edit =>
    obtain rfl := List.isEmpty_iff.mp hplain
    exact h.performWriteParameter fun _ => inStep_editing_nil _
  | listParameters =>
    exact h.ofKnown (fun known => .ok (.list (known.catalog.parameters.values.map (·.toDocument))))
      (fun known => known) fun _ => rfl
  | versionForActor d actor =>
    refine (inStep_reading _ d).bind fun definition => (inStep_ofExcept actor).bind fun id => ?_
    exact (h.versionForActor definition id).bind fun _ => inStep_pure _
  | versionForWorkspace d workspace =>
    refine (inStep_reading _ d).bind fun definition => (inStep_ofExcept workspace).bind fun id => ?_
    exact (h.versionForWorkspace definition id).bind fun _ => inStep_pure _
  | consent side d =>
    refine (inStep_reading _ d).bind fun request => (inStep_ofExcept side).bind fun side => ?_
    exact (h.consent (htrack rfl) side request).bind fun _ => inStep_pure _
  | complete side d =>
    refine (inStep_reading _ d).bind fun request => (inStep_ofExcept side).bind fun side => ?_
    exact (h.complete (htrack rfl) side request).bind fun _ => inStep_pure _
  | completeAsAsked d =>
    refine (inStep_reading _ d).bind fun request => ?_
    exact (h.completeAsAsked (htrack rfl) request).bind fun _ => inStep_pure _
  | writeSecret workspace d =>
    refine (inStep_reading _ d).bind fun response => (inStep_ofExcept workspace).bind fun id => ?_
    exact (h.writeSecret id response).bind fun _ => inStep_pure _
  | setParameters side d =>
    refine (inStep_reading _ d).bind fun request => (inStep_ofExcept side).bind fun side => ?_
    exact (h.setParameters side request).bind fun _ => inStep_pure _
  | unreadable fault => exact inStep_throw fault
  | pin | hydrate | seedParameters | failUsage | failStore => cases hplain

end

/-! ## Moments -/

/-- The steps of a script, each with the broker that performs it. -/
def moments (b : Broker) : List Step → List (Broker × Step)
  | [] => []
  | s :: rest => (b, s) :: moments (b.step s).2 rest

/-- What every step keeps holds at every moment. -/
theorem forall_moments {Q : Broker → Prop} (hstep : ∀ b s, Q b → Q (b.step s).2) {b : Broker}
    (h : Q b) (script : List Step) : ∀ moment ∈ b.moments script, Q moment.1 := by
  induction script generalizing b with
  | nil => simp [moments]
  | cons s rest ih =>
    intro moment hmem
    rcases List.mem_cons.mp hmem with rfl | hlater
    · exact h
    · exact ih (hstep b s h) moment hlater

end Broker

end AuthBroker
