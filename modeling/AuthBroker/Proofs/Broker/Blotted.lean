import AuthBroker.Broker.Sharing
import AuthBroker.Proofs.Exchange.Blotted

/-! # A broker with its secrets blotted out

What is kept of a broker (`Broker.blotted`) is everything but texts in configurations and parameters,
the tokens that its flows answer, what it handed to flows and what it stored. Each change of a
broker changes what is kept in the same way, whatever was blotted out. -/

namespace AuthBroker

open Connector Exchange

/-! ## Parts of a broker -/

namespace Catalog

/-- The catalog with all configurations blotted. -/
def blotted (catalog : Catalog) : Catalog :=
  { catalog with
    actors := catalog.actors.mapValues fun _ => Actor.blotted
    parameters := catalog.parameters.mapValues fun _ => Parameter.blotted }

theorem blotted_addActor (catalog : Catalog) (actor : Actor) :
    (catalog.addActor actor).blotted = catalog.blotted.addActor actor.blotted := by
  simp only [blotted, addActor, Table.mapValues_insert]
  rfl

theorem blotted_addParameter (catalog : Catalog) (parameter : Parameter) :
    (catalog.addParameter parameter).blotted =
      catalog.blotted.addParameter parameter.blotted := by
  simp only [blotted, addParameter, Table.mapValues_insert]
  rfl

theorem blotted_pinFor (catalog : Catalog) (definition version : Identifier)
    (workspace actor : Option Identifier) :
    (catalog.pinFor definition version workspace actor).blotted =
      catalog.blotted.pinFor definition version workspace actor := by
  cases actor with
  | some a => rfl
  | none => cases workspace <;> rfl

theorem pin_blotted (catalog : Catalog) (definition version : Identifier)
    (workspace actor : Option Identifier) :
    catalog.blotted.pin definition version workspace actor =
      (catalog.pin definition version workspace actor).map blotted := by
  unfold pin
  split
  · rfl
  · exact congrArg Except.ok (blotted_pinFor catalog definition version workspace actor).symm

theorem actor_blotted (catalog : Catalog) (side : Side) (id : Identifier) :
    catalog.blotted.actor side id = (catalog.actor side id).map Actor.blotted := by
  unfold actor
  simp only [blotted, Table.get?_mapValues]
  cases catalog.actors.get? (side, id) <;> rfl

theorem actor_agree {catalog catalog' : Catalog} (h : catalog.blotted = catalog'.blotted)
    (side : Side) (id : Identifier) :
    Agree (fun a a' => a.blotted = a'.blotted) (catalog.actor side id)
      (catalog'.actor side id) := by
  refine .of_map_eq ?_
  rw [← actor_blotted, ← actor_blotted, h]

theorem parameter?_blotted (catalog : Catalog) (side : Side) (definition : Identifier)
    (workspace : Option Identifier) :
    catalog.blotted.parameter? side definition workspace =
      (catalog.parameter? side definition workspace).map Parameter.blotted := by
  have hvalues : (catalog.parameters.mapValues fun _ => Parameter.blotted).values =
      catalog.parameters.values.map Parameter.blotted := by
    simp [Table.values, Table.mapValues]
  unfold parameter?
  simp only [blotted, hvalues, List.find?_map]
  rfl

end Catalog

namespace Flow

/-- The flow with all but the status of its answer blotted. -/
def blotted (flow : Flow) : Flow :=
  { flow with completion := Response.blottedAnswer flow.completion }

/-- The changes with all but the status of the answer blotted. -/
def Script.blotted (script : Script) : Script :=
  { script with completion := script.completion.map Response.blottedAnswer }

theorem blotted_follow (flow : Flow) (script : Script) :
    (flow.follow script).blotted = flow.blotted.follow script.blotted := by
  unfold follow blotted Script.blotted
  cases script.completion <;> rfl

theorem Script.blotted_blotted (script : Script) : script.blotted.blotted = script.blotted := by
  unfold blotted
  cases script.completion with
  | none => rfl
  | some answer =>
    simp only [Option.map_some]
    rw [Response.blottedAnswer, Response.blottedAnswer, Fields.blottedWhere_blottedWhere]

/-- The call without what the caller and the configuration put into it. -/
def Call.blotted (call : Call) : Call :=
  { call with query := [], input := none }

/-- The registry with its flows blotted. -/
def Registry.blotted (registry : Registry Flow) : Registry Flow :=
  ⟨registry.flows.mapValues fun _ => Flow.blotted⟩

theorem Registry.get_blotted (registry : Registry Flow) (provider : String) :
    registry.blotted.get provider = (registry.get provider).map Flow.blotted := by
  unfold get
  simp only [blotted, Table.get?_mapValues]
  cases registry.flows.get? provider <;> rfl

theorem Registry.register_blotted (registry : Registry Flow) (provider : String) (flow : Flow) :
    registry.blotted.register provider flow.blotted =
      (registry.register provider flow).map blotted := by
  unfold register
  simp only [blotted, Table.contains_mapValues]
  split
  · rfl
  · simp only [Except.map, blotted, Table.mapValues, List.map_append]
    rfl

theorem Registry.blotted_update (registry : Registry Flow) (provider : String) (flow : Flow) :
    (registry.update provider flow).blotted = registry.blotted.update provider flow.blotted := by
  simp only [blotted, update, Table.mapValues_insert]

end Flow

namespace Secret.Store

/-- The store without what is in it. -/
def blotted : Store → Store
  | .clear ledger => .clear ⟨[], ledger.failure⟩
  | .secured vault => .secured (.empty vault.key)

theorem blotted_setFailure (store : Store) (failure : Option Failure) :
    (store.setFailure failure).blotted = store.blotted.setFailure failure := by
  cases store <;> rfl

/-- Whether a store takes a text does not depend on the text or on what is in the store. -/
theorem put_agree {store store' : Store} (h : store.blotted = store'.blotted)
    (coordinate : Coordinate) (text text' : String) :
    Agree (fun s s' => s.blotted = s'.blotted) (store.put coordinate text)
      (store'.put coordinate text') := by
  cases store with
  | clear ledger =>
    cases store' with
    | clear ledger' =>
      have hfailure : ledger.failure = ledger'.failure := by simpa [blotted] using h
      simp only [put, Ledger.put, hfailure]
      cases ledger'.failure with
      | none => exact .ok rfl
      | some failure => exact .error failure
    | secured vault => simp [blotted] at h
  | secured vault =>
    cases store' with
    | clear ledger => simp [blotted] at h
    | secured vault' => exact .ok h

end Secret.Store

/-! ## The broker -/

namespace Broker

/-- What is kept of a broker when its secrets are blotted out. -/
def blotted (b : Broker) : Broker :=
  { b with
    catalog := b.catalog.blotted
    hydrated := b.hydrated.mapValues fun _ => Fields.blotted
    registry := b.registry.blotted
    store := b.store.blotted
    calls := b.calls.map Flow.Call.blotted
    loans := []
    parameterWrites := [] }

/-! ## Single changes -/

section
variable {b b' : Broker} (h : b.blotted = b'.blotted)
include h

theorem withCatalog_congr {catalog catalog' : Catalog} (hc : catalog.blotted = catalog'.blotted) :
    ({ b with catalog := catalog } : Broker).blotted =
      ({ b' with catalog := catalog' } : Broker).blotted := by
  change ({ b.blotted with catalog := catalog.blotted } : Broker) =
    { b'.blotted with catalog := catalog'.blotted }
  rw [h, hc]

theorem withRegistry_congr {registry registry' : Flow.Registry Flow}
    (hr : registry.blotted = registry'.blotted) :
    ({ b with registry := registry } : Broker).blotted =
      ({ b' with registry := registry' } : Broker).blotted := by
  change ({ b.blotted with registry := registry.blotted } : Broker) =
    { b'.blotted with registry := registry'.blotted }
  rw [h, hr]

theorem withStore_congr {store store' : Secret.Store} (hs : store.blotted = store'.blotted) :
    ({ b with store := store } : Broker).blotted =
      ({ b' with store := store' } : Broker).blotted := by
  change ({ b.blotted with store := store.blotted } : Broker) =
    { b'.blotted with store := store'.blotted }
  rw [h, hs]

theorem hydrate_congr (key : Side × Identifier) {configuration configuration' : Fields}
    (hc : configuration.blotted = configuration'.blotted) :
    ({ b with hydrated := b.hydrated.insert key configuration } : Broker).blotted =
      ({ b' with hydrated := b'.hydrated.insert key configuration' } : Broker).blotted := by
  have hinsert : ∀ (b : Broker) (configuration : Fields),
      ({ b with hydrated := b.hydrated.insert key configuration } : Broker).blotted =
        { b.blotted with
          hydrated := b.blotted.hydrated.insert key configuration.blotted } := by
    intro b configuration
    simp only [blotted, Table.mapValues_insert]
  rw [hinsert, hinsert, h, hc]

theorem call_congr {call call' : Flow.Call} (hc : call.blotted = call'.blotted) :
    ({ b with calls := b.calls ++ [call] } : Broker).blotted =
      ({ b' with calls := b'.calls ++ [call'] } : Broker).blotted := by
  have happend : ∀ (b : Broker) (call : Flow.Call),
      ({ b with calls := b.calls ++ [call] } : Broker).blotted =
        { b.blotted with calls := b.blotted.calls ++ [call.blotted] } := by
    intro b call
    simp [blotted]
  rw [happend, happend, h, hc]

/-- What was written is not kept, only what the catalog has of it. -/
theorem write_congr {parameter parameter' : Parameter}
    (hp : parameter.blotted = parameter'.blotted) (writes writes' : List Parameter) :
    ({ b with
      catalog := b.catalog.addParameter parameter, parameterWrites := writes } : Broker).blotted =
      ({ b' with
        catalog := b'.catalog.addParameter parameter', parameterWrites := writes' } :
        Broker).blotted := by
  refine withCatalog_congr h ?_
  rw [Catalog.blotted_addParameter, Catalog.blotted_addParameter, hp]
  exact congrArg (·.catalog.addParameter parameter'.blotted) h

end

/-! ## Edits of configurations -/

theorem configuration?_blotted (b : Broker) (holding : Holding) :
    b.blotted.configuration? holding = (b.configuration? holding).map Fields.blotted := by
  unfold configuration?
  split
  · exact Table.get?_mapValues (fun _ => Fields.blotted) b.hydrated _
  · simp only [blotted, Catalog.blotted, Table.get?_mapValues]
    cases b.catalog.actors.get? (holding.side, holding.actor) <;> rfl

theorem blotted_setConfiguration (b : Broker) (holding : Holding) (configuration : Fields) :
    (b.setConfiguration holding configuration).blotted =
      b.blotted.setConfiguration holding configuration.blotted := by
  unfold setConfiguration
  dsimp only
  split
  · simp only [blotted, Table.mapValues_insert]
  · simp only [blotted, Catalog.blotted, Table.get?_mapValues]
    cases b.catalog.actors.get? (holding.side, holding.actor) with
    | none => rfl
    | some actor =>
      simp only [Table.mapValues_insert, Option.map_some]
      rfl

theorem blotted_insertAll (fields edit : Fields) :
    Fields.blotted (Table.insertAll fields edit) = Table.insertAll fields.blotted edit.blotted :=
  Table.mapValues_insertAll _ fields edit

theorem blotted_editDeep (configuration edit : Fields) :
    (editDeep configuration edit).blotted = editDeep configuration.blotted edit.blotted := by
  unfold editDeep
  rw [blotted_insertAll]
  congr 1
  induction configuration with
  | nil => rfl
  | cons entry rest ih =>
    obtain ⟨key, value⟩ := entry
    refine List.cons_eq_cons.mpr ⟨?_, ih⟩
    cases value with
    | object entries =>
      simp only [Document.blotted_object]
      rw [blotted_insertAll]
    | _ => rfl

/-- What is done to the calls that share a configuration does not show once they are blotted. -/
theorem blotted_modifyInputs (calls : List Flow.Call) (loans : List Loan)
    (f : Loan → Document → Document) :
    (loans.foldl (fun calls loan => calls.modify loan.call (·.modifyInput loan.field (f loan)))
      calls).map Flow.Call.blotted = calls.map Flow.Call.blotted := by
  induction loans generalizing calls with
  | nil => rfl
  | cons loan rest ih =>
    rw [List.foldl_cons, ih]
    -- position by position: whatever becomes of the input of a call, a blotted call has none
    refine List.ext_getElem? fun place => ?_
    rw [List.getElem?_map, List.getElem?_map, List.getElem?_modify]
    cases calls[place]? with
    | none => rfl
    | some call =>
      simp only [Option.map_some]
      split <;> rfl

theorem blotted_afterConfigurationEdit (b : Broker) (holding : Holding) (edit : Fields) :
    (b.afterConfigurationEdit holding edit).blotted =
      b.blotted.afterConfigurationEdit holding edit.blotted := by
  unfold afterConfigurationEdit
  rw [configuration?_blotted]
  cases b.configuration? holding with
  | none => rfl
  | some configuration =>
    have hset := blotted_setConfiguration b holding (editDeep configuration edit)
    rw [blotted_editDeep] at hset
    dsimp only [Option.map_some]
    rw [← hset]
    have hcalls := blotted_modifyInputs b.calls (b.loans.filter (·.holding == holding))
      fun loan => editPart edit loan.part
    let after := (b.setConfiguration holding (editDeep configuration edit)).blotted
    exact congrArg (fun calls => { after with calls := calls, loans := [] }) hcalls

theorem blotted_afterActorEdit (b : Broker) (side : Side) (id : Identifier) (hydrated : Bool)
    (edit : Fields) :
    (b.afterActorEdit side id hydrated edit).blotted =
      b.blotted.afterActorEdit side id hydrated edit.blotted := by
  have hholding : b.blotted.holding side id hydrated = b.holding side id hydrated := by
    unfold holding
    simp only [blotted, Table.contains_mapValues]
  unfold afterActorEdit
  rw [hholding, blotted_afterConfigurationEdit]

theorem blotted_editParameter (edit : Fields) (parameter : Parameter) :
    (editParameter edit parameter).blotted = editParameter edit.blotted parameter.blotted := by
  unfold editParameter Parameter.blotted
  simp only [blotted_insertAll]

theorem afterParameterEdit_congr {b b' : Broker} (h : b.blotted = b'.blotted)
    {parameter parameter' : Parameter} (hp : parameter.blotted = parameter'.blotted)
    (written : Bool) {edit edit' : Fields} (hedit : edit.blotted = edit'.blotted) :
    (b.afterParameterEdit parameter written edit).blotted =
      (b'.afterParameterEdit parameter' written edit').blotted := by
  refine write_congr h ?_ _ _
  rw [blotted_editParameter, blotted_editParameter, hp, hedit]

end Broker

end AuthBroker
