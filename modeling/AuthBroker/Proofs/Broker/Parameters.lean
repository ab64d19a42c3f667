import AuthBroker.Broker.Parameters
import AuthBroker.Proofs.Catalog.Parameters

/-! # Changes of instance-wide parameters

A change drafts the parameter to write from what it reads, and writes it. So the draft is found
afterwards, in the place of the parameter that was found before or at the end, and nothing else in the
store is touched (`setParameters_replaces`). -/

namespace AuthBroker.Broker

open Connector Exchange

/-- The scope that a change for a definition is about. -/
def instanceWide (side : Side) (definition : Identifier) : Scope :=
  ⟨side, definition, none⟩

/-- The draft of a change. -/
def draftFor (b : Broker) (side : Side) (request : ParameterRequest) : Parameter :=
  b.catalog.drafted (instanceWide side request.definition) request.parameters
    (.minted (b.minted + 1))

/-- The broker after it made a draft: a new one used up an identifier. -/
def afterDraft (b : Broker) (side : Side) (definition : Identifier) : Broker :=
  { b with minted := b.minted +
      (b.catalog.parametersFor (instanceWide side definition)).head?.elim 1 fun _ => 0 }

/-- The broker after it wrote a parameter. -/
def afterCommit (b : Broker) (p : Parameter) : Broker :=
  { b with
    catalog := b.catalog.addParameter p
    parameterWrites := b.parameterWrites ++ [p]
    journal := b.journal ++ [(logger.withDimensions [
      ("definition_id", p.definition.toDocument), ("actor_type", .text p.side.name)]).record .info
        ("Stored instance-wide OAuth parameters " ++ p.id.text)] }

section
variable {b : Broker} {side : Side} {request : ParameterRequest}

theorem draftFor_of_nil (h : b.catalog.parametersFor (instanceWide side request.definition) = []) :
    b.draftFor side request =
      ⟨.minted (b.minted + 1), request.definition, side, none, request.parameters⟩ := by
  rw [draftFor, Catalog.drafted, h]
  rfl

theorem afterDraft_of_nil {definition : Identifier}
    (h : b.catalog.parametersFor (instanceWide side definition) = []) :
    b.afterDraft side definition = { b with minted := b.minted + 1 } := by
  rw [afterDraft, h]
  rfl

end

/-! ## The two halves of a change -/

theorem runIn_draftParameter (b : Broker) (side : Side) (request : ParameterRequest) :
    (draftParameter side request).runIn b =
      (.ok (b.draftFor side request), b.afterDraft side request.definition) := by
  have hread : (parameter? side request.definition none).runIn b =
      (.ok (b.catalog.parametersFor (instanceWide side request.definition)).head?, b) := by
    rw [instanceWide, ← Catalog.parameter?_eq_head?]
    rfl
  rw [draftParameter, Action.runIn_bind, hread, draftFor, Catalog.drafted, afterDraft]
  cases (b.catalog.parametersFor (instanceWide side request.definition)).head? with
  | none => rfl
  | some first => rfl

theorem runIn_commitParameter (b : Broker) (p : Parameter) :
    (commitParameter p).runIn b = (.ok (), b.afterCommit p) := by
  rw [commitParameter, Action.runIn_bind, writeParameter, Action.runIn_modify, record]
  rfl

theorem runIn_setParameters (b : Broker) (side : Side) (request : ParameterRequest) :
    (setParameters side request).runIn b =
      (.ok (), (b.afterDraft side request.definition).afterCommit (b.draftFor side request)) := by
  rw [setParameters, Action.runIn_bind, runIn_draftParameter]
  exact runIn_commitParameter _ _

/-- What a change makes of the catalog. -/
theorem catalog_setParameters (b : Broker) (side : Side) (request : ParameterRequest) :
    ((setParameters side request).runIn b).2.catalog =
      b.catalog.changed (instanceWide side request.definition) request.parameters
        (.minted (b.minted + 1)) := by
  rw [runIn_setParameters]
  rfl

/-! ## Changes in a row -/

def changeAll (b : Broker) (changes : List (Side × ParameterRequest)) : Broker :=
  changes.foldl (fun b change => ((setParameters change.1 change.2).runIn b).2) b

theorem filed_setParameters {b : Broker} (h : b.catalog.Filed) (side : Side)
    (request : ParameterRequest) : ((setParameters side request).runIn b).2.catalog.Filed := by
  rw [catalog_setParameters]
  exact h.addParameter _

/-- Changes in a row leave no scope with two parameters, if there was none. -/
theorem length_changeAll_le {b : Broker} (h : b.catalog.Filed)
    (hone : ∀ scope, (b.catalog.parametersFor scope).length ≤ 1)
    (changes : List (Side × ParameterRequest)) (scope : Scope) :
    ((b.changeAll changes).catalog.parametersFor scope).length ≤ 1 := by
  induction changes generalizing b with
  | nil => exact hone scope
  | cons change rest ih =>
    refine ih (filed_setParameters h change.1 change.2) fun scope => ?_
    rw [catalog_setParameters]
    exact h.length_parametersFor_changed_le _ _ _ hone scope

/-- After a change, whatever was stored before and however often: the parameter that is found has the
configuration that was asked for, and the identifier of the one that was found before, or a minted one.
The store has one more entry if none was found and else as many, the entries under other identifiers
keep their places, and every other scope finds what it found. So changes in a row leave no scope with
two parameters, if there was none. -/
theorem setParameters_replaces (b : Broker) (told : List Population) (side : Side)
    (request : ParameterRequest) (hcatalog : b.catalog = Catalog.populated told)
    (hfresh : .minted (b.minted + 1) ∉ b.catalog.parameters.keys) :
    (∃ after p, (setParameters side request).runIn b = (.ok (), after) ∧
      after.catalog.parameter? side request.definition none = some p ∧
      p.configuration = request.parameters ∧
      p.id = (b.catalog.parameter? side request.definition none).elim
        (.minted (b.minted + 1)) (·.id) ∧
      after.catalog.parameters.length = b.catalog.parameters.length +
        (b.catalog.parameter? side request.definition none).elim 1 (fun _ => 0) ∧
      (∀ id held (place : Nat), id ≠ p.id → (after.catalog.parameters[place]? = some (id, held) ↔
        b.catalog.parameters[place]? = some (id, held))) ∧
      ∀ (otherSide : Side) (definition : Identifier) (workspace : Option Identifier),
        (otherSide, definition, workspace) ≠ (side, request.definition, none) →
        after.catalog.parameter? otherSide definition workspace =
          b.catalog.parameter? otherSide definition workspace) ∧
    ((∀ scope, (b.catalog.parametersFor scope).length ≤ 1) →
      ∀ changes scope, ((b.changeAll changes).catalog.parametersFor scope).length ≤ 1) := by
  have hfiled : b.catalog.Filed := by
    rw [hcatalog]
    exact Catalog.populated_filed told
  refine ⟨?_, length_changeAll_le hfiled⟩
  refine ⟨((setParameters side request).runIn b).2, b.draftFor side request, ?_, ?_, ?_, ?_, ?_, ?_, ?_⟩
  · rw [runIn_setParameters]
  · rw [Catalog.parameter?_eq_head?, catalog_setParameters]
    exact hfiled.head?_changed _ _ _
  · exact Catalog.configuration_drafted _ _ _
  · rw [Catalog.parameter?_eq_head?]
    exact Catalog.id_drafted _ _ _
  · rw [Catalog.parameter?_eq_head?, catalog_setParameters]
    exact hfiled.length_changed _ _ _ hfresh
  · intro id held place hid
    rw [catalog_setParameters]
    exact Table.getElem?_insert_of_ne _ _ _ hid place
  · intro otherSide definition workspace hne
    have hscope : (⟨otherSide, definition, workspace⟩ : Scope) ≠
        instanceWide side request.definition := by
      intro h
      cases h
      exact hne rfl
    rw [Catalog.parameter?_eq_head?, Catalog.parameter?_eq_head?, catalog_setParameters,
      hfiled.parametersFor_changed_of_ne _ _ _ hfresh hscope]

/-- Two instance-wide parameters of one source definition, after one for a workspace. -/
def crowdedPopulation : List Population := [
  .parameter ⟨.minted 21, .minted 1, .source, some (.minted 4), []⟩,
  .parameter ⟨.minted 22, .minted 1, .source, none, []⟩,
  .parameter ⟨.minted 23, .minted 1, .source, none, []⟩]

def crowdedBroker : Broker :=
  { ofParts .memory .empty (.recording .empty) (.clear .empty) "" with
    catalog := Catalog.populated crowdedPopulation }

/-- The first of the two is replaced, and the store does not grow. -/
theorem setParameters_replaces_crowded :
    crowdedBroker.catalog = Catalog.populated crowdedPopulation ∧
    .minted (crowdedBroker.minted + 1) ∉ crowdedBroker.catalog.parameters.keys ∧
    ∃ after p, (setParameters .source ⟨.minted 1, [("client_id", .text "new")]⟩).runIn crowdedBroker =
        (.ok (), after) ∧
      after.catalog.parameter? .source (.minted 1) none = some p ∧
      p.configuration = [("client_id", .text "new")] ∧ p.id = .minted 22 ∧
      after.catalog.parameters.length = 3 := by
  have hfresh : .minted (crowdedBroker.minted + 1) ∉ crowdedBroker.catalog.parameters.keys := by decide
  obtain ⟨⟨after, p, hrun, hfound, hconfiguration, hid, hlength, -, -⟩, -⟩ :=
    setParameters_replaces crowdedBroker crowdedPopulation .source
      ⟨.minted 1, [("client_id", .text "new")]⟩ rfl hfresh
  exact ⟨rfl, hfresh, after, p, hrun, hfound, hconfiguration, hid, hlength⟩

end AuthBroker.Broker
