import AuthBroker.Broker.Exchange

/-!
Instance-wide parameters: one record for each definition on a side, replaced on every change.
-/

namespace AuthBroker.Broker

open Connector Exchange

/-- The first half of a change: the parameter to write, which is the present one with the new
configuration, or a new one. -/
def draftParameter (side : Side) (request : ParameterRequest) : Action Parameter := do
  match ← parameter? side request.definition none with
  | some present => return { present with configuration := request.parameters }
  | none => return ⟨← mint, request.definition, side, none, request.parameters⟩

/-- The second half of a change: writes the parameter. -/
def commitParameter (parameter : Parameter) : Action Unit := do
  writeParameter parameter
  record [(logger.withDimensions [
    ("definition_id", parameter.definition.toDocument),
    ("actor_type", .text parameter.side.name)]).record .info
    ("Stored instance-wide OAuth parameters " ++ parameter.id.text)]

def setParameters (side : Side) (request : ParameterRequest) : Action Unit := do
  commitParameter (← draftParameter side request)

end AuthBroker.Broker
