import AuthBroker.Journal.Basic
import AuthBroker.Fault

/-!
The registry of provider flows.

A provider is registered once and keeps its place. Building a registry from a table registers
its entries in order and stops at the first provider that is taken.
-/

namespace AuthBroker.Flow

/-- Flows by provider, in order of registration. -/
structure Registry (φ : Type) where
  flows : Table String φ
  deriving Repr

namespace Registry

variable {φ : Type}

def empty : Registry φ := ⟨[]⟩

def logger : Logger :=
  (Logger.root.withLabel "OAuthFlowRegistry: ").withDimensions
    [("component", .text "oauth_flow_registry")]

def get (registry : Registry φ) (provider : String) : Except Fault φ :=
  match registry.flows.get? provider with
  | some flow => .ok flow
  | none => .error (.providerNotSupported provider)

def providers (registry : Registry φ) : List String :=
  registry.flows.keys

def register (registry : Registry φ) (provider : String) (flow : φ) : Except Fault (Registry φ) :=
  if registry.flows.contains provider then .error (.providerTaken provider)
  else .ok ⟨registry.flows ++ [(provider, flow)]⟩

theorem register_of_contains {registry : Registry φ} {provider : String}
    (h : registry.flows.contains provider = true) (flow : φ) :
    registry.register provider flow = .error (.providerTaken provider) :=
  if_pos h

theorem register_of_not_contains {registry : Registry φ} {provider : String}
    (h : registry.flows.contains provider = false) (flow : φ) :
    registry.register provider flow = .ok ⟨registry.flows ++ [(provider, flow)]⟩ :=
  if_neg (Bool.eq_false_iff.mp h)

/-- Registers the flows of a table in order, up to the first whose provider is taken. -/
def registerAll (registry : Registry φ) : Table String φ → Registry φ × Except Fault Unit
  | [] => (registry, .ok ())
  | (provider, flow) :: rest =>
    match registry.register provider flow with
    | .ok after => after.registerAll rest
    | .error fault => (registry, .error fault)

def built (registry : Registry φ) : LogRecord :=
  logger.record .info
    ("Built registry with " ++ toString registry.flows.length ++ " OAuth flows.")

def update (registry : Registry φ) (provider : String) (flow : φ) : Registry φ :=
  ⟨registry.flows.insert provider flow⟩

end Registry

end AuthBroker.Flow
