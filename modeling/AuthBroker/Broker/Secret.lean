import AuthBroker.Broker.Exchange
import AuthBroker.Secret.Payload

/-!
Storing exchange results as secrets.

A result is stored as one text under a fresh coordinate, and the caller gets the coordinate in
its place. The coordinate is minted only after the text was made, so a result that cannot be
written uses up no identifier. The identifiers come from a supply; the broker's own are numbered.
-/

namespace AuthBroker.Broker

open Exchange

def secretLogger : Logger :=
  (Logger.root.withLabel "OAuth secrets: ").withDimensions
    [("component", .text "oauth_secret_writer")]

def secretKey : String := "secretId"

/-- The text to store for a response, found with the room that there is. -/
def secretText (response : Response) : Action String := do
  ofExcept ((Secret.payloadText (← get).searchRoom response).mapError .unwritable)

theorem runIn_secretText (response : Response) (b : Broker) :
    (secretText response).runIn b =
      ((Secret.payloadText b.searchRoom response).mapError .unwritable, b) := by
  rw [secretText, Action.runIn_bind, Action.runIn_get]
  exact runIn_ofExcept _ b

/-- The first half of a write: the text of a response, and a new coordinate for it. -/
def prepareSecret (supply : Nat → Identifier) (workspace : Identifier) (response : Response) :
    Action (Secret.Coordinate × String) := do
  -- the text comes first: a result that has none uses up no identifier
  let text ← secretText response
  let id ← draw supply
  return (.mint (← get).secretLabel workspace id, text)

def storedRecord (workspace : Identifier) (coordinate : Secret.Coordinate) : LogRecord :=
  (secretLogger.withDimensions [("workspace_id", workspace.toDocument)]).record .info
    ("Stored OAuth response as secret " ++ coordinate.full)

/-- The second half of a write: stores the text and answers its coordinate. -/
def commitSecret (workspace : Identifier) (coordinate : Secret.Coordinate) (text : String) :
    Action Response := do
  storeSecret coordinate text
  record [storedRecord workspace coordinate]
  return .ofAnswer [(secretKey, .text coordinate.full)]

/-- Stores a response as a secret of a workspace, under an identifier of a supply, and answers its
coordinate. -/
def writeSecretFrom (supply : Nat → Identifier) (workspace : Identifier) (response : Response) :
    Action Response := do
  let (coordinate, text) ← prepareSecret supply workspace response
  commitSecret workspace coordinate text

/-- Stores a response as a secret of a workspace and answers its coordinate. -/
def writeSecret (workspace : Identifier) (response : Response) : Action Response :=
  writeSecretFrom .minted workspace response

/-- Finishes the flow of a source; asked for a secret, stores the result and answers where. -/
def completeAsAsked (request : CompletionRequest) : Action Response := do
  let response ← complete .source request
  if request.asSecret then writeSecret request.workspace response
  else return response

end AuthBroker.Broker
