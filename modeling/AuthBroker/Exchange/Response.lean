import AuthBroker.Connector
import AuthBroker.Document.Json

/-!
The normalized result of a provider's token exchange.

A provider answers with a table. Two reserved keys carry the status; everything else is payload
and keeps its order. The exchange counts as succeeded when the status is absent or its text is
exactly `true`, where truth values have their JSON text.
-/

namespace AuthBroker.Exchange

structure Response where
  succeeded : Bool
  error : Option String
  payload : Fields
  deriving Repr, BEq

namespace Response

def succeededKey : String := "request_succeeded"

def errorKey : String := "request_error"

/-- Whether a reported status means success. -/
def isSuccess : Document → Bool
  | .bool b => b
  | d => d.display == "true"

/-- Normalizes a provider's answer. -/
def ofAnswer (answer : Fields) : Response where
  succeeded := (answer.get? succeededKey).elim true isSuccess
  error :=
    match answer.get? errorKey with
    | none | some .null => none
    | some d => some d.display
  payload := answer.filter fun entry => entry.1 != succeededKey && entry.1 != errorKey

def check : Document → Check Response :=
  Read.record fun fields =>
    Response.mk
      <$> fields.withDefault succeededKey true Read.bool
      <*> fields.optional errorKey Read.text
      <*> fields.withDefault "auth_payload" [] Read.table

def toDocument (response : Response) : Document :=
  .object [
    (succeededKey, .bool response.succeeded),
    (errorKey, .ofText? response.error),
    ("auth_payload", .object response.payload)]

/-- The levels that the text of a response may have: the response, its payload and two hundred and
fifty-five below the payload. -/
def maxLevels : Nat := 257

def json (response : Response) : Except Document.Unprintable String :=
  (response.toDocument.json maxLevels).map String.ofList

end Response

end AuthBroker.Exchange
