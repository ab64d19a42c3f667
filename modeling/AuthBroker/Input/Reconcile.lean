import AuthBroker.Connector
import AuthBroker.Input.Declared
import AuthBroker.Journal.Basic
import AuthBroker.Path.Query

/-!
Filling masked input from the stored configuration.

A client that authenticates an existing actor again knows only the mask of the secrets it was
shown. Each masked value at the top of its input is replaced by the value that is stored at the
place the connector declares for that field. Fields for which nothing usable is stored are left
out, with a warning that names them.
-/

namespace AuthBroker.Input

/-- The text that stands in for a secret. -/
def mask : String := "**********"

def isMask : Document → Bool
  | .text s => s == mask
  | _ => false

inductive Warning where
  | noConfiguration (field : String)
  | invalidPath (field : String) (refusal : Path.Invalid)
  | notSingle (field : String)
  | notStored (field : String)
  | storedMask (field : String)
  deriving DecidableEq, Repr

def Warning.message : Warning → String
  | .noConfiguration field => "Missing the key " ++ field ++ ": no stored configuration"
  | .invalidPath field refusal =>
    "Missing the key " ++ field ++ " from the stored configuration: " ++ refusal.message
  | .notSingle field => "Missing the key " ++ field ++ " from the stored configuration"
  | .notStored field => "Missing the key " ++ field ++ " in the stored configuration"
  | .storedMask field => "Stored value of the key " ++ field ++ " is masked"

/-- What became of a field: its value, or a warning. -/
abbrev Finding := Except Warning Document

def found (findings : Table String Finding) : Fields :=
  findings.filterMap fun (field, finding) =>
    match finding with
    | .ok value => some (field, value)
    | .error _ => none

def warnings (findings : Table String Finding) : List Warning :=
  findings.filterMap fun (_, finding) =>
    match finding with
    | .ok _ => none
    | .error warning => some warning

/-- Looks a field up in the stored configuration by its expression. A null configuration means
that none is stored. -/
def resolveField (configuration : Document) (field expression : String) : Finding :=
  if configuration.isNull then .error (.noConfiguration field)
  else
    match configuration.lookup expression with
    | .error refusal => .error (.invalidPath field refusal)
    | .ok none => .error (.notSingle field)
    | .ok (some value) => .ok value

def resolve (configuration : Document) (paths : Table String String) :
    Fields × List Warning :=
  let findings := paths.map fun (field, expression) =>
    (field, resolveField configuration field expression)
  (found findings, warnings findings)

/-- The value of an input field: its own, or the stored one in place of the mask. -/
def mergeField (stored : Fields) (field : String) (value : Document) : Finding :=
  if isMask value then
    match stored.get? field with
    | none => .error (.notStored field)
    | some d => if isMask d then .error (.storedMask field) else .ok d
  else .ok value

/-- Replaces every masked field at the top of the input by its stored value. -/
def merge (stored : Fields) (input : Option Fields) : Fields × List Warning :=
  let findings := (input.getD []).map fun (field, value) => (field, mergeField stored field value)
  (found findings, warnings findings)

/-- The input to send to a provider for an existing actor, and the warnings on the way. -/
def reconcile (spec : Connector.OAuthSpecification) (configuration : Document)
    (input : Option Fields) : Except SchemaDefect (Fields × List Warning) :=
  (declared (.ofFields? spec.userInput)).map fun declarations =>
    let (stored, missing) := resolve configuration (expressions declarations)
    let (result, masked) := merge stored input
    (result, missing ++ masked)

/-- The logger for input that is reconciled outside of a request. -/
def logger : Logger :=
  (Logger.root.withLabel "OAuth: ").withDimensions [("component", .text "oauth_reconciler")]

def records (logger : Logger) (warnings : List Warning) : List LogRecord :=
  warnings.map fun warning => logger.record .warning warning.message

end AuthBroker.Input
