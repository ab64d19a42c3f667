import AuthBroker.Secret.Store
import AuthBroker.Text.Integer
import AuthBroker.Text.Points

/-!
Requests to a store, as any caller may make them.

An address is a coordinate as a caller gives it. Its base, like a payload, may hold surrogates. Its
version may have more digits than an integer is shown with, and it may be a truth value, which counts as
one or zero but is written as a word. A ledger takes all of these, and writes an address down only to say
that nothing is found under it. A vault encodes every payload and writes every address down.
-/

namespace AuthBroker.Secret

open Text (Points)

/-! ## Addresses -/

inductive Version where
  | number (n : Int)
  | flag (value : Bool)
  deriving DecidableEq, Repr

namespace Version

/-- The integer that a version counts as. -/
def value : Version → Int
  | .number n => n
  | .flag true => 1
  | .flag false => 0

def text : Version → List Char
  | .number n => Document.intText n
  | .flag value => (Document.bool value).displayNested

/-- Whether a version can be written down: integers have a limit, and words are short. -/
def isShort : Version → Bool
  | .number n => n.natAbs < Nat.pow 10 Text.digitLimit
  | .flag _ => true

end Version

/-- Where a caller wants a payload to be stored or read. -/
structure Address where
  base : Points
  version : Version
  deriving DecidableEq, Repr

namespace Address

def same (address other : Address) : Bool :=
  address.base == other.base && address.version.value == other.version.value

instance (priority := high) : BEq Address := ⟨same⟩

def text (address : Address) : Points :=
  (address.base ++ [.character '_', .character 'v']) ++ address.version.text.map .character

end Address

/-! ## Requests and replies -/

inductive Request where
  | store (address : Address) (payload : Points)
  | read (address : Address)
  deriving DecidableEq, Repr

inductive Reply where
  | stored (address : Address)
  | payload (payload : Points)
  deriving DecidableEq, Repr

inductive Refusal where
  | notFound (written : Points)
  | versionTooLong
  | unencodable (torn : Text.Torn)
  | failed (failure : Failure)
  deriving DecidableEq, Repr

def Refusal.message : Refusal → Points
  | .notFound written => .ofString "Secret not found: " ++ written
  | .versionTooLong =>
    .ofString ("Exceeds the limit (" ++ toString Text.digitLimit ++
      " digits) for integer string conversion; use sys.set_int_max_str_digits() to increase the limit")
  | .unencodable torn => .ofString torn.message
  | .failed failure => .ofString failure.text

def Address.written (address : Address) : Except Refusal Points :=
  if address.version.isShort then .ok address.text else .error .versionTooLong

/-- How stores of a kind take a payload, and find one. -/
structure Kind (σ : Type) where
  put : σ → Address → Points → Except Refusal σ
  find : σ → Address → Except Refusal (Option Points)

namespace Kind

variable {σ : Type} (kind : Kind σ)

/-- Reads a payload; that there is none is said with the written address. -/
def read (s : σ) (address : Address) : Except Refusal Points := do
  match ← kind.find s address with
  | some payload => return payload
  | none => .error (.notFound (← address.written))

def serve (s : σ) : Request → Except Refusal Reply × σ
  | .store address payload =>
    match kind.put s address payload with
    | .ok after => (.ok (.stored address), after)
    | .error refusal => (.error refusal, s)
  | .read address => ((kind.read s address).map .payload, s)

/-- What a store replies to requests, one after the other. -/
def replies (s : σ) : List Request → List (Except Refusal Reply)
  | [] => []
  | request :: rest => (kind.serve s request).1 :: replies (kind.serve s request).2 rest

/-- Stores that keep encoded payloads by written address. -/
def sealing (keep : σ → Points → String → σ) (find? : σ → Points → Option String) : Kind σ where
  put s address payload := do
    -- a payload that cannot be encoded is refused before the address is looked at
    let text ← payload.encode.mapError .unencodable
    return keep s (← address.written) text
  find s address := do return (find? s (← address.written)).map .ofString

end Kind

def Ledger.kind : Kind (Ledger Address Points) where
  put ledger address payload := (ledger.put address payload).mapError .failed
  find ledger address := .ok (ledger.get? address)

def Vault.kind : Kind (Vault Points) :=
  .sealing Vault.sealAs Vault.unsealAs?

end AuthBroker.Secret
