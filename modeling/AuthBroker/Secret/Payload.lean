import AuthBroker.Exchange.Response

/-!
The text under which an exchange result is stored.

Numbers that are not finite would be lost in JSON, so a payload that holds any is refused,
with the places of all of them. The search for them goes through tables, lists and tuples, one level
after the other, and there has to be room for as many levels; what is in a set is not looked at. A
payload with a foreign value, or one nested too deep, has no text at all.
-/

namespace AuthBroker

mutual

/-- The levels that a search through a document goes down, the document itself included. -/
def Document.searchLevels : Document → Nat
  | .list items | .tuple items => searchLevelsItems items + 1
  | .object entries => searchLevelsEntries entries + 1
  | .null | .bool _ | .int _ | .float _ | .text _ | .set _ | .foreign _ => 1

def Document.searchLevelsItems : List Document → Nat
  | [] => 0
  | item :: rest => max item.searchLevels (searchLevelsItems rest)

def Document.searchLevelsEntries : List (String × Document) → Nat
  | [] => 0
  | (_, value) :: rest => max value.searchLevels (searchLevelsEntries rest)

end

namespace Secret

mutual

/-- The places of the numbers in a document that are not finite, in order. The document itself
stands at `place`. -/
def nonFinite (place : String) : Document → List String
  | .float x => if x.isFinite then [] else [place]
  | .list items | .tuple items => nonFiniteItems place 0 items
  | .object entries => nonFiniteEntries place entries
  | .null | .bool _ | .int _ | .text _ | .set _ | .foreign _ => []

/-- The places in the items of a list from a position on. -/
def nonFiniteItems (place : String) : Nat → List Document → List String
  | _, [] => []
  | position, item :: rest =>
    nonFinite (place ++ "[" ++ toString position ++ "]") item ++
      nonFiniteItems place (position + 1) rest

def nonFiniteEntries (place : String) : List (String × Document) → List String
  | [] => []
  | (key, value) :: rest => nonFinite (place ++ "." ++ key) value ++ nonFiniteEntries place rest

end

/-- The places of the numbers in a payload that are not finite, from its root `$`. -/
def nonFinitePlaces (payload : Fields) : List String :=
  nonFinite "$" (.object payload)

/-- Why a response is not stored as a text. -/
inductive Unwritable where
  | exhausted
  | nonFinite (places : List String)
  | unprintable (reason : Document.Unprintable)
  deriving DecidableEq, Repr

/-- The wording of each cause. That a value is foreign is said with its class, and all are taken to be of
one. -/
def Unwritable.message : Unwritable → String
  | .exhausted => "maximum recursion depth exceeded in comparison"
  | .nonFinite places => refusal ("non-finite numbers at " ++ ", ".intercalate places)
  | .unprintable .foreign => refusal "Unable to serialize unknown type: <class 'object'>"
  | .unprintable .tooDeep =>
    refusal "Error serializing to JSON: ValueError: Maximum serialization depth exceeded"
where
  refusal (reason : String) : String := "OAuth response could not be serialized: " ++ reason

/-- Looks for numbers in a payload that are not finite. There is room for so many levels. -/
def search (room : Nat) (payload : Fields) : Except Unwritable (List String) :=
  if (Document.object payload).searchLevels ≤ room then .ok (nonFinitePlaces payload)
  else .error .exhausted

/-- The text to store for an exchange result. -/
def payloadText (room : Nat) (response : Exchange.Response) : Except Unwritable String :=
  match search room response.payload with
  | .error cause => .error cause
  | .ok [] => response.json.mapError .unprintable
  | .ok places => .error (.nonFinite places)

end Secret

end AuthBroker
