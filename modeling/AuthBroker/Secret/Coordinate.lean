import AuthBroker.Connector
import AuthBroker.Document.Display

/-!
Coordinates of stored secrets.

A coordinate is a base and a version, written `<base>_v<version>`. The coordinates that the
broker mints name the workspace and a fresh identifier, and their version is always one. A version with
more digits than an integer may be shown with is met only by callers who ask a store directly.
-/

namespace AuthBroker.Secret

/-- The name under which a secret is stored. -/
structure Coordinate where
  base : String
  version : Int
  deriving DecidableEq, Repr

namespace Coordinate

/-- The written form of a coordinate. -/
def full (coordinate : Coordinate) : String :=
  coordinate.base ++ "_v" ++ String.ofList (Document.intText coordinate.version)

def firstVersion : Int := 1

/-- The coordinate of a new secret of a workspace. The label stands in front. -/
def mint (label : String) (workspace secret : Identifier) : Coordinate :=
  ⟨label ++ workspace.text ++ "_secret_" ++ secret.text, firstVersion⟩

def toDocument (coordinate : Coordinate) : Document :=
  .object [
    ("coordinate_base", .text coordinate.base),
    ("version", .int coordinate.version),
    ("full_coordinate", .text coordinate.full)]

end Coordinate

end AuthBroker.Secret
