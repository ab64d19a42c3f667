/-!
Failures that a collaborator of the broker reports: a kind and a text.

Failures whose text cannot be formed, because forming it fails in turn, are left out. The broker forms
the text of a failure of the usage sink while it records it, so such a failure would reach the caller.
-/

namespace AuthBroker

inductive Failure.Kind where
  | runtime
  | value
  | connection
  | timeout
  | service
  | notFound
  | configuration
  deriving DecidableEq, Repr

structure Failure where
  kind : Failure.Kind
  text : String
  deriving DecidableEq, Repr

namespace Failure

/-- The text of a failure that was given none. -/
def Kind.defaultText : Kind → String
  | .notFound => "Object not found"
  | .configuration => "Invalid configuration"
  | _ => ""

/-- A failure of a kind, with its default text when none is given. -/
def ofKind (kind : Kind) (text : Option String) : Failure :=
  ⟨kind, text.getD kind.defaultText⟩

end Failure

end AuthBroker
