import AuthBroker.Input.Reconcile

/-!
Which input fields are tables of the stored configuration.

A masked field gets a stored value. That value may be the whole configuration or the table under
one of its keys, and a keeper that shares its tables hands it out as it stands. Values
further down are not told apart here, because nobody writes into them.
-/

namespace AuthBroker.Input

/-- A table of a configuration: the configuration itself, or the table under a key. -/
inductive Part where
  | whole
  | entry (key : String)
  deriving DecidableEq, Repr

namespace Part

/-- The part that a path of at most one step addresses, when it addresses exactly one. -/
def ofPath? : Path → Fields → Option Part
  | [], _ => some .whole
  | [.key name], _ => some (.entry name)
  | [.wildcard], [(key, _)] => some (.entry key)
  | _, _ => none

def entries? (part : Part) (configuration : Fields) : Option Fields :=
  match part with
  | .whole => some configuration
  | .entry key => (configuration.get? key).bind (·.entries?)

end Part

/-- The masked fields of the input that get a table of the stored configuration as it stands. -/
def parts (spec : Connector.OAuthSpecification) (configuration : Fields)
    (input : Option Fields) : Table String Part :=
  let paths := expressions ((declared (.ofFields? spec.userInput)).toOption.getD [])
  (input.getD []).filterMap fun (field, value) => do
    let expression ← if isMask value then paths.get? field else none
    let path ← (Path.parse expression).toOption
    let part ← Part.ofPath? path configuration
    return (field, ← (part.entries? configuration).map fun _ => part)

/-- What is found along a path that addresses a part is that part. -/
theorem Part.single?_of_ofPath? {path : Path} {configuration entries : Fields} {part : Part}
    (hpart : ofPath? path configuration = some part)
    (hentries : part.entries? configuration = some entries) :
    path.single? (.object configuration) = some (.object entries) := by
  unfold ofPath? at hpart
  split at hpart <;> cases hpart
  · cases hentries
    rfl
  · simp only [entries?, Option.bind_eq_some_iff] at hentries
    obtain ⟨d, hget, hd⟩ := hentries
    cases d <;> cases hd
    simp [Path.single?, Path.query, Segment.select, hget]
  · simp only [entries?, Option.bind_eq_some_iff] at hentries
    obtain ⟨d, hget, hd⟩ := hentries
    cases d <;> cases hd
    simp only [Table.get?, List.lookup_cons, beq_self_eq_true] at hget
    cases hget
    rfl

end AuthBroker.Input
