import AuthBroker.Journal.Basic

/-!
The options of a logging call.

A call may bring extra fields, and dimensions among them, to which the logger adds its own. The
extra fields are a table, or a sequence of pairs from which a table is built; dimensions have to
be a table. A call at no level records nothing, whatever its options are. One key is reserved: no
logger is derived by it.
-/

namespace AuthBroker

inductive OptionDefect where
  | notTable
  | notPair (position length : Nat)
  | reservedKey
  deriving DecidableEq, Repr

def OptionDefect.message : OptionDefect → String
  | .notTable => "extra fields and dimensions must be tables"
  | .notPair position length =>
    "dictionary update sequence element #" ++ toString position ++ " has length " ++
      toString length ++ "; 2 is required"
  | .reservedKey => "a dimension has the reserved key"

/-- Whether an option counts as not given. -/
def Document.isBlank : Document → Bool
  | .null => true
  | .bool b => !b
  | .int n => n == 0
  | .float x => x.toInt? == some 0
  | .text s => s.isEmpty
  | .list items | .tuple items | .set items => items.isEmpty
  | .object entries => entries.isEmpty
  | .foreign _ => false

/-- The elements of a sequence: the items of a list, tuple or set, the characters of a text, the keys
of a table. -/
def Document.elements? : Document → Option (List Document)
  | .list items | .tuple items | .set items => some items
  | .text s => some (s.toList.map fun c => .text c.toString)
  | .object entries => some (entries.map fun entry => .text entry.1)
  | _ => none

mutual

/-- Whether a document can be a key. Lists, sets and tables cannot, nor can a tuple that holds one. -/
def Document.isKey : Document → Bool
  | .list _ | .set _ | .object _ => false
  | .tuple items => Document.areKeys items
  | _ => true

def Document.areKeys : List Document → Bool
  | [] => true
  | item :: rest => item.isKey && Document.areKeys rest

end

/-- The name that a document stands for as a key. -/
def Document.keyName? (d : Document) : Option String :=
  if d.isKey then some d.display else none

/-- The entry that an element of a sequence stands for. -/
def entryOf (position : Nat) (element : Document) : Except OptionDefect (String × Document) :=
  match element.elements? with
  | none => .error .notTable
  | some [key, value] =>
    match key.keyName? with
    | some name => .ok (name, value)
    | none => .error .notTable
  | some parts => .error (.notPair position parts.length)

/-- The table of a sequence of pairs, counted from a position on. A later pair replaces the value
of an earlier one. -/
def tableOf (position : Nat) : List Document → Except OptionDefect Fields
  | [] => .ok []
  | element :: rest => do
    let (key, value) ← entryOf position element
    let others ← tableOf (position + 1) rest
    return Table.insertAll [(key, value)] others

/-- The extra fields of a call's options; none when they are not given. -/
def extraFields (options : Fields) : Except OptionDefect Fields :=
  match options.get? "extra" with
  | none => .ok []
  | some (.object entries) => .ok entries
  | some d => if d.isBlank then .ok [] else d.elements?.elim (.error .notTable) (tableOf 0)

def dimensionsKey : String := "dimensions"

namespace Logger

/-- The logger's dimensions with those of a call, when they are a table or absent. -/
def mergeDimensions (logger : Logger) (own : Option Document) : Except OptionDefect Fields :=
  match own with
  | none => .ok logger.dimensions
  | some (.object entries) => .ok (logger.dimensions.insertAll entries)
  | some _ => .error .notTable

/-- The key that no further dimension may have. -/
def reservedKey : String := "self"

/-- The logger with further dimensions, when they are a table without the reserved key. -/
def derive (logger : Logger) (further : Document) : Except OptionDefect Logger :=
  match further with
  | .object entries =>
    if Table.contains entries reservedKey then .error .reservedKey
    else .ok (logger.withDimensions entries)
  | _ => .error .notTable

/-- The options of a call with the logger's dimensions merged into their extra fields. -/
def mergeOptions (logger : Logger) (options : Fields) : Except OptionDefect Fields := do
  let extra ← extraFields options
  let merged ← logger.mergeDimensions (extra.get? dimensionsKey)
  let others := extra.filter fun entry => entry.1 != dimensionsKey
  return options.insert "extra" (.object (others ++ [(dimensionsKey, .object merged)]))

/-- The records of a call at a level with dimensions of its own. -/
def call (logger : Logger) (level : Option Level) (message : String) (own : Option Document) :
    Except OptionDefect (List LogRecord) :=
  match level with
  | none => .ok []
  | some level => (logger.mergeDimensions own).map fun merged =>
    [⟨level, logger.label ++ message, some merged⟩]

/-- The last logger that comes of configuring one a number of times with the same dimensions; none
when it is never configured. -/
def configured? (times : Int) (dimensions : Fields) : Option Logger :=
  if 0 < times then some ⟨"", dimensions⟩ else none

end Logger

end AuthBroker
