import AuthBroker.Document.Basic
import AuthBroker.Identifier

/-!
Reading typed records from documents.

A record is read field by field in its declared order. Fields that are not declared are
ignored. Every field that cannot be read is reported, with the kind of the problem and its
place in the document, so a refused record lists all of its problems in order.
-/

namespace AuthBroker

/-- What is wrong with a part of a document. -/
inductive Problem.Kind where
  | missing
  | notText
  | notBool
  | unreadableBool
  | notIdentifier
  | unreadableIdentifier
  | notTable
  | notRecord
  | notList
  | notMember
  deriving DecidableEq, Repr

/-- A step on the way to a part of a document. -/
inductive Problem.Place where
  | field (name : String)
  | item (position : Nat)
  deriving DecidableEq, Repr

structure Problem where
  kind : Problem.Kind
  place : List Problem.Place
  deriving DecidableEq, Repr

/-- The outcome of reading: a value, or all problems in order. -/
inductive Check (α : Type) where
  | valid (value : α)
  | invalid (problems : List Problem)
  deriving Repr

namespace Check

variable {α β : Type}

def map (f : α → β) : Check α → Check β
  | .valid a => .valid (f a)
  | .invalid ps => .invalid ps

/-- Reads two parts; the problems of the first come first. -/
def seq (f : Check (α → β)) (x : Unit → Check α) : Check β :=
  match f, x () with
  | .valid g, .valid a => .valid (g a)
  | .valid _, .invalid ps => .invalid ps
  | .invalid ps, .valid _ => .invalid ps
  | .invalid ps, .invalid qs => .invalid (ps ++ qs)

instance : Functor Check where
  map := map

instance : Applicative Check where
  pure := .valid
  seq := seq

def refuse (kind : Problem.Kind) : Check α :=
  .invalid [⟨kind, []⟩]

/-- Moves the problems of a part to its place in the whole. -/
def within (place : Problem.Place) : Check α → Check α
  | .valid a => .valid a
  | .invalid ps => .invalid (ps.map fun p => ⟨p.kind, place :: p.place⟩)

/-- The outcome as a result or the list of problems. -/
def toExcept : Check α → Except (List Problem) α
  | .valid a => .ok a
  | .invalid ps => .error ps

end Check

/-! ## Readers of single values -/

namespace Read

def text : Document → Check String
  | .text s => .valid s
  | _ => .refuse .notText

/-- The texts that mean false, and those that mean true, in lower case. -/
def falseTexts : List String := ["0", "f", "n", "no", "off", "false"]

/-- The texts that mean true, in lower case. -/
def trueTexts : List String := ["1", "t", "y", "yes", "on", "true"]

/-- The least integer of 64 bits. -/
def leastWord : Int := -0x8000000000000000

/-- The integers that a truth value may be read from, if only to refuse them as unreadable. -/
def isWord (n : Int) : Bool :=
  leastWord ≤ n && n < -leastWord

/-- Reads a truth value from zero or one. -/
def boolOfInt (n : Int) : Check Bool :=
  if n = 0 then .valid false
  else if n = 1 then .valid true
  else .refuse .unreadableBool

/-- Reads a truth value: a truth value, zero or one, or one of the agreed texts in any case.
Numbers that are no 64 bit integers are of the wrong kind altogether. -/
def bool : Document → Check Bool
  | .bool b => .valid b
  | .text s =>
    let lower := String.ofList (s.toList.map Char.toLower)
    if falseTexts.contains lower then .valid false
    else if trueTexts.contains lower then .valid true
    else .refuse .unreadableBool
  | .int n => if isWord n then boolOfInt n else .refuse .notBool
  | .float x =>
    match x.toInt? with
    | some n => if isWord n && n != leastWord then boolOfInt n else .refuse .notBool
    | none => .refuse .notBool
  | _ => .refuse .notBool

def identifier : Document → Check Identifier
  | .text s =>
    match Identifier.ofText? s with
    | some id => .valid id
    | none => .refuse .unreadableIdentifier
  | _ => .refuse .notIdentifier

def table : Document → Check Fields
  | .object entries => .valid entries
  | _ => .refuse .notTable

def itemsFrom {α : Type} (reader : Document → Check α) : Nat → List Document → Check (List α)
  | _, [] => .valid []
  | position, item :: rest =>
    List.cons <$> (reader item).within (.item position) <*> itemsFrom reader (position + 1) rest

/-- Reads a list. A tuple or a set will do. -/
def list {α : Type} (reader : Document → Check α) : Document → Check (List α)
  | .list items | .tuple items | .set items => itemsFrom reader 0 items
  | _ => .refuse .notList

def member {α : Type} (ofName? : String → Option α) : Document → Check α
  | .text s =>
    match ofName? s with
    | some a => .valid a
    | none => .refuse .notMember
  | _ => .refuse .notMember

/-- Reads null as nothing, and anything else by the reader. -/
def nullable {α : Type} (reader : Document → Check α) : Document → Check (Option α)
  | .null => .valid none
  | d => some <$> reader d

def record {α : Type} (fields : Fields → Check α) : Document → Check α
  | .object entries => fields entries
  | _ => .refuse .notRecord

end Read

/-! ## Fields of a record -/

namespace Fields

variable {α : Type}

def required (fields : Fields) (name : String) (reader : Document → Check α) : Check α :=
  match Table.get? fields name with
  | some value => (reader value).within (.field name)
  | none => (Check.refuse .missing).within (.field name)

def withDefault (fields : Fields) (name : String) (default : α) (reader : Document → Check α) :
    Check α :=
  match Table.get? fields name with
  | some value => (reader value).within (.field name)
  | none => .valid default

def optional (fields : Fields) (name : String) (reader : Document → Check α) : Check (Option α) :=
  fields.withDefault name none (Read.nullable reader)

end Fields

end AuthBroker
