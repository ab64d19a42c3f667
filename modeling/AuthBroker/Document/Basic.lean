import AuthBroker.Binary64.Basic
import AuthBroker.Table

/-!
Configuration documents: nested tables and lists with text, numbers, booleans and null.

Tables keep the order of their keys, which shows in wildcards, in printed payloads and in
messages. No more than this is found in a configuration that was read from a text. What a program
hands over may also hold tuples and sets, and foreign values, which no writer knows how to print and
no reader looks into. Texts are sequences of Unicode scalar values, and keys are texts. Records, dates
and other values for which a printer has forms of its own are left out.
-/

namespace AuthBroker

/-- A document. The items of a set stand in the order in which the set is gone through. Of a foreign
value there is only the description that it is shown by. -/
inductive Document where
  | null
  | bool (value : Bool)
  | int (value : Int)
  | float (value : Binary64)
  | text (value : String)
  | list (items : List Document)
  | tuple (items : List Document)
  | set (items : List Document)
  | object (entries : List (String × Document))
  | foreign (description : String)
  deriving Repr, BEq, Inhabited

/-- The entries of a document table, by field name. -/
abbrev Fields := Table String Document

namespace Document

def entries? : Document → Option Fields
  | .object entries => some entries
  | _ => none

def text? : Document → Option String
  | .text value => some value
  | _ => none

def isNull : Document → Bool
  | .null => true
  | _ => false

/-- The texts, when the document is a list of texts only. -/
def texts? : Document → Option (List String)
  | .list items => items.mapM text?
  | _ => none

/-- Null for an absent document. -/
def ofOption : Option Document → Document
  | some value => value
  | none => .null

end Document

end AuthBroker
