import AuthBroker.Document.Display

/-!
Documents as stored JSON text.

The text is compact and keeps the order of keys. Quotes, backslashes and the controls below
U+0020 are escaped; every other character stands as it is. Numbers are positional while the
first digit stands between 10^-5 and 10^15. Numbers that are not finite have no JSON form and
would be written as null. Tuples and sets are written as lists. A document that holds a foreign value,
or a value too deep inside lists and tables, has no JSON text; the first of them in the order of the
text is the reason.
-/

namespace AuthBroker.Document

/-- The layout of numbers in stored JSON. -/
def storedLayout : Binary64.Layout := ⟨-5, 1⟩

def jsonNumber : Binary64 → List Char
  | .finite negative rank => storedLayout.finiteText negative rank
  | _ => ['n', 'u', 'l', 'l']

def jsonChar (c : Char) : List Char :=
  if c == '"' then ['\\', '"']
  else if c == '\\' then ['\\', '\\']
  else if c == '\x08' then ['\\', 'b']
  else if c == '\t' then ['\\', 't']
  else if c == '\n' then ['\\', 'n']
  else if c == '\x0c' then ['\\', 'f']
  else if c == '\r' then ['\\', 'r']
  else if c.toNat < 0x20 then '\\' :: 'u' :: Text.hex 4 c.toNat
  else [c]

def jsonString (s : String) : List Char :=
  '"' :: (s.toList.flatMap jsonChar ++ ['"'])

inductive Unprintable where
  | foreign
  | tooDeep
  deriving DecidableEq, Repr

mutual

/-- The JSON text of a document that may have at most `levels` levels, itself included. -/
def json (levels : Nat) (d : Document) : Except Unprintable (List Char) :=
  match levels, d with
  | 0, _ => .error .tooDeep
  | _ + 1, .null => .ok ['n', 'u', 'l', 'l']
  | _ + 1, .bool true => .ok ['t', 'r', 'u', 'e']
  | _ + 1, .bool false => .ok ['f', 'a', 'l', 's', 'e']
  | _ + 1, .int n => .ok (intText n)
  | _ + 1, .float x => .ok (jsonNumber x)
  | _ + 1, .text s => .ok (jsonString s)
  | levels + 1, .list items | levels + 1, .tuple items | levels + 1, .set items =>
    (jsonItems levels items).map ('[' :: ·)
  | levels + 1, .object entries => (jsonEntries levels entries).map ('\x7b' :: ·)
  | _ + 1, .foreign _ => .error .foreign

/-- The items of a list and the closing bracket. -/
def jsonItems (levels : Nat) : List Document → Except Unprintable (List Char)
  | [] => .ok [']']
  | [item] => do return (← json levels item) ++ [']']
  | item :: next :: rest => do
    let first ← json levels item
    let others ← jsonItems levels (next :: rest)
    return first ++ ',' :: others

/-- The entries of a table and the closing brace. -/
def jsonEntries (levels : Nat) : List (String × Document) → Except Unprintable (List Char)
  | [] => .ok ['\x7d']
  | [(key, value)] => do return jsonString key ++ ':' :: (← json levels value) ++ ['\x7d']
  | (key, value) :: next :: rest => do
    let first ← json levels value
    let others ← jsonEntries levels (next :: rest)
    return jsonString key ++ ':' :: first ++ ',' :: others

end

end AuthBroker.Document
