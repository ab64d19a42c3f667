import AuthBroker.Binary64.Decimal
import AuthBroker.Document.Basic
import AuthBroker.Text.Quoted

/-!
Documents as messages show them.

A text stands as it is, and in quotes inside a list or table. Null, true and false are
`None`, `True` and `False`. Numbers are positional while the first digit stands between
10^-4 and 10^15. An integer is shown with all its digits, however many. The limit that readers have
(`Text.digitLimit`) holds for showing as well, but is not imposed here.
-/

namespace AuthBroker

/-- The layout of numbers in messages. -/
def displayLayout : Binary64.Layout := ⟨-4, 2⟩

def Binary64.display : Binary64 → List Char
  | .nan => ['n', 'a', 'n']
  | .infinite negative => (if negative then ['-'] else []) ++ ['i', 'n', 'f']
  | .finite negative rank => displayLayout.finiteText negative rank

namespace Document

def intText (n : Int) : List Char :=
  (if n < 0 then ['-'] else []) ++ Nat.toDigits 10 n.natAbs

mutual

def displayNested : Document → List Char
  | .null => "None".toList
  | .bool true => "True".toList
  | .bool false => "False".toList
  | .int n => intText n
  | .float x => x.display
  | .text s => Text.quoted s
  | .list items => '[' :: displayItems ']' items
  | .tuple items => '(' :: displayTuple items
  | .set items =>
    if items.isEmpty then "set()".toList else '\x7b' :: displayItems '\x7d' items
  | .object entries => '\x7b' :: displayEntries entries
  | .foreign description => '<' :: description.toList ++ ['>']

/-- The items of a list and the closing bracket. -/
def displayItems (close : Char) : List Document → List Char
  | [] => [close]
  | [item] => displayNested item ++ [close]
  | item :: next :: rest => displayNested item ++ ',' :: ' ' :: displayItems close (next :: rest)

/-- The items of a tuple and the closing bracket; a single item has a comma behind it. -/
def displayTuple : List Document → List Char
  | [] => [')']
  | [item] => displayNested item ++ [',', ')']
  | item :: next :: rest => displayNested item ++ ',' :: ' ' :: displayItems ')' (next :: rest)

/-- The entries of a table and the closing brace. -/
def displayEntries : List (String × Document) → List Char
  | [] => ['\x7d']
  | [(key, value)] => Text.quoted key ++ ':' :: ' ' :: displayNested value ++ ['\x7d']
  | (key, value) :: next :: rest =>
    Text.quoted key ++ ':' :: ' ' :: displayNested value ++ ',' :: ' ' :: displayEntries (next :: rest)

end

def display : Document → String
  | .text s => s
  | d => String.ofList (displayNested d)

end Document

end AuthBroker
