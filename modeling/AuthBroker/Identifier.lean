import AuthBroker.Text.Integer
import AuthBroker.Text.Quoted

/-!
Universally unique identifiers: 128 bits, written as 32 hexadecimal digits in five groups.

Writing uses lower case and hyphens. Reading also takes the digits without hyphens, the
hyphenated form in braces, and the hyphenated form after `urn:uuid:`, with digits of either
case. Loose reading takes braces, hyphens and the words of that form wherever they stand, and
in the 32 characters that are left a hexadecimal number in any spelling. Identifiers that the
broker mints itself are numbered.
-/

namespace AuthBroker

/-- The number of identifiers, sixteen to the power 32. -/
def Identifier.count : Nat := 0x100000000000000000000000000000000

structure Identifier where
  value : Fin Identifier.count
  deriving DecidableEq, Repr

namespace Identifier

def digits (id : Identifier) : List Char :=
  Text.hex 32 id.value

/-- Splits digits into groups of 8, 4, 4, 4 and 12, with hyphens between. -/
def hyphenate (ds : List Char) : List Char :=
  ds.take 8 ++ '-' :: (ds.drop 8).take 4 ++ '-' :: (ds.drop 12).take 4 ++
    '-' :: (ds.drop 16).take 4 ++ '-' :: ds.drop 20

def text (id : Identifier) : String :=
  String.ofList (hyphenate id.digits)

def hexValue? (c : Char) : Option Nat :=
  if '0' ≤ c ∧ c ≤ '9' then some (c.toNat - '0'.toNat)
  else if 'a' ≤ c ∧ c ≤ 'f' then some (c.toNat - 'a'.toNat + 10)
  else if 'A' ≤ c ∧ c ≤ 'F' then some (c.toNat - 'A'.toNat + 10)
  else none

/-- Reads 32 digits without hyphens. -/
def ofDigits? (cs : List Char) : Option Identifier := do
  if cs.length ≠ 32 then none
  let ds ← cs.mapM hexValue?
  return ⟨⟨ds.foldl (fun n d => 16 * n + d) 0 % count, Nat.mod_lt _ (by decide)⟩⟩

/-- Reads the hyphenated form: the places of the hyphens are fixed. -/
def ofHyphenated? (cs : List Char) : Option Identifier :=
  let ds := cs.take 8 ++ (cs.drop 9).take 4 ++ (cs.drop 14).take 4 ++ (cs.drop 19).take 4 ++ cs.drop 24
  if [8, 13, 18, 23].all fun place => cs[place]? == some '-' then ofDigits? ds else none

/-- Reads an identifier in any of its forms. -/
def ofText? (s : String) : Option Identifier :=
  let cs := s.toList
  match cs with
  | '\x7b' :: rest =>
    if rest.getLast? == some '\x7d' then ofHyphenated? rest.dropLast else none
  | 'u' :: 'r' :: 'n' :: ':' :: 'u' :: 'u' :: 'i' :: 'd' :: ':' :: rest => ofHyphenated? rest
  | _ => if cs.length = 32 then ofDigits? cs else ofHyphenated? cs

def erase (word : List Char) : List Char → List Char
  | [] => []
  | c :: rest =>
    if word.isPrefixOf (c :: rest) then erase word (rest.drop (word.length - 1))
    else c :: erase word rest
termination_by cs => cs.length
decreasing_by
  all_goals simp only [List.length_cons, List.length_drop]; omega

def trimBraces (cs : List Char) : List Char :=
  let isBrace (c : Char) : Bool := c == '\x7b' || c == '\x7d'
  ((cs.dropWhile isBrace).reverse.dropWhile isBrace).reverse

/-- Why a loosely written identifier cannot be read. -/
inductive Malformed where
  | length
  | number (rest : String)
  deriving DecidableEq, Repr

/-- The most characters of a malformed number that its wording shows, quotes included. -/
def Malformed.shownLength : Nat := 200

def Malformed.message : Malformed → String
  | .length => "badly formed hexadecimal UUID string"
  | .number rest =>
    "invalid literal for int() with base 16: " ++
      String.ofList ((Text.quoted rest).take shownLength)

/-- An identifier that was written loosely, or what is wrong with it. -/
abbrev Loose := Except Malformed Identifier

/-- Reads an identifier written loosely: the words `urn:` and `uuid:`, braces at the ends and
hyphens count for nothing, and what is left has to be a number in 32 characters. -/
def ofLoose (s : String) : Loose :=
  let cs := erase "uuid:".toList (erase "urn:".toList s.toList)
  let rest := (trimBraces cs).filter (· != '-')
  if rest.length = 32 then
    match Text.readHex? rest with
    | some n => .ok ⟨⟨n % count, Nat.mod_lt _ (by decide)⟩⟩
    | none => .error (.number (String.ofList rest))
  else .error .length

example : (ofLoose "urn:uuid:\x7b00000000000000000000-00000000001F\x7d").toOption =
    some ⟨31, by decide⟩ := by
  decide +kernel

def minted (n : Nat) : Identifier :=
  ⟨⟨(0x40008000000000000000 + n) % count, Nat.mod_lt _ (by decide)⟩⟩

end Identifier

end AuthBroker
