import AuthBroker.Binary64.Decimal
import AuthBroker.Document.Basic

/-! # The grammar of JSON texts

A well-formed text denotes a document. Blanks may stand around every value. A number without
fraction and exponent is an integer of any size, any other one the double precision number nearest
to it. Inside quotes a character stands as it is or escaped; a character beyond the first plane may be
escaped as a surrogate pair. Of several members with one name the last one counts, in the place of the
first. -/

namespace AuthBroker.Json

open Binary64 (Decimal digitsValue)

/-! ## Numbers -/

structure IsDigits (cs : List Char) : Prop where
  ne_nil : cs ≠ []
  isDigit : ∀ c ∈ cs, c.isDigit = true

/-- Digits in front of the point: no zero comes first unless it stands alone. -/
structure IsWhole (cs : List Char) : Prop extends IsDigits cs where
  front : cs.head? = some '0' → cs = ['0']

inductive IsFraction : List Char → List Char → Prop
  | absent : IsFraction [] []
  | present {digits : List Char} : IsDigits digits → IsFraction ('.' :: digits) digits

def exponentMarks : List Char := ['e', 'E']

inductive IsExponent : List Char → Int → Prop
  | absent : IsExponent [] 0
  | unsigned {mark : Char} {digits : List Char} : mark ∈ exponentMarks → IsDigits digits →
      IsExponent (mark :: digits) (digitsValue digits)
  | plus {mark : Char} {digits : List Char} : mark ∈ exponentMarks → IsDigits digits →
      IsExponent (mark :: '+' :: digits) (digitsValue digits)
  | minus {mark : Char} {digits : List Char} : mark ∈ exponentMarks → IsDigits digits →
      IsExponent (mark :: '-' :: digits) (-(digitsValue digits : Int))

def sign (negative : Bool) : List Char :=
  if negative then ['-'] else []

def integer (negative : Bool) (whole : List Char) : Document :=
  .int (if negative then -(digitsValue whole : Int) else digitsValue whole)

/-- The double precision number nearest to written digits, of which `fraction` stand after the
point. -/
def nearest (negative : Bool) (whole fraction : List Char) (power : Int) : Document :=
  .float (Decimal.toBinary64 negative ⟨digitsValue (whole ++ fraction), power - fraction.length⟩)

inductive IsNumber : List Char → Document → Prop
  | integer {negative : Bool} {whole : List Char} : IsWhole whole →
      IsNumber (sign negative ++ whole) (integer negative whole)
  | nearest {negative : Bool} {whole point fraction exponent : List Char} {power : Int} :
      IsWhole whole → IsFraction point fraction → IsExponent exponent power →
      point ++ exponent ≠ [] →
      IsNumber (sign negative ++ (whole ++ (point ++ exponent)))
        (nearest negative whole fraction power)

/-! ## Texts in quotes -/

/-- The escapes of one letter and what they stand for. -/
def escapes : List (Char × Char) := [
  ('"', '"'), ('\\', '\\'), ('/', '/'), ('b', '\x08'), ('f', '\x0c'), ('n', '\n'), ('r', '\r'),
  ('t', '\t')]

def hexDigit? (c : Char) : Option Nat :=
  if c.isDigit then some (c.toNat - '0'.toNat)
  else if 'a' ≤ c ∧ c ≤ 'f' then some (c.toNat - 'a'.toNat + 10)
  else if 'A' ≤ c ∧ c ≤ 'F' then some (c.toNat - 'A'.toNat + 10)
  else none

/-- The code unit that four hexadecimal digits write. -/
def codeUnit? : List Char → Option Nat
  | [a, b, c, d] => do
    return ((16 * (← hexDigit? a) + (← hexDigit? b)) * 16 + (← hexDigit? c)) * 16 + (← hexDigit? d)
  | _ => none

def isHigh (unit : Nat) : Bool :=
  0xd800 ≤ unit && unit < 0xdc00

def isLow (unit : Nat) : Bool :=
  0xdc00 ≤ unit && unit < 0xe000

/-- The code point of a surrogate pair. -/
def paired (high low : Nat) : Nat :=
  0x10000 + (high - 0xd800) * 0x400 + (low - 0xdc00)

/-- Whether a character stands for itself inside quotes. -/
def isPlain (c : Char) : Bool :=
  0x20 ≤ c.toNat && c != '"' && c != '\\'

inductive Spells : List Char → Char → Prop
  | plain {c : Char} : isPlain c = true → Spells [c] c
  | escape {letter c : Char} : (letter, c) ∈ escapes → Spells ['\\', letter] c
  | unit {digits : List Char} {c : Char} : codeUnit? digits = some c.toNat →
      Spells ('\\' :: 'u' :: digits) c
  | pair {first second : List Char} {high low : Nat} {c : Char} : codeUnit? first = some high →
      codeUnit? second = some low → isHigh high = true → isLow low = true →
      c.toNat = paired high low →
      Spells ('\\' :: 'u' :: (first ++ '\\' :: 'u' :: second)) c

inductive SpellsAll : List Char → List Char → Prop
  | nil : SpellsAll [] []
  | cons {c : Char} {spelling body cs : List Char} : Spells spelling c → SpellsAll body cs →
      SpellsAll (spelling ++ body) (c :: cs)

/-! ## Values -/

def isBlank (c : Char) : Bool :=
  c == ' ' || c == '\t' || c == '\n' || c == '\r'

/-- A member of a table as it is written. -/
structure Member where
  name : List Char
  key : String
  text : List Char
  value : Document

def Member.written (member : Member) : List Char :=
  member.name ++ ':' :: member.text

def Member.entry (member : Member) : String × Document :=
  (member.key, member.value)

def commaSeparated (parts : List (List Char)) : List Char :=
  [','].intercalate parts

theorem commaSeparated_cons_cons (part next : List Char) (rest : List (List Char)) :
    commaSeparated (part :: next :: rest) = part ++ ',' :: commaSeparated (next :: rest) := by
  simp [commaSeparated]

theorem commaSeparated_singleton (part : List Char) : commaSeparated [part] = part := by
  simp [commaSeparated]

/-- A text is well formed and denotes a document. -/
inductive Denotes : List Char → Document → Prop
  | null : Denotes ['n', 'u', 'l', 'l'] .null
  | yes : Denotes ['t', 'r', 'u', 'e'] (.bool true)
  | no : Denotes ['f', 'a', 'l', 's', 'e'] (.bool false)
  | number {token : List Char} {d : Document} : IsNumber token d → Denotes token d
  | text {body cs : List Char} : SpellsAll body cs →
      Denotes ('"' :: (body ++ ['"'])) (.text (String.ofList cs))
  | emptyList {blanks : List Char} : blanks.all isBlank = true →
      Denotes ('[' :: (blanks ++ [']'])) (.list [])
  | list {items : List (List Char × Document)} : items ≠ [] →
      (∀ item ∈ items, Denotes item.1 item.2) →
      Denotes ('[' :: (commaSeparated (items.map (·.1)) ++ [']'])) (.list (items.map (·.2)))
  | emptyObject {blanks : List Char} : blanks.all isBlank = true →
      Denotes ('\x7b' :: (blanks ++ ['\x7d'])) (.object [])
  | object {members : List Member} : members ≠ [] →
      (∀ member ∈ members, Denotes member.name (.text member.key)) →
      (∀ member ∈ members, Denotes member.text member.value) →
      Denotes ('\x7b' :: (commaSeparated (members.map Member.written) ++ ['\x7d']))
        (.object (Table.insertAll [] (members.map Member.entry)))
  | blanks {left right cs : List Char} {d : Document} : left.all isBlank = true →
      right.all isBlank = true → Denotes cs d → Denotes (left ++ (cs ++ right)) d

end AuthBroker.Json
