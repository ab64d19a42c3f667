import AuthBroker.Binary64.Scaled
import AuthBroker.Document.Display

/-!
Conversions: a value laid out in a field.

A conversion has a letter that says which text of the value is shown, flags, a width and a
precision. The width is the least number of characters. For texts the precision is the greatest
number of characters, for integers the least number of digits, and for the scaled forms the number
of decimals or of significant digits. Fillings may be longer than a text that can be written out, so
a field is laid out in stretches.
-/

namespace AuthBroker

open Text (Stretch)

structure Conversion where
  left : Bool
  plus : Bool
  blank : Bool
  alternate : Bool
  zeros : Bool
  width : Option Nat
  precision : Option Nat
  letter : Char
  deriving DecidableEq, Repr

/-- A number on its way into a field: its sign, a mark for the base, and its digits. -/
structure Numeral where
  negative : Bool
  mark : List Char
  digits : List Stretch
  deriving DecidableEq, Repr

/-- An integer in a base, with at least as many digits as asked for. -/
def Numeral.based (base : Nat) (mark : List Char) (least : Nat) (n : Int) : Numeral :=
  let digits := Nat.toDigits base n.natAbs
  ⟨n < 0, mark, [.filling (least - digits.length) '0', .plain digits]⟩

namespace Conversion

/-- Why a value is not laid out: the letter stands for another kind of value, the number is no
code point, an integer would have too many digits, or the field too many characters. -/
inductive Misfit where
  | kind
  | notCharacter
  | manyDigits
  | noRoom
  deriving DecidableEq, Repr

/-- The wording of a misfit; a field without room has none. -/
def Misfit.message : Misfit → String
  | .kind => "a field does not fit its place"
  | .notCharacter => "%c arg not in range(0x110000)"
  | .manyDigits => "precision too large"
  | .noRoom => ""

/-! ## Limits -/

/-- The greatest width of a field. -/
def room : Nat := 0x1000000000

def roomFor (n : Nat) : Except Misfit Unit :=
  if n ≤ room then .ok () else .error .noRoom

/-- The greatest number of digits that can be asked of an integer. -/
def maxDigits : Nat := 2147483644

/-- The precision that the form with an exponent takes for none at all: one digit more than its
decimals would be a count out of range. -/
def spentPrecision : Nat := 2147483647

/-! ## Layout -/

def cut (conversion : Conversion) (cs : List Char) : List Char :=
  conversion.precision.elim cs (cs.take ·)

/-- A text in the field: blanks fill it up to the width. -/
def layText (conversion : Conversion) (text : List Stretch) : List Stretch :=
  let filling : Stretch := .filling (conversion.width.getD 0 - Text.stretchesLength text) ' '
  if conversion.left then text ++ [filling] else filling :: text

/-- A number in the field. Zeros that fill it stand between the sign and the digits. -/
def layNumeral (conversion : Conversion) (numeral : Numeral) : List Stretch :=
  let sign :=
    if numeral.negative then ['-']
    else if conversion.plus then ['+']
    else if conversion.blank then [' ']
    else []
  let front : Stretch := .plain (sign ++ numeral.mark)
  if conversion.zeros && !conversion.left then
    let missing := conversion.width.getD 0 - Text.stretchesLength (front :: numeral.digits)
    front :: .filling missing '0' :: numeral.digits
  else conversion.layText (front :: numeral.digits)

/-- A document in quotes and ASCII: other characters are escaped by their code points. -/
def asciiText (d : Document) : List Char :=
  d.displayNested.flatMap fun c => if c.toNat < 0x80 then [c] else Text.escapeByCode c

/-! ## Kinds of values -/

/-- The character that a document stands for: the only one of a text, or that of a code point. -/
def character : Document → Except Misfit Char
  | .text s =>
    match s.toList with
    | [c] => .ok c
    | _ => .error .kind
  | .int n => if 0 ≤ n ∧ n < 0x110000 then .ok (Char.ofNat n.toNat) else .error .notCharacter
  | _ => .error .kind

def integer : Document → Except Misfit Int
  | .int n => .ok n
  | _ => .error .kind

/-- The integer part of the number that a document stands for. -/
def integerPart : Document → Except Misfit Int
  | .int n => .ok n
  | .float (.finite negative rank) =>
    let (p, q) := Binary64.ratio rank
    .ok (if negative then -(p / q : Nat) else (p / q : Nat))
  | _ => .error .kind

/-- The double precision number that a document stands for. -/
def measured : Document → Except Misfit Binary64
  | .int n => .ok (.ofRatio (n < 0) n.natAbs 1)
  | .float x => .ok x
  | _ => .error .kind

/-! ## Forms -/

/-- The form of an integer in a base. -/
def integral (conversion : Conversion) (base : Nat) (mark : List Char) (n : Int) :
    Except Misfit Numeral := do
  let least := conversion.precision.getD 0
  if maxDigits < least then throw .manyDigits
  return .based base (if conversion.alternate then mark else []) least n

/-- A scaled form of a number, given that of a rank. -/
def scaled (form : Nat → List Stretch) : Binary64 → Numeral
  | .finite negative rank => ⟨negative, [], form rank⟩
  | .infinite negative => ⟨negative, [], [.plain ['i', 'n', 'f']]⟩
  | .nan => ⟨false, [], [.plain ['n', 'a', 'n']]⟩

/-- The form of a number with a number of decimals. -/
def fixed (conversion : Conversion) : Binary64 → Numeral :=
  scaled (Binary64.fixedText conversion.alternate (conversion.precision.getD 6))

/-- The form of a number with an exponent. -/
def scientific (conversion : Conversion) : Binary64 → Numeral :=
  let asked := conversion.precision.getD 6
  scaled (Binary64.scientificText conversion.alternate 'e' (if asked = spentPrecision then 0 else asked))

/-- The form of a number with a number of significant digits, at least one. -/
def general (conversion : Conversion) : Binary64 → Numeral :=
  scaled (Binary64.generalText conversion.alternate 'e' (max (conversion.precision.getD 6) 1))

def capital (numeral : Numeral) : Numeral :=
  { numeral with
    mark := numeral.mark.map Char.toUpper
    digits := numeral.digits.map (·.map Char.toUpper) }

/-- The numeral that a conversion shows, if its letter stands for a number. -/
def numeral (conversion : Conversion) (d : Document) : Except Misfit Numeral :=
  match conversion.letter with
  | 'd' | 'i' | 'u' => integerPart d >>= conversion.integral 10 []
  | 'o' => integer d >>= conversion.integral 8 ['0', 'o']
  | 'x' => integer d >>= conversion.integral 16 ['0', 'x']
  | 'X' => capital <$> (integer d >>= conversion.integral 16 ['0', 'x'])
  | 'f' => conversion.fixed <$> measured d
  | 'F' => (capital ∘ conversion.fixed) <$> measured d
  | 'e' => conversion.scientific <$> measured d
  | 'E' => (capital ∘ conversion.scientific) <$> measured d
  | 'g' => conversion.general <$> measured d
  | 'G' => (capital ∘ conversion.general) <$> measured d
  | _ => .error .kind

def numericLetters : List Char :=
  ['d', 'i', 'u', 'o', 'x', 'X', 'f', 'F', 'e', 'E', 'g', 'G']

/-- Whether a letter says what to show. -/
def isKnown (letter : Char) : Bool :=
  numericLetters.contains letter || ['s', 'r', 'a', 'c'].contains letter

/-- The content of a field: a text or a numeral. -/
def content (conversion : Conversion) (d : Document) : Except Misfit (List Char ⊕ Numeral) :=
  match conversion.letter with
  | 's' => .ok (.inl (conversion.cut d.display.toList))
  | 'r' => .ok (.inl (conversion.cut d.displayNested))
  | 'a' => .ok (.inl (conversion.cut (asciiText d)))
  | 'c' => (character d).map fun c => .inl [c]
  | _ => (conversion.numeral d).map .inr

/-- A document in the field. Whether its content can be had comes before whether there is room for
the width. -/
def lay (conversion : Conversion) (d : Document) : Except Misfit (List Stretch) := do
  let content ← conversion.content d
  roomFor (conversion.width.getD 0)
  return content.elim (fun cs => conversion.layText [.plain cs]) conversion.layNumeral

end Conversion

end AuthBroker
