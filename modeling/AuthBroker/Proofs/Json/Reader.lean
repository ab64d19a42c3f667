import AuthBroker.Proofs.Json.Grammar

/-! # A reader of JSON texts

The reader takes a value with the blanks around it from the front of a text. The nesting of values and
the number of elements are bounded by the length of the text. -/

namespace AuthBroker.Json

open Binary64 (takeDigits readExponent?)

/-! ## Numbers -/

def readWhole? (cs : List Char) : Option (List Char × List Char) :=
  let (whole, rest) := takeDigits cs
  if whole.isEmpty || (whole.head? == some '0' && whole != ['0']) then none else some (whole, rest)

def readFraction? : List Char → Option (List Char × List Char)
  | '.' :: cs =>
    let (digits, rest) := takeDigits cs
    if digits.isEmpty then none else some (digits, rest)
  | cs => some ([], cs)

def readPower? : List Char → Option Int
  | [] => some 0
  | mark :: cs => if exponentMarks.contains mark then readExponent? cs else none

def readUnsigned? (negative : Bool) (cs : List Char) : Option Document := do
  let (whole, rest) ← readWhole? cs
  if rest.isEmpty then
    return integer negative whole
  else
    let (fraction, rest) ← readFraction? rest
    let power ← readPower? rest
    return nearest negative whole fraction power

def readNumber? : List Char → Option Document
  | '-' :: cs => readUnsigned? true cs
  | cs => readUnsigned? false cs

/-! ## Texts in quotes -/

def readUnit? (cs : List Char) : Option (Nat × List Char) :=
  (codeUnit? (cs.take 4)).map (·, cs.drop 4)

/-- Reads what follows a high surrogate. -/
def readLow? (high : Nat) : List Char → Option (Char × List Char)
  | '\\' :: 'u' :: cs => do
    let (low, rest) ← readUnit? cs
    if isLow low then some (Char.ofNat (paired high low), rest) else none
  | _ => none

def readChar? : List Char → Option (Char × List Char)
  | '\\' :: 'u' :: cs => do
    let (unit, rest) ← readUnit? cs
    if isHigh unit then readLow? unit rest
    else if isLow unit then none
    else some (Char.ofNat unit, rest)
  | '\\' :: letter :: rest => (escapes.lookup letter).map (·, rest)
  | c :: rest => if isPlain c then some (c, rest) else none
  | [] => none

/-- Reads characters up to the closing quote. -/
def readChars? : Nat → List Char → Option (List Char × List Char)
  | 0, _ => none
  | _ + 1, '"' :: rest => some ([], rest)
  | fuel + 1, cs => do
    let (c, rest) ← readChar? cs
    let (more, rest) ← readChars? fuel rest
    return (c :: more, rest)

/-! ## Values -/

def skipBlanks (cs : List Char) : List Char :=
  cs.dropWhile isBlank

def isNumeric (c : Char) : Bool :=
  c.isDigit || ['-', '+', '.', 'e', 'E'].contains c

section
variable {α : Type}

/-- Reads elements with commas between them, up to a closing character. -/
def readSequence (one : List Char → Option (α × List Char)) (close : Char) :
    Nat → List Char → Option (List α × List Char)
  | 0, _ => none
  | fuel + 1, cs => do
    let (element, rest) ← one cs
    match rest with
    | [] => none
    | c :: rest =>
      if c = close then return ([element], rest)
      else if c = ',' then do
        let (more, rest) ← readSequence one close fuel rest
        return (element :: more, rest)
      else none

/-- Reads elements, if there are any, up to a closing character. -/
def readElements (one : List Char → Option (α × List Char)) (close : Char) (cs : List Char) :
    Option (List α × List Char) :=
  match skipBlanks cs with
  | [] => none
  | c :: rest => if c = close then some ([], rest) else readSequence one close cs.length cs

end

def readMember (value : List Char → Option (Document × List Char)) (cs : List Char) :
    Option ((String × Document) × List Char) := do
  match ← value cs with
  | (.text key, ':' :: rest) =>
    let (d, rest) ← value rest
    return ((key, d), rest)
  | _ => none

def readWord? : List Char → Option (Document × List Char)
  | 'n' :: 'u' :: 'l' :: 'l' :: rest => some (.null, rest)
  | 't' :: 'r' :: 'u' :: 'e' :: rest => some (.bool true, rest)
  | 'f' :: 'a' :: 'l' :: 's' :: 'e' :: rest => some (.bool false, rest)
  | _ => none

/-- Reads a value that no blanks stand in front of. The values inside it are read by `nested`. -/
def readBare (nested : List Char → Option (Document × List Char)) (cs : List Char) :
    Option (Document × List Char) := do
  match cs with
  | [] => none
  | c :: rest =>
    if c = '"' then
      let (cs, rest) ← readChars? rest.length rest
      return (.text (String.ofList cs), rest)
    else if c = '[' then
      let (items, rest) ← readElements nested ']' rest
      return (.list items, rest)
    else if c = '\x7b' then
      let (entries, rest) ← readElements (readMember nested) '\x7d' rest
      return (.object (Table.insertAll [] entries), rest)
    else if isNumeric c then
      let d ← readNumber? (cs.takeWhile isNumeric)
      return (d, cs.dropWhile isNumeric)
    else readWord? cs

/-- Reads a value and the blanks around it. -/
def readValue : Nat → List Char → Option (Document × List Char)
  | 0, _ => none
  | fuel + 1, cs => do
    let (d, rest) ← readBare (readValue fuel) (skipBlanks cs)
    return (d, skipBlanks rest)

/-- Reads a whole text. -/
def read? (text : String) : Option Document := do
  match ← readValue (text.length + 1) text.toList with
  | (d, []) => some d
  | _ => none

end AuthBroker.Json
