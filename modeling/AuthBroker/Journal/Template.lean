import AuthBroker.Document.Conversion
import AuthBroker.Text.Digit
import AuthBroker.Text.Word

/-!
Line templates: texts with places for the fields of a record.

A place is a percent sign, the name of a field in parentheses, and a conversion, as in
`%(message)s` or `%(levelname)-8s`. Two percent signs stand for one. A place without a name takes
what the place before it left, which is nothing once it was shown; at the start it is the table of
all fields. A star takes a whole number as a measure and leaves nothing to show; as a precision, one
that is in range.

A template has to hold one well-formed place. All else about it is found out while it is filled,
from left to right, and the first defect counts. Only then is the line written out, if it is not too
long for that.
-/

namespace AuthBroker

open Text (Stretch)

namespace Template

inductive Defect where
  | noPlace (template : String)
  | unknownField (name : String)
  | openName
  | openPlace
  | wideField
  | longPrecision
  | unknownLetter (letter : Char) (position : Nat)
  | nothingToShow
  | notMeasure
  | precisionOutOfRange
  | unfit (misfit : Conversion.Misfit)
  deriving DecidableEq, Repr

/-- The wording of a defect. Of an unknown letter only ASCII is shown. -/
def Defect.message : Defect → String
  | .noPlace template => "Invalid format '" ++ template ++ "' for '%' style"
  | .unknownField name =>
    "Formatting field not found in record: " ++ String.ofList (Text.quoted name)
  | .openName => "incomplete format key"
  | .openPlace => "incomplete format"
  | .wideField => "width too big"
  | .longPrecision => "precision too big"
  | .unknownLetter letter position =>
    let shown := if 31 ≤ letter.toNat ∧ letter.toNat ≤ 126 then letter else '?'
    "unsupported format character '" ++ shown.toString ++ "' (0x" ++
      String.ofList (Nat.toDigits 16 letter.toNat) ++ ") at index " ++ toString position
  | .nothingToShow => "a place has nothing to show"
  | .notMeasure => "a star takes a whole number"
  | .precisionOutOfRange => "Python int too large to convert to C int"
  | .unfit misfit => misfit.message

inductive Piece where
  | char (c : Char)
  | field (name : String)
  | width
  | precision
  | conversion (how : Conversion) (position : Nat)
  deriving DecidableEq, Repr

/-! ## Well-formed places -/

def isFlag (c : Char) : Bool :=
  ['-', '+', ' ', '#', '0'].contains c

/-- Whether a character ends a well-formed place, in either case; two letters count in a
second small form. -/
def isPlaceEnd (c : Char) : Bool :=
  "diouxefgcrsaDIOUXEFGCRSA%\u0130\u0131\u017f".toList.contains c

/-- Drops a star or decimal digits of any script from the front. -/
def skipMeasure : List Char → List Char
  | '*' :: rest => rest
  | cs => cs.dropWhile fun c => (Text.digitValue? c).isSome

/-- Whether a text starts with a well-formed place, whose name has characters of words only. -/
def startsWithPlace : List Char → Bool
  | '%' :: '(' :: rest =>
    match rest.takeWhile Text.isWord, rest.dropWhile Text.isWord with
    | _ :: _, ')' :: afterName =>
      match skipMeasure (afterName.dropWhile isFlag) with
      | '.' :: afterPoint =>
        let afterPrecision := skipMeasure afterPoint
        afterPrecision.length < afterPoint.length && afterPrecision.head?.any isPlaceEnd
      | cs => cs.head?.any isPlaceEnd
    | _, _ => false
  | _ => false

def holdsPlace : List Char → Bool
  | [] => false
  | c :: rest => startsWithPlace (c :: rest) || holdsPlace rest

/-! ## Reading -/

/-- A measure of a place: absent, a number, or taken from the field. -/
inductive Measure where
  | absent
  | given (n : Nat)
  | taken
  deriving DecidableEq, Repr

def Measure.number? : Measure → Option Nat
  | .given n => some n
  | .absent | .taken => none

/-- The piece that a measure stands for, if it is taken from the field. -/
def Measure.pieces (piece : Piece) : Measure → List Piece
  | .taken => [piece]
  | .absent | .given _ => []

def Measure.exceeds (limit : Nat) : Measure → Bool
  | .given n => limit < n
  | .absent | .taken => false

def readMeasure : List Char → Measure × List Char
  | '*' :: rest => (.taken, rest)
  | cs =>
    let digits := cs.takeWhile Char.isDigit
    if digits.isEmpty then (.absent, cs)
    else
      (.given (digits.foldl (fun n c => 10 * n + (c.toNat - '0'.toNat)) 0), cs.dropWhile Char.isDigit)

/-- Reads a precision; a point alone stands for zero. -/
def readPrecision : List Char → Measure × List Char
  | '.' :: rest =>
    match readMeasure rest with
    | (.absent, rest) => (.given 0, rest)
    | found => found
  | cs => (.absent, cs)

/-- Drops a size letter, which means nothing. -/
def skipSize : List Char → List Char
  | c :: rest => if ['h', 'l', 'L'].contains c then rest else c :: rest
  | [] => []

def maxWidth : Nat := 0x7fffffffffffffff

def maxPrecision : Nat := 0x7fffffff

/-- Reads the rest of a place in a template of `total` characters: its pieces, and what follows. -/
def readConversion (total : Nat) (cs : List Char) : List Piece × Except Defect (List Char) :=
  let flags := cs.takeWhile isFlag
  let (width, afterWidth) := readMeasure (cs.dropWhile isFlag)
  let (precision, afterPrecision) := readPrecision afterWidth
  if width.exceeds maxWidth then ([], .error .wideField)
  else if precision.exceeds maxPrecision then (width.pieces .width, .error .longPrecision)
  else
    let measures := width.pieces .width ++ precision.pieces .precision
    match skipSize afterPrecision with
    | [] => (measures, .error .openPlace)
    | letter :: rest =>
      let how : Conversion := {
        left := flags.contains '-'
        plus := flags.contains '+'
        blank := flags.contains ' '
        alternate := flags.contains '#'
        zeros := flags.contains '0'
        width := width.number?
        precision := precision.number?
        letter := letter }
      (measures ++ [.conversion how (total - rest.length - 1)], .ok rest)

/-- Splits a name at the parenthesis that closes it; `depth` counts the open ones inside. -/
def splitName? (depth : Nat) : List Char → Option (List Char × List Char)
  | [] => none
  | '(' :: rest => (splitName? (depth + 1) rest).map fun (name, after) => ('(' :: name, after)
  | ')' :: rest =>
    match depth with
    | 0 => some ([], rest)
    | depth + 1 => (splitName? depth rest).map fun (name, after) => (')' :: name, after)
  | c :: rest => (splitName? depth rest).map fun (name, after) => (c :: name, after)

/-- Reads pieces up to the end or to a defect. Every round takes at least one character, so as many
rounds as the text has characters are enough. -/
def readPieces (total : Nat) : Nat → List Char → List Piece × Option Defect
  | 0, _ => ([], none)
  | _ + 1, [] => ([], none)
  | rounds + 1, '%' :: '%' :: rest => before [.char '%'] (readPieces total rounds rest)
  | rounds + 1, '%' :: '(' :: rest =>
    match splitName? 0 rest with
    | none => ([], some .openName)
    | some (name, after) =>
      before [.field (String.ofList name)] (place rounds (readConversion total after))
  | rounds + 1, '%' :: rest => place rounds (readConversion total rest)
  | rounds + 1, c :: rest => before [.char c] (readPieces total rounds rest)
where
  /-- Puts pieces before those that follow. -/
  before (pieces : List Piece) (rest : List Piece × Option Defect) : List Piece × Option Defect :=
    (pieces ++ rest.1, rest.2)
  /-- Goes on after a place. -/
  place (rounds : Nat) : List Piece × Except Defect (List Char) → List Piece × Option Defect
    | (pieces, .ok rest) => before pieces (readPieces total rounds rest)
    | (pieces, .error defect) => (pieces, some defect)

end Template

/-- A template: its pieces, and the defect after the last of them, if there is one. -/
structure Template where
  pieces : List Template.Piece
  defect : Option Template.Defect
  deriving DecidableEq, Repr

namespace Template

/-- The template of lines that show the message only. -/
def plain : String := "%(message)s"

/-- Reads a template; an empty text stands for the plain one. -/
def ofText (s : String) : Except Defect Template :=
  let cs := (if s.isEmpty then plain else s).toList
  if holdsPlace cs then
    let (pieces, defect) := readPieces cs.length (cs.length + 1) cs
    .ok ⟨pieces, defect⟩
  else .error (.noPlace s)

/-! ## Filling -/

/-- Fills a place with what there is to show. -/
def fillPlace (how : Conversion) (position : Nat) (value : Option Document) :
    Except Defect (List Stretch) :=
  match value with
  | none => .error .nothingToShow
  | some d =>
    if Conversion.isKnown how.letter then (how.lay d).mapError .unfit
    else .error (.unknownLetter how.letter position)

/-- Takes what there is to show as a measure. -/
def takeMeasure : Option Document → Except Defect Int
  | none => .error .nothingToShow
  | some (.int n) => .ok n
  | some _ => .error .notMeasure

/-- Fills pieces in order; `value` is what there is to show in a place without a name. -/
def fillPieces (fields : Fields) (value : Option Document) :
    List Piece → Except Defect (List Stretch)
  | [] => .ok []
  | .char c :: rest => do return .plain [c] :: (← fillPieces fields value rest)
  | .field name :: rest =>
    match fields.get? name with
    | some d => fillPieces fields (some d) rest
    | none => .error (.unknownField name)
  | .width :: rest => do
    let _ ← takeMeasure value
    fillPieces fields none rest
  | .precision :: rest => do
    let n ← takeMeasure value
    if -maxPrecision - 1 ≤ n ∧ n ≤ maxPrecision then fillPieces fields none rest
    else .error .precisionOutOfRange
  | .conversion how position :: rest => do
    let shown ← fillPlace how position value
    return shown ++ (← fillPieces fields none rest)

/-- The most characters of a line that is written out. -/
def longestLine : Nat := 0x2000000

/-- Fills a template from the fields of a record. -/
def fill (template : Template) (fields : Fields) : Except Defect String := do
  let filled ← fillPieces fields (some (.object fields)) template.pieces
  match template.defect with
  | some defect => .error defect
  | none =>
    if Text.stretchesLength filled ≤ longestLine then return String.ofList (Text.writtenOut filled)
    else .error (.unfit .noRoom)

end Template

end AuthBroker
