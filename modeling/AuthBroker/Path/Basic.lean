import AuthBroker.Text.Blank
import AuthBroker.Text.Integer

/-!
Path expressions into configuration documents.

An expression is `$` followed by steps. A step is a dotted name, as in `$.credentials.id`, or
a selector in brackets: a quoted key, an integer index or the wildcard `*`. The expressions `$`
and `$.` have no steps and address the whole document. Reading goes from left to right and
reports the first step that cannot be read, with its position in characters.
-/

namespace AuthBroker

inductive Segment where
  | key (name : String)
  | index (position : Int)
  | wildcard
  deriving DecidableEq, Repr

abbrev Path := List Segment

namespace Path

/-- Why an expression is no path. -/
inductive Defect where
  | noRoot
  | emptyName (position : Nat)
  | unclosedBracket (position : Nat)
  | unsupportedSelector (selector : String)
  | unexpected (character : Char) (position : Nat)
  deriving DecidableEq, Repr

def Defect.message : Defect → String
  | .noRoot => "must start with '$'"
  | .emptyName position => "empty name at position " ++ toString position
  | .unclosedBracket position => "unclosed '[' at position " ++ toString position
  | .unsupportedSelector selector => "unsupported selector [" ++ selector ++ "]"
  | .unexpected character position =>
    "unexpected '" ++ String.singleton character ++ "' at position " ++ toString position

/-- An expression that is no path, with its defect. -/
structure Invalid where
  expression : String
  defect : Defect
  deriving DecidableEq, Repr

def Invalid.message (refusal : Invalid) : String :=
  "Invalid path '" ++ refusal.expression ++ "': " ++ refusal.defect.message

/-! ## Steps -/

/-- Whether a character continues a dotted name. -/
def isNameChar (c : Char) : Bool :=
  c != '.' && c != '['

/-- The step a dotted name stands for. -/
def namedStep (name : List Char) : Segment :=
  if name = ['*'] then .wildcard else .key (String.ofList name)

/-- The key between two equal quotes, single or double. -/
def quotedKey? : List Char → Option (List Char)
  | [] => none
  | quote :: rest =>
    if (quote == '\'' || quote == '"') && rest.getLast? == some quote then some rest.dropLast
    else none

/-- The step that the trimmed text between brackets stands for. -/
def selector? (token : List Char) : Option Segment :=
  if token = ['*'] then some .wildcard
  else
    match quotedKey? token with
    | some name => some (.key (String.ofList name))
    | none => (Text.readInt? token).map .index

/-- Reads steps to the end of the text; `position` is the place of its first character in the
whole expression. -/
def readSteps (position : Nat) : List Char → Except Defect Path
  | [] => .ok []
  | '.' :: rest =>
    let name := rest.takeWhile isNameChar
    if name.isEmpty then .error (.emptyName (position + 1))
    else
      (readSteps (position + 1 + name.length) (rest.dropWhile isNameChar)).map (namedStep name :: ·)
  | '[' :: rest =>
    let body := rest.takeWhile (· != ']')
    match _hclose : rest.dropWhile (· != ']') with
    | [] => .error (.unclosedBracket position)
    | _ :: after =>
      match selector? (Text.trim body) with
      | none => .error (.unsupportedSelector (String.ofList (Text.trim body)))
      | some step => (readSteps (position + body.length + 2) after).map (step :: ·)
  | c :: _ => .error (.unexpected c position)
termination_by cs => cs.length
decreasing_by
  · have := (List.dropWhile_suffix (l := rest) isNameChar).length_le
    simp only [List.length_cons]
    omega
  · have := (List.dropWhile_suffix (l := rest) (· != ']')).length_le
    rw [_hclose] at this
    simp only [List.length_cons] at this ⊢
    omega

def ofText (expression : String) : Except Defect Path :=
  match expression.toList with
  | '$' :: rest => if rest = ['.'] then .ok [] else readSteps 1 rest
  | _ => .error .noRoot

/-- Reads an expression, and names it in the refusal. -/
def parse (expression : String) : Except Invalid Path :=
  (ofText expression).mapError (⟨expression, ·⟩)

end Path

end AuthBroker
