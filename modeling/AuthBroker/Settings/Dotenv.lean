import AuthBroker.Table
import AuthBroker.Text.Blank

/-!
Environment files: lines that bind names to texts.

A byte order mark at the very start counts for nothing. A binding is a name, perhaps after
`export`, an equals sign and a value. A value is bare, to the end of the line or to a comment
after a blank, or quoted, and then it may run over several lines and use escapes. A name without
an equals sign is bound to nothing. A line that cannot be read is skipped. After reading, `${NAME}` and `${NAME:-default}` in values are replaced by the
latest earlier binding, or by the process environment, or by the default.
-/

namespace AuthBroker.Dotenv

open Text

/-- A binding of a file: a name with its value, if it has one. -/
abbrev Binding := String × Option String

/-! ## Characters -/

def isLineEnd (c : Char) : Bool :=
  c == '\n' || c == '\r'

def isInlineBlank (c : Char) : Bool :=
  isBlank c && !isLineEnd c

def skipBlanks (cs : List Char) : List Char :=
  cs.dropWhile isInlineBlank

def skipLine (cs : List Char) : List Char :=
  (cs.dropWhile (!isLineEnd ·)).drop 1

/-- One kind of line end for all: a carriage return, alone or before a line feed, becomes a
line feed. -/
def unifyLines : List Char → List Char
  | [] => []
  | '\r' :: '\n' :: rest => '\n' :: unifyLines rest
  | '\r' :: rest => '\n' :: unifyLines rest
  | c :: rest => c :: unifyLines rest

def skipMark (cs : List Char) : List Char :=
  match cs with
  | '\ufeff' :: rest => rest
  | _ => cs

/-! ## Names and values -/

/-- Drops the word `export` and the blanks after it from the front. -/
def skipExport (cs : List Char) : List Char :=
  match cs with
  | 'e' :: 'x' :: 'p' :: 'o' :: 'r' :: 't' :: rest =>
    if rest.head?.any isInlineBlank then skipBlanks rest else cs
  | _ => cs

/-- Reads a name: nothing before a comment, the text between single quotes, or the characters up
to an equals sign, a number sign or a blank. Fails where a name has to be and is not. -/
def readName? : List Char → Option (Option String × List Char)
  | '#' :: rest => some (none, '#' :: rest)
  | '\'' :: rest =>
    let name := rest.takeWhile (· != '\'')
    match rest.dropWhile (· != '\'') with
    | _ :: after => if name.isEmpty then none else some (some (String.ofList name), after)
    | [] => none
  | cs =>
    let isNameChar (c : Char) : Bool := c != '=' && c != '#' && !isBlank c
    let name := cs.takeWhile isNameChar
    if name.isEmpty then none else some (some (String.ofList name), cs.dropWhile isNameChar)

/-- Splits a quoted value at its closing quote. A backslash takes the next character with it, so
a quote after one does not close. -/
def splitQuoted? (quote : Char) : List Char → Option (List Char × List Char)
  | [] => none
  | '\\' :: c :: rest =>
    (splitQuoted? quote rest).map fun (value, after) => ('\\' :: c :: value, after)
  | c :: rest =>
    if c == quote then some ([], rest)
    else (splitQuoted? quote rest).map fun (value, after) => (c :: value, after)

/-- The character that an escape letter stands for between double quotes. -/
def doubleEscape? : Char → Option Char
  | '\\' => some '\\'
  | '\'' => some '\''
  | '"' => some '"'
  | 'a' => some '\x07'
  | 'b' => some '\x08'
  | 'f' => some '\x0c'
  | 'n' => some '\n'
  | 'r' => some '\r'
  | 't' => some '\t'
  | 'v' => some '\x0b'
  | _ => none

/-- The character that an escape letter stands for between single quotes. -/
def singleEscape? : Char → Option Char
  | '\\' => some '\\'
  | '\'' => some '\''
  | _ => none

def unescape (escape? : Char → Option Char) : List Char → List Char
  | [] => []
  | '\\' :: c :: rest =>
    match escape? c with
    | some d => d :: unescape escape? rest
    | none => '\\' :: unescape escape? (c :: rest)
  | c :: rest => c :: unescape escape? rest

/-- Cuts a bare value at the first run of blanks that a number sign follows. -/
def cutComment : List Char → List Char
  | [] => []
  | c :: rest =>
    if isBlank c && (rest.dropWhile isBlank).head? == some '#' then []
    else c :: cutComment rest

/-- Reads what follows an equals sign: a value, and what comes after it. Blanks before a bare value
belong to its line, so a comment may follow them at once. -/
def readValue? (cs : List Char) : Option (List Char × List Char) :=
  match skipBlanks cs with
  | '\'' :: rest => (splitQuoted? '\'' rest).map fun (v, after) => (unescape singleEscape? v, after)
  | '"' :: rest => (splitQuoted? '"' rest).map fun (v, after) => (unescape doubleEscape? v, after)
  | _ =>
    let line := cs.takeWhile (!isLineEnd ·)
    some (trim (cutComment line), cs.dropWhile (!isLineEnd ·))

/-- Reads the end of a binding's line: blanks, perhaps a comment, and the line end. -/
def readEnd? (cs : List Char) : Option (List Char) :=
  match skipBlanks cs with
  | '#' :: rest => some ((rest.dropWhile (!isLineEnd ·)).drop 1)
  | [] => some []
  | c :: rest => if isLineEnd c then some rest else none

/-- Reads one binding from the start of a line, or tells from where the line is skipped. -/
def readBinding (cs : List Char) : Except (List Char) (Option Binding × List Char) :=
  match readName? (skipExport cs) with
  | none => .error (skipExport cs)
  | some (name, rest) =>
    match skipBlanks rest with
    | '=' :: afterSign =>
      match readValue? afterSign with
      | none => .error (skipBlanks afterSign)
      | some (value, rest) => finish name (some (String.ofList value)) rest
    | rest => finish name none rest
where
  /-- Closes the line of a binding. -/
  finish (name : Option String) (value : Option String) (rest : List Char) :
      Except (List Char) (Option Binding × List Char) :=
    match readEnd? rest with
    | some after => .ok (name.map (·, value), after)
    | none => .error (skipBlanks rest)

/-- Reads the bindings of a text; every round takes at least one character, so as many rounds
as the text has characters are enough. -/
def readBindings : Nat → List Char → List Binding
  | 0, _ => []
  | rounds + 1, cs =>
    match cs.dropWhile isBlank with
    | [] => []
    | start =>
      match readBinding start with
      | .ok (binding, rest) => binding.toList ++ readBindings rounds rest
      | .error rest => readBindings rounds (skipLine rest)

/-! ## Variables in values -/

/-- The latest text bound to a name: by an earlier binding, or by the environment. -/
def bound (environment : Table String String) (earlier : Table String (Option String))
    (name : String) (default : String) : String :=
  match earlier.get? name with
  | some value => value.getD ""
  | none => (environment.get? name).getD default

/-- Splits `NAME}` or `NAME:-default}` at its closing brace. -/
def readVariable? (cs : List Char) : Option (String × String × List Char) :=
  let name := cs.takeWhile fun c => c != '\x7d' && c != ':'
  match cs.dropWhile fun c => c != '\x7d' && c != ':' with
  | '\x7d' :: after => some (String.ofList name, "", after)
  | ':' :: '-' :: rest =>
    match rest.dropWhile (· != '\x7d') with
    | _ :: after => some (String.ofList name, String.ofList (rest.takeWhile (· != '\x7d')), after)
    | [] => none
  | _ => none

/-- Replaces the variables in a value; as many rounds as it has characters are enough. -/
def expand (lookup : String → String → String) : Nat → List Char → List Char
  | 0, cs => cs
  | _, [] => []
  | rounds + 1, '$' :: '\x7b' :: rest =>
    match readVariable? rest with
    | some (name, default, after) => (lookup name default).toList ++ expand lookup rounds after
    | none => '$' :: expand lookup rounds ('\x7b' :: rest)
  | rounds + 1, c :: rest => c :: expand lookup rounds rest

/-- The names that a file binds, with their values. -/
def resolve (environment : Table String String) (bindings : List Binding) :
    Table String (Option String) :=
  bindings.foldl (fun acc (name, value) =>
    acc.insert name (value.map fun s =>
      String.ofList (expand (bound environment acc) s.length s.toList))) []

/-- Reads an environment file: the names bound to a text, with that text. -/
def read (environment : Table String String) (content : String) : Table String String :=
  let cs := unifyLines (skipMark content.toList)
  (resolve environment (readBindings (cs.length + 1) cs)).filterMap fun (name, value) =>
    value.map (name, ·)

end AuthBroker.Dotenv
