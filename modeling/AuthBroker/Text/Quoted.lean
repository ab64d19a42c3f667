import AuthBroker.Text.Printable

/-!
Texts in quotes, as messages show them.

The quote is single unless the text holds a single quote and no double one. The quote in use
and the backslash are escaped by a backslash, line feeds, carriage returns and tabs by a
letter, and other characters that are not printable by their code point in hexadecimal.
-/

namespace AuthBroker.Text

/-- The lower case hexadecimal digits of a number, padded with zeros to a width. -/
def hex (width n : Nat) : List Char :=
  let digits := Nat.toDigits 16 n
  List.replicate (width - digits.length) '0' ++ digits

def quoteFor (cs : List Char) : Char :=
  if cs.contains '\'' && !cs.contains '"' then '"' else '\''

/-- The escape of a character by its code point, in two, four or eight digits. -/
def escapeByCode (c : Char) : List Char :=
  if c.toNat < 0x100 then '\\' :: 'x' :: hex 2 c.toNat
  else if c.toNat < 0x10000 then '\\' :: 'u' :: hex 4 c.toNat
  else '\\' :: 'U' :: hex 8 c.toNat

/-- A character as it stands inside quotes. -/
def quotedChar (quote c : Char) : List Char :=
  if c == quote || c == '\\' then ['\\', c]
  else if c == '\n' then ['\\', 'n']
  else if c == '\r' then ['\\', 'r']
  else if c == '\t' then ['\\', 't']
  else if isPrintable c then [c]
  else escapeByCode c

def quoted (text : String) : List Char :=
  let cs := text.toList
  let quote := quoteFor cs
  quote :: (cs.flatMap (quotedChar quote) ++ [quote])

end AuthBroker.Text
