import AuthBroker.Text.Blank
import AuthBroker.Text.Digit

/-!
Integers as people write them: digits of any script, with single underscores allowed between
them.

A decimal integer has a sign or none, and a number of more than 4300 digits is refused. A
hexadecimal number may stand between blanks, after a plus sign, and after `0x`, which an
underscore may follow; its letters are of either case.
-/

namespace AuthBroker.Text

/-- The digits of a run in which single underscores may stand between two digits. -/
def digitRun? (value? : Char → Option Nat) : List Char → Option (List Nat)
  | [] => none
  | [c] => (value? c).map ([·])
  | c :: '_' :: rest => do return (← value? c) :: (← digitRun? value? rest)
  | c :: rest => do return (← value? c) :: (← digitRun? value? rest)

def ofDigits (base : Nat) (digits : List Nat) : Nat :=
  digits.foldl (fun n d => base * n + d) 0

/-! ## Decimal integers -/

/-- The number of digits a readable integer may have. -/
def digitLimit : Nat := 4300

def readNat? (cs : List Char) : Option Nat := do
  let digits ← digitRun? digitValue? cs
  if digits.length ≤ digitLimit then some (ofDigits 10 digits) else none

def readInt? : List Char → Option Int
  | '-' :: cs => (readNat? cs).map fun n : Nat => -(n : Int)
  | '+' :: cs => (readNat? cs).map fun n : Nat => (n : Int)
  | cs => (readNat? cs).map fun n : Nat => (n : Int)

example : readInt? "-1_000".toList = some (-1000) := by decide

example : readInt? "1__0".toList = none := by decide

example : readInt? "_1".toList = none := by decide

/-! ## Hexadecimal numbers -/

/-- The value of a hexadecimal digit: a decimal digit of any script, or a letter. -/
def hexDigitValue? (c : Char) : Option Nat :=
  if 'a' ≤ c ∧ c ≤ 'f' then some (c.toNat - 'a'.toNat + 10)
  else if 'A' ≤ c ∧ c ≤ 'F' then some (c.toNat - 'A'.toNat + 10)
  else digitValue? c

/-- Whether a character may stand around a number. Information separators may not. -/
def isMargin (c : Char) : Bool :=
  isBlank c && !(0x1c ≤ c.toNat && c.toNat ≤ 0x1f)

def dropMargins (cs : List Char) : List Char :=
  ((cs.dropWhile isMargin).reverse.dropWhile isMargin).reverse

def skipPlus : List Char → List Char
  | '+' :: rest => rest
  | cs => cs

def skipUnderscore : List Char → List Char
  | '_' :: rest => rest
  | cs => cs

/-- Drops a zero and an `x`, and an underscore after them, from the front. -/
def skipHexMark (cs : List Char) : List Char :=
  match cs with
  | zero :: mark :: rest =>
    if digitValue? zero == some 0 && (mark == 'x' || mark == 'X') then skipUnderscore rest else cs
  | _ => cs

def readHex? (cs : List Char) : Option Nat :=
  (digitRun? hexDigitValue? (skipHexMark (skipPlus (dropMargins cs)))).map (ofDigits 16)

example : readHex? " +0X_1f\n".toList = some 31 := by decide

example : readHex? "1_٣".toList = some 19 := by decide

example : readHex? "0x".toList = none := by decide

end AuthBroker.Text
