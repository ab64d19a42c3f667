import AuthBroker.Binary64.Decimal
import AuthBroker.Text.Stretch

/-!
Scaled forms of double precision numbers: with a number of decimals, with an exponent, or with a
number of significant digits in the shorter of the two.

A form shows the absolute value that belongs to a rank. Digits are rounded to the nearest, a half to
the even neighbour. The value of a rank has at most 1074 decimals and at most 767 significant
digits, so the zeros asked for beyond them are a filling.
-/

namespace AuthBroker.Binary64

open Text (Stretch)

/-- A mantissa after its point; the point is left out when nothing follows it, unless it has to
stay. -/
def pointed (keepPoint : Bool) (decimals : List Char) : List Char :=
  if decimals.isEmpty && !keepPoint then [] else '.' :: decimals

/-- The most decimals that the value of a rank has. -/
def exactDecimals : Nat := 1074

/-- The most significant digits that the value of a rank has. -/
def exactDigits : Nat := 767

/-- The value of a rank with a number of decimals. -/
def fixedText (keepPoint : Bool) (decimals rank : Nat) : List Stretch :=
  let (p, q) := ratio rank
  let exact := min decimals exactDecimals
  let shown := Nat.toDigits 10 (roundHalfEven (p * Nat.pow 10 exact) q)
  let digits := List.replicate (exact + 1 - shown.length) '0' ++ shown
  let whole := digits.length - exact
  [.plain (digits.take whole ++ pointed keepPoint (digits.drop whole)),
    .filling (decimals - exact) '0']

/-- The significant digits of the value of a rank, of which there are `count`, but only those that
it can have, and the power of ten of the first. Rounding may reach the next power, and then the
digits are one more. -/
def significantDigits (count rank : Nat) : List Char × Int :=
  let exact := min count exactDigits
  if rank = 0 then (List.replicate exact '0', 0)
  else
    let (p, q) := ratio rank
    let leading := floorLog10 p q
    let (top, bottom) := scale 10 p q (exact - 1 - leading)
    let rounded := Nat.toDigits 10 (roundHalfEven top bottom)
    (rounded.take exact, leading + (rounded.length - exact))

/-- The least number of digits of the exponent in a scaled form. -/
def scaledExponentWidth : Nat := 2

/-- The value of a rank with an exponent, marked by a letter, and a number of decimals. -/
def scientificText (keepPoint : Bool) (letter : Char) (decimals rank : Nat) : List Stretch :=
  let (digits, leading) := significantDigits (decimals + 1) rank
  [.plain (digits.take 1 ++ pointed keepPoint (digits.drop 1)),
    .filling (decimals + 1 - digits.length) '0',
    .plain (letter :: exponentText scaledExponentWidth leading)]

def dropZeros (digits : List Char) : List Char :=
  (digits.reverse.dropWhile (· == '0')).reverse

/-- The least power of ten of a first digit that the general form writes positionally. -/
def generalLowest : Int := -4

/-- The value of a rank with a number of significant digits: positional while they reach its unit,
otherwise with an exponent. Zeros at the end of the decimals stay only in the alternate form. -/
def generalText (alternate : Bool) (letter : Char) (count rank : Nat) : List Stretch :=
  let (digits, leading) := significantDigits count rank
  let trimmed (decimals : List Char) : List Char :=
    pointed alternate (if alternate then decimals else dropZeros decimals)
  let zeros : Stretch := .filling (if alternate then count - digits.length else 0) '0'
  if generalLowest ≤ leading ∧ leading < count then
    if leading < 0 then
      [.plain ('0' :: trimmed (List.replicate (-leading - 1).toNat '0' ++ digits)), zeros]
    else
      let whole := leading.toNat + 1
      [.plain (digits.take whole ++ trimmed (digits.drop whole)), zeros]
  else
    [.plain (digits.take 1 ++ trimmed (digits.drop 1)), zeros,
      .plain (letter :: exponentText scaledExponentWidth leading)]

end AuthBroker.Binary64
