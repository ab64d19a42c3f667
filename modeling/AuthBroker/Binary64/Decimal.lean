import AuthBroker.Binary64.Basic

/-!
Decimal text of double precision numbers.

Writing chooses the fewest significant digits that read back to the number and, among those,
the digits nearest to it. A layout says when the digits are written positionally and how an
exponent is written otherwise. Reading takes the number nearest to the written decimal.
-/

namespace AuthBroker.Binary64

/-- The decimal `coefficient * 10 ^ power`. -/
structure Decimal where
  coefficient : Nat
  power : Int
  deriving DecidableEq, Repr

namespace Decimal

def rank (d : Decimal) : Nat :=
  let (p, q) := scale 10 d.coefficient 1 d.power
  nearestRank p q

/-- The power of ten from which on no finite number is near. -/
def farPower : Nat := 400

/-- The number nearest to a signed decimal. A power beyond the far ones makes no difference: the
number is an infinity or a zero already. -/
def toBinary64 (negative : Bool) (d : Decimal) : Binary64 :=
  let lowest : Int := -((Nat.toDigits 10 d.coefficient).length + farPower : Nat)
  let (p, q) := scale 10 d.coefficient 1 (max lowest (min farPower d.power))
  ofRatio negative p q

/-- The significant digits: those of the coefficient without zeros at the end. -/
def digits (d : Decimal) : List Char :=
  ((Nat.toDigits 10 d.coefficient).reverse.dropWhile (· == '0')).reverse

/-- The power of ten at which the first digit stands. -/
def leading (d : Decimal) : Int :=
  d.power + (Nat.toDigits 10 d.coefficient).length - 1

end Decimal

/-! ## The shortest decimal -/

/-- The integer part of the logarithm to base ten of a positive fraction. -/
def floorLog10 (p q : Nat) : Int :=
  let guess : Int := ((Nat.toDigits 10 p).length : Int) - (Nat.toDigits 10 q).length
  if reaches 10 p q guess then guess else guess - 1

/-- The decimal with the given power of ten that is nearest to `p / q` among the neighbours of
`p / q` that read back to `rank`. -/
def neighbour? (rank p q : Nat) (power : Int) : Option Decimal :=
  let (top, bottom) := scale 10 p q (-power)
  let below := top / bottom
  let nearest := roundHalfEven top bottom
  let other := if nearest = below then below + 1 else below
  [nearest, other].findSome? fun coefficient =>
    let candidate : Decimal := ⟨coefficient, power⟩
    if candidate.rank = rank then some candidate else none

/-- The exact value of a rank, as a decimal. -/
def exactDecimal (rank : Nat) : Decimal :=
  let power := exponent rank
  if 0 ≤ power then ⟨significand rank * Nat.pow 2 power.toNat, 0⟩
  else ⟨significand rank * Nat.pow 5 (-power).toNat, power⟩

/-- The shortest decimal that reads back to a rank: the first success with one digit, with two,
and so on; seventeen always suffice. -/
def shortest (rank : Nat) : Decimal :=
  let (p, q) := ratio rank
  let top := floorLog10 p q
  ((List.range 17).findSome? fun (n : Nat) => neighbour? rank p q (top - n)).getD (exactDecimal rank)

/-! ## Layout -/

structure Layout where
  /-- The least power of ten of a first digit that is written positionally. -/
  lowest : Int
  /-- The least number of digits of a written exponent. -/
  exponentWidth : Nat
  deriving DecidableEq, Repr

/-- The first power of ten of a first digit that is no longer written positionally. -/
def positionalBound : Int := 16

/-- An exponent with its sign and at least `width` digits. -/
def exponentText (width : Nat) (power : Int) : List Char :=
  let ds := Nat.toDigits 10 power.natAbs
  (if power < 0 then '-' else '+') :: (List.replicate (width - ds.length) '0' ++ ds)

/-- The text of significant digits whose first stands at the power `leading`. -/
def Layout.place (layout : Layout) (digits : List Char) (leading : Int) : List Char :=
  if layout.lowest ≤ leading && leading < positionalBound then
    if leading < 0 then
      '0' :: '.' :: (List.replicate (-leading - 1).toNat '0' ++ digits)
    else
      let whole := leading.toNat + 1
      let fraction := digits.drop whole
      digits.take whole ++ List.replicate (whole - digits.length) '0' ++
        '.' :: (if fraction.isEmpty then ['0'] else fraction)
  else
    let fraction := digits.drop 1
    digits.take 1 ++ (if fraction.isEmpty then [] else '.' :: fraction) ++
      'e' :: exponentText layout.exponentWidth leading

def Layout.finiteText (layout : Layout) (negative : Bool) (rank : Nat) : List Char :=
  (if negative then ['-'] else []) ++
    (if rank = 0 then ['0', '.', '0']
      else
        let d := shortest rank
        layout.place d.digits d.leading)

/-! ## Reading -/

def digitsValue (cs : List Char) : Nat :=
  cs.foldl (fun n c => 10 * n + (c.toNat - '0'.toNat)) 0

def takeDigits (cs : List Char) : List Char × List Char :=
  (cs.takeWhile Char.isDigit, cs.dropWhile Char.isDigit)

def readExponent? : List Char → Option Int
  | '-' :: cs => if cs.isEmpty || !cs.all Char.isDigit then none else some (-(digitsValue cs : Int))
  | '+' :: cs => if cs.isEmpty || !cs.all Char.isDigit then none else some (digitsValue cs)
  | cs => if cs.isEmpty || !cs.all Char.isDigit then none else some (digitsValue cs)

/-- Reads an unsigned decimal: digits with a point or none, perhaps an exponent. -/
def readDecimal? (cs : List Char) : Option Decimal :=
  let (whole, rest) := takeDigits cs
  let (fraction, rest) := match rest with
    | '.' :: more => takeDigits more
    | _ => ([], rest)
  if whole.isEmpty && fraction.isEmpty then none
  else
    let power? := match rest with
      | [] => some 0
      | 'e' :: more => readExponent? more
      | _ => none
    power?.map fun power => ⟨digitsValue (whole ++ fraction), power - fraction.length⟩

/-- Reads a number: a decimal, an infinity or not a number, perhaps signed, with letters of either
case. -/
def ofText? (text : String) : Option Binary64 :=
  match text.toList.map Char.toLower with
  | '-' :: cs => unsigned? true cs
  | '+' :: cs => unsigned? false cs
  | cs => unsigned? false cs
where
  /-- Reads what follows the sign. -/
  unsigned? (negative : Bool) (cs : List Char) : Option Binary64 :=
    if cs = "nan".toList then some .nan
    else if cs = "inf".toList ∨ cs = "infinity".toList then some (.infinite negative)
    else (readDecimal? cs).map (Decimal.toBinary64 negative)

end AuthBroker.Binary64
