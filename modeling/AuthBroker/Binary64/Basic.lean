/-!
Double precision numbers in exact integer arithmetic.

A finite number is a sign and a rank, its place in the ascending list of the nonnegative
finite values, so two finite numbers of one sign compare as their ranks do. The module gives
the exact value of a rank as a fraction and the rank nearest to a fraction, with ties to the
even rank.
-/

namespace AuthBroker

/-- The number of ranks from one power of two to the next, which is two to the power 52. -/
def Binary64.binade : Nat := 0x10000000000000

def Binary64.rankCount : Nat := 2047 * binade

/-- A double precision number: not a number, an infinity, or a sign with the rank of the
absolute value. -/
inductive Binary64 where
  | nan
  | infinite (negative : Bool)
  | finite (negative : Bool) (rank : Fin Binary64.rankCount)
  deriving DecidableEq, Repr

namespace Binary64

/-! ## The value of a rank -/

/-- The integer factor in the value of a rank. -/
def significand (rank : Nat) : Nat :=
  if rank < binade then rank else binade + rank % binade

/-- The power of two in the value of a rank. -/
def exponent (rank : Nat) : Int :=
  if rank < binade then -1074 else (rank / binade : Nat) - 1075

/-- The fraction `p / q` times a power of the base. -/
def scale (base : Nat) (p q : Nat) (power : Int) : Nat × Nat :=
  if 0 ≤ power then (p * Nat.pow base power.toNat, q) else (p, q * Nat.pow base (-power).toNat)

/-- The value of a rank as numerator and denominator. -/
def ratio (rank : Nat) : Nat × Nat :=
  scale 2 (significand rank) 1 (exponent rank)

/-! ## The rank nearest to a fraction -/

/-- Whether `base ^ power ≤ p / q`. -/
def reaches (base p q : Nat) (power : Int) : Bool :=
  let (top, bottom) := scale base 1 1 power
  top * q ≤ p * bottom

/-- The integer part of the logarithm to base two of a positive fraction. -/
def floorLog2 (p q : Nat) : Int :=
  let guess : Int := (p.log2 : Int) - q.log2
  if reaches 2 p q guess then guess else guess - 1

/-- The integer nearest to a fraction; of two at one distance, the even one. -/
def roundHalfEven (p q : Nat) : Nat :=
  let below := p / q
  let rest := p % q
  if 2 * rest < q || (2 * rest == q && below % 2 == 0) then below else below + 1

/-- The rank nearest to a fraction, as if there were no largest one. -/
def nearestRank (p q : Nat) : Nat :=
  if p = 0 then 0
  else
    let power := max (-1074) (floorLog2 p q - 52)
    let (top, bottom) := scale 2 p q (-power)
    (power + 1074).toNat * binade + roundHalfEven top bottom

/-- The number nearest to a signed fraction; beyond the largest finite one, an infinity. -/
def ofRatio (negative : Bool) (p q : Nat) : Binary64 :=
  if h : nearestRank p q < rankCount then .finite negative ⟨nearestRank p q, h⟩
  else .infinite negative

/-! ## Tests -/

def isFinite : Binary64 → Bool
  | .finite _ _ => true
  | _ => false

/-- The exact value, when it is an integer. -/
def toInt? : Binary64 → Option Int
  | .finite negative rank =>
    let (p, q) := ratio rank
    if p % q = 0 then some (if negative then -(p / q : Nat) else (p / q : Nat)) else none
  | _ => none

end Binary64

end AuthBroker
