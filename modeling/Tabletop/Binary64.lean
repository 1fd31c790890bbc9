/-!
# Binary floating point numbers of 64 bits

A finite number is written `± m · 2 ^ e`.  The format keeps 53 bits and no
place below `2 ^ -1074`; every operation takes the exact result, a quotient of
whole numbers, to the nearest number of the format, and a tie to the even one.
What would reach `2 ^ 1024` becomes infinite.
-/

namespace Tabletop

inductive Binary64 where
  | finite (negative : Bool) (mantissa : Nat) (exponent : Int)
  | infinite (negative : Bool)
  | nan
deriving DecidableEq

/-- The quotient rounded to a whole number, a half to the even neighbour. -/
def roundHalfEven (num den : Nat) : Nat :=
  let quotient := num / den
  let rest := num % den
  if 2 * rest < den then quotient
  else if den < 2 * rest then quotient + 1
  else quotient + quotient % 2

namespace Binary64

/-- A power of two with a natural exponent. -/
def twoTo (n : Nat) : Nat := Nat.pow 2 n

/-- The mantissas and exponents of the finite numbers. -/
structure Fits (mantissa : Nat) (exponent : Int) : Prop where
  mantissa_lt : mantissa < twoTo 53
  le_exponent : -1074 ≤ exponent
  exponent_le : exponent ≤ 971

/-- A quotient measured in units of `2 ^ e`. -/
def inUnits (num den : Nat) (e : Int) : Nat × Nat :=
  (num * twoTo (-e).toNat, den * twoTo e.toNat)

/-- The exponent of the last place that the format keeps of a quotient: the
least at which it has at most 53 bits, but none below the format's own. -/
def lastPlace (num den : Nat) : Int :=
  let e := (num.log2 : Int) - den.log2 - 53
  let (n, d) := inUnits num den e
  max (-1074) (if n / d < twoTo 53 then e else e + 1)

/-- The number of the format nearest to `± num / den`. -/
def ofQuotient (negative : Bool) (num den : Nat) : Binary64 :=
  if num = 0 then .finite negative 0 0
  else
    let e := lastPlace num den
    let (n, d) := inUnits num den e
    let m := roundHalfEven n d
    let (m, e) := if m = twoTo 53 then (twoTo 52, e + 1) else (m, e)
    if 971 < e then .infinite negative else .finite negative m e

def ofInt (n : Int) : Binary64 :=
  ofQuotient (decide (n < 0)) n.natAbs 1

def isInfinite : Binary64 → Bool
  | infinite _ => true
  | _ => false

def isZero : Binary64 → Bool
  | finite _ m _ => m == 0
  | _ => false

def isNegative : Binary64 → Bool
  | finite negative .. => negative
  | infinite negative => negative
  | nan => false

def isFinite : Binary64 → Bool
  | finite .. => true
  | _ => false

def mul : Binary64 → Binary64 → Binary64
  | finite s m e, finite s' m' e' =>
    let e := e + e'
    ofQuotient (s ^^ s') (m * m' * twoTo e.toNat) (twoTo (-e).toNat)
  | nan, _ => nan
  | _, nan => nan
  | x, y =>
    if x.isZero || y.isZero then nan else infinite (x.isNegative ^^ y.isNegative)

/-- The greatest whole number that is not greater, if there is one. -/
def floor? : Binary64 → Option Int
  | finite negative m e =>
    let m : Int := if negative then -m else m
    some (m * twoTo e.toNat / twoTo (-e).toNat)
  | _ => none

/-- Whether the number has no fractional part, and which whole number it is. -/
def whole? : Binary64 → Option Int
  | finite negative m e =>
    let m : Int := if negative then -m else m
    if m * twoTo e.toNat % twoTo (-e).toNat = 0 then some (m * twoTo e.toNat / twoTo (-e).toNat)
    else none
  | _ => none

/-- Whether the number lies in `[0, 1)`; a negative zero does. -/
def inUnitInterval : Binary64 → Bool
  | finite negative m e =>
    (!negative || m == 0) && m * twoTo e.toNat / twoTo (-e).toNat == 0
  | _ => false

end Binary64
end Tabletop
