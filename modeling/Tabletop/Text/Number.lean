import Tabletop.Binary64

/-!
# Numbers in texts

Whole numbers and floating point numbers, as they are written and read in the ten digits.
-/

namespace Tabletop
namespace Text

/-!
## Decimal numbers

Whole numbers are written in the ten digits, most significant first, with a
minus sign in front of a negative one.  Reading is the fold that undoes it.
-/

namespace Decimal

/-- The digits of a number, without leading zeros. -/
def digits (n : Nat) : List Char := Nat.toDigits 10 n

/-- The digits of a whole number, after its minus sign if it has one. -/
def signed : Int → List Char
  | .ofNat n => digits n
  | .negSucc n => '-' :: digits (n + 1)

/-- The text of a whole number. -/
def text (n : Int) : String := String.ofList (signed n)

/-- The number that a list of digits writes, leading zeros allowed. -/
def value (cs : List Char) : Nat :=
  cs.foldl (fun n c => 10 * n + (c.toNat - '0'.toNat)) 0

@[simp] theorem value_nil : value [] = 0 := rfl

/-- Two digits at least: a single one stands after a zero. -/
def twoDigits (n : Nat) : List Char :=
  if n < 10 then '0' :: digits n else digits n

end Decimal
end Text

/-!
## Floating point numbers in decimal

A decimal is read as the nearest number of the format.  A number is written
with the fewest digits that read back as the same number; where several have
that many, with the nearest of them.
-/

namespace Binary64

open Text

/-- A power of ten with a natural exponent. -/
def tenTo (n : Nat) : Nat := Nat.pow 10 n

/-- The nearest number to `± digits · 10 ^ exponent`.  A magnitude far outside
the range of the format is not computed. -/
def ofDecimal (negative : Bool) (digits : Nat) (exponent : Int) : Binary64 :=
  let size := (Decimal.digits digits).length + exponent
  if digits = 0 then .finite negative 0 0
  else if 400 < size then .infinite negative
  else if size < -400 then .finite negative 0 0
  else ofQuotient negative (digits * tenTo exponent.toNat) (tenTo (-exponent).toNat)

/-- The exponent of ten of the leading digit of a positive quotient. -/
def leadingExponent (num den : Nat) : Int :=
  if den ≤ num then (Decimal.digits (num / den)).length - 1
  else -((Decimal.digits ((den - 1) / num)).length : Int)

/-- The quotients that round to `m · 2 ^ e`, in quarters of the last place: from
the midpoint below to the midpoint above, the ends included when `m` is even. -/
structure Interval where
  low : Nat
  high : Nat
  closed : Bool

def interval (m : Nat) (e : Int) : Interval where
  low := if m = twoTo 52 ∧ -1074 < e then 4 * m - 1 else 4 * m - 2
  high := 4 * m + 2
  closed := m % 2 == 0

/-- Whether a quotient, in quarters of the last place, lies in the interval. -/
def Interval.contains (i : Interval) (num den : Nat) : Bool :=
  if i.closed then i.low * den ≤ num && num ≤ i.high * den
  else i.low * den < num && num < i.high * den

/-- The decimals with last place `10 ^ unit` on both sides of `num / den`, as far
as they lie in the interval, and the nearer one of two. -/
def nearestOnGrid? (m : Nat) (e unit : Int) : Option Nat :=
  let num := m * twoTo e.toNat * tenTo (-unit).toNat
  let den := twoTo (-e).toNat * tenTo unit.toNat
  let below := num / den
  let rest := num % den
  -- a decimal `k · 10 ^ unit` in quarters of the last place `2 ^ e`
  let fits (k : Nat) : Bool :=
    (interval m e).contains
      (4 * k * tenTo unit.toNat * twoTo (-e).toNat)
      (tenTo (-unit).toNat * twoTo e.toNat)
  match fits below && below != 0, fits (below + 1) with
  | true, true =>
    if 2 * rest < den ∨ (2 * rest = den ∧ below % 2 = 0) then some below
    else some (below + 1)
  | true, false => some below
  | false, true => some (below + 1)
  | false, false => none

/-- The digits and the exponent of the leading one, from the shortest grid on. -/
def shortestFrom (m : Nat) (e : Int) : Nat → Int → Nat × Int
  | 0, unit => (m * twoTo e.toNat / twoTo (-e).toNat, unit)
  | fuel + 1, unit =>
    match nearestOnGrid? m e unit with
    | some k => (k, unit)
    | none => shortestFrom m e fuel (unit - 1)

/-- The shortest decimal `digits · 10 ^ unit` that reads back as `m · 2 ^ e`.
Seventeen digits always do. -/
def shortest (m : Nat) (e : Int) : Nat × Int :=
  let top := leadingExponent (m * twoTo e.toNat) (twoTo (-e).toNat)
  shortestFrom m e 17 top

/-- A positive number: positional from `10 ^ -4` up to `10 ^ 16`, else with an
exponent of at least two digits. -/
def layout (digits : Nat) (unit : Int) : List Char :=
  let cs := Decimal.digits digits
  let top := cs.length + unit - 1
  let cs := if cs.length = 1 then cs else (cs.reverse.dropWhile (· == '0')).reverse
  if -4 ≤ top ∧ top < 16 then
    if top < 0 then "0.".toList ++ List.replicate (-top - 1).toNat '0' ++ cs
    else
      let before := top.toNat + 1
      let padded := cs ++ List.replicate (before - cs.length) '0'
      let fraction := padded.drop before
      padded.take before ++ '.' :: if fraction.isEmpty then ['0'] else fraction
  else
    let mantissa :=
      match cs with
      | [] => []
      | [c] => [c]
      | c :: rest => c :: '.' :: rest
    let sign := if top < 0 then '-' else '+'
    mantissa ++ 'e' :: sign :: Decimal.twoDigits top.natAbs

/-- The text of a number in normal form. -/
def normalText : Binary64 → String
  | finite negative m e =>
    let magnitude :=
      if m = 0 then "0.0".toList
      else
        let (digits, unit) := shortest m e
        layout digits unit
    String.ofList (if negative then '-' :: magnitude else magnitude)
  | infinite negative => if negative then "-inf" else "inf"
  | nan => "nan"

/-- The same number with a mantissa of 53 bits, or as many as there can be. -/
def normalize : Binary64 → Binary64
  | finite negative m e => ofQuotient negative (m * twoTo e.toNat) (twoTo (-e).toNat)
  | x => x

def text (x : Binary64) : String := x.normalize.normalText

/-- The text of a number in JSON, where the words for what is not finite are longer. -/
def jsonText : Binary64 → String
  | nan => "NaN"
  | infinite negative => if negative then "-Infinity" else "Infinity"
  | x => x.text

end Binary64
end Tabletop
